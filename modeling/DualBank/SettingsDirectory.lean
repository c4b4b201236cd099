import DualBank.Failure
import DualBank.Host
import DualBank.Stored

/-! Settings in files: a directory for each space, and in it a file for each key. A value is written
beside its place and then renamed into it, so that a save that is cut short leaves the old value or
the new one. -/

namespace DualBank

structure SettingsDirectory where
  root : Path

namespace SettingsDirectory

def folder (settings : SettingsDirectory) (space : String) : Path :=
  settings.root.below space

def place (settings : SettingsDirectory) (space key : String) : Path :=
  (settings.folder space).below key

def temporary (settings : SettingsDirectory) (space key : String) : Path :=
  (settings.folder space).below ("." ++ key ++ ".tmp")

def init (settings : SettingsDirectory) : Host (Except Failure Unit) := do
  let result ← Host.makeDirectories settings.root
  pure (result.mapError (.system (some ("creating settings dir " ++ settings.root.text))))

def save (settings : SettingsDirectory) (space key : String) (value : Bytes) :
    Host (Except Failure Unit) := do
  match ← Host.makeDirectories (settings.folder space) with
  | .error error => pure (.error (.system none error))
  | .ok () =>
      match ← Host.write (settings.temporary space key) value with
      | .error error => pure (.error (.system none error))
      | .ok () =>
          match ← Host.request
              (.rename (settings.temporary space key) (settings.place space key)) with
          | .error error =>
              pure (.error
                (.system (some ("committing settings key " ++ space ++ "/" ++ key)) error))
          | .ok () => do
              match ← Host.request (.syncDirectory (settings.folder space)) with
              | .ok () => pure ()
              | .error error =>
                  Host.log .debug "storage" ("settings dir sync skipped: " ++ error.message)
              pure (.ok ())

def load (settings : SettingsDirectory) (space key : String) :
    Host (Except Failure (Option Bytes)) := do
  match ← Host.request (.read (settings.place space key)) with
  | .ok value => pure (.ok (some value))
  | .error error =>
      if error.isNotFound then pure (.ok none) else pure (.error (.system none error))

def delete (settings : SettingsDirectory) (space key : String) : Host (Except Failure Unit) := do
  match ← Host.request (.remove (settings.place space key)) with
  | .ok () => pure (.ok ())
  | .error error =>
      if error.isNotFound then pure (.ok ()) else pure (.error (.system none error))

def loadJson {α : Type} (ofJson? : Json.Value → Option α) (settings : SettingsDirectory)
    (space key : String) : Host (Except Failure (Option α)) := do
  let stored ← settings.load space key
  pure (stored.bind (Stored.decode ofJson? space key))

def saveJson (settings : SettingsDirectory) (space key : String) (value : Json.Value) :
    Host (Except Failure Unit) :=
  settings.save space key value.encode

end SettingsDirectory

end DualBank
