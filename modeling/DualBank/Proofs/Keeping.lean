import DualBank.SettingsDirectory
import DualBank.SettingsTable
import DualBank.Proofs.Fields
import DualBank.Proofs.Settled

/-! What is saved in settings and then loaded again. In files this holds of every name for which the
save succeeds, and it succeeds for names of files. -/

namespace DualBank

open Program

namespace SettingsDirectory

open FileTree

variable {settings : SettingsDirectory} {tree : FileTree} {space key : String}

/-- Whatever the names are: if a save succeeds, then what it leaves at the place is the value. -/
theorem save_yields (settled : tree.IsSettled) (value : Bytes) :
    tree.Yields (settings.save space key value) fun result changed =>
      result = .ok () → changed.read (settings.place space key) = .ok value := by
  simp only [save, Host.request, bind_eq, ask_bind, done_bind, pure_eq_done]
  refine yields_bind (makeAll_yields settled _) fun result tree settled => ?_
  cases result with
  | error error => exact yields_done (by simp)
  | ok _ =>
      refine yields_bind (write_yields settled _ value) fun result tree written => ?_
      cases result with
      | error error => exact yields_done (by simp)
      | ok _ =>
          obtain ⟨settled, parent, name, leads, file⟩ := written rfl
          dsimp only
          cases renamed : tree.rename (settings.temporary space key)
              (settings.place space key) with
          | error error => exact yields_ask (meets_rename_error renamed) (yields_done (by simp))
          | ok changed =>
              have kept := read_of_rename settled leads file renamed
              refine yields_ask (meets_rename renamed) ?_
              exact yields_ask (meets_syncDirectory _) (yields_done fun _ => kept)

theorem load_yields {value : Bytes} (there : tree.read (settings.place space key) = .ok value) :
    tree.Yields (settings.load space key) fun result changed =>
      result = .ok (some value) ∧ changed = tree := by
  simp only [load, Host.request, bind_eq, ask_bind, done_bind, pure_eq_done]
  refine yields_ask (meets_read _) ?_
  rw [there]
  exact yields_done ⟨rfl, rfl⟩

theorem loadJson_yields {α : Type} {toJson : α → Json.Value} {ofJson? : Json.Value → Option α}
    (rereads : Json.Rereads toJson ofJson?) {value : α}
    (there : tree.read (settings.place space key) = .ok (toJson value).encode) :
    tree.Yields (settings.loadJson ofJson? space key) fun result changed =>
      result = .ok (some value) ∧ changed = tree := by
  refine yields_bind (load_yields there) ?_
  rintro result changed ⟨rfl, rfl⟩
  exact yields_done ⟨Stored.decode_encode rereads space key value, rfl⟩

structure Room (settings : SettingsDirectory) (home : Location) (space key : String)
    (tree : FileTree) : Prop where
  settled : tree.IsSettled
  root : tree.find settings.root = .ok (home, .directory)
  ofSpace : Path.IsName space
  ofKey : Path.IsName key
  shortKey : key.utf8ByteSize + 5 ≤ nameLimit
  short : (settings.temporary space key).text.utf8ByteSize < pathLimit
  folder : ∀ content, tree.node? (home ++ [space]) ≠ some (.file content)
  beside : tree.node? (home ++ [space] ++ ["." ++ key ++ ".tmp"]) ≠ some .directory
  place : tree.node? (home ++ [space] ++ [key]) ≠ some .directory

section Rooms

variable {home : Location} (room : settings.Room home space key tree)
include room

theorem top_of_room : tree.node? home = some .directory :=
  directory_of_foldlM room.settled (directory_of_start room.settled settings.root)
    (foldlM_of_find room.root)

theorem shorter_of_room : (settings.folder space).text.utf8ByteSize < pathLimit ∧
    (settings.place space key).text.utf8ByteSize < pathLimit := by
  have filled : (settings.folder space).text ≠ "" := by
    have above := (isSound_of_find room.root).filled
    rw [folder, Path.text_below room.ofSpace.single above]
    intro empty
    simp [above] at empty
  have sizes : ".".utf8ByteSize = 1 ∧ ".tmp".utf8ByteSize = 4 := by decide +kernel
  have short : ((settings.folder space).below ("." ++ key ++ ".tmp")).text.utf8ByteSize <
      pathLimit := room.short
  rw [Path.text_below (Path.isName_beside room.ofKey room.shortKey).single filled] at short
  rw [place, Path.text_below room.ofKey.single filled]
  simp only [String.utf8ByteSize_append, sizes.1, sizes.2] at short ⊢
  omega

theorem leads_folder_of_room : tree.Leads (settings.folder space) home space :=
  leads_below room.ofSpace room.root (shorter_of_room room).1

theorem makeFolder_yields :
    tree.Yields (Host.makeDirectories (settings.folder space)) fun result changed =>
      result = .ok () ∧ settings.Room home space key changed ∧
        changed.node? (home ++ [space]) = some .directory := by
  have leads := leads_folder_of_room room
  cases there : tree.node? (home ++ [space]) with
  | none =>
      have made : tree.Endures (fun _ => True) _ _ :=
        makeDirectories_endures_missing leads there trivial trivial
      refine yields_mono (yields_of_endures made) ?_
      rintro result changed ⟨rfl, rfl⟩
      have missing : tree.node? (home ++ [space]) ≠ some .directory := by simp [there]
      have extended := extends_insert .directory (by simp) missing
      refine ⟨rfl, ?_, by rw [node?_insert tree _ (by simp), if_pos rfl]⟩
      exact { room with
        settled := isSettled_insert room.settled _ (top_of_room room) missing
        root := find_of_extends extended room.root
        folder := by simp [node?_insert]
        beside := by simpa [node?_insert] using room.beside
        place := by simpa [node?_insert] using room.place }
  | some node =>
      cases node with
      | file content => exact absurd there (room.folder content)
      | directory =>
          have found : tree.find (settings.folder space) = .ok (home ++ [space], .directory) := by
            rw [find_of_leads leads, there]
          refine yields_mono (makeDirectories_yields found) ?_
          rintro result changed ⟨rfl, rfl⟩
          exact ⟨rfl, room, there⟩

theorem save_succeeds (value : Bytes) :
    tree.Yields (settings.save space key value) fun result _ => result = .ok () := by
  simp only [save, Host.request, bind_eq, ask_bind, done_bind, pure_eq_done]
  refine yields_bind (makeFolder_yields room) ?_
  rintro result tree ⟨rfl, room, made⟩
  have found : tree.find (settings.folder space) = .ok (home ++ [space], .directory) := by
    rw [find_of_leads (leads_folder_of_room room), made]
  have beside := leads_below (Path.isName_beside room.ofKey room.shortKey) found room.short
  have place := leads_below room.ofKey found (shorter_of_room room).2
  have differs : "." ++ key ++ ".tmp" ≠ key := Path.beside_ne_self
  have written := extends_written room.beside value
  have writes : tree.Endures (fun _ => True) (Host.write _ value) _ :=
    write_endures beside room.beside value trivial trivial trivial
  refine yields_bind (yields_of_endures writes) ?_
  rintro result changed ⟨rfl, rfl⟩
  have renamed := rename_of_leads (leads_of_extends beside written) (leads_of_extends place written)
    differs (by rw [node?_insert _ _ (by simp), if_pos rfl])
    (by simpa [node?_insert, differs.symm] using room.place)
  refine yields_ask (meets_rename renamed) ?_
  exact yields_ask (meets_syncDirectory _) (yields_done rfl)

end Rooms

theorem save_kept (settled : tree.IsSettled) (value : Bytes) :
    tree.Yields (settings.save space key value) fun saved between =>
      ((∃ home, settings.Room home space key tree) → saved = .ok ()) ∧
        (saved = .ok () → between.read (settings.place space key) = .ok value) := by
  intro machine same
  obtain ⟨saved, between, ran, kept⟩ := save_yields settled value machine same
  refine ⟨saved, between, ran, ?_, kept⟩
  rintro ⟨home, room⟩
  exact (save_succeeds room value).of_run same ran

end SettingsDirectory

/-- A value comes back from where it was saved: out of what is written, out of settings in memory,
and out of settings in files under every name under which it could be saved there. -/
structure ComesBack {α : Type} (toJson : α → Json.Value) (ofJson? : Json.Value → Option α)
    (value : α) : Prop where
  rereads : (Json.parse? (toJson value).encode).bind ofJson? = some value
  table : ∀ (table : SettingsTable) (space key : String),
    Stored.decode ofJson? space key
      ((table.save space key (toJson value).encode).load space key) = .ok (some value)
  files : ∀ (settings : SettingsDirectory) (space key : String) (tree : FileTree), tree.IsSettled →
    tree.Yields (settings.saveJson space key (toJson value)) fun saved between =>
      ((∃ home, settings.Room home space key tree) → saved = .ok ()) ∧
        (saved = .ok () → between.Yields (settings.loadJson ofJson? space key) fun loaded later =>
          loaded = .ok (some value) ∧ later = between)

theorem comesBack_of_rereads {α : Type} {toJson : α → Json.Value}
    {ofJson? : Json.Value → Option α} (rereads : Json.Rereads toJson ofJson?) (value : α) :
    ComesBack toJson ofJson? value where
  rereads := rereads value
  table table space key := by
    rw [SettingsTable.load_save, if_pos rfl]
    exact Stored.decode_encode rereads space key value
  files settings space key tree settled := by
    refine FileTree.yields_mono (SettingsDirectory.save_kept settled _) ?_
    rintro saved between ⟨succeeds, kept⟩
    exact ⟨succeeds, fun succeeded => SettingsDirectory.loadJson_yields rereads (kept succeeded)⟩

/-- Every event, every policy and every trailer, whatever its texts and numbers are. -/
theorem records_come_back :
    (∀ event : Event, ComesBack Event.toJson Event.ofJson? event) ∧
      (∀ policy : Policy, ComesBack Policy.toJson Policy.ofJson? policy) ∧
      ∀ trailer : SwapTrailer, ComesBack SwapTrailer.toJson SwapTrailer.ofJson? trailer :=
  ⟨comesBack_of_rereads Event.rereads, comesBack_of_rereads Policy.rereads,
    comesBack_of_rereads SwapTrailer.rereads⟩

namespace Setup

def bareSettings : SettingsDirectory := ⟨.ofText "/"⟩

theorem room_bare : bareSettings.Room [] "ota" "event" .empty where
  settled := {
    whole := fun location inside there => absurd (if_neg inside) there
    here := rfl }
  root := by decide +kernel
  ofSpace := by constructor <;> decide +kernel
  ofKey := by constructor <;> decide +kernel
  shortKey := by decide +kernel
  short := by decide +kernel
  folder := nofun
  beside := nofun
  place := nofun

def oddEvent : Event where
  requestUuid := "\"quoted\""
  status := "C:\\temp\t\r\n"
  progress := Int32.minValue
  code := "\x00\x1f\x7f"
  message := "ü€𝄞"
  timestamp := Int64.minValue

end Setup

open Setup

theorem records_come_back_sample :
    (∃ home, bareSettings.Room home "ota" "event" .empty) ∧
      FileTree.empty.Yields (bareSettings.saveJson "ota" "event" oddEvent.toJson)
        fun saved between => saved = .ok () ∧
          between.Yields (bareSettings.loadJson Event.ofJson? "ota" "event") fun loaded _ =>
            loaded = .ok (some oddEvent) := by
  have files := (records_come_back.1 oddEvent).files
  refine ⟨⟨[], room_bare⟩, ?_⟩
  refine FileTree.yields_mono (files bareSettings "ota" "event" .empty room_bare.settled) ?_
  rintro saved between ⟨succeeds, returns⟩
  have succeeded := succeeds ⟨[], room_bare⟩
  refine ⟨succeeded, FileTree.yields_mono (returns succeeded) ?_⟩
  rintro loaded later ⟨found, -⟩
  exact found

end DualBank
