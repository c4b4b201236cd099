import DualBank.Download

/-! Scripted downloads: which chunks come, how the transfer ends, and what happens in between. -/

namespace DualBank

namespace Script

inductive Mark where
  | aborted
  | chunk
  | panic
  | cancel
  | finish
deriving DecidableEq

namespace Mark

def all : List Mark := [.aborted, .chunk, .panic, .cancel, .finish]

def name : Mark → String
  | .aborted => "aborted"
  | .chunk => "chunk"
  | .panic => "panic"
  | .cancel => "cancel"
  | .finish => "finish"

def origin : String := "script"

def record (mark : Mark) : Log.Record :=
  ⟨.trace, some origin, mark.name⟩

def ofRecord? (record : Log.Record) : Option Mark :=
  all.find? fun mark => mark.record = record

end Mark

inductive Step where
  /-- A chunk of some size. If it is not said whether it is the last one, it is if no other
  follows. -/
  | chunk (size total : Nat) (last : Option Bool)
  | mark (mark : Mark)

end Script

structure Script where
  steps : List Script.Step
  ending : Except UpdateError Unit
  panics : Bool
  heedless : Bool

namespace Script

def pattern (start size : Nat) : Bytes :=
  (List.range size).map fun place => UInt8.ofNat ((start + place) % 251)

def marked (mark : Mark) (rest : Download) : Download :=
  .ask (.source (.log mark.record)) fun _ => rest

def isChunk : Step → Bool
  | .chunk .. => true
  | .mark _ => false

def transfer (script : Script) : List Step → (received : Nat) → (aborted : Bool) → Download
  | [], _, _ => if script.panics then marked .panic (.done script.ending) else .done script.ending
  | .mark mark :: rest, received, aborted => marked mark (script.transfer rest received aborted)
  | .chunk size total last :: rest, received, aborted =>
      .ask
        (.deliver ⟨pattern received size, UInt64.ofNat (received + size), UInt64.ofNat total,
          last.getD (!rest.any isChunk)⟩)
        fun verdict =>
          let aborted := aborted || verdict.aborted
          let onward := marked .chunk (script.transfer rest (received + size) aborted)
          let next : Download :=
            if script.heedless then onward
            else
              match verdict.result with
              | .error error => .done (.error error)
              | .ok () => if aborted then .done (.ok ()) else onward
          if aborted then marked .aborted next else next

def download (script : Script) : Download :=
  script.transfer script.steps 0 false

end Script

end DualBank
