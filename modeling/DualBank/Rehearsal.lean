import DualBank.Bench
import DualBank.Rehearsal.Script
import DualBank.Session

/-! The agent on a bench where calls can be made to fail, or to panic, and where the installation
thread can be held at a call while others go on. -/

namespace DualBank

inductive FaultRule where
  | always
  | calls (numbers : List Nat)
  | panic

inductive Fate where
  | done
  | failed
  | panicked
deriving DecidableEq

structure Faults where
  rules : List (String × FaultRule)
  counts : List (String × Nat)

namespace Faults

def none : Faults := ⟨[], []⟩

def worse : Fate → Fate → Fate
  | .panicked, _ | _, .panicked => .panicked
  | .failed, _ | _, .failed => .failed
  | .done, .done => .done

def fate : Option FaultRule → Nat → Fate
  | some .panic, _ => .panicked
  | some .always, _ => .failed
  | some (.calls numbers), number => if number ∈ numbers then .failed else .done
  | .none, _ => .done

def count (faults : Faults) (name : String) : Fate × Faults :=
  let number := (faults.counts.lookup name).getD 0 + 1
  (fate (faults.rules.lookup name) number,
    { faults with counts := (name, number) :: faults.counts.filter (·.1 ≠ name) })

def meet (faults : Faults) : List String → Fate × Faults
  | [] => (.done, faults)
  | name :: rest =>
      let (first, faults) := faults.count name
      let (second, faults) := faults.meet rest
      (worse first second, faults)

end Faults

/-- Holds the thread at a call, after so many more calls of its name: at its end, or before the
first chunk of a download. -/
structure Pause where
  name : String
  missing : Nat

inductive Entry where
  | call (call : Device.Call) (fate : Fate)
  | mark (mark : Script.Mark) (answer : Bool)
  | note (text : String)

def Device.Call.names : Device.Call → List String
  | .initSettings => ["init"]
  | .save _ key value =>
      ["save", "save:" ++ key] ++
        (if key = Record.stageKey then
          value.head?.toList.map fun byte => "save:" ++ key ++ ":" ++ toString byte
        else [])
  | .load _ key => ["load", "load:" ++ key]
  | .delete _ key => ["delete", "delete:" ++ key]
  | .erase _ => ["erase"]
  | .openWriter _ => ["open"]
  | .write .. => ["write"]
  | .readHeader _ => ["header"]
  | .swapType => ["swap_type"]
  | .isConfirmed => ["is_confirmed"]
  | .confirm => ["confirm"]
  | .requestTest => ["test_upgrade"]
  | .download .. => ["download"]
  | .publish event => ["publish", "publish:" ++ event.status]
  | .restart => ["reboot"]
  | .closeWriter | .source _ | .now | .sleep _ | .log _ | .startThread _ => []

/-- A thread that is `held` before its download has `asked` for it, but none was taken from the
script yet. -/
structure Rehearsal where
  bench : Bench
  session : Session
  faults : Faults
  pauses : List Pause
  held : Bool
  asked : Bool
  journal : List Entry

inductive Response (α : Type) where
  | panic
  | reply (value : α)
  | later

namespace Rehearsal

def fresh (faults : Faults) : Rehearsal :=
  ⟨.fresh, .fresh, faults, [], false, false, []⟩

def enter (rehearsal : Rehearsal) (entry : Entry) : Rehearsal :=
  { rehearsal with journal := rehearsal.journal ++ [entry] }

def meet (rehearsal : Rehearsal) (names : List String) : Fate × Rehearsal :=
  ((rehearsal.faults.meet names).1, { rehearsal with faults := (rehearsal.faults.meet names).2 })

def pass (rehearsal : Rehearsal) (names : List String) : Rehearsal :=
  let counted := rehearsal.pauses.map fun pause =>
    if pause.name ∈ names then { pause with missing := pause.missing - 1 } else pause
  { rehearsal with
    pauses := counted.filter (·.missing ≠ 0)
    held := rehearsal.held || counted.any (·.missing = 0) }

def passIf (onThread : Bool) (names : List String) (rehearsal : Rehearsal) : Rehearsal :=
  if onThread then rehearsal.pass names else rehearsal

def operate (rehearsal : Rehearsal) (operation : Slot.Operation) : Bool × Rehearsal :=
  ((rehearsal.session.share (.slot operation)).1,
    { rehearsal with session := (rehearsal.session.share (.slot operation)).2 })

def mark (onThread : Bool) (rehearsal : Rehearsal) : Script.Mark → Bool × Rehearsal
  | .panic => (false, rehearsal)
  | .aborted => (true, rehearsal.enter (.mark .aborted true))
  | .cancel =>
      let (answer, rehearsal) := rehearsal.operate .cancel
      (true, rehearsal.enter (.mark .cancel answer))
  | .finish =>
      let (answer, rehearsal) := rehearsal.operate .finish
      (true, rehearsal.enter (.mark .finish answer))
  | .chunk =>
      let (fate, rehearsal) := rehearsal.meet [Script.Mark.chunk.name]
      if fate = .panicked then (false, rehearsal)
      else (true, passIf onThread [Script.Mark.chunk.name] rehearsal)

def plain (rehearsal : Rehearsal) (call : Device.Call) : Device.Reply call × Rehearsal :=
  ((rehearsal.bench.answer call).1, { rehearsal with bench := (rehearsal.bench.answer call).2 })

def refusal (call : Device.Call) : Option (Device.Reply call) :=
  Bench.refuse (.other "out of order") .inputOutput call

def answerNamed (onThread : Bool) (call : Device.Call) (rehearsal : Rehearsal) :
    Response (Device.Reply call) × Rehearsal :=
  let (fate, rehearsal) := rehearsal.meet call.names
  let rehearsal := rehearsal.enter (.call call fate)
  match fate, refusal call with
  | .panicked, _ => (.panic, rehearsal)
  | .failed, some reply => (.reply reply, passIf onThread call.names rehearsal)
  | _, _ =>
      let (reply, rehearsal) := rehearsal.plain call
      (.reply reply, passIf onThread call.names rehearsal)

def answerDownload (onThread : Bool) (call : Device.Call) (rehearsal : Rehearsal) :
    Response (Device.Reply call) × Rehearsal :=
  if onThread && rehearsal.asked then
    let (reply, rehearsal) := { rehearsal with asked := false }.plain call
    (.reply reply, rehearsal)
  else
    let (fate, rehearsal) := rehearsal.meet call.names
    let rehearsal := rehearsal.enter (.call call fate)
    if fate = .panicked then (.panic, rehearsal)
    else
      let rehearsal := passIf onThread call.names rehearsal
      if onThread && rehearsal.held then (.later, { rehearsal with asked := true })
      else
        let (reply, rehearsal) := rehearsal.plain call
        (.reply reply, rehearsal)

def answer (onThread : Bool) : (call : Device.Call) → Rehearsal →
    Response (Device.Reply call) × Rehearsal
  | .log record, rehearsal =>
      (.reply (),
        if record.origin = some Script.Mark.origin then rehearsal.enter (.note record.message)
        else rehearsal)
  | .source (.log record), rehearsal =>
      match Script.Mark.ofRecord? record with
      | none => (.reply (), rehearsal)
      | some mark =>
          let (survives, rehearsal) := rehearsal.mark onThread mark
          (if survives then .reply () else .panic, rehearsal)
  | .download url headers timeout, rehearsal =>
      answerDownload onThread (.download url headers timeout) rehearsal
  | call, rehearsal =>
      if call.names = [] then
        let (reply, rehearsal) := rehearsal.plain call
        (.reply reply, rehearsal)
      else answerNamed onThread call rehearsal

def withThread (rehearsal : Rehearsal) (thread : Thread) : Rehearsal :=
  { rehearsal with session := { rehearsal.session with thread := some thread } }

def runThread (onPanic : Rehearsal → Rehearsal) : Agent (Option Outcome) → Rehearsal → Rehearsal
  | .done outcome, rehearsal => rehearsal.withThread (.ended outcome)
  | .ask (.shared call) next, rehearsal =>
      runThread onPanic (next (rehearsal.session.share call).1)
        { rehearsal with session := (rehearsal.session.share call).2 }
  | .ask .join next, rehearsal => runThread onPanic (next .nothing) rehearsal
  | .ask (.device call) next, rehearsal =>
      match answer true call rehearsal with
      | (.panic, rehearsal) => onPanic rehearsal
      | (.later, rehearsal) => rehearsal.withThread (.running (.ask (.device call) next))
      | (.reply reply, rehearsal) =>
          if rehearsal.held then rehearsal.withThread (.running (next reply))
          else runThread onPanic (next reply) rehearsal

def lose (rehearsal : Rehearsal) : Rehearsal :=
  rehearsal.withThread (.ended none)

def go (rehearsal : Rehearsal) : Rehearsal :=
  match rehearsal.held, rehearsal.session.thread with
  | false, some (.running rest) => runThread (runThread lose Session.panicked) rest rehearsal
  | _, _ => rehearsal

def client {α : Type} : Agent α → Rehearsal → Option α × Rehearsal
  | .done value, rehearsal => (some value, rehearsal)
  | .ask (.shared call) next, rehearsal =>
      client (next (rehearsal.session.share call).1)
        { rehearsal with session := (rehearsal.session.share call).2 }
  | .ask .join next, rehearsal =>
      match rehearsal.session.thread with
      | none => client (next .nothing) rehearsal
      | some (.ended outcome) =>
          client (next (Session.joined outcome))
            { rehearsal with session := { rehearsal.session with thread := none } }
      | some (.running _) => (none, rehearsal)
  | .ask (.device call) next, rehearsal =>
      match answer false call rehearsal with
      | (.reply reply, rehearsal) => client (next reply) rehearsal
      | (.panic, rehearsal) | (.later, rehearsal) => (none, rehearsal)

def restart (rehearsal : Rehearsal) : Rehearsal :=
  { rehearsal with session := .fresh, pauses := [], held := false, asked := false }

end Rehearsal

end DualBank
