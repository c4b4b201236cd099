import DualBank.Proofs.Bootloader
import DualBank.Proofs.Surroundings

/-! Which files a program forces to the medium, and what they hold then. A writer does it with the
last of its data, and by then all that it has taken is in the file. -/

namespace DualBank

open Program FileTree

structure Synced where
  path : Path
  content : Except SystemError Bytes

namespace Host.Call

def Unsynced : Host.Call → Prop
  | .sync _ => False
  | _ => True

def synced (tree : FileTree) : Host.Call → List Synced
  | .sync path => [⟨path, tree.read path⟩]
  | _ => []

theorem synced_of_unsynced {call : Host.Call} (unsynced : call.Unsynced) (tree : FileTree) :
    call.synced tree = [] := by
  unfold synced
  split
  · exact unsynced.elim
  · rfl

end Host.Call

namespace Machine

def syncs {α : Type} : Host α → Machine → List Synced
  | .done _, _ => []
  | .ask call next, machine =>
      match machine.answer call with
      | (.ok reply, later) => call.synced machine.files ++ later.syncs (next reply)
      | (.error _, _) => call.synced machine.files

variable {α β : Type}

theorem syncs_bind (program : Host α) (continuation : α → Host β) (machine : Machine) :
    machine.syncs (program.bind continuation) = machine.syncs program ++
      match machine.run program with
      | (.finished value, later) => later.syncs (continuation value)
      | (.exited _, _) => [] := by
  induction program generalizing machine with
  | done value => rfl
  | ask call next ih =>
      rw [ask_bind, syncs, syncs, run]
      cases machine.answer call with
      | mk reply later =>
          cases reply with
          | error code => exact (List.append_nil _).symm
          | ok reply => simp only [ih reply later, List.append_assoc]

theorem syncs_of_always {condition : α → Prop} {program : Host α}
    (always : program.Always Host.Call.Unsynced condition) (machine : Machine) :
    machine.syncs program = [] := by
  induction program generalizing machine with
  | done value => rfl
  | ask call next ih =>
      rw [syncs, Host.Call.synced_of_unsynced always.1]
      split
      · exact ih _ (always.2 _) _
      · rfl

theorem finished_of_always {allowed : Host.Call → Prop} {condition : α → Prop} {program : Host α}
    (always : program.Always allowed condition) {machine later : Machine} {value : α}
    (ran : machine.run program = (.finished value, later)) : condition value := by
  induction program generalizing machine with
  | done other =>
      cases ran
      exact always
  | ask call next ih =>
      rw [run] at ran
      split at ran
      · exact ih _ (always.2 _) ran
      · cases ran

end Machine

def FileTree.Performs {α : Type} (tree : FileTree) (program : Host α)
    (post : α → FileTree → List Synced → Prop) : Prop :=
  ∀ machine : Machine, machine.files = tree → ∃ value later,
    machine.run program = (.finished value, later) ∧ post value later.files (machine.syncs program)

namespace FileTree

variable {α β : Type} {tree : FileTree} {post : α → FileTree → List Synced → Prop}

theorem performs_done {value : α} (holds : post value tree []) : tree.Performs (.done value) post :=
  fun machine same => ⟨value, machine, rfl, same ▸ holds⟩

theorem performs_sync {path : Path} {next : Except SystemError Unit → Host α}
    (onward : tree.Performs (next (.ok ())) fun value changed synced =>
      post value changed (⟨path, tree.read path⟩ :: synced)) :
    tree.Performs (.ask (.sync path) next) post := by
  rintro machine rfl
  exact onward machine rfl

theorem performs_bind {onward : β → FileTree → List Synced → Prop} {program : Host α}
    {continuation : α → Host β} (first : tree.Performs program post)
    (second : ∀ value changed synced, post value changed synced →
      changed.Performs (continuation value) fun last after more =>
        onward last after (synced ++ more)) :
    tree.Performs (program.bind continuation) onward := by
  intro machine same
  obtain ⟨value, between, ran, holds⟩ := first machine same
  obtain ⟨last, later, ends, reached⟩ := second value between.files _ holds between rfl
  refine ⟨last, later, ?_, ?_⟩
  · rw [Machine.run_bind, ran]
    exact ends
  · rw [Machine.syncs_bind, ran]
    exact reached

/-- A program that forces nothing to the medium. -/
theorem performs_quietly {yielded : α → FileTree → Prop} {condition : α → Prop} {program : Host α}
    (yields : tree.Yields program yielded) (always : program.Always Host.Call.Unsynced condition) :
    tree.Performs program fun value changed synced =>
      yielded value changed ∧ condition value ∧ synced = [] := by
  intro machine same
  obtain ⟨value, later, ran, holds⟩ := yields machine same
  exact ⟨value, later, ran, holds, Machine.finished_of_always always ran,
    Machine.syncs_of_always always machine⟩

theorem Performs.yields {program : Host α} (performs : tree.Performs program post)
    {weaker : α → FileTree → Prop}
    (implies : ∀ value changed synced, post value changed synced → weaker value changed) :
    tree.Yields program weaker := by
  intro machine same
  obtain ⟨value, later, ran, holds⟩ := performs machine same
  exact ⟨value, later, ran, implies value later.files _ holds⟩

theorem Performs.of_run {program : Host α} (performs : tree.Performs program post)
    {machine : Machine} (same : machine.files = tree) {value : α} {later : Machine}
    (ran : machine.run program = (.finished value, later)) :
    post value later.files (machine.syncs program) := by
  obtain ⟨other, last, ends, holds⟩ := performs machine same
  rw [ran] at ends
  cases ends
  exact holds

end FileTree

namespace BankWriter

variable (writer : BankWriter) (data : Bytes)

/-- To collect and to pass on does not count. -/
theorem flush_always :
    writer.flush.Always Host.Call.Unsynced fun reply => reply.2.written = writer.written := by
  rw [flush]
  split
  · rfl
  · refine ⟨trivial, fun reply => ?_⟩
    cases reply <;> rfl

theorem store_always :
    Program.Always Host.Call.Unsynced (fun reply => reply.2.written = writer.written)
      (if capacity ≤ data.length then
        (Host.request (.append writer.path data)).bind fun appended => .done (appended, writer)
      else .done (.ok (), { writer with buffered := writer.buffered ++ data })) := by
  split
  · exact ⟨trivial, fun _ => rfl⟩
  · rfl

theorem take_always :
    (writer.take data).Always Host.Call.Unsynced fun reply => reply.2.written = writer.written := by
  rw [take]
  split
  · rfl
  · simp only [overflow, bind_eq, pure_eq_done]
    split
    · refine always_bind (flush_always writer) ?_
      rintro ⟨result, flushed⟩ same
      dsimp only at same ⊢
      rw [← same]
      cases result with
      | error error => rfl
      | ok value => exact store_always flushed data
    · exact store_always writer data

end BankWriter

namespace BankDirectory

variable {banks : BankDirectory} {home : Location} {holdings : Holdings} {tree : FileTree}
  {writer : BankWriter} {image file : Bytes}

theorem read_carries (carries : banks.Carries home holdings writer image file tree) :
    tree.read (banks.bankPath .secondary) = .ok file := by
  rw [read_bank carries.stands]
  rfl

/-- What was taken has been counted, and the last of it is forced to the medium with all that came
before. -/
theorem write_performs (carries : banks.Carries home holdings writer image file tree)
    (data : Bytes) (last : Bool) :
    tree.Performs (writer.write data last) fun reply changed synced =>
      reply.1 = .ok reply.2.written ∧ reply.2.written = writer.written + .ofNat data.length ∧
      (∃ file, banks.Carries home holdings reply.2 (image ++ data) file changed) ∧
      synced = if last then [⟨banks.bankPath .secondary, .ok (image ++ data)⟩] else [] := by
  simp only [BankWriter.write, Host.request, bind_eq, pure_eq_done, ask_bind, done_bind]
  refine performs_bind (performs_quietly (take_yields carries data)
    (BankWriter.take_always writer data)) ?_
  rintro ⟨result, writer⟩ tree _ ⟨⟨rfl, file, carries⟩, taken, rfl⟩
  have counted : banks.Carries home holdings
      { writer with written := writer.written + UInt64.ofNat data.length } (image ++ data) file
      tree := ⟨carries.path, carries.stands, carries.whole⟩
  dsimp only at taken ⊢
  rw [← taken]
  cases last with
  | false => exact performs_done ⟨rfl, rfl, ⟨file, counted⟩, rfl⟩
  | true =>
      rw [if_pos rfl]
      refine performs_bind (performs_quietly (flush_yields counted)
        (BankWriter.flush_always _)) ?_
      rintro ⟨result, writer⟩ tree _ ⟨⟨rfl, carries⟩, flushed, rfl⟩
      dsimp only at flushed ⊢
      rw [← flushed]
      refine performs_sync (performs_done ⟨rfl, rfl, ⟨_, carries⟩, ?_⟩)
      rw [carries.path, read_carries carries]
      rfl

end BankDirectory

end DualBank
