import DualBank.Machine
import DualBank.Proofs.Files

/-! What programs do to the files of a machine, whatever its clock says and its console shows. -/

namespace DualBank

open Program

/-- On every machine with these files a program comes to its end, and its value and the files it
leaves meet the condition. -/
def FileTree.Yields {α : Type} (tree : FileTree) (program : Host α) (post : α → FileTree → Prop) :
    Prop :=
  ∀ machine : Machine, machine.files = tree → ∃ value later,
    machine.run program = (.finished value, later) ∧ post value later.files

def Host.Call.Meets (call : Host.Call) (tree : FileTree) (reply : Host.Reply call)
    (changed : FileTree) : Prop :=
  ∀ machine : Machine, machine.files = tree → ∃ later,
    machine.answer call = (.ok reply, later) ∧ later.files = changed

namespace Machine

theorem run_bind {α β : Type} (program : Host α) (continuation : α → Host β) (machine : Machine) :
    machine.run (program.bind continuation) =
      match machine.run program with
      | (.finished value, later) => later.run (continuation value)
      | (.exited code, later) => (.exited code, later) := by
  induction program generalizing machine with
  | done value => rfl
  | ask call next ih =>
      rw [ask_bind, run, run]
      cases answered : machine.answer call with
      | mk reply later =>
          cases reply with
          | error code => rfl
          | ok reply => exact ih reply later

def runFor {α : Type} : Nat → Host α → Machine → Machine
  | _, .done _, machine | 0, .ask .., machine => machine
  | count + 1, .ask call next, machine =>
      match machine.answer call with
      | (.ok reply, later) => later.runFor count (next reply)
      | (.error _, later) => later

theorem runFor_bind {α β : Type} (count : Nat) (program : Host α) (continuation : α → Host β)
    (machine : Machine) :
    machine.runFor count (program.bind continuation) = machine.runFor count program ∨
      ∃ value later rest, machine.run program = (.finished value, later) ∧
        machine.runFor count (program.bind continuation) =
          later.runFor rest (continuation value) := by
  induction program generalizing count machine with
  | done value => exact .inr ⟨value, machine, count, rfl, rfl⟩
  | ask call next ih =>
      cases count with
      | zero => exact .inl rfl
      | succ count =>
          rw [ask_bind, runFor, runFor, run]
          cases answered : machine.answer call with
          | mk reply later =>
              cases reply with
              | error code => exact .inl rfl
              | ok reply => exact ih reply count later

end Machine

/-- On every machine with these files, wherever the power goes in the course of a program, the files
meet the guard; and if it does not go, the program comes to its end and meets the condition. -/
def FileTree.Endures {α : Type} (tree : FileTree) (guard : FileTree → Prop) (program : Host α)
    (post : α → FileTree → Prop) : Prop :=
  ∀ machine : Machine, machine.files = tree →
    (∀ count, guard (machine.runFor count program).files) ∧
      ∃ value later, machine.run program = (.finished value, later) ∧ post value later.files

namespace FileTree

variable {α β : Type} {tree : FileTree} {post : α → FileTree → Prop} {guard : FileTree → Prop}

theorem Yields.of_run {program : Host α} (yields : tree.Yields program post) {machine : Machine}
    (same : machine.files = tree) {value : α} {later : Machine}
    (ran : machine.run program = (.finished value, later)) : post value later.files := by
  obtain ⟨other, last, ends, holds⟩ := yields machine same
  rw [ran] at ends
  cases ends
  exact holds

theorem yields_done {value : α} (holds : post value tree) :
    tree.Yields (.done value) post :=
  fun machine same => ⟨value, machine, rfl, same ▸ holds⟩

theorem yields_ask {call : Host.Call} {next : Host.Reply call → Host α} {reply : Host.Reply call}
    {changed : FileTree} (meets : call.Meets tree reply changed)
    (onward : changed.Yields (next reply) post) : tree.Yields (.ask call next) post := by
  intro machine same
  obtain ⟨between, answered, left⟩ := meets machine same
  obtain ⟨value, later, ran, holds⟩ := onward between left
  refine ⟨value, later, ?_, holds⟩
  rw [Machine.run, answered]
  exact ran

theorem yields_bind {onward : β → FileTree → Prop} {program : Host α} {continuation : α → Host β}
    (first : tree.Yields program post)
    (second : ∀ value changed, post value changed →
      changed.Yields (continuation value) onward) :
    tree.Yields (program.bind continuation) onward := by
  intro machine same
  obtain ⟨value, between, ran, holds⟩ := first machine same
  obtain ⟨last, later, ends, reached⟩ := second value between.files holds between rfl
  refine ⟨last, later, ?_, reached⟩
  rw [Machine.run_bind, ran]
  exact ends

theorem yields_mono {weaker : α → FileTree → Prop} {program : Host α}
    (yields : tree.Yields program post)
    (implies : ∀ value changed, post value changed → weaker value changed) :
    tree.Yields program weaker := by
  intro machine same
  obtain ⟨value, later, ran, holds⟩ := yields machine same
  exact ⟨value, later, ran, implies _ _ holds⟩

theorem yields_of_endures {program : Host α} (endures : tree.Endures guard program post) :
    tree.Yields program post :=
  fun machine same => (endures machine same).2

theorem endures_done {value : α} (now : guard tree) (holds : post value tree) :
    tree.Endures guard (.done value) post := by
  rintro machine rfl
  exact ⟨fun count => by rwa [Machine.runFor], yields_done holds machine rfl⟩

theorem endures_ask {call : Host.Call} {next : Host.Reply call → Host α}
    {reply : Host.Reply call} {changed : FileTree} (now : guard tree)
    (meets : call.Meets tree reply changed) (onward : changed.Endures guard (next reply) post) :
    tree.Endures guard (.ask call next) post := by
  intro machine same
  refine ⟨?_, yields_ask meets (yields_of_endures onward) machine same⟩
  intro count
  cases count with
  | zero => exact same ▸ now
  | succ count =>
      obtain ⟨between, answered, left⟩ := meets machine same
      rw [Machine.runFor, answered]
      exact (onward between left).1 count

theorem endures_bind {onward : β → FileTree → Prop} {program : Host α}
    {continuation : α → Host β} (first : tree.Endures guard program post)
    (second : ∀ value changed, post value changed →
      changed.Endures guard (continuation value) onward) :
    tree.Endures guard (program.bind continuation) onward := by
  intro machine same
  obtain ⟨guarded, value, between, ran, holds⟩ := first machine same
  have rest := second value between.files holds between rfl
  constructor
  · intro count
    rcases Machine.runFor_bind count program continuation machine with
      early | ⟨other, later, left, ends, late⟩
    · exact early ▸ guarded count
    · rw [ran] at ends
      cases ends
      exact late ▸ rest.1 left
  · obtain ⟨last, later, ends, reached⟩ := rest.2
    refine ⟨last, later, ?_, reached⟩
    rw [Machine.run_bind, ran]
    exact ends

theorem endures_mono {weaker : α → FileTree → Prop} {program : Host α}
    (endures : tree.Endures guard program post)
    (implies : ∀ value changed, post value changed → weaker value changed) :
    tree.Endures guard program weaker :=
  fun machine same =>
    ⟨(endures machine same).1, yields_mono (yields_of_endures endures) implies machine same⟩

section Calls

variable {changed : FileTree}

theorem meets_change {call : Host.Call} (unit : Host.Reply call = Except SystemError Unit)
    (outcome : FileTree → Except SystemError FileTree)
    (answers : ∀ machine : Machine, machine.answer call =
      (.ok (unit ▸ (machine.change (outcome machine.files)).1),
        (machine.change (outcome machine.files)).2))
    (done : outcome tree = .ok changed) : call.Meets tree (unit ▸ .ok ()) changed := by
  intro machine same
  subst same
  rw [answers, done]
  exact ⟨_, rfl, rfl⟩

theorem meets_create {path : Path} (done : tree.create path = .ok changed) :
    (Host.Call.create path).Meets tree (.ok ()) changed :=
  meets_change rfl (·.create path) (fun _ => rfl) done

theorem meets_create_error {path : Path} {error : SystemError}
    (refused : tree.create path = .error error) :
    (Host.Call.create path).Meets tree (.error error) tree := by
  rintro machine rfl
  rw [Machine.answer, refused]
  exact ⟨machine, rfl, rfl⟩

theorem meets_append {path : Path} {data : Bytes} (done : tree.append path data = .ok changed) :
    (Host.Call.append path data).Meets tree (.ok ()) changed :=
  meets_change rfl (·.append path data) (fun _ => rfl) done

theorem meets_rename {source target : Path} (done : tree.rename source target = .ok changed) :
    (Host.Call.rename source target).Meets tree (.ok ()) changed :=
  meets_change rfl (·.rename source target) (fun _ => rfl) done

theorem meets_rename_error {source target : Path} {error : SystemError}
    (refused : tree.rename source target = .error error) :
    (Host.Call.rename source target).Meets tree (.error error) tree := by
  rintro machine rfl
  rw [Machine.answer, refused]
  exact ⟨machine, rfl, rfl⟩

theorem meets_remove {path : Path} (done : tree.remove path = .ok changed) :
    (Host.Call.remove path).Meets tree (.ok ()) changed :=
  meets_change rfl (·.remove path) (fun _ => rfl) done

theorem meets_remove_error {path : Path} {error : SystemError}
    (refused : tree.remove path = .error error) :
    (Host.Call.remove path).Meets tree (.error error) tree := by
  rintro machine rfl
  rw [Machine.answer, refused]
  exact ⟨machine, rfl, rfl⟩

theorem meets_makeDirectory {path : Path} (done : tree.makeDirectory path = .ok changed) :
    (Host.Call.makeDirectory path).Meets tree (.ok ()) changed :=
  meets_change rfl (·.makeDirectory path) (fun _ => rfl) done

theorem meets_makeDirectory_error {path : Path} {error : SystemError}
    (refused : tree.makeDirectory path = .error error) :
    (Host.Call.makeDirectory path).Meets tree (.error error) tree := by
  rintro machine rfl
  rw [Machine.answer, refused]
  exact ⟨machine, rfl, rfl⟩

theorem meets_isDirectory (path : Path) :
    (Host.Call.isDirectory path).Meets tree (tree.isDirectory path) tree := by
  rintro machine rfl
  exact ⟨machine, rfl, rfl⟩

theorem meets_isThere (path : Path) :
    (Host.Call.isThere path).Meets tree (tree.isThere path) tree := by
  rintro machine rfl
  exact ⟨machine, rfl, rfl⟩

theorem meets_read (path : Path) : (Host.Call.read path).Meets tree (tree.read path) tree := by
  rintro machine rfl
  exact ⟨machine, rfl, rfl⟩

theorem meets_readFirst (path : Path) (count : Nat) :
    (Host.Call.readFirst path count).Meets tree ((tree.read path).map (·.take count)) tree := by
  rintro machine rfl
  exact ⟨machine, rfl, rfl⟩

theorem meets_openForAppend (path : Path) :
    (Host.Call.openForAppend path).Meets tree ((tree.read path).map fun _ => ()) tree := by
  rintro machine rfl
  exact ⟨machine, rfl, rfl⟩

theorem meets_sync (path : Path) : (Host.Call.sync path).Meets tree (.ok ()) tree := by
  rintro machine rfl
  exact ⟨machine, rfl, rfl⟩

theorem meets_syncDirectory (path : Path) :
    (Host.Call.syncDirectory path).Meets tree (.ok ()) tree := by
  rintro machine rfl
  exact ⟨machine, rfl, rfl⟩

theorem meets_log (record : Log.Record) : (Host.Call.log record).Meets tree () tree := by
  rintro machine rfl
  refine ⟨machine.display record, rfl, ?_⟩
  rw [Machine.display]
  split <;> rfl

end Calls

theorem endures_log {level : Log.Level} {origin message : String} {continuation : Unit → Host α}
    (now : guard tree) (onward : tree.Endures guard (continuation ()) post) :
    tree.Endures guard ((Host.log level origin message).bind continuation) post :=
  endures_ask now (meets_log _) onward

theorem makeDirectories_endures {path : Path} {home : Location}
    (found : tree.find path = .ok (home, .directory)) (now : guard tree) :
    tree.Endures guard (Host.makeDirectories path) fun result changed =>
      result = .ok () ∧ changed = tree := by
  have filled := (isSound_of_find found).filled
  have there : tree.isDirectory path = true := by rw [isDirectory, found]
  simp only [Host.makeDirectories, Path.upwards, Host.makeAll, Host.request, if_neg filled, bind_eq,
    ask_bind, done_bind, pure_eq_done]
  refine endures_ask now (meets_makeDirectory_error (makeDirectory_of_find found)) ?_
  refine endures_ask now (meets_isDirectory path) ?_
  rw [there]
  exact endures_done now ⟨rfl, rfl⟩

theorem makeDirectories_yields {path : Path} {home : Location}
    (found : tree.find path = .ok (home, .directory)) :
    tree.Yields (Host.makeDirectories path) fun result changed =>
      result = .ok () ∧ changed = tree := by
  have endures : tree.Endures (fun _ => True) (Host.makeDirectories path) fun result changed =>
      result = .ok () ∧ changed = tree := makeDirectories_endures found trivial
  exact yields_of_endures endures

theorem makeDirectories_endures_missing {path : Path} {parent : Location} {name : String}
    (leads : tree.Leads path parent name) (free : tree.node? (parent ++ [name]) = none)
    (now : guard tree) (made : guard (tree.insert (parent ++ [name]) .directory)) :
    tree.Endures guard (Host.makeDirectories path) fun result changed =>
      result = .ok () ∧ changed = tree.insert (parent ++ [name]) .directory := by
  have filled := (isSound_of_follow leads.followed).filled
  simp only [Host.makeDirectories, Path.upwards, Host.makeAll, Host.request, if_neg filled, bind_eq,
    ask_bind, done_bind, pure_eq_done]
  refine endures_ask now (meets_makeDirectory (makeDirectory_of_leads leads free)) ?_
  exact endures_done made ⟨rfl, rfl⟩

theorem write_endures {path : Path} {parent : Location} {name : String}
    (leads : tree.Leads path parent name)
    (free : tree.node? (parent ++ [name]) ≠ some .directory) (data : Bytes) (now : guard tree)
    (created : guard (tree.insert (parent ++ [name]) (.file [])))
    (written : guard
      ((tree.insert (parent ++ [name]) (.file [])).insert (parent ++ [name]) (.file data))) :
    tree.Endures guard (Host.write path data) fun result changed =>
      result = .ok () ∧ changed =
        (tree.insert (parent ++ [name]) (.file [])).insert (parent ++ [name]) (.file data) := by
  have inside : parent ++ [name] ≠ [] := by simp
  have still := leads_of_extends leads (extends_insert (.file []) inside free)
  have empty : (tree.insert (parent ++ [name]) (.file [])).node? (parent ++ [name]) =
      some (.file []) := by rw [node?_insert tree _ inside, if_pos rfl]
  simp only [Host.write, Host.request, bind_eq, ask_bind, done_bind, pure_eq_done]
  refine endures_ask now (meets_create (create_of_leads leads free)) ?_
  refine endures_ask created (meets_append (append_of_leads still empty data)) ?_
  exact endures_ask written (meets_sync path) (endures_done written ⟨rfl, rfl⟩)

end FileTree

end DualBank
