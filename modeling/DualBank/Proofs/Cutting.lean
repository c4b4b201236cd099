import DualBank.Proofs.Hosting
import DualBank.Proofs.Surroundings

/-! Programs that are cut short between two of their calls, or in the middle of writing to a file:
then only a first part of the data is there. -/

namespace DualBank

open Program

def Host.Call.Whole : Host.Call → Prop
  | .append .. => False
  | _ => True

namespace Machine

inductive Interrupted {α : Type} : Host α → Machine → Machine → Prop
  | now {program machine} : Interrupted program machine machine
  | writing {path data next machine} (count : Nat) :
      Interrupted (.ask (.append path data) next) machine
        (machine.answer (.append path (data.take count))).2
  | onward {call next machine reply later last} : machine.answer call = (.ok reply, later) →
      Interrupted (next reply) later last → Interrupted (.ask call next) machine last

variable {α β : Type}

theorem interrupted_bind {program : Host α} {continuation : α → Host β} {machine last : Machine}
    (interrupted : Interrupted (program.bind continuation) machine last) :
    Interrupted program machine last ∨ ∃ value later,
      machine.run program = (.finished value, later) ∧
        Interrupted (continuation value) later last := by
  induction program generalizing machine with
  | done value => exact .inr ⟨value, machine, rfl, interrupted⟩
  | ask call next ih =>
      cases interrupted with
      | now => exact .inl .now
      | writing count => exact .inl (.writing count)
      | onward answered rest =>
          rcases ih _ rest with early | ⟨value, later, ran, late⟩
          · exact .inl (.onward answered early)
          · refine .inr ⟨value, later, ?_, late⟩
            rw [run, answered]
            exact ran

def cutAt : (count written : Nat) → Host α → Machine → Machine
  | 0, written, .ask (.append path data) _, machine =>
      (machine.answer (.append path (data.take written))).2
  | count + 1, written, .ask call next, machine =>
      match machine.answer call with
      | (.ok reply, later) => later.cutAt count written (next reply)
      | (.error _, _) => machine
  | _, _, _, machine => machine

theorem interrupted_cutAt (count written : Nat) (program : Host α) (machine : Machine) :
    Interrupted program machine (machine.cutAt count written program) := by
  induction program generalizing count machine with
  | done value => cases count <;> exact .now
  | ask call next ih =>
      cases count with
      | zero =>
          cases call with
          | append path data => exact .writing written
          | _ => exact .now
      | succ count =>
          rw [cutAt]
          cases answered : machine.answer call with
          | mk reply later =>
              cases reply with
              | error code => exact .now
              | ok reply => exact .onward answered (ih reply count later)

/-- A program that writes nothing is cut short between two calls. -/
theorem runFor_of_interrupted {program : Host α} {machine last : Machine}
    (whole : program.Always Host.Call.Whole fun _ => True)
    (interrupted : Interrupted program machine last) :
    ∃ count, last = machine.runFor count program := by
  induction interrupted with
  | @now program machine =>
      refine ⟨0, ?_⟩
      cases program <;> rfl
  | writing count => exact whole.1.elim
  | onward answered rest ih =>
      obtain ⟨count, rfl⟩ := ih (whole.2 _)
      refine ⟨count + 1, ?_⟩
      rw [runFor, answered]

end Machine

/-- On every machine with these files, wherever a program is cut short, the files meet the guard;
and if it is not, the program comes to its end and meets the condition. -/
def FileTree.Outlasts {α : Type} (tree : FileTree) (guard : FileTree → Prop) (program : Host α)
    (post : α → FileTree → Prop) : Prop :=
  (∀ machine last : Machine, machine.files = tree → machine.Interrupted program last →
    guard last.files) ∧ tree.Yields program post

namespace FileTree

variable {α β : Type} {tree changed : FileTree} {guard : FileTree → Prop}
  {post : α → FileTree → Prop}

theorem outlasts_done {value : α} (now : guard tree) (holds : post value tree) :
    tree.Outlasts guard (.done value) post := by
  refine ⟨?_, yields_done holds⟩
  rintro machine last rfl interrupted
  cases interrupted
  exact now

theorem outlasts_ask {call : Host.Call} {next : Host.Reply call → Host α}
    {reply : Host.Reply call} (now : guard tree) (whole : call.Whole)
    (meets : call.Meets tree reply changed) (onward : changed.Outlasts guard (next reply) post) :
    tree.Outlasts guard (.ask call next) post := by
  refine ⟨?_, yields_ask meets onward.2⟩
  rintro machine last rfl interrupted
  obtain ⟨between, answered, left⟩ := meets machine rfl
  cases interrupted with
  | now => exact now
  | writing count => exact whole.elim
  | onward other rest =>
      rw [answered] at other
      cases other
      exact onward.1 _ last left rest

theorem outlasts_append {path : Path} {parent : Location} {name : String} {content data : Bytes}
    {next : Except SystemError Unit → Host α} (leads : tree.Leads path parent name)
    (found : tree.node? (parent ++ [name]) = some (.file content)) (now : guard tree)
    (written : ∀ count,
      guard (tree.insert (parent ++ [name]) (.file (content ++ data.take count))))
    (onward : (tree.insert (parent ++ [name]) (.file (content ++ data))).Outlasts guard
      (next (.ok ())) post) :
    tree.Outlasts guard (.ask (.append path data) next) post := by
  have meets := meets_append (append_of_leads leads found data)
  refine ⟨?_, yields_ask meets onward.2⟩
  rintro machine last rfl interrupted
  cases interrupted with
  | now => exact now
  | writing count =>
      obtain ⟨between, answered, left⟩ :=
        meets_append (append_of_leads leads found (data.take count)) machine rfl
      rw [answered, left]
      exact written count
  | onward other rest =>
      obtain ⟨between, answered, left⟩ := meets machine rfl
      rw [answered] at other
      cases other
      exact onward.1 _ last left rest

theorem outlasts_bind {onward : β → FileTree → Prop} {program : Host α}
    {continuation : α → Host β} (first : tree.Outlasts guard program post)
    (second : ∀ value changed, post value changed →
      changed.Outlasts guard (continuation value) onward) :
    tree.Outlasts guard (program.bind continuation) onward := by
  refine ⟨?_, yields_bind first.2 fun value changed holds => (second value changed holds).2⟩
  intro machine last same interrupted
  rcases Machine.interrupted_bind interrupted with early | ⟨value, later, ran, late⟩
  · exact first.1 machine last same early
  · exact (second value later.files (first.2.of_run same ran)).1 later last rfl late

theorem outlasts_of_endures {program : Host α}
    (whole : program.Always Host.Call.Whole fun _ => True)
    (endures : tree.Endures guard program post) : tree.Outlasts guard program post := by
  refine ⟨?_, yields_of_endures endures⟩
  intro machine last same interrupted
  obtain ⟨count, rfl⟩ := Machine.runFor_of_interrupted whole interrupted
  exact (endures machine same).1 count

theorem write_outlasts {path : Path} {parent : Location} {name : String} {guard : FileTree → Prop}
    (leads : tree.Leads path parent name)
    (free : tree.node? (parent ++ [name]) ≠ some .directory) (data : Bytes) (now : guard tree)
    (created : guard (tree.insert (parent ++ [name]) (.file [])))
    (written : ∀ count, guard ((tree.insert (parent ++ [name]) (.file [])).insert
      (parent ++ [name]) (.file (data.take count)))) :
    tree.Outlasts guard (Host.write path data) fun result changed =>
      result = .ok () ∧ changed =
        (tree.insert (parent ++ [name]) (.file [])).insert (parent ++ [name]) (.file data) := by
  have inside : parent ++ [name] ≠ [] := by simp
  have still := leads_of_extends leads (extends_insert (.file []) inside free)
  have empty : (tree.insert (parent ++ [name]) (.file [])).node? (parent ++ [name]) =
      some (.file []) := by rw [node?_insert tree _ inside, if_pos rfl]
  have whole := written data.length
  rw [List.take_length] at whole
  simp only [Host.write, Host.request, bind_eq, ask_bind, done_bind, pure_eq_done]
  refine outlasts_ask now trivial (meets_create (create_of_leads leads free)) ?_
  refine outlasts_append still empty created written ?_
  exact outlasts_ask whole trivial (meets_sync path) (outlasts_done whole ⟨rfl, rfl⟩)

end FileTree

theorem Host.makeAll_whole (paths : List Path) :
    (Host.makeAll paths).Always Host.Call.Whole fun _ => True := by
  induction paths with
  | nil => trivial
  | cons path above ih =>
      have checked (error : SystemError) : (ask (.isDirectory path) fun there =>
          if there then .done (.ok ()) else .done (.error error) :
            Host (Except SystemError Unit)).Always Host.Call.Whole fun _ => True := by
        refine ⟨trivial, fun there => ?_⟩
        cases there <;> trivial
      simp only [Host.makeAll, Host.request, bind_eq, ask_bind, done_bind, pure_eq_done]
      split
      · trivial
      · refine ⟨trivial, fun made => ?_⟩
        cases made with
        | ok _ => trivial
        | error error =>
            dsimp only
            split
            · refine always_bind ih fun result _ => ?_
              cases result with
              | error error => trivial
              | ok _ =>
                  refine ⟨trivial, fun made => ?_⟩
                  cases made with
                  | ok _ => trivial
                  | error error => exact checked error
            · exact checked error

end DualBank
