import DualBank.Proofs.Scene

/-! The slot remembers an accepted cancel at once, and the installation learns of it when it next
looks: what a history says of both, and what a call and a look make of it. -/

namespace DualBank

open Program Surroundings

namespace Agent.Call

def Loud : Agent.Call → Prop
  | .device (.publish event) => event.status = Phase.failure.status
  | .device .requestTest | .device .restart => True
  | _ => False

def Calm (call : Agent.Call) : Prop :=
  ¬ call.Loud ∧ ∀ operation, call ≠ .shared (.slot operation)

end Agent.Call

def Happening.look (running : Bool) : Happening :=
  .exchange (.shared (.slot .isRunning)) running

/-- The download reports that it was canceled only if a verdict told it so. -/
def Download.Candid : Download → Prop
  | .done result => result ≠ .error .canceled
  | .ask (.source _) next => ∀ reply, Candid (next reply)
  | .ask (.deliver _) next => ∀ verdict, verdict.result ≠ .error .canceled → Candid (next verdict)

namespace Cancellation

open Happening (look)

variable {history : List Happening} {happening : Happening}

def Accepted (history : List Happening) : Prop :=
  .cancel true ∈ history

def accepts : Happening → Bool
  | .cancel true => true
  | _ => false

instance : Decidable (Accepted history) :=
  decidable_of_iff (history.any accepts) <| by
    rw [List.any_eq_true]
    constructor
    · rintro ⟨happening, inside, accepting⟩
      unfold accepts at accepting
      split at accepting
      · exact inside
      · contradiction
    · exact fun accepted => ⟨_, accepted, rfl⟩

def Heard (history : List Happening) : Prop :=
  ∃ earlier running later, history = earlier ++ look running :: later ∧ Accepted earlier

def Forged (history : List Happening) : Prop :=
  ∃ url headers timeout, ∃ download : Download, ¬ download.Candid ∧
    .exchange (.device (.download url headers timeout)) download ∈ history

def Silent (history : List Happening) : Prop :=
  ∀ call reply, .exchange call reply ∈ history → ¬ Agent.Call.Loud call

theorem accepted_append : Accepted (history ++ [happening]) ↔
    Accepted history ∨ happening = .cancel true := by
  simp [Accepted, eq_comm]

theorem heard_append : Heard (history ++ [happening]) ↔
    Heard history ∨ Accepted history ∧ ∃ running, happening = look running := by
  constructor
  · rintro ⟨earlier, running, later, parts, accepted⟩
    rcases List.eq_nil_or_concat later with rfl | ⟨init, last, rfl⟩
    · obtain ⟨rfl, same⟩ := List.append_inj' parts rfl
      exact .inr ⟨accepted, running, List.singleton_inj.1 same⟩
    · rw [List.concat_eq_append, ← List.cons_append, ← List.append_assoc] at parts
      exact .inl ⟨earlier, running, init, (List.append_inj' parts rfl).1, accepted⟩
  · rintro (⟨earlier, running, later, rfl, accepted⟩ | ⟨accepted, running, rfl⟩)
    · exact ⟨earlier, running, later ++ [happening], by simp, accepted⟩
    · exact ⟨history, running, [], rfl, accepted⟩

section Growing

variable {call : Agent.Call} {reply : Agent.Reply call}

theorem accepted_append_exchange :
    Accepted (history ++ [.exchange call reply]) ↔ Accepted history := by
  simp [accepted_append]

theorem heard_append_cancel {accepted : Bool} :
    Heard (history ++ [.cancel accepted]) ↔ Heard history := by
  refine heard_append.trans ⟨?_, .inl⟩
  rintro (heard | ⟨_, _, impossible⟩)
  · exact heard
  · cases impossible

theorem heard_append_exchange (other : call ≠ .shared (.slot .isRunning)) :
    Heard (history ++ [.exchange call reply]) ↔ Heard history := by
  refine heard_append.trans ⟨?_, .inl⟩
  rintro (heard | ⟨_, _, same⟩)
  · exact heard
  · cases same
    contradiction

end Growing

theorem accepted_of_heard (heard : Heard history) : Accepted history := by
  obtain ⟨earlier, running, later, rfl, accepted⟩ := heard
  exact List.mem_append_left _ accepted

theorem heard_append_look {running : Bool} :
    Heard (history ++ [look running]) ↔ Accepted history := by
  refine heard_append.trans ⟨?_, fun accepted => .inr ⟨accepted, running, rfl⟩⟩
  rintro (heard | ⟨accepted, _⟩)
  · exact accepted_of_heard heard
  · exact accepted

theorem forged_append (forged : Forged history) : Forged (history ++ [happening]) := by
  obtain ⟨url, headers, timeout, download, uncandid, inside⟩ := forged
  exact ⟨url, headers, timeout, download, uncandid, List.mem_append_left _ inside⟩

theorem silent_append {call : Agent.Call} {reply : Agent.Reply call} (silent : Silent history)
    (quiet : ¬ call.Loud) : Silent (history ++ [.exchange call reply]) := by
  intro other answer inside
  rcases List.mem_append.1 inside with before | last
  · exact silent other answer before
  · cases List.mem_singleton.1 last
    exact quiet

theorem silent_cancel {accepted : Bool} (silent : Silent history) :
    Silent (history ++ [.cancel accepted]) := by
  intro call reply inside
  rcases List.mem_append.1 inside with before | last
  · exact silent call reply before
  · simp at last

def Attends (slot : Slot) (history : List Happening) : Prop :=
  slot = .running ∧ ¬ Accepted history ∨ slot = .canceling ∧ Accepted history

section Attending

variable {slot : Slot}

theorem attends_cancel (attends : Attends slot history) :
    Attends (slot.apply .cancel).2 (history ++ [.cancel (slot.apply .cancel).1]) := by
  rcases attends with ⟨rfl, _⟩ | ⟨rfl, accepted⟩
  · exact .inr ⟨rfl, accepted_append.2 (.inr rfl)⟩
  · exact .inr ⟨rfl, accepted_append.2 (.inl accepted)⟩

theorem attends_exchange {call : Agent.Call} {reply : Agent.Reply call}
    (attends : Attends slot history) : Attends slot (history ++ [.exchange call reply]) :=
  attends.imp (And.imp_right (mt accepted_append_exchange.1))
    (And.imp_right accepted_append_exchange.2)

theorem accepted_of_attends (attends : Attends slot history) :
    Accepted history ↔ slot.isRunning = false := by
  rcases attends with ⟨rfl, unasked⟩ | ⟨rfl, accepted⟩
  · simp [unasked, Slot.isRunning]
  · simp [accepted, Slot.isRunning]

end Attending

end Cancellation

open Cancellation Scene

structure Scene.Attentive (scene : Scene) : Prop where
  slot : scene.slot = .running ∧ ¬ Accepted scene.history ∨
    scene.slot = .canceling ∧ Accepted scene.history
  silent : Silent scene.history

structure Scene.Unheard (scene : Scene) : Prop extends scene.Attentive where
  unheard : ¬ Heard scene.history

namespace Scene

variable {call : Agent.Call} {before after scene : Scene} {reply : Agent.interface.Reply call}

theorem slot_of_unslotted (answers : surroundings.Answers call before reply after)
    (unslotted : ∀ operation, call ≠ .shared (.slot operation)) : after.slot = before.slot := by
  change Answers call before reply after at answers
  unfold Answers at answers
  split at answers
  · obtain ⟨settings, _, rfl⟩ := answers
    rfl
  · exact absurd rfl (unslotted _)
  · subst answers
    rfl

theorem slot_of_answers (answers : surroundings.Answers call before reply after)
    (calm : call.Calm) :
    after.slot = before.slot :=
  slot_of_unslotted answers calm.2

theorem unheard_opening (settings : SettingsTable) : (opening settings).Unheard where
  slot := .inl ⟨rfl, List.not_mem_nil⟩
  silent _ _ inside := absurd inside List.not_mem_nil
  unheard := by
    rintro ⟨earlier, running, later, parts, _⟩
    simp [opening] at parts

theorem attentive_cancel (attentive : scene.Attentive) : scene.cancel.Attentive where
  slot := attends_cancel attentive.slot
  silent := silent_cancel attentive.silent

theorem heard_cancel : Heard scene.cancel.history ↔ Heard scene.history :=
  heard_append_cancel

theorem unheard_cancel (unheard : scene.Unheard) : scene.cancel.Unheard where
  toAttentive := attentive_cancel unheard.toAttentive
  unheard := fun heard => unheard.unheard (heard_cancel.1 heard)

theorem accepted_of_answers (answers : surroundings.Answers call before reply after) :
    Accepted after.history ↔ Accepted before.history := by
  rw [history_of_answers answers, accepted_append_exchange]

theorem heard_of_answers (answers : surroundings.Answers call before reply after)
    (other : call ≠ .shared (.slot .isRunning)) :
    Heard after.history ↔ Heard before.history := by
  rw [history_of_answers answers, heard_append_exchange other]

theorem silent_of_answers (answers : surroundings.Answers call before reply after)
    (quiet : ¬ call.Loud)
    (silent : Silent before.history) : Silent after.history := by
  rw [history_of_answers answers]
  exact silent_append silent quiet

theorem attentive_of_answers (answers : surroundings.Answers call before reply after)
    (calm : call.Calm)
    (attentive : before.Attentive) : after.Attentive where
  slot := by
    rw [slot_of_answers answers calm, accepted_of_answers answers]
    exact attentive.slot
  silent := silent_of_answers answers calm.1 attentive.silent

theorem unheard_of_answers (answers : surroundings.Answers call before reply after)
    (calm : call.Calm)
    (unheard : before.Unheard) : after.Unheard where
  toAttentive := attentive_of_answers answers calm unheard.toAttentive
  unheard := fun heard =>
    unheard.unheard ((heard_of_answers answers (calm.2 .isRunning)).1 heard)

theorem attentive_of_look {running : Bool}
    (answers : surroundings.Answers (.shared (.slot .isRunning)) before running after)
    (attentive : before.Attentive) :
    after.Attentive ∧ (running = false ↔ Accepted after.history) := by
  have accepted := accepted_of_answers answers
  have silent := silent_of_answers answers (fun impossible => impossible) attentive.silent
  obtain ⟨same, kept⟩ := answers
  have slot : after.slot = before.slot := by rw [kept]; rfl
  rw [Slot.apply] at same
  refine ⟨⟨?_, silent⟩, ?_⟩
  · rw [slot, accepted]
    exact attentive.slot
  · rw [accepted, same]
    exact (accepted_of_attends attentive.slot).symm

theorem unheard_of_look
    (answers : surroundings.Answers (.shared (.slot .isRunning)) before true after)
    (attentive : before.Attentive) : after.Unheard where
  toAttentive := (attentive_of_look answers attentive).1
  unheard heard :=
    absurd ((attentive_of_look answers attentive).2.2 (accepted_of_heard heard)) (by decide)

theorem heard_of_look
    (answers : surroundings.Answers (.shared (.slot .isRunning)) before false after)
    (attentive : before.Attentive) : Heard after.history ∧ Silent after.history := by
  have looked := attentive_of_look answers attentive
  have asked : Accepted before.history :=
    (accepted_of_answers answers).1 (looked.2.1 rfl)
  refine ⟨?_, looked.1.silent⟩
  rw [history_of_answers answers]
  exact heard_append_look.2 asked

theorem stable_attentive : surroundings.Stable Attentive := by
  rintro before after rfl attentive
  exact attentive_cancel attentive

theorem stable_unheard : surroundings.Stable Unheard := by
  rintro before after rfl unheard
  exact unheard_cancel unheard

theorem stable_history {assertion : List Happening → Prop}
    (grows : ∀ history happening, assertion history → assertion (history ++ [happening])) :
    surroundings.Stable fun scene => assertion scene.history := by
  rintro before after rfl holds
  exact grows _ _ holds

abbrev Ends {α : Type} (post : α → Scene → Prop) (program : Agent α) (scene : Scene) : Prop :=
  surroundings.Ensures (fun _ _ => True) post program scene

section Runs

variable {α : Type} {post : α → Scene → Prop}

theorem ends_history {assertion : List Happening → Prop}
    (grows : ∀ history happening, assertion history → assertion (history ++ [happening]))
    (program : Agent α) (holds : assertion scene.history) :
    scene.Ends (fun _ later => assertion later.history) program := by
  refine ensures_mono (ensures_always (always_trivial program) (stable_history grows) ?_
    (fun _ _ _ _ => trivial) holds) fun _ _ ended => ended.2
  intro call _ before reply after answers holds
  rw [history_of_answers answers]
  exact grows _ _ holds

theorem ends_calm {program : Agent α} {condition : α → Prop}
    (always : program.Always Agent.Call.Calm condition) (unheard : scene.Unheard) :
    scene.Ends (fun value later => condition value ∧ later.Unheard) program := by
  refine ensures_always always stable_unheard (fun _ calm => ?_) (fun _ _ _ _ => trivial) unheard
  exact fun _ _ _ answers holds => unheard_of_answers answers calm holds

theorem ends_ask {call : Agent.Call} {next : Agent.interface.Reply call → Agent α}
    (calm : call.Calm) (unheard : scene.Unheard)
    (onward : ∀ reply, ∀ later : Scene, later.Unheard → later.Ends post (next reply)) :
    scene.Ends post (.ask call next) := by
  refine ensures_ask stable_unheard unheard (fun _ _ => trivial) ?_
  exact fun _ reply after still answers =>
    onward reply after (unheard_of_answers answers calm still)

theorem ends_look_keeping (assertion : List Happening → Prop)
    (grows : ∀ history happening, assertion history → assertion (history ++ [happening]))
    {next : Bool → Agent α} (attentive : scene.Attentive) (holds : assertion scene.history)
    (onward : ∀ later : Scene, later.Unheard → ¬ Accepted later.history →
      assertion later.history → later.Ends post (next true))
    (told : ∀ later : Scene, later.Attentive → Heard later.history →
      later.Ends post (next false)) :
    scene.Ends post (.ask (.shared (.slot .isRunning)) next) := by
  refine ensures_ask (stable_attentive.and (stable_history grows)) ⟨attentive, holds⟩
    (fun _ _ => trivial) ?_
  rintro before running after ⟨attentive, holds⟩ answers
  cases running with
  | false =>
      exact told after (attentive_of_look answers attentive).1 (heard_of_look answers attentive).1
  | true =>
      refine onward after (unheard_of_look answers attentive) (fun accepted => ?_) ?_
      · exact absurd ((attentive_of_look answers attentive).2.2 accepted) (by decide)
      · rw [history_of_answers answers]
        exact grows _ _ holds

theorem ends_look {next : Bool → Agent α} (attentive : scene.Attentive)
    (onward : ∀ later : Scene, later.Unheard → later.Ends post (next true))
    (told : ∀ later : Scene, later.Attentive → Heard later.history →
      later.Ends post (next false)) :
    scene.Ends post (.ask (.shared (.slot .isRunning)) next) :=
  ends_look_keeping (fun _ => True) (fun _ _ kept => kept) attentive trivial
    (fun later unheard _ _ => onward later unheard) told

end Runs

end Scene

section Footprints

variable {uuid : String} {call : Agent.Call}

theorem Phase.status_ne_failure {phase : Phase} (other : phase ≠ .failure) :
    phase.status ≠ Phase.failure.status := by
  cases phase <;> first | decide | contradiction

theorem Agent.Call.calm_of_announces {phases : List Phase}
    (announces : call.Announces uuid phases) (others : .failure ∉ phases) : call.Calm := by
  unfold Announces at announces
  split at announces
  · exact ⟨fun impossible => impossible, fun _ => by simp⟩
  · exact ⟨fun impossible => impossible, fun _ => by simp⟩
  · exact ⟨fun impossible => impossible, fun _ => by simp⟩
  · obtain ⟨_, phase, told, same⟩ := announces
    refine ⟨fun loud => ?_, fun _ => by simp⟩
    have other : phase ≠ .failure := fun failure => others (failure ▸ told)
    exact Phase.status_ne_failure other (same.symm.trans loud)
  · contradiction

theorem Agent.Call.calm_of_fetches (fetches : call.Fetches uuid) :
    call = .shared (.slot .isRunning) ∨ call.Calm := by
  unfold Fetches at fetches
  split at fetches <;>
    first
    | exact .inl rfl
    | exact .inr ⟨fun impossible => impossible, fun _ => by simp⟩
    | exact .inr (calm_of_announces fetches (by decide))

end Footprints

theorem Agent.Call.calm_device {call : Device.Call} (quiet : ¬ (Agent.Call.device call).Loud) :
    (Agent.Call.device call).Calm :=
  ⟨quiet, fun _ => by simp⟩

end DualBank
