import DualBank.Program
import Mathlib.Logic.Relation

/-! What programs do whatever is answered, and what they do in surroundings that answer by rules and
move of their own accord. Laws about whole runs are proved call by call: `Ensures` is what has to
hold before a call so that everything that can follow is in order, and `ensures_leads` carries it
along a run. -/

namespace DualBank

namespace Program

variable {interface : Interface} {α β : Type}

/-- Whatever is answered, every call is allowed, and what the program ends with meets the
condition. -/
def Always (allowed : interface.Call → Prop) (post : α → Prop) : Program interface α → Prop
  | .done value => post value
  | .ask call next => allowed call ∧ ∀ reply, (next reply).Always allowed post

@[simp]
theorem always_done {allowed : interface.Call → Prop} {post : α → Prop} {value : α} :
    (done value : Program interface α).Always allowed post ↔ post value := .rfl

@[simp]
theorem always_ask {allowed : interface.Call → Prop} {post : α → Prop} {call : interface.Call}
    {next : interface.Reply call → Program interface α} :
    (ask call next).Always allowed post ↔
      allowed call ∧ ∀ reply, (next reply).Always allowed post := .rfl

theorem always_bind {allowed : interface.Call → Prop} {between : α → Prop} {post : β → Prop}
    {program : Program interface α} {continuation : α → Program interface β}
    (first : program.Always allowed between)
    (second : ∀ value, between value → (continuation value).Always allowed post) :
    (program.bind continuation).Always allowed post := by
  induction program with
  | done value => exact second value first
  | ask call next ih => exact ⟨first.1, fun reply => ih reply (first.2 reply)⟩

theorem always_mono {allowed permitted : interface.Call → Prop} {post weaker : α → Prop}
    {program : Program interface α} (holds : program.Always allowed post)
    (calls : ∀ call, allowed call → permitted call) (values : ∀ value, post value → weaker value) :
    program.Always permitted weaker := by
  induction program with
  | done value => exact values value holds
  | ask call next ih => exact ⟨calls call holds.1, fun reply => ih reply (holds.2 reply)⟩

def advance {σ : Type} (answer : (call : interface.Call) → σ → Option (interface.Reply call × σ)) :
    Program interface α → σ → Program interface α × σ
  | .done value, state => (.done value, state)
  | .ask call next, state =>
      match answer call state with
      | none => (.ask call next, state)
      | some (reply, after) => (next reply).advance answer after

theorem always_trivial (program : Program interface α) :
    program.Always (fun _ => True) fun _ => True := by
  induction program with
  | done value => trivial
  | ask call next ih => exact ⟨trivial, ih⟩

theorem always_run {allowed : interface.Call → Prop} {post : α → Prop}
    {program : Program interface α} (always : program.Always allowed post) {σ : Type}
    (answer : (call : interface.Call) → σ → interface.Reply call × σ) (state : σ) :
    post (program.run answer state).1 := by
  induction program generalizing state with
  | done value => exact always
  | ask call next ih => exact ih _ (always.2 _) _

end Program

structure Surroundings (interface : Interface) where
  State : Type
  Moves : State → State → Prop
  Answers : (call : interface.Call) → State → interface.Reply call → State → Prop

namespace Surroundings

variable {interface : Interface} {α β : Type} (surroundings : Surroundings interface)

inductive Step :
    Program interface α × surroundings.State → Program interface α × surroundings.State → Prop
  | move {program before after} : surroundings.Moves before after →
      Step (program, before) (program, after)
  | answer {call next before reply after} : surroundings.Answers call before reply after →
      Step (.ask call next, before) (next reply, after)

def Leads :
    Program interface α × surroundings.State → Program interface α × surroundings.State → Prop :=
  Relation.ReflTransGen surroundings.Step

def Passes : surroundings.State → surroundings.State → Prop :=
  Relation.ReflTransGen surroundings.Moves

/-- Whatever may happen from here on: at every call the guard holds, and at the end the
condition. -/
def Ensures (guard : interface.Call → surroundings.State → Prop)
    (post : α → surroundings.State → Prop) : Program interface α → surroundings.State → Prop
  | .done value, state => ∀ later, surroundings.Passes state later → post value later
  | .ask call next, state => ∀ later, surroundings.Passes state later →
      guard call later ∧ ∀ reply after, surroundings.Answers call later reply after →
        Ensures guard post (next reply) after

def Stable (assertion : surroundings.State → Prop) : Prop :=
  ∀ before after, surroundings.Moves before after → assertion before → assertion after

def Keeps (assertion : surroundings.State → Prop) (call : interface.Call) : Prop :=
  ∀ before reply after, surroundings.Answers call before reply after → assertion before →
    assertion after

variable {surroundings}

theorem Stable.passes {assertion : surroundings.State → Prop}
    (stable : surroundings.Stable assertion) {before after : surroundings.State}
    (passes : surroundings.Passes before after) (holds : assertion before) : assertion after := by
  induction passes with
  | refl => exact holds
  | tail _ move ih => exact stable _ _ move ih

theorem Stable.and {first second : surroundings.State → Prop} (one : surroundings.Stable first)
    (other : surroundings.Stable second) :
    surroundings.Stable fun state => first state ∧ second state :=
  fun before after moves holds => ⟨one before after moves holds.1, other before after moves holds.2⟩

variable {guard : interface.Call → surroundings.State → Prop}
  {post : α → surroundings.State → Prop}

theorem ensures_passes {program : Program interface α} {state later : surroundings.State}
    (ensured : surroundings.Ensures guard post program state)
    (passes : surroundings.Passes state later) :
    surroundings.Ensures guard post program later := by
  cases program with
  | done value => exact fun last onward => ensured last (passes.trans onward)
  | ask call next => exact fun last onward => ensured last (passes.trans onward)

theorem ensures_step {before after : Program interface α × surroundings.State}
    (step : surroundings.Step before after)
    (ensured : surroundings.Ensures guard post before.1 before.2) :
    surroundings.Ensures guard post after.1 after.2 := by
  cases step with
  | move moves => exact ensures_passes ensured (.single moves)
  | answer answers => exact (ensured _ .refl).2 _ _ answers

/-- What is ensured at the start of a run is ensured all along. -/
theorem ensures_leads {before after : Program interface α × surroundings.State}
    (leads : surroundings.Leads before after)
    (ensured : surroundings.Ensures guard post before.1 before.2) :
    surroundings.Ensures guard post after.1 after.2 := by
  induction leads with
  | refl => exact ensured
  | tail _ step ih => exact ensures_step step ih

theorem Ensures.guarded {call : interface.Call}
    {next : interface.Reply call → Program interface α} {state : surroundings.State}
    (ensured : surroundings.Ensures guard post (.ask call next) state) : guard call state :=
  (ensured state .refl).1

theorem Ensures.ended {value : α} {state : surroundings.State}
    (ensured : surroundings.Ensures guard post (.done value) state) : post value state :=
  ensured state .refl

theorem ensures_bind {onward : β → surroundings.State → Prop} {program : Program interface α}
    {continuation : α → Program interface β} {state : surroundings.State}
    (first : surroundings.Ensures guard post program state)
    (second : ∀ value later, post value later →
      surroundings.Ensures guard onward (continuation value) later) :
    surroundings.Ensures guard onward (program.bind continuation) state := by
  induction program generalizing state with
  | done value => exact second value state first.ended
  | ask call next ih =>
      intro later passes
      refine ⟨(first later passes).1, ?_⟩
      intro reply after answers
      exact ih reply ((first later passes).2 reply after answers)

theorem ensures_mono {weaker : α → surroundings.State → Prop} {program : Program interface α}
    {state : surroundings.State} (ensured : surroundings.Ensures guard post program state)
    (implies : ∀ value later, post value later → weaker value later) :
    surroundings.Ensures guard weaker program state := by
  induction program generalizing state with
  | done value => exact fun later passes => implies value later (ensured later passes)
  | ask call next ih =>
      intro later passes
      refine ⟨(ensured later passes).1, ?_⟩
      intro reply after answers
      exact ih reply ((ensured later passes).2 reply after answers)

/-- What is ensured under one guard may be added to what is ensured under another. -/
theorem ensures_and {other : α → surroundings.State → Prop}
    {any : interface.Call → surroundings.State → Prop} {program : Program interface α}
    {state : surroundings.State} (first : surroundings.Ensures guard post program state)
    (second : surroundings.Ensures any other program state) :
    surroundings.Ensures guard (fun value later => post value later ∧ other value later) program
      state := by
  induction program generalizing state with
  | done value => exact fun later passes => ⟨first later passes, second later passes⟩
  | ask call next ih =>
      intro later passes
      refine ⟨(first later passes).1, ?_⟩
      intro reply after answers
      exact ih reply ((first later passes).2 reply after answers)
        ((second later passes).2 reply after answers)

theorem ensures_done {assertion : surroundings.State → Prop} {value : α}
    {state : surroundings.State} (stable : surroundings.Stable assertion)
    (holds : assertion state) (implies : ∀ later, assertion later → post value later) :
    surroundings.Ensures guard post (.done value) state :=
  fun later passes => implies later (stable.passes passes holds)

theorem ensures_ask {assertion : surroundings.State → Prop} {call : interface.Call}
    {next : interface.Reply call → Program interface α} {state : surroundings.State}
    (stable : surroundings.Stable assertion) (holds : assertion state)
    (guarded : ∀ later, assertion later → guard call later)
    (onward : ∀ later reply after, assertion later → surroundings.Answers call later reply after →
      surroundings.Ensures guard post (next reply) after) :
    surroundings.Ensures guard post (.ask call next) state := by
  intro later passes
  have still := stable.passes passes holds
  exact ⟨guarded later still, fun reply after answers => onward later reply after still answers⟩

theorem ensures_always {assertion : surroundings.State → Prop} {allowed : interface.Call → Prop}
    {condition : α → Prop} {program : Program interface α} {state : surroundings.State}
    (always : program.Always allowed condition) (stable : surroundings.Stable assertion)
    (kept : ∀ call, allowed call → surroundings.Keeps assertion call)
    (guarded : ∀ call later, allowed call → assertion later → guard call later)
    (holds : assertion state) :
    surroundings.Ensures guard (fun value later => condition value ∧ assertion later) program
      state := by
  induction program generalizing state with
  | done value => exact ensures_done stable holds fun later still => ⟨always, still⟩
  | ask call next ih =>
      refine ensures_ask stable holds (fun later still => guarded call later always.1 still) ?_
      intro later reply after still answers
      exact ih reply (always.2 reply) (kept call always.1 later reply after answers still)

structure Withstands (surroundings : Surroundings interface)
    (guard : interface.Call → surroundings.State → Prop) (calls : interface.Call → Prop)
    (assertion : surroundings.State → Prop) : Prop where
  stable : surroundings.Stable assertion
  kept : ∀ call, calls call → surroundings.Keeps assertion call
  guarded : ∀ call state, calls call → assertion state → guard call state

theorem Withstands.mono {calls fewer : interface.Call → Prop}
    {assertion : surroundings.State → Prop}
    (withstands : Withstands surroundings guard calls assertion)
    (within : ∀ call, fewer call → calls call) : Withstands surroundings guard fewer assertion where
  stable := withstands.stable
  kept call among := withstands.kept call (within call among)
  guarded call state among := withstands.guarded call state (within call among)

theorem Withstands.ensures {calls allowed : interface.Call → Prop}
    {assertion : surroundings.State → Prop}
    (withstands : Withstands surroundings guard calls assertion)
    {condition : α → Prop} {program : Program interface α} {state : surroundings.State}
    (always : program.Always allowed condition) (within : ∀ call, allowed call → calls call)
    (holds : assertion state) :
    surroundings.Ensures guard (fun value later => condition value ∧ assertion later) program
      state :=
  ensures_always always withstands.stable
    (fun call allows => withstands.kept call (within call allows))
    (fun call later allows => withstands.guarded call later (within call allows)) holds

theorem Withstands.ensures_ask {calls : interface.Call → Prop}
    {assertion : surroundings.State → Prop}
    (withstands : Withstands surroundings guard calls assertion)
    (call : interface.Call) {next : interface.Reply call → Program interface α}
    {state : surroundings.State} (among : calls call) (holds : assertion state)
    (onward : ∀ reply later, assertion later → surroundings.Ensures guard post (next reply) later) :
    surroundings.Ensures guard post (.ask call next) state :=
  Surroundings.ensures_ask withstands.stable holds (withstands.guarded call · among)
    fun before reply after still answers =>
      onward reply after (withstands.kept call among before reply after answers still)

theorem Withstands.ensures_call {calls : interface.Call → Prop}
    {assertion : surroundings.State → Prop}
    (withstands : Withstands surroundings guard calls assertion) (call : interface.Call)
    {state : surroundings.State} (among : calls call) (holds : assertion state) :
    surroundings.Ensures guard (fun _ later => assertion later) (.ask call .done) state :=
  withstands.ensures_ask call among holds
    fun _ _ holds => Surroundings.ensures_done withstands.stable holds fun _ holds => holds

/-- Where every call that is guarded can be answered, a run can come to its end, and keep on the way
what every answer keeps. -/
theorem ends_keeping {program : Program interface α} {state : surroundings.State}
    (answerable : ∀ call state, guard call state →
      ∃ reply after, surroundings.Answers call state reply after)
    (ensured : surroundings.Ensures guard post program state)
    (assertion : surroundings.State → Prop)
    (kept : ∀ call, surroundings.Keeps assertion call) (holds : assertion state) :
    ∃ value last, surroundings.Leads (program, state) (.done value, last) ∧ assertion last := by
  induction program generalizing state with
  | done value => exact ⟨value, state, .refl, holds⟩
  | ask call next ih =>
      have still := ensured state .refl
      obtain ⟨reply, after, answers⟩ := answerable call state still.1
      obtain ⟨value, last, onward, keeps⟩ :=
        ih reply (still.2 reply after answers) (kept call state reply after answers holds)
      exact ⟨value, last, .head (.answer answers) onward, keeps⟩

theorem ends_of_ensures {program : Program interface α} {state : surroundings.State}
    (answerable : ∀ call state, guard call state →
      ∃ reply after, surroundings.Answers call state reply after)
    (ensured : surroundings.Ensures guard post program state) :
    ∃ value last, surroundings.Leads (program, state) (.done value, last) := by
  obtain ⟨value, last, leads, _⟩ := ends_keeping answerable ensured (fun _ => True)
    (fun _ _ _ _ _ holds => holds) trivial
  exact ⟨value, last, leads⟩

theorem leads_passes (program : Program interface α) {before after : surroundings.State}
    (passes : surroundings.Passes before after) :
    surroundings.Leads (program, before) (program, after) := by
  induction passes with
  | refl => exact .refl
  | tail _ moves ih => exact ih.tail (.move moves)

/-- Wherever a run may have come to, it stands where it may make its call, or at its end. -/
theorem holds_of_ensures {assertion : surroundings.State → Prop}
    {program rest : Program interface α} {state later : surroundings.State}
    (ensured : surroundings.Ensures (fun _ => assertion) (fun _ => assertion) program state)
    (leads : surroundings.Leads (program, state) (rest, later)) : assertion later := by
  have still := ensures_leads leads ensured
  cases rest with
  | done value => exact still.ended
  | ask call next => exact still.guarded

/-- What holds at the start and is kept by every step, holds all along. -/
theorem invariant_leads (invariant : Program interface α → surroundings.State → Prop)
    (moving : ∀ program before after, surroundings.Moves before after →
      invariant program before → invariant program after)
    (answering : ∀ call next before reply after, surroundings.Answers call before reply after →
      invariant (.ask call next) before → invariant (next reply) after)
    {program rest : Program interface α} {state later : surroundings.State}
    (holds : invariant program state)
    (leads : surroundings.Leads (program, state) (rest, later)) : invariant rest later := by
  have all (after : Program interface α × surroundings.State)
      (leads : surroundings.Leads (program, state) after) : invariant after.1 after.2 := by
    induction leads with
    | refl => exact holds
    | tail _ step ih =>
        cases step with
        | move moves => exact moving _ _ _ moves ih
        | answer answers => exact answering _ _ _ _ _ answers ih
  exact all _ leads

/-- What holds at the start and is kept by every call that the guard admits, holds all along. -/
theorem kept_of_leads (invariant : surroundings.State → Prop) {program rest : Program interface α}
    {state later : surroundings.State} (ensured : surroundings.Ensures guard post program state)
    (stable : surroundings.Stable invariant)
    (kept : ∀ call before reply after, guard call before → invariant before →
      surroundings.Answers call before reply after → invariant after)
    (holds : invariant state) (leads : surroundings.Leads (program, state) (rest, later)) :
    invariant later := by
  refine (invariant_leads (fun rest later =>
    surroundings.Ensures guard post rest later ∧ invariant later) ?_ ?_ ⟨ensured, holds⟩ leads).2
  · rintro rest before after moves ⟨ensured, holds⟩
    exact ⟨ensures_passes ensured (.single moves), stable before after moves holds⟩
  · rintro call next before reply after answers ⟨ensured, holds⟩
    have still := ensured before .refl
    exact ⟨still.2 reply after answers, kept call before reply after still.1 holds answers⟩

theorem ensures_self (program : Program interface α) (state : surroundings.State) :
    surroundings.Ensures (fun _ _ => True)
      (fun value later => surroundings.Leads (program, state) (.done value, later)) program
      state := by
  induction program generalizing state with
  | done value => exact fun later passes => leads_passes _ passes
  | ask call next ih =>
      intro later passes
      refine ⟨trivial, fun reply after answers => ?_⟩
      refine ensures_mono (ih reply after) fun value last leads => ?_
      exact (leads_passes _ passes).trans (.head (.answer answers) leads)

/-- A run against something that answers as the surroundings may is one that can happen in them. -/
theorem leads_run {σ : Type} (view : σ → surroundings.State)
    (answer : (call : interface.Call) → σ → interface.Reply call × σ)
    (faithful : ∀ call state, ∃ later,
      surroundings.Answers call (view state) (answer call state).1 later ∧
        surroundings.Passes later (view (answer call state).2))
    (program : Program interface α) (state : σ) :
    surroundings.Leads (program, view state)
      (.done (program.run answer state).1, view (program.run answer state).2) := by
  induction program generalizing state with
  | done value => exact .refl
  | ask call next ih =>
      obtain ⟨later, answers, passes⟩ := faithful call state
      exact .head (.answer answers) ((leads_passes _ passes).trans (ih _ _))

/-- A run as far as something answers that answers as the surroundings may. -/
theorem leads_advance (surroundings : Surroundings interface) {σ : Type}
    (view : σ → surroundings.State)
    (answer : (call : interface.Call) → σ → Option (interface.Reply call × σ))
    (faithful : ∀ call state reply after, answer call state = some (reply, after) →
      surroundings.Answers call (view state) reply (view after))
    (program : Program interface α) (state : σ) :
    surroundings.Leads (program, view state)
      ((program.advance answer state).1, view (program.advance answer state).2) := by
  induction program generalizing state with
  | done value => exact .refl
  | ask call next ih =>
      rw [Program.advance]
      split
      · exact .refl
      · rename_i reply after answered
        exact .head (.answer (faithful call state reply after answered)) (ih reply after)

/-- Nothing but moves is left of a run that has ended. -/
theorem passes_of_leads {value : α} {rest : Program interface α}
    {before last : surroundings.State}
    (leads : surroundings.Leads (.done value, before) (rest, last)) :
    rest = .done value ∧ surroundings.Passes before last := by
  have all (after : Program interface α × surroundings.State)
      (leads : surroundings.Leads (.done value, before) after) :
      after.1 = .done value ∧ surroundings.Passes before after.2 := by
    induction leads with
    | refl => exact ⟨rfl, .refl⟩
    | tail _ step ih =>
        cases step with
        | move moves => exact ⟨ih.1, ih.2.tail moves⟩
        | answer answers => exact absurd ih.1 nofun
  exact all _ leads

/-- A run that comes to its end has its first call answered, after some moves. -/
theorem answers_of_leads {call : interface.Call}
    {next : interface.Reply call → Program interface α} {value : α}
    {before last : surroundings.State}
    (leads : surroundings.Leads (.ask call next, before) (.done value, last)) :
    ∃ later reply after, surroundings.Passes before later ∧
      surroundings.Answers call later reply after ∧
      surroundings.Leads (next reply, after) (.done value, last) := by
  generalize begun : (Program.ask call next, before) = start at leads
  induction leads using Relation.ReflTransGen.head_induction_on generalizing before with
  | refl => cases begun
  | head step leads ih =>
      subst begun
      cases step with
      | move moves =>
          obtain ⟨later, reply, after, passes, onward⟩ := ih rfl
          exact ⟨later, reply, after, .head moves passes, onward⟩
      | answer answers => exact ⟨before, _, _, .refl, answers, leads⟩

section Still

def Still (surroundings : Surroundings interface) : Prop :=
  ∀ before after, ¬ surroundings.Moves before after

variable (still : surroundings.Still)
include still

theorem Still.stays {before after : surroundings.State}
    (passes : surroundings.Passes before after) : after = before := by
  induction passes with
  | refl => rfl
  | tail _ moves _ => exact (still _ _ moves).elim

theorem Still.ensures_done {value : α} {state : surroundings.State} (holds : post value state) :
    surroundings.Ensures guard post (.done value) state := by
  intro later passes
  rw [still.stays passes]
  exact holds

theorem Still.ensures_ask {call : interface.Call}
    {next : interface.Reply call → Program interface α} {state : surroundings.State}
    (guarded : guard call state)
    (onward : ∀ reply after, surroundings.Answers call state reply after →
      surroundings.Ensures guard post (next reply) after) :
    surroundings.Ensures guard post (.ask call next) state := by
  intro later passes
  rw [still.stays passes]
  exact ⟨guarded, onward⟩

end Still

end Surroundings

end DualBank
