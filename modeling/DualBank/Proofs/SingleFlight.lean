import DualBank.Proofs.Demands
import DualBank.Proofs.Trial

/-! One installation at a time: the slot is taken from the moment an installation is let in until it
has finished, and so long nothing else reaches the settings, the bootloader or a download. -/

namespace DualBank

open Program Agent.Call

namespace Slot

variable {slot : Slot}

theorem apply_start_of_taken (taken : slot ≠ .idle) : slot.apply .start = (false, slot) := by
  cases slot <;> first | rfl | contradiction

theorem apply_isBusy_of_taken (taken : slot ≠ .idle) : slot.apply .isBusy = (true, slot) := by
  cases slot <;> first | rfl | contradiction

theorem apply_cancel_of_taken (taken : slot ≠ .idle) : (slot.apply .cancel).2 ≠ .idle := by
  cases slot <;> first | decide | contradiction

end Slot

section Invariant

open Process

def Session.Spent (session : Session) : Prop :=
  ∀ call next, session.thread ≠ some (.running (.ask call next))

def Client.Faithful (policy : Policy) (client : Client) : Prop :=
  client.demand.Looks → match client.met with
    | none => client.rest = client.demand.program policy
    | some existing => existing ≠ [] →
        client.rest.Always client.demand.Refuses (· = client.demand.refusal)

namespace Process

structure Free (process : Process) : Prop where
  existing : process.existing = []
  slot : process.session.slot = .idle
  spent : process.session.Spent
  client : ∀ client, process.client = some client →
    client.rest.Outside ∨ client.rest.Always Apart fun _ => True

structure Taken (process : Process) : Prop where
  existing : process.existing = [process.latest]
  admitted : 0 < process.admitted
  slot : process.session.slot ≠ .idle

structure Opening (process : Process) : Prop extends process.Taken where
  spent : process.session.Spent
  client : ∃ client, process.client = some client ∧
    (client.rest.Admitting ∨ client.rest.Closes Tells fun _ => False)

structure Busy (process : Process) : Prop extends process.Taken where
  work : process.session.Spent ∨ process.launched = process.latest ∧
    ∃ rest, process.session.thread = some (.running rest) ∧
      rest.Closes Works (· = some .rebooting)
  client : ∀ client, process.client = some client →
    client.rest.Always Tells (fun _ => True) ∨ client.met = none ∧ client.rest.Outside

structure Orderly (policy : Policy) (process : Process) : Prop where
  strays : process.strays = []
  mode : process.Free ∨ process.Opening ∨ process.Busy
  faithful : ∀ client, process.client = some client → client.Faithful policy

end Process

section Steps

variable {process : Process} {call : Agent.Call} {reply : Agent.Reply call} {session : Session}

theorem tally_apart (apart : call.Apart) (number : Nat) :
    process.tally number call reply = process := by
  unfold Apart at apart
  split at apart <;> first | rfl | contradiction

theorem answers_apart (apart : call.Apart) (answers : process.session.Answers call reply session) :
    session.slot = process.session.slot ∧ session.thread = process.session.thread := by
  cases answers with
  | device call reply => exact ⟨rfl, rfl⟩
  | shared call =>
      cases call with
      | notify notification => exact ⟨rfl, rfl⟩
      | _ => contradiction
  | nothing free => contradiction
  | ended settled => contradiction

theorem spent_of_thread {before after : Session} (same : after.thread = before.thread)
    (spent : before.Spent) : after.Spent := by
  intro call next
  rw [same]
  exact spent call next

theorem spent_of_none {session : Session} (none : session.thread = none) : session.Spent := by
  intro call next impossible
  exact absurd (none.symm.trans impossible) (by simp)

theorem answers_join {left : Joined} (answers : process.session.Answers .join left session) :
    process.session.Spent ∧ session.slot = process.session.slot ∧ session.Spent := by
  cases answers with
  | nothing none => exact ⟨spent_of_none none, rfl, spent_of_none none⟩
  | ended settled =>
      refine ⟨fun call next impossible => ?_, rfl, spent_of_none rfl⟩
      exact absurd (settled.symm.trans impossible) (by simp)

variable {client : Client}

theorem free_apart (free : process.Free) (apart : call.Apart)
    (answers : process.session.Answers call reply session)
    (onward : client.rest.Outside ∨ client.rest.Always Apart fun _ => True) :
    ((process.tally process.latest call reply).resume session client).Free := by
  obtain ⟨slot, thread⟩ := answers_apart apart answers
  rw [tally_apart apart]
  refine ⟨free.existing, slot.trans free.slot, spent_of_thread thread free.spent, ?_⟩
  rintro _ ⟨rfl⟩
  exact onward

theorem free_client {next : Agent.Reply call → Agent Answer} (free : process.Free)
    (answers : process.session.Answers call reply session)
    (rest : Agent.Outside (.ask call next) ∨
      (ask call next : Agent Answer).Always Apart fun _ => True)
    (same : client.rest = next reply) :
    ((process.tally process.latest call reply).resume session client).Free ∨
      ((process.tally process.latest call reply).resume session client).Opening := by
  rcases rest with outside | apart
  · cases outside with
    | tells tells =>
        exact .inl (free_apart free (apart_of_tells tells.1) answers
          (.inl (same ▸ .tells (tells.2 reply))))
    | start refused admitted =>
        cases answers
        have admits : (process.session.slot.apply .start).1 = true := by rw [free.slot]; rfl
        simp only [Session.share, admits] at same ⊢
        refine .inr ⟨⟨?_, Nat.succ_pos _, ?_⟩, free.spent, client, rfl, .inl (same ▸ admitted)⟩
        · simp [tally, resume, latest, free.existing]
        · simp [tally, resume, free.slot, Slot.apply]
    | cancel tells =>
        cases answers
        have idle : (process.session.slot.apply .cancel).2 = .idle := by rw [free.slot]; rfl
        refine .inl ⟨free.existing, idle, free.spent, ?_⟩
        rintro _ ⟨rfl⟩
        exact .inl (same ▸ .tells (tells _))
    | busy refused admitted =>
        cases answers
        have freed : (process.session.slot.apply .isBusy).1 = false := by rw [free.slot]; rfl
        refine .inl ⟨free.existing, free.slot, free.spent, ?_⟩
        rintro _ ⟨rfl⟩
        refine .inr (same ▸ ?_)
        simp only [Session.share, freed]
        exact admitted
    | join tells =>
        obtain ⟨_, slot, spent⟩ := answers_join answers
        refine .inl ⟨free.existing, slot.trans free.slot, spent, ?_⟩
        rintro _ ⟨rfl⟩
        exact .inl (same ▸ .tells (tells _))
  · exact .inl (free_apart free apart.1 answers (.inr (same ▸ apart.2 reply)))

theorem busy_resume {after : Session} (busy : process.Busy) (slot : after.slot ≠ .idle)
    (thread : after.thread = process.session.thread)
    (onward : client.rest.Always Tells fun _ => True) : (process.resume after client).Busy := by
  refine ⟨⟨busy.existing, busy.admitted, slot⟩, ?_, ?_⟩
  · refine busy.work.imp (spent_of_thread thread) ?_
    rintro ⟨launched, rest, running, closes⟩
    exact ⟨launched, rest, thread.trans running, closes⟩
  · rintro _ ⟨rfl⟩
    exact .inl onward

theorem busy_client {next : Agent.Reply call → Agent Answer} (busy : process.Busy)
    (answers : process.session.Answers call reply session)
    (outside : Agent.Outside (.ask call next)) (same : client.rest = next reply) :
    ((process.tally process.latest call reply).resume session client).Busy := by
  cases outside with
  | tells tells =>
      obtain ⟨slot, thread⟩ := answers_apart (apart_of_tells tells.1) answers
      rw [tally_apart (apart_of_tells tells.1)]
      exact busy_resume busy (slot ▸ busy.slot) thread (same ▸ tells.2 reply)
  | start refused admitted =>
      cases answers
      have refuses := Slot.apply_start_of_taken busy.slot
      simp only [Session.share, refuses] at same ⊢
      exact busy_resume busy busy.slot rfl (same ▸ refused)
  | cancel tells =>
      cases answers
      exact busy_resume busy (Slot.apply_cancel_of_taken busy.slot) rfl (same ▸ tells _)
  | busy refused admitted =>
      cases answers
      have refuses := Slot.apply_isBusy_of_taken busy.slot
      simp only [Session.share, refuses] at same ⊢
      exact busy_resume busy busy.slot rfl (same ▸ refused)
  | join tells =>
      obtain ⟨_, slot, spent⟩ := answers_join answers
      refine ⟨⟨busy.existing, busy.admitted, fun idle => busy.slot (slot.symm.trans idle)⟩,
        .inl spent, ?_⟩
      rintro _ ⟨rfl⟩
      exact .inl (same ▸ tells _)

theorem opening_client {next : Agent.Reply call → Agent Answer} (opening : process.Opening)
    (answers : process.session.Answers call reply session)
    (rest : Agent.Admitting (.ask call next) ∨
      (ask call next : Agent Answer).Closes Tells fun _ => False)
    (same : client.rest = next reply) :
    ((process.tally process.latest call reply).resume session client).Opening ∨
      ((process.tally process.latest call reply).resume session client).Busy ∨
      ((process.tally process.latest call reply).resume session client).Free := by
  have kept {after : Session} (slot : after.slot = process.session.slot) (spent : after.Spent)
      (onward : client.rest.Admitting ∨ client.rest.Closes Tells fun _ => False) :
      (process.resume after client).Opening :=
    ⟨⟨opening.existing, opening.admitted, fun idle => opening.slot (slot.symm.trans idle)⟩, spent,
      client, rfl, onward⟩
  rcases rest with admitting | ⟨rfl, ends⟩ | ⟨tells, onward⟩
  · cases admitting with
    | join onward =>
        obtain ⟨_, slot, spent⟩ := answers_join answers
        exact .inl (kept slot spent (.inl (same ▸ onward reply)))
    | start launched failed =>
        cases answers
        refine .inl (kept rfl opening.spent ?_)
        cases reply with
        | ok value => exact .inl (same ▸ launched value)
        | error error => exact .inr (same ▸ failed error)
    | launch tells =>
        cases answers
        refine .inr (.inl ⟨⟨opening.existing, opening.admitted, opening.slot⟩, ?_, ?_⟩)
        · exact .inr ⟨rfl, _, rfl, installation_closes _ _⟩
        · rintro _ ⟨rfl⟩
          exact .inl (same ▸ tells)
  · cases answers
    refine .inr (.inr ⟨?_, rfl, opening.spent, ?_⟩)
    · simp [tally, resume, opening.existing]
    · rintro _ ⟨rfl⟩
      obtain ⟨value, done⟩ := ends (process.session.share (.slot .finish)).1
      refine .inl (same ▸ ?_)
      rw [done]
      exact .tells trivial
  · obtain ⟨slot, thread⟩ := answers_apart (apart_of_tells tells) answers
    rw [tally_apart (apart_of_tells tells)]
    exact .inl (kept slot (spent_of_thread thread opening.spent) (.inr (same ▸ onward reply)))

theorem strays_tally (number : Nat)
    (harmless : process.session.Spent ∨ ∀ policy request, call ≠ .shared (.launch policy request)) :
    (process.tally number call reply).strays = process.strays := by
  unfold tally
  split
  · rfl
  · rfl
  · have none : process.lost = [] := by
      unfold lost
      split
      · rename_i running
        rcases harmless with spent | unlaunched
        · exact absurd running (spent _ _)
        · exact absurd rfl (unlaunched _ _)
      · rfl
    simp [none]
  · rfl

theorem client_tally (number : Nat) :
    (process.tally number call reply).client = process.client := by
  unfold tally
  split <;> rfl

theorem unlaunched_of_outside {next : Agent.Reply call → Agent Answer}
    (outside : Agent.Outside (.ask call next)) (policy : Policy) (request : Request) :
    call ≠ .shared (.launch policy request) := by
  rintro rfl
  cases outside with
  | tells tells => exact tells.1

theorem faithful_client {policy : Policy} {demand : Demand} {met : Option (List Nat)}
    {next : Agent.Reply call → Agent Answer}
    (taken : process.existing ≠ [] → process.session.slot ≠ .idle)
    (faithful : Client.Faithful policy ⟨demand, .ask call next, met⟩)
    (answers : process.session.Answers call reply session) :
    Client.Faithful policy ⟨demand, next reply, process.look met call⟩ := by
  intro looks
  have kept := faithful looks
  cases met with
  | some existing =>
      have seen : process.look (some existing) call = some existing := by
        unfold look
        split <;> rfl
      simp only [seen]
      exact fun others => (kept others).2 reply
  | none =>
      obtain ⟨operation, first, asks, refused⟩ := looks_first policy looks
      obtain ⟨rfl, same⟩ := (ask.injEq ..).mp (kept.trans asks)
      cases same
      cases answers
      exact fun others => refused process.session.slot (taken others)

theorem orderly_opening (policy : Policy) : Process.opening.Orderly policy where
  strays := rfl
  mode := .inl ⟨rfl, rfl, spent_of_none rfl, (by rintro _ ⟨⟩)⟩
  faithful := (by rintro _ ⟨⟩)

theorem Process.Free.withClient (free : process.Free) {client : Option Client}
    (onward : ∀ demanding, client = some demanding →
      demanding.rest.Outside ∨ demanding.rest.Always Apart fun _ => True) :
    { process with client := client }.Free :=
  ⟨free.existing, free.slot, free.spent, onward⟩

theorem Process.Busy.withClient (busy : process.Busy) {client : Option Client}
    (onward : ∀ demanding, client = some demanding →
      demanding.rest.Always Tells (fun _ => True) ∨
        demanding.met = none ∧ demanding.rest.Outside) :
    { process with client := client }.Busy :=
  ⟨⟨busy.existing, busy.admitted, busy.slot⟩, busy.work, onward⟩

theorem Process.Free.withThread (free : process.Free) {session : Session} {thread : Option Thread}
    (slot : session.slot = process.session.slot)
    (spent : ∀ call next, thread ≠ some (.running (.ask call next))) :
    { process with session := { session with thread := thread } }.Free :=
  ⟨free.existing, slot.trans free.slot, spent, free.client⟩

theorem Process.Opening.withThread (opening : process.Opening) {session : Session}
    {thread : Option Thread} (slot : session.slot = process.session.slot)
    (spent : ∀ call next, thread ≠ some (.running (.ask call next))) :
    { process with session := { session with thread := thread } }.Opening :=
  ⟨⟨opening.existing, opening.admitted, fun idle => opening.slot (slot.symm.trans idle)⟩, spent,
    opening.client⟩

theorem Process.Busy.withThread (busy : process.Busy) {session : Session} {thread : Option Thread}
    (slot : session.slot = process.session.slot)
    (work : (∀ call next, thread ≠ some (.running (.ask call next))) ∨
      process.launched = process.latest ∧ ∃ rest, thread = some (.running rest) ∧
        rest.Closes Works (· = some .rebooting)) :
    { process with session := { session with thread := thread } }.Busy :=
  ⟨⟨busy.existing, busy.admitted, fun idle => busy.slot (slot.symm.trans idle)⟩, work,
    busy.client⟩

theorem Process.Busy.outside (busy : process.Busy) (demanding : process.client = some client) :
    client.rest.Outside := by
  rcases busy.client client demanding with tells | ⟨_, outside⟩
  · exact .tells tells
  · exact outside

/-- What an installation does before it finishes leaves the slot taken, and then the slot is free
and nothing is left to do. -/
theorem busy_thread {next : Agent.Reply call → Agent (Option Outcome)} (busy : process.Busy)
    (running : process.session.thread = some (.running (.ask call next)))
    (answers : process.session.Answers call reply session) :
    (process.tally process.launched call reply).strays = process.strays ∧
      ({ process.tally process.launched call reply with
          session := { session with thread := some (.running (next reply)) } }.Free ∨
        { process.tally process.launched call reply with
          session := { session with thread := some (.running (next reply)) } }.Busy) := by
  rcases busy.work with spent | ⟨launched, rest, same, closes⟩
  · exact absurd running (spent _ _)
  · obtain rfl : rest = .ask call next := by simpa [same] using running
    have works (slot : session.slot = process.session.slot)
        (onward : (next reply).Closes Works (· = some .rebooting)) :
        { process with
          session := { session with thread := some (.running (next reply)) } }.Busy :=
      busy.withThread slot (.inr ⟨launched, _, rfl, onward⟩)
    -- The call that gives the slot back is the last, so the thread is spent when it is answered.
    rcases closes with ⟨rfl, ends⟩ | ⟨apart | rfl, onward⟩
    · cases answers
      refine ⟨rfl, .inl ⟨?_, rfl, fun call next impossible => ?_, fun client demanding => ?_⟩⟩
      · simp [tally, busy.existing, launched]
      · obtain ⟨value, done⟩ := ends (process.session.share (.slot .finish)).1
        simp [done] at impossible
      · exact .inl (busy.outside demanding)
    · rw [tally_apart apart]
      exact ⟨rfl, .inr (works (answers_apart apart answers).1 (onward reply))⟩
    · cases answers
      exact ⟨rfl, .inr (works rfl (onward _))⟩

theorem orderly_step {policy : Policy} {before after : Process} (step : Step policy before after)
    (orderly : before.Orderly policy) : after.Orderly policy := by
  obtain ⟨strays, mode, faithful⟩ := orderly
  -- Each step meets the three modes in turn; the thread can only step in the last of them.
  cases step with
  | demand demand none =>
      refine ⟨strays, ?_, ?_⟩
      · rcases mode with free | opening | busy
        · refine .inl (free.withClient ?_)
          rintro _ ⟨rfl⟩
          exact .inl (demand_outside policy demand)
        · obtain ⟨client, demanding, _⟩ := opening.client
          exact absurd (none.symm.trans demanding) (by simp)
        · refine .inr (.inr (busy.withClient ?_))
          rintro _ ⟨rfl⟩
          exact .inr ⟨rfl, demand_outside policy demand⟩
      · rintro _ ⟨rfl⟩
        exact fun _ => rfl
  | answer demanding =>
      refine ⟨strays, ?_, by simp⟩
      rcases mode with free | opening | busy
      · exact .inl (free.withClient (by simp))
      · obtain ⟨client, same, rest⟩ := opening.client
        obtain rfl := Option.some.inj (demanding.symm.trans same)
        rcases rest with admitting | closes
        · cases admitting
        · exact closes.elim
      · exact .inr (.inr (busy.withClient (by simp)))
  | client demanding answers =>
      rename_i demand call next met reply session
      refine ⟨?_, ?_, ?_⟩
      · refine (strays_tally _ ?_).trans strays
        rcases mode with free | opening | busy
        · exact .inl free.spent
        · exact .inl opening.spent
        · exact .inr (unlaunched_of_outside (busy.outside demanding))
      · rcases mode with free | opening | busy
        · exact (free_client free answers (free.client _ demanding) rfl).imp_right .inl
        · obtain ⟨client, same, rest⟩ := opening.client
          obtain rfl := Option.some.inj (demanding.symm.trans same)
          have same : Client.rest ⟨demand, next reply, before.look met call⟩ = next reply := rfl
          rcases opening_client opening answers rest same with opening | busy | free
          · exact .inr (.inl opening)
          · exact .inr (.inr busy)
          · exact .inl free
        · exact .inr (.inr (busy_client busy answers (busy.outside demanding) rfl))
      · rintro _ ⟨rfl⟩
        refine faithful_client (fun others => ?_) (faithful _ demanding) answers
        rcases mode with free | opening | busy
        · exact absurd free.existing others
        · exact opening.slot
        · exact busy.slot
  | clientPanic demanding =>
      refine ⟨strays, ?_, by simp⟩
      rcases mode with free | opening | busy
      · exact .inl (free.withClient (by simp))
      · exact .inr (.inr ⟨⟨opening.existing, opening.admitted, opening.slot⟩, .inl opening.spent,
          (by simp)⟩)
      · exact .inr (.inr (busy.withClient (by simp)))
  | thread running answers =>
      rcases mode with free | opening | busy
      · exact absurd running (free.spent _ _)
      · exact absurd running (opening.spent _ _)
      · obtain ⟨same, modes⟩ := busy_thread busy running answers
        refine ⟨same.trans strays, modes.imp_right .inr, fun client demanding => ?_⟩
        exact faithful client ((client_tally _).symm.trans demanding)
  | threadEnd running =>
      refine ⟨strays, ?_, faithful⟩
      rcases mode with free | opening | busy
      · exact .inl (free.withThread rfl (by simp))
      · exact .inr (.inl (opening.withThread rfl (by simp)))
      · exact .inr (.inr (busy.withThread rfl (.inl (by simp))))
  | threadPanic running =>
      refine ⟨strays, ?_, faithful⟩
      rcases mode with free | opening | busy
      · exact absurd running (free.spent _ _)
      · exact absurd running (opening.spent _ _)
      · rcases busy.work with spent | ⟨launched, _⟩
        · exact absurd running (spent _ _)
        · exact .inr (.inr (busy.withThread rfl (.inr ⟨launched, _, rfl, panicked_closes⟩)))
  | stray found answers =>
      rw [strays] at found
      simp at found

end Steps

end Invariant

def Agent.Call.Touches : Agent.Call → Prop
  | .device (.publish _) | .device .now | .device (.sleep _) | .device (.log _) => False
  | .device (.startThread _) | .device .restart => False
  | .device _ => True
  | _ => False

namespace Process

inductive Calls (process : Process) : Option Nat → Agent.Call → Prop
  | client {demand call next met} : process.client = some ⟨demand, .ask call next, met⟩ →
      Calls process none call
  | thread {call next} : process.session.thread = some (.running (.ask call next)) →
      Calls process (some process.launched) call
  | stray {number call next} : (number, .ask call next) ∈ process.strays →
      Calls process (some number) call

/-- There is one installation at most, the latest; all calls of threads are its own, and so is what
touches the settings, the bootloader or a download while there is one. Who finds it there is
refused, and whoever lets in the next one waits for a thread that has nothing left to do. -/
structure SingleFlight (process : Process) : Prop where
  existing : process.existing = [] ∨ process.existing = [process.latest]
  threads : ∀ number call, process.Calls (some number) call → number ∈ process.existing
  client : ∀ call, process.Calls none call → call.Touches → process.existing = []
  refused : ∀ demand answer met, process.client = some ⟨demand, .done answer, met⟩ →
    demand.Looks → ∃ existing, met = some existing ∧ (existing ≠ [] → answer = demand.refusal)
  recovery : ∀ call next existing,
    process.client = some ⟨.recover, .ask call next, some existing⟩ → existing ≠ [] → call.Logs
  joined : ∀ demand next met, process.client = some ⟨demand, .ask .join next, met⟩ →
    demand.Looks → process.session.Spent

end Process

theorem not_touches_of_tells {call : Agent.Call} (tells : call.Tells) : ¬ call.Touches := by
  unfold Tells at tells
  split at tells <;> first | exact fun impossible => impossible | contradiction

theorem taken_untouched {call : Agent.Call} {next : Agent.Reply call → Agent Answer}
    (outside : Agent.Outside (.ask call next)) : ¬ call.Touches := by
  cases outside with
  | tells tells => exact not_touches_of_tells tells.1
  | _ => exact fun impossible => impossible

theorem singleFlight_of_orderly {policy : Policy} {process : Process}
    (orderly : process.Orderly policy) : process.SingleFlight where
  existing := by
    rcases orderly.mode with free | opening | busy
    · exact .inl free.existing
    · exact .inr opening.existing
    · exact .inr busy.existing
  threads number call calls := by
    cases calls with
    | thread running =>
        rcases orderly.mode with free | opening | busy
        · exact absurd running (free.spent _ _)
        · exact absurd running (opening.spent _ _)
        · rcases busy.work with spent | ⟨launched, _⟩
          · exact absurd running (spent _ _)
          · simp [busy.existing, launched]
    | stray found => simp [orderly.strays] at found
  client call calls touches := by
    cases calls with
    | client demanding =>
        rcases orderly.mode with free | opening | busy
        · exact free.existing
        · obtain ⟨client, same, rest⟩ := opening.client
          obtain rfl := Option.some.inj (demanding.symm.trans same)
          rcases rest with admitting | ⟨rfl, _⟩ | ⟨tells, _⟩
          · cases admitting <;> contradiction
          · contradiction
          · exact absurd touches (not_touches_of_tells tells)
        · exact absurd touches (taken_untouched (busy.outside demanding))
  refused demand answer met demanding looks := by
    have faithful := orderly.faithful _ demanding looks
    cases met with
    | none =>
        obtain ⟨operation, next, asks, _⟩ := looks_first policy looks
        exact absurd (faithful.trans asks) (by simp)
    | some existing => exact ⟨existing, rfl, faithful⟩
  recovery call next existing demanding others :=
    (orderly.faithful _ demanding (.inl rfl) others).1
  joined demand next met demanding looks := by
    rcases orderly.mode with free | opening | busy
    · exact free.spent
    · exact opening.spent
    · rcases busy.client _ demanding with tells | ⟨rfl, _⟩
      · exact tells.1.elim
      · obtain ⟨operation, first, asks, _⟩ := looks_first policy looks
        exact absurd ((orderly.faithful _ demanding looks).trans asks) (by simp)

theorem gone_tally {process : Process} {number : Nat}
    (gone : number < process.admitted ∧ number ∉ process.existing) (behalf : Nat)
    (call : Agent.Call) (reply : Agent.Reply call) :
    number < (process.tally behalf call reply).admitted ∧
      number ∉ (process.tally behalf call reply).existing := by
  unfold Process.tally
  split
  · refine ⟨Nat.lt_succ_of_lt gone.1, fun again => ?_⟩
    rcases List.mem_append.1 again with before | new
    · exact gone.2 before
    · exact absurd (List.mem_singleton.1 new) (Nat.ne_of_lt gone.1)
  · exact ⟨gone.1, fun again => gone.2 (List.mem_of_mem_erase again)⟩
  · exact gone
  · exact gone

theorem gone_step {policy : Policy} {number : Nat} {before after : Process}
    (step : Process.Step policy before after)
    (gone : number < before.admitted ∧ number ∉ before.existing) :
    number < after.admitted ∧ number ∉ after.existing := by
  cases step with
  | client _ _ => exact gone_tally gone _ _ _
  | thread _ _ => exact gone_tally gone _ _ _
  | stray _ _ => exact gone_tally gone _ _ _
  | _ => exact gone

theorem orderly_of_reachable {policy : Policy} {process : Process}
    (reachable : process.Reachable policy) : process.Orderly policy := by
  induction reachable with
  | refl => exact orderly_opening policy
  | tail _ step ih => exact orderly_step step ih

/-- Single flight, in every state of a process; and an installation that has finished calls nobody
from then on. -/
theorem single_flight (policy : Policy) {before after : Process}
    (reachable : before.Reachable policy)
    (onward : Relation.ReflTransGen (Process.Step policy) before after) :
    after.SingleFlight ∧
      ∀ number, number < before.admitted → number ∉ before.existing →
        number ∉ after.existing ∧ ∀ call, ¬ after.Calls (some number) call := by
  have flight := singleFlight_of_orderly (orderly_of_reachable (reachable.trans onward))
  refine ⟨flight, fun number admitted finished => ?_⟩
  have gone : number < after.admitted ∧ number ∉ after.existing := by
    induction onward with
    | refl => exact ⟨admitted, finished⟩
    | tail earlier step ih =>
        exact gone_step step (ih (singleFlight_of_orderly
          (orderly_of_reachable (reachable.trans earlier))))
  exact ⟨gone.2, fun call calls => gone.2 (flight.threads number call calls)⟩

theorem single_flight_admitted :
    ∃ process : Process, process.existing = [0] ∧ process.SingleFlight := by
  have demanded : Process.Reachable .standard _ :=
    .single (.demand (.submit .sample) rfl)
  have started : Process.Reachable .standard _ :=
    demanded.tail (.client rfl (.shared (.slot .start)))
  refine ⟨_, ?_, (single_flight .standard started .refl).1⟩
  rfl

end DualBank
