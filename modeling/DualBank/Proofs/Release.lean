import DualBank.Proofs.Tending

/-! The slot is given back: whatever is refused and wherever an installation panics, its thread ends
with a free slot, and with an idle record if the settings allow it, unless the device is restarting.
Then the slot stays taken and the record stays as it is. -/

namespace DualBank

open Program Surroundings Scene Agent.Call

def Session.Returned (outcome : Option Outcome) (session : Session) : Prop :=
  session.thread = some (.running (.done outcome)) ∨ session.thread = some (.ended outcome)

-- A valid submission is let in, and goes on to launch its installation.
def Slot.Admits (policy : Policy) (request : Request) (slot : Slot) : Prop :=
  ∃ next, (Demand.submit request).program policy = .ask (.shared (.slot .start)) next ∧
    (slot.apply .start).1 = true ∧ Agent.Admitting (next true)

namespace Station

def Demanding (policy : Policy) (station : Station) : Prop :=
  station.process.client = some ⟨.wait, Demand.wait.program policy, none⟩

def Meets (policy : Policy) : Station → Station → Prop :=
  Relation.ReflTransGen fun before after =>
    Step policy before after ∧ after.process.client ≠ none

/-- A client that waits comes to its answer, and that can only be this outcome. -/
structure Awaits (policy : Policy) (outcome : Option Outcome) (station : Station) : Prop where
  answered : ∃ last met, Meets policy station last ∧
    last.process.client = some ⟨.wait, .done (.outcome outcome), met⟩
  only : ∀ last demand answer met, Meets policy station last →
    last.process.client = some ⟨demand, .done answer, met⟩ →
      demand = .wait ∧ answer = .outcome outcome

/-- What is found later of an installation that had this outcome and did not restart the device.
The outcome is there for whoever waits next, or was handed to a client that waited before. -/
structure Released (policy : Policy) (outcome : Option Outcome) (station later : Station) :
    Prop where
  slot : later.process.session.slot = .idle
  admits : ∀ request : Request, request.check = .ok () →
    later.process.session.slot.Admits policy request
  record : later.history.any Happening.isRefusal = false →
    later.settings.record = ⟨.idle, none⟩
  waits : (∀ asked, asked = later ∨ Step policy later asked → asked.Demanding policy →
      asked.Awaits policy outcome) ∧ later.process.session.Returned outcome ∨
    ∃ asked given, Leads policy station asked ∧ Step policy asked given ∧
      Leads policy given later ∧ asked.process.session.Returned outcome ∧
      given.Awaits policy outcome

end Station

namespace Station

variable {policy : Policy} {station before after : Station}

theorem retired_of_returned (sound : station.Sound policy)
    (returned : station.process.session.Returned (some .rebooting)) : station.Retired := by
  have tended := sound.tended
  unfold Tended at tended
  rcases returned with running | ended
  · rw [running] at tended
    rcases tended with working | ⟨_, ⟨⟩, other, _⟩
    · have parted := working.ends.ended
      rw [Parted, if_pos rfl] at parted
      refine ⟨working.busy, ?_, parted⟩
      intro call next impossible
      cases running.symm.trans impossible
    · exact absurd rfl other
  · rw [ended] at tended
    rcases tended with ⟨other, _⟩ | ⟨_, retired⟩
    · exact absurd rfl other
    · exact retired

theorem over_of_returned {outcome : Option Outcome} (sound : station.Sound policy)
    (returned : station.process.session.Returned outcome) (other : outcome ≠ some .rebooting) :
    station.Over station.process.launched := by
  have tended := sound.tended
  unfold Tended at tended
  rcases returned with running | ended
  · rw [running] at tended
    rcases tended with working | ⟨_, ⟨⟩, _, past⟩
    · have parted := working.ends.ended
      rw [Parted, if_neg other] at parted
      exact absurd parted.slot working.busy.slot
    · exact past
  · rw [ended] at tended
    rcases tended with ⟨_, past⟩ | ⟨restarted, _⟩
    · exact past
    · exact absurd restarted other

section Waiting

variable {outcome : Option Outcome}

def Told (outcome : Option Outcome) (station : Station) : Prop :=
  ∃ rest met, station.process.client = some ⟨.wait, rest, met⟩ ∧
    rest.Always Logs (· = .outcome outcome)

def Due (policy : Policy) (outcome : Option Outcome) (station : Station) : Prop :=
  station.Demanding policy ∧ station.process.session.Returned outcome ∨ station.Told outcome

theorem told_step (sound : before.Sound policy) (step : Step policy before after)
    (meets : after.process.client ≠ none) (told : before.Told outcome) : after.Told outcome := by
  obtain ⟨rest, met, waiting, logs⟩ := told
  cases step with
  | demand demand free =>
      rw [waiting] at free
      cases free
  | answer => exact absurd rfl meets
  | client demanding answers affects =>
      cases waiting.symm.trans demanding
      exact ⟨_, _, rfl, logs.2 _⟩
  | clientPanic => exact absurd rfl meets
  | thread => exact ⟨rest, met, (client_tally ..).trans waiting, logs⟩
  | threadEnd => exact ⟨rest, met, waiting, logs⟩
  | threadPanic => exact ⟨rest, met, waiting, logs⟩
  | stray found =>
      rw [sound.orderly.strays] at found
      simp at found

/-- The first that a wait asks for is what the thread has left. -/
theorem due_of_demanding (sound : before.Sound policy) (step : Step policy before after)
    (meets : after.process.client ≠ none) (demanding : before.Demanding policy)
    (returned : before.process.session.Returned outcome) : after.Due policy outcome := by
  obtain ⟨first, asks, told⟩ := wait_joins policy
  have waiting : before.process.client = some ⟨.wait, .ask .join first, none⟩ := asks ▸ demanding
  have idle {call : Agent.Call} {next : Agent.Reply call → Agent (Option Outcome)} :
      before.process.session.thread ≠ some (.running (.ask call next)) := by
    intro running
    rcases returned with done | ended
    · cases running.symm.trans done
    · cases running.symm.trans ended
  cases step with
  | demand demand free =>
      rw [waiting] at free
      cases free
  | answer => exact absurd rfl meets
  | client demands answers affects =>
      cases waiting.symm.trans demands
      cases answers with
      | nothing none =>
          rcases returned with running | ended
          · cases none.symm.trans running
          · cases none.symm.trans ended
      | ended settled =>
          rcases returned with running | ended
          · cases settled.symm.trans running
          · cases settled.symm.trans ended
            exact .inr ⟨_, _, rfl, told outcome⟩
  | clientPanic => exact absurd rfl meets
  | thread running => exact absurd running idle
  | threadEnd running =>
      rcases returned with done | ended
      · cases running.symm.trans done
        exact .inl ⟨demanding, .inr rfl⟩
      · cases running.symm.trans ended
  | threadPanic running => exact absurd running idle
  | stray found =>
      rw [sound.orderly.strays] at found
      simp at found

theorem due_meets (sound : before.Sound policy) (meets : Meets policy before after)
    (due : before.Due policy outcome) : after.Due policy outcome := by
  induction meets with
  | refl => exact due
  | tail earlier step ih =>
      have still := sound_leads sound (earlier.lift id fun _ _ step => step.1)
      rcases ih with ⟨demanding, returned⟩ | told
      · exact due_of_demanding still step.1 step.2 demanding returned
      · exact .inr (told_step still step.1 step.2 told)

theorem told_answered {rest : Agent Answer} {met : Option (List Nat)}
    (waiting : station.process.client = some ⟨.wait, rest, met⟩)
    (logs : rest.Always Logs (· = .outcome outcome)) :
    ∃ last met, Meets policy station last ∧
      last.process.client = some ⟨.wait, .done (.outcome outcome), met⟩ := by
  induction rest generalizing station met with
  | done answer =>
      obtain rfl : answer = .outcome outcome := logs
      exact ⟨station, met, .refl, waiting⟩
  | ask call next ih =>
      obtain ⟨logging, onward⟩ := logs
      cases call with
      | device call =>
          obtain ⟨reply, session, settings, answers, affects⟩ :
              ∃ reply session settings,
                station.process.session.Answers (.device call) reply session ∧
                  Agent.Call.Affects (.device call) station.settings reply settings :=
            ⟨_, _, _, .device call _,
              Trial.answered call { Bench.fresh with settings := station.settings }⟩
          obtain ⟨after, step, waits⟩ : ∃ after, Step policy station after ∧
              after.process.client = some ⟨.wait, next reply, _⟩ :=
            ⟨_, .client waiting answers affects, rfl⟩
          obtain ⟨last, met, meets, done⟩ := ih reply waits (onward reply)
          exact ⟨last, met, .head ⟨step, by simp [waits]⟩ meets, done⟩
      | shared call => exact logging.elim
      | join => exact logging.elim

theorem due_answered (due : station.Due policy outcome) :
    ∃ last met, Meets policy station last ∧
      last.process.client = some ⟨.wait, .done (.outcome outcome), met⟩ := by
  obtain ⟨first, asks, told⟩ := wait_joins policy
  have joins {station : Station} (demanding : station.Demanding policy)
      (ended : station.process.session.thread = some (.ended outcome)) :
      ∃ last met, Meets policy station last ∧
        last.process.client = some ⟨.wait, .done (.outcome outcome), met⟩ := by
    have waiting : station.process.client = some ⟨.wait, .ask .join first, none⟩ :=
      asks ▸ demanding
    obtain ⟨after, step, waits⟩ : ∃ after, Step policy station after ∧
        after.process.client = some ⟨.wait, first (Session.joined outcome), _⟩ :=
      ⟨_, .client waiting (.ended ended) rfl, rfl⟩
    obtain ⟨last, met, meets, done⟩ := told_answered waits (told outcome)
    exact ⟨last, met, .head ⟨step, by simp [waits]⟩ meets, done⟩
  rcases due with ⟨demanding, running | ended⟩ | ⟨rest, met, waiting, logs⟩
  · obtain ⟨after, step, waits, ended⟩ : ∃ after, Step policy station after ∧
        after.Demanding policy ∧ after.process.session.thread = some (.ended outcome) :=
      ⟨_, .threadEnd running, demanding, rfl⟩
    obtain ⟨last, met, meets, done⟩ := joins waits ended
    have waiting : after.process.client ≠ none := by
      rw [waits]
      exact Option.some_ne_none _
    exact ⟨last, met, .head ⟨step, waiting⟩ meets, done⟩
  · exact joins demanding ended
  · exact told_answered waiting logs

theorem awaits_of_due (sound : station.Sound policy) (due : station.Due policy outcome) :
    station.Awaits policy outcome where
  answered := due_answered due
  only last demand answer met meets done := by
    obtain ⟨first, asks, _⟩ := wait_joins policy
    rcases due_meets sound meets due with ⟨demanding, _⟩ | ⟨rest, met, waiting, logs⟩
    · rw [Demanding, asks, done] at demanding
      cases demanding
    · cases done.symm.trans waiting
      exact ⟨rfl, logs⟩

theorem not_tells_of_admitting {rest : Agent Answer} (admitting : rest.Admitting) :
    ¬ rest.Always Agent.Call.Tells fun _ => True := by
  intro tells
  cases admitting <;> exact tells.1

theorem waits_of_outside {demand : Demand} {next : Joined → Agent Answer}
    (outside : Agent.Outside (.ask .join next)) (leaves : demand.Leaves policy (.ask .join next)) :
    demand = .wait ∧
      ∀ outcome, (next (Session.joined outcome)).Always Logs (· = .outcome outcome) := by
  generalize same : (Program.ask .join next : Agent Answer) = rest at leaves
  cases leaves with
  | all =>
      obtain rfl := waits_of_joins demand next same.symm
      obtain ⟨first, asks, told⟩ := wait_joins policy
      cases same.trans asks
      exact ⟨rfl, told⟩
  | admitting rest =>
      subst same
      rcases rest with admitting | ⟨impossible, _⟩ | ⟨tells, _⟩
      · cases admitting with
        | join onward =>
            cases outside with
            | tells tells => exact tells.1.elim
            | join tells => exact absurd (tells .nothing) (not_tells_of_admitting (onward .nothing))
      · cases impossible
      · exact tells.elim
  | apart apart =>
      subst same
      exact apart.1.elim

/-- What a thread has come to is there for whoever waits first. -/
theorem returned_step (sound : before.Sound policy) (free : before.process.Free)
    (step : Step policy before after) (returned : before.process.session.Returned outcome) :
    after.process.session.Returned outcome ∨ after.Told outcome := by
  cases step with
  | demand => exact .inl returned
  | answer => exact .inl returned
  | client demanding answers affects =>
      cases answers with
      | device call reply => exact .inl returned
      | shared call =>
          cases call with
          | launch given request => exact absurd rfl (unlaunched_of_free free demanding _ _)
          | _ => exact .inl returned
      | nothing none =>
          rcases returned with running | ended
          · cases none.symm.trans running
          · cases none.symm.trans ended
      | ended settled =>
          rcases returned with running | ended
          · cases settled.symm.trans running
          · cases settled.symm.trans ended
            rcases free.client _ demanding with outside | apart
            · obtain ⟨rfl, told⟩ := waits_of_outside outside (sound.leaves _ demanding)
              exact .inr ⟨_, _, rfl, told outcome⟩
            · exact apart.1.elim
  | clientPanic => exact .inl returned
  | thread running => exact absurd running (free.spent _ _)
  | threadEnd running =>
      rcases returned with done | ended
      · cases running.symm.trans done
        exact .inl (.inr rfl)
      · cases running.symm.trans ended
  | threadPanic running => exact absurd running (free.spent _ _)
  | stray found =>
      rw [sound.orderly.strays] at found
      simp at found

theorem returned_leads (sound : before.Sound policy) (leads : Leads policy before after)
    (returned : before.process.session.Returned outcome)
    (past : before.Over before.process.launched)
    (last : after.process.admitted = before.process.launched + 1) :
    after.process.session.Returned outcome ∨
      ∃ asked given, Leads policy before asked ∧ Step policy asked given ∧
        Leads policy given after ∧ asked.process.session.Returned outcome ∧
        given.Awaits policy outcome := by
  induction leads with
  | refl => exact .inl returned
  | tail earlier step ih =>
      rename_i middle after
      have still := over_leads sound earlier past
      have middling : middle.process.admitted = before.process.launched + 1 :=
        Nat.le_antisymm (last ▸ admitted_step step) still.admitted
      rcases ih middling with returned | ⟨asked, given, onward, answers, rest, found, told⟩
      · have sound := sound_leads sound earlier
        rcases returned_step sound (free_of_over sound.orderly still middling) step returned with
          returned | told
        · exact .inl returned
        · exact .inr ⟨middle, after, earlier, step, .refl, returned,
            awaits_of_due (sound_step sound step) (.inr told)⟩
      · exact .inr ⟨asked, given, onward, answers, rest.tail step, found, told⟩

/-- Whoever demands to wait while the thread is there is told what it has come to. -/
theorem awaits_of_returned (sound : before.Sound policy) (free : before.process.Free)
    (returned : before.process.session.Returned outcome)
    (asks : after = before ∨ Step policy before after) (demanding : after.Demanding policy) :
    after.Awaits policy outcome := by
  rcases asks with rfl | step
  · exact awaits_of_due sound (.inl ⟨demanding, returned⟩)
  · refine awaits_of_due (sound_step sound step) ?_
    rcases returned_step sound free step returned with returned | told
    · exact .inl ⟨demanding, returned⟩
    · exact .inr told

end Waiting

theorem answerable (station : Station) {call : Agent.Call} (other : call ≠ .join) :
    ∃ reply session settings, station.process.session.Answers call reply session ∧
      call.Affects station.settings reply settings := by
  cases call with
  | device call =>
      exact ⟨_, _, _, .device call _,
        Trial.answered call { Bench.fresh with settings := station.settings }⟩
  | shared call => exact ⟨_, _, _, .shared call, rfl⟩
  | join => contradiction

/-- A thread at work can always go on, until it has ended. -/
theorem thread_ends (sound : station.Sound policy) {rest : Agent (Option Outcome)}
    (running : station.process.session.thread = some (.running rest)) :
    ∃ outcome last, Leads policy station last ∧
      last.process.session.thread = some (.ended outcome) := by
  induction rest generalizing station with
  | done outcome => exact ⟨outcome, _, .single (.threadEnd running), rfl⟩
  | ask call next ih =>
      have other : call ≠ .join := by
        rintro rfl
        have tended := sound.tended
        unfold Tended at tended
        rw [running] at tended
        rcases tended with working | ⟨_, ⟨⟩, _⟩
        rcases working.busy.work with spent | ⟨_, rest, found, closes⟩
        · exact spent _ _ running
        · obtain rfl : rest = .ask .join next := by simpa [found] using running
          rcases closes with ⟨⟨⟩, _⟩ | ⟨apart | impossible, _⟩
          · exact apart
          · cases impossible
      obtain ⟨reply, session, settings, answers, affects⟩ := answerable station other
      have step : Step policy station _ := .thread running answers affects
      obtain ⟨outcome, last, leads, ended⟩ := ih reply (sound_step sound step) rfl
      exact ⟨outcome, last, .head step leads, ended⟩

end Station

/-- The slot is always released: every thread can come to its end; if its installation did not
restart the device, whoever comes next is let in, the first to wait is told the outcome, and the
record is idle; if it did, the slot stays taken and the record stays due. -/
theorem slot_released (policy : Policy) {station : Station} (reachable : station.Reachable policy) :
    (∀ rest, station.process.session.thread = some (.running rest) →
      ∃ outcome last, Station.Leads policy station last ∧
        last.process.session.thread = some (.ended outcome)) ∧
    ∀ outcome, station.process.session.Returned outcome →
      ∀ later, Station.Leads policy station later →
        if outcome = some .rebooting then later.scene.Departed station.request
        else later.process.admitted = station.process.launched + 1 →
          station.Released policy outcome later := by
  have sound := Station.sound_of_reachable reachable
  refine ⟨fun rest => Station.thread_ends sound, fun outcome returned later leads => ?_⟩
  split
  · rename_i restarted
    subst restarted
    obtain ⟨retired, same⟩ :=
      Station.retired_leads sound leads (Station.retired_of_returned sound returned)
    exact same ▸ retired.departed
  · rename_i other
    intro last
    have past := Station.over_of_returned sound returned other
    have still := Station.over_leads sound leads past
    have soundly := Station.sound_leads sound leads
    have free := Station.free_of_over soundly.orderly still last
    refine ⟨free.slot, fun request valid => ?_, still.record last, ?_⟩
    · obtain ⟨next, asks, _, admitted⟩ := submit_looks policy valid
      exact ⟨next, asks, by rw [free.slot]; rfl, admitted⟩
    · rcases Station.returned_leads sound leads returned past last with returned | given
      · exact .inl ⟨fun asked asks => Station.awaits_of_returned soundly free returned asks,
          returned⟩
      · exact .inr given

/-- The thread of an admitted update panics at once, and unwinds. -/
theorem slot_released_panicked :
    ∃ station : Station, station.Reachable .standard ∧ station.process.session.Returned none ∧
      station.Released .standard none station := by
  have demanded : Station.Leads .standard (.opening .empty) _ :=
    .single (.demand (.submit .sample) rfl)
  have started := demanded.tail (.client rfl (.shared (.slot .start)) rfl)
  have joined := started.tail (.client rfl (.nothing rfl) rfl)
  have created := joined.tail (.client rfl (.device (.startThread _) (.ok ())) rfl)
  have launched := created.tail (.client rfl (.shared (.launch _ _)) rfl)
  have panicked := launched.tail
    (.threadPanic rfl (show Device.Call.Answered .now _ (0 : Int64) _ from rfl))
  have closed := panicked.tail (.thread rfl (.device .closeWriter ()) rfl)
  have logged := closed.tail (.thread rfl (.device (.log _) ()) rfl)
  have deleted := logged.tail (.thread rfl (.device (.delete _ _) (.ok ())) rfl)
  have saved := deleted.tail (.thread rfl (.device (.save _ _ _) (.ok ())) rfl)
  have freed := saved.tail (.thread rfl (.shared (.slot .finish)) rfl)
  have reachable : Station.Reachable .standard _ := ⟨.empty, freed⟩
  exact ⟨_, reachable, .inl rfl,
    (slot_released .standard reachable).2 none (.inl rfl) _ .refl rfl⟩

end DualBank
