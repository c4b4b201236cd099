import DualBank.Proofs.Notices
import DualBank.Proofs.Station

/-! One demand and what its client does to the station while it is met. The thread at work goes on
beside it, step by step; the desk keeps count of those steps and a list of the calls of the client,
so what the client changed can be told from what the thread changed. -/

namespace DualBank

open Program Surroundings Agent.Call

structure Backdrop where
  slot : Slot
  thread : Option Thread
  admitted : Nat
  launched : Nat
  existing : List Nat
  strays : List (Nat × Agent (Option Outcome))
  settings : SettingsTable
  request : Option Request

namespace Station

def backdrop (station : Station) : Backdrop where
  slot := station.process.session.slot
  thread := station.process.session.thread
  admitted := station.process.admitted
  launched := station.process.launched
  existing := station.process.existing
  strays := station.process.strays
  settings := station.settings
  request := station.request

inductive Proceeds (policy : Policy) : Nat → Station → Station → Prop
  | refl {station : Station} : station.process.client = none → Proceeds policy 0 station station
  | tail {count before between after} : Proceeds policy count before between →
      Step policy between after → after.process.client = none →
      Proceeds policy (count + 1) before after

variable {policy : Policy} {count : Nat} {before after : Station}

theorem Proceeds.vacant (proceeds : Proceeds policy count before after) :
    after.process.client = none := by
  cases proceeds with
  | refl vacant => exact vacant
  | tail _ _ vacant => exact vacant

theorem Proceeds.leads (proceeds : Proceeds policy count before after) :
    Leads policy before after := by
  induction proceeds with
  | refl _ => exact .refl
  | tail _ step _ ih => exact ih.tail step

theorem Proceeds.step (proceeds : Proceeds policy 1 before after) :
    before.process.client = none ∧ Step policy before after ∧ after.process.client = none := by
  cases proceeds with
  | tail earlier step still =>
      cases earlier with
      | refl vacant => exact ⟨vacant, step, still⟩

/-- What a call makes of the slot, the thread and the count looks at the backdrop alone. -/
theorem answers_alike {one other session : Session} {call : Agent.Call} {reply : Agent.Reply call}
    (slot : one.slot = other.slot) (thread : one.thread = other.thread)
    (answers : one.Answers call reply session) :
    ∃ later, other.Answers call reply later ∧ session.slot = later.slot ∧
      session.thread = later.thread := by
  obtain ⟨_, listeners, _⟩ := one
  obtain ⟨_, heard, _⟩ := other
  obtain rfl := slot
  obtain rfl := thread
  cases answers with
  | device call reply => exact ⟨_, .device call reply, rfl, rfl⟩
  | shared call => cases call <;> exact ⟨_, .shared _, rfl, rfl⟩
  | nothing none => exact ⟨_, .nothing none, rfl, rfl⟩
  | ended settled => exact ⟨_, .ended settled, rfl, rfl⟩

theorem tally_alike {session : Session} {client : Option Client} {process : Process}
    (thread : session.thread = process.session.thread) (number : Nat) (call : Agent.Call)
    (reply : Agent.Reply call) :
    { process with session := session, client := client }.tally number call reply =
      { process.tally number call reply with session := session, client := client } := by
  unfold Process.tally
  split
  · rfl
  · rfl
  · simp [Process.lost, thread]
  · rfl

/-- What nobody asked for looks at the backdrop alone. -/
theorem backdrop_step {one other later : Station} (same : one.backdrop = other.backdrop)
    (vacant : one.process.client = none) (empty : other.process.client = none)
    (step : Step policy one later) (still : later.process.client = none) :
    ∃ last, Step policy other last ∧ last.process.client = none ∧
      later.backdrop = last.backdrop := by
  obtain ⟨⟨session, client, admitted, launched, existing, strays⟩, settings, request, past⟩ := one
  obtain ⟨⟨twin, absent, _, _, _, _⟩, _⟩ := other
  simp only [backdrop, Backdrop.mk.injEq] at same
  obtain ⟨slot, thread, rfl, rfl, rfl, rfl, rfl, rfl⟩ := same
  obtain rfl : client = none := vacant
  -- The two now differ in their listeners and in what only proofs read.
  have tally := @tally_alike twin absent ⟨session, none, admitted, launched, existing, strays⟩
    thread.symm
  cases step with
  | demand demand _ => cases still
  | answer demanding => cases demanding
  | client demanding _ _ => cases demanding
  | clientPanic demanding _ => cases demanding
  | thread running answers affects =>
      obtain ⟨later, answers, same, _⟩ := answers_alike slot thread answers
      refine ⟨_, .thread (thread.symm.trans running) answers affects, ?_, ?_⟩
      · exact (client_tally _).trans empty
      · simp only [backdrop, tally, same]
  | threadEnd running =>
      refine ⟨_, .threadEnd (thread.symm.trans running), empty, ?_⟩
      simp [backdrop, slot]
  | threadPanic running answered =>
      refine ⟨_, .threadPanic (thread.symm.trans running) answered, empty, ?_⟩
      simp [backdrop, slot]
  | stray found answers affects =>
      obtain ⟨later, answers, same, ends⟩ := answers_alike slot thread answers
      refine ⟨_, .stray found answers affects, (client_tally _).trans empty, ?_⟩
      simp only [backdrop, tally, same, ends]

def serving (station : Station) (client : Client) : Station :=
  { station with process := { station.process with client := some client } }

end Station

namespace Agent.Call

def Receives : Agent.Call → Prop
  | .device (.startThread _) | .shared (.slot _) | .join => True
  | call => call.Tells

theorem receives_of_tells {call : Agent.Call} (tells : call.Tells) : call.Receives := by
  unfold Tells at tells
  split at tells <;> trivial

theorem tells_of_whispers {call : Agent.Call} (whispers : call.Whispers) : call.Tells := by
  unfold Whispers at whispers
  split at whispers <;> trivial

end Agent.Call

structure Desk where
  station : Station
  calls : List Happening
  stirred : Nat

namespace Desk

def opening (station : Station) : Desk :=
  ⟨station, [], 0⟩

def events (desk : Desk) : List Event :=
  desk.calls.filterMap Happening.event?

def answered (desk : Desk) (call : Agent.Call) (reply : Agent.Reply call) (session : Session)
    (settings : SettingsTable) : Desk where
  station := {
    process := { desk.station.process.tally desk.station.process.latest call reply with
      session := session }
    settings := settings
    request := call.launches desk.station.request
    history := call.heard reply desk.station.history }
  calls := desk.calls ++ [.exchange call reply]
  stirred := desk.stirred

abbrev surroundings (policy : Policy) : Surroundings Agent.interface where
  State := Desk
  Moves before after := Station.Proceeds policy 1 before.station after.station ∧
    after.calls = before.calls ∧ after.stirred = before.stirred + 1
  Answers call before reply after := ∃ session settings,
    before.station.process.session.Answers call reply session ∧
      call.Affects before.station.settings reply settings ∧
      after = before.answered call reply session settings

variable {policy : Policy} {desk : Desk} {later : Station}

/-- While a demand is met, the station takes no steps but those of its desk. -/
theorem exists_step {demand : Demand} {rest : Agent Answer} {met : Option (List Nat)}
    (vacant : desk.station.process.client = none)
    (step : Station.Step policy (desk.station.serving ⟨demand, rest, met⟩) later)
    (unanswered : later.process.client ≠ none) :
    ∃ after left asked, later = after.station.serving ⟨demand, left, asked⟩ ∧
      after.station.process.client = none ∧
      (surroundings policy).Step (rest, desk) (left, after) := by
  obtain ⟨station, calls, stirred⟩ := desk
  have tally (number : Nat) (call : Agent.Call) (reply : Agent.Reply call) :
      (station.serving ⟨demand, rest, met⟩).process.tally number call reply =
        { station.process.tally number call reply with
          session := station.process.session, client := some ⟨demand, rest, met⟩ } :=
    Station.tally_alike rfl number call reply
  have own (after : Station) (step : Station.Step policy station after)
      (still : after.process.client = none) :
      ∃ desk : Desk, desk.station = after ∧ desk.station.process.client = none ∧
        (surroundings policy).Step (rest, ⟨station, calls, stirred⟩) (rest, desk) :=
    ⟨⟨after, calls, stirred + 1⟩, rfl, still, .move ⟨.tail (.refl vacant) step still, rfl, rfl⟩⟩
  cases step with
  | demand demand free => cases free
  | answer demanding => exact absurd rfl unanswered
  | clientPanic demanding _ => exact absurd rfl unanswered
  | @client _ call next _ reply session settings demanding answers affects =>
      cases demanding
      refine ⟨_, _, station.process.look met call, ?_, ?_,
        .answer ⟨_, _, answers, affects, rfl⟩⟩
      · simp only [tally]
        rfl
      · exact (client_tally _).trans vacant
  | thread running answers affects =>
      obtain ⟨after, same, still, step⟩ :=
        own _ (.thread running answers affects) ((client_tally _).trans vacant)
      refine ⟨after, rest, met, ?_, still, step⟩
      simp only [tally, same]
      rfl
  | threadEnd running =>
      obtain ⟨after, same, still, step⟩ := own _ (.threadEnd running) vacant
      exact ⟨after, rest, met, congrArg (Station.serving · _) same.symm, still, step⟩
  | threadPanic running answered =>
      obtain ⟨after, same, still, step⟩ := own _ (.threadPanic running answered) vacant
      exact ⟨after, rest, met, congrArg (Station.serving · _) same.symm, still, step⟩
  | stray found answers affects =>
      obtain ⟨after, same, still, step⟩ :=
        own _ (.stray found answers affects) ((client_tally _).trans vacant)
      refine ⟨after, rest, met, ?_, still, step⟩
      simp only [tally, same]
      rfl

/-- Until a demand is answered or given up, a run of the station is a run at its desk. -/
theorem exists_leads {station : Station} {demand : Demand} {rest : Agent Answer}
    {met : Option (List Nat)} (vacant : station.process.client = none)
    (run : Relation.ReflTransGen
      (fun before after => Station.Step policy before after ∧ after.process.client ≠ none)
      (station.serving ⟨demand, rest, met⟩) later) :
    ∃ desk left asked, later = desk.station.serving ⟨demand, left, asked⟩ ∧
      desk.station.process.client = none ∧
      (surroundings policy).Leads (rest, opening station) (left, desk) := by
  induction run with
  | refl => exact ⟨opening station, rest, met, rfl, vacant, .refl⟩
  | tail _ step ih =>
      obtain ⟨desk, left, asked, rfl, empty, leads⟩ := ih
      obtain ⟨after, onward, seen, same, still, step⟩ := exists_step empty step.1 step.2
      exact ⟨after, onward, seen, same, still, leads.tail step⟩

structure Stands (frame : Backdrop → Nat → Prop) (events : List Event) (desk : Desk) : Prop where
  vacant : desk.station.process.client = none
  frame : frame desk.station.backdrop desk.stirred
  events : desk.events = events
  receives : ∀ call reply, .exchange call reply ∈ desk.calls → call.Receives

def Steady (policy : Policy) (frame : Backdrop → Nat → Prop) : Prop :=
  ∀ before after stirred, Station.Proceeds policy 1 before after →
    frame before.backdrop stirred → frame after.backdrop (stirred + 1)

variable {frame reached : Backdrop → Nat → Prop} {events : List Event} {call : Agent.Call}
  {reply : Agent.Reply call} {before after : Desk}

theorem stable_stands (steady : Steady policy frame) :
    (surroundings policy).Stable (Stands frame events) := by
  rintro before after ⟨proceeds, calls, stirred⟩ ⟨_, holds, told, receives⟩
  refine ⟨proceeds.vacant, ?_, ?_, ?_⟩
  · rw [stirred]
    exact steady _ _ _ proceeds holds
  · rw [← told, Desk.events, calls, Desk.events]
  · rw [calls]
    exact receives

theorem session_of_answers (answers : (surroundings policy).Answers call before reply after)
    (unstored : ¬ call.Stores) :
    ∃ session, before.station.process.session.Answers call reply session ∧
      after = before.answered call reply session before.station.settings := by
  obtain ⟨session, settings, answers, affects, rfl⟩ := answers
  exact ⟨session, answers, by rw [settings_of_affects affects unstored]⟩

theorem stands_of_answers (answers : (surroundings policy).Answers call before reply after)
    (receives : call.Receives) (stands : before.Stands frame events)
    (holds : reached after.station.backdrop after.stirred) :
    after.Stands reached (events ++ (Happening.exchange call reply).event?.toList) := by
  obtain ⟨session, settings, _, _, rfl⟩ := answers
  refine ⟨(client_tally _).trans stands.vacant, holds, ?_, ?_⟩
  · rw [← stands.events, Desk.events, Desk.events, answered, List.filterMap_append]
    cases told : (Happening.exchange call reply).event? <;> simp [told]
  · intro other answer inside
    rcases List.mem_append.1 inside with earlier | last
    · exact stands.receives other answer earlier
    · cases List.mem_singleton.1 last
      exact receives

theorem backdrop_of_tells (tells : call.Tells)
    (answers : (surroundings policy).Answers call before reply after) :
    after.station.backdrop = before.station.backdrop ∧ after.stirred = before.stirred := by
  have unstored := not_stores_of_untouched (not_touches_of_tells tells)
  obtain ⟨session, replies, rfl⟩ := session_of_answers answers unstored
  obtain ⟨slot, thread⟩ := answers_apart (apart_of_tells tells) replies
  have launches : call.launches before.station.request = before.station.request := by
    unfold Tells at tells
    split at tells <;> first | rfl | contradiction
  simp only [Station.backdrop, answered, tally_apart (apart_of_tells tells), slot, thread, launches,
    and_self]

theorem stands_of_tells (tells : call.Tells)
    (answers : (surroundings policy).Answers call before reply after)
    (stands : before.Stands frame events) :
    after.Stands frame (events ++ (Happening.exchange call reply).event?.toList) := by
  obtain ⟨same, still⟩ := backdrop_of_tells tells answers
  refine stands_of_answers answers (receives_of_tells tells) stands ?_
  rw [same, still]
  exact stands.frame

theorem whispers_withstands (steady : Steady policy frame) :
    Withstands (surroundings policy) (fun _ _ => True) Whispers (Stands frame events) where
  stable := stable_stands steady
  kept := by
    intro call whispers before reply after answers stands
    have still := stands_of_tells (tells_of_whispers whispers) answers stands
    rwa [silent_of_mute (mute_of_whispers whispers), Option.toList_none, List.append_nil] at still
  guarded _ _ _ _ := trivial

theorem publish_stands (steady : Steady policy frame) (uuid : String) (phase : Phase)
    (progress : Int32) (error : Option UpdateError) (message : String)
    (stands : desk.Stands frame []) :
    (surroundings policy).Ensures (fun _ _ => True)
      (fun _ last => ∃ time,
        last.Stands frame [.compose uuid phase progress error message time])
      (Announcement.publish uuid phase progress error message) desk := by
  refine ensures_publish (whispers_withstands steady) (fun _ => whispers_withstands steady)
    (fun _ _ _ => trivial) ?_ stands
  intro time before reply after stands answers
  refine stands_of_tells ?_ answers stands
  trivial

end Desk

end DualBank
