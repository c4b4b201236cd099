import DualBank.Proofs.Desk

/-! Demands that are refused, in whatever form and at whatever point of an installation they come:
the station goes on as if nobody had demanded anything, nothing beyond the desk is asked, and what
is told of it depends on what was demanded and why it is refused. -/

namespace DualBank

open Program Surroundings Agent.Call

inductive Errand where
  | update (request : Request)
  | cancel (uuid : String)
  | unknown (uuid : String)
  | incomplete
  | malformed

def Command.errand (command : Command) : Errand :=
  match command.uuid, command.operation with
  | some uuid, some operation =>
      match Operation.ofText? operation with
      | some .update => .update ⟨uuid, command.url.getD ""⟩
      | some .cancel => .cancel uuid
      | none => .unknown uuid
  | _, _ => .incomplete

def Demand.errand? : Demand → Option Errand
  | .submit request => some (.update request)
  | .cancel uuid => some (.cancel uuid)
  | .command given => some given.errand
  | .payload given =>
      some (((Json.parse? given).bind Command.ofJson?).elim .malformed Command.errand)
  | .recover | .wait => none

inductive Errand.Refuses : Errand → UpdateError → List Event → Prop
  | invalid {request error} : request.check = .error error → Refuses (.update request) error []
  | busy {request} (time : Int64) : request.check = .ok () →
      Refuses (.update request) .alreadyInProgress
        [.compose request.uuid .failure 0 (some .alreadyInProgress) "" time]
  | unstarted {request} (time : Int64) : request.check = .ok () →
      Refuses (.update request) .threadCreate
        [.compose request.uuid .failure 0 (some .internal) "" time]
  | idle {uuid} (time : Int64) :
      Refuses (.cancel uuid) (.invalidRequest "no OTA update running")
        [.compose uuid .failure 0 (some (.invalidRequest "no OTA update running"))
          Admission.notRunning time]
  | unknown {uuid} (time : Int64) : Refuses (.unknown uuid) (.invalidRequest "unknown operation")
      [.compose uuid .failure 0 (some (.invalidRequest "unknown operation")) "" time]
  | incomplete : Refuses .incomplete (.invalidRequest "unable to extract data from request") []
  | malformed : Refuses .malformed (.invalidRequest "malformed request") []

namespace Backdrop

structure Resting (backdrop : Backdrop) : Prop where
  slot : backdrop.slot = .idle
  existing : backdrop.existing = []
  strays : backdrop.strays = []
  spent : ∀ call next, backdrop.thread ≠ some (.running (.ask call next))

def taken (backdrop : Backdrop) : Backdrop :=
  { backdrop with
    slot := .running
    admitted := backdrop.admitted + 1
    existing := [backdrop.admitted] }

def joined (backdrop : Backdrop) : Backdrop :=
  { backdrop.taken with thread := none }

def released (backdrop : Backdrop) : Backdrop :=
  { backdrop with
    thread := none
    admitted := backdrop.admitted + 1 }

end Backdrop

/-- The station is where it would have come to in as many steps had nobody demanded anything, except
that an outcome nobody waited for is gone when the slot was taken and no thread could be started. -/
structure Declined (policy : Policy) (before : Station) (errand : Errand) (error : UpdateError)
    (last : Desk) : Prop where
  unchanged : ∃ world, Station.Proceeds policy last.stirred before world ∧
    (last.station.backdrop = world.backdrop ∨
      error = .threadCreate ∧ world.backdrop.Resting ∧
        last.station.backdrop = world.backdrop.released)
  untouched : ∀ call reply, .exchange call reply ∈ last.calls → call.Receives
  told : errand.Refuses error last.events

namespace Desk

variable {policy : Policy} {before : Station} {desk : Desk}

section Frames

def Level (policy : Policy) (before : Station) (backdrop : Backdrop) (stirred : Nat) : Prop :=
  ∃ world, Station.Proceeds policy stirred before world ∧ backdrop = world.backdrop

def Held (policy : Policy) (before : Station) (change : Backdrop → Backdrop) (backdrop : Backdrop)
    (stirred : Nat) : Prop :=
  ∃ world, Station.Proceeds policy stirred before world ∧ world.backdrop.Resting ∧
    backdrop = change world.backdrop

theorem steady_level : Steady policy (Level policy before) := by
  rintro one later stirred proceeds ⟨world, onward, same⟩
  obtain ⟨vacant, step, still⟩ := proceeds.step
  obtain ⟨last, step, empty, alike⟩ :=
    Station.backdrop_step same vacant onward.vacant step still
  exact ⟨last, onward.tail step empty, alike⟩

/-- Where nothing is installed, all that can still happen of its own accord is that a thread with
nothing left to do ends. -/
theorem rest_step {one later : Station} (step : Station.Step policy one later)
    (vacant : one.process.client = none) (still : later.process.client = none)
    (strays : one.backdrop.strays = [])
    (spent : ∀ call next, one.backdrop.thread ≠ some (.running (.ask call next))) :
    ∃ outcome, one.backdrop.thread = some (.running (.done outcome)) ∧
      later.backdrop = { one.backdrop with thread := some (.ended outcome) } := by
  cases step with
  | demand demand _ => cases still
  | answer demanding => cases vacant.symm.trans demanding
  | client demanding _ _ => cases vacant.symm.trans demanding
  | clientPanic demanding _ => cases vacant.symm.trans demanding
  | thread running _ _ => exact absurd running (spent _ _)
  | threadPanic running _ => exact absurd running (spent _ _)
  | threadEnd running => exact ⟨_, running, rfl⟩
  | stray found _ _ =>
      have impossible := strays.symm.trans found
      simp at impossible

theorem steady_taken : Steady policy (Held policy before .taken) := by
  rintro one later stirred proceeds ⟨world, onward, resting, same⟩
  obtain ⟨vacant, step, still⟩ := proceeds.step
  obtain ⟨outcome, running, ended⟩ := rest_step step vacant still
    (by rw [same]; exact resting.strays) (by rw [same]; exact resting.spent)
  rw [same] at running ended
  refine ⟨_, onward.tail (.threadEnd running) onward.vacant,
    ⟨resting.slot, resting.existing, resting.strays, ?_⟩, ended⟩
  intro call next impossible
  cases impossible

/-- Without a thread, nothing happens of its own accord. -/
theorem steady_held {change : Backdrop → Backdrop}
    (thread : ∀ backdrop, (change backdrop).thread = none)
    (strays : ∀ backdrop, (change backdrop).strays = backdrop.strays) :
    Steady policy (Held policy before change) := by
  rintro one later stirred proceeds ⟨world, onward, resting, same⟩
  obtain ⟨vacant, step, still⟩ := proceeds.step
  obtain ⟨outcome, running, _⟩ := rest_step step vacant still
    (by rw [same, strays]; exact resting.strays) (by simp [same, thread])
  rw [same, thread] at running
  cases running

theorem steady_joined : Steady policy (Held policy before .joined) :=
  steady_held (fun _ => rfl) fun _ => rfl

theorem steady_released : Steady policy (Held policy before .released) :=
  steady_held (fun _ => rfl) fun _ => rfl

end Frames

section Slots

/-- An idle slot means that nothing is left of any installation before. -/
theorem resting_of_idle {world : Station} (reachable : before.Reachable policy) {stirred : Nat}
    (onward : Station.Proceeds policy stirred before world)
    (idle : world.process.session.slot = .idle) : world.backdrop.Resting := by
  have reached : world.Reachable policy := by
    obtain ⟨settings, leads⟩ := reachable
    exact ⟨settings, leads.trans onward.leads⟩
  have orderly := orderly_of_reachable (Station.process_reachable reached)
  rcases orderly.mode with free | opening | busy
  · exact ⟨free.slot, free.existing, orderly.strays, free.spent⟩
  · exact absurd idle opening.slot
  · exact absurd idle busy.slot

variable {frame : Backdrop → Nat → Prop} {operation : Slot.Operation} {state after : Desk}

theorem slot_refused {reply : Bool}
    (answers : (surroundings policy).Answers (.shared (.slot operation)) state reply after)
    (refused : reply = false) (stands : state.Stands frame []) : after.Stands frame [] := by
  refine stands_of_answers answers trivial stands ?_
  obtain ⟨session, replies, rfl⟩ := session_of_answers answers not_false
  obtain ⟨⟨⟨⟨slot, _, _⟩, _⟩, _⟩, _⟩ := state
  cases replies
  -- An operation that answers no leaves the slot as it is; a release never answers no.
  cases operation <;> cases slot <;> first | exact stands.frame | cases refused

theorem start_stands (reachable : before.Reachable policy) {started : Bool}
    (answers : (surroundings policy).Answers (.shared (.slot .start)) state started after)
    (accepted : started = true) (stands : state.Stands (Level policy before) []) :
    after.Stands (Held policy before .taken) [] := by
  refine stands_of_answers answers trivial stands ?_
  obtain ⟨session, replies, rfl⟩ := session_of_answers answers not_false
  obtain ⟨world, onward, same⟩ := stands.frame
  cases replies
  -- Only a free slot lets anybody in, and then nothing is left of the installations before.
  have idle : state.station.process.session.slot = .idle := by
    cases held : state.station.process.session.slot with
    | idle => rfl
    | _ => simp [Session.share, held, Slot.apply] at accepted
  have resting := resting_of_idle reachable onward ((congrArg Backdrop.slot same).symm.trans idle)
  refine ⟨world, onward, resting, ?_⟩
  have empty : state.station.process.existing = [] :=
    (congrArg Backdrop.existing same).trans resting.existing
  rw [← same]
  simp [Station.backdrop, answered, Backdrop.taken, Session.share, Process.tally, launches,
    Slot.apply, idle, empty]

theorem join_stands {left : Joined}
    (answers : (surroundings policy).Answers .join state left after)
    (stands : state.Stands (Held policy before .taken) []) :
    after.Stands (Held policy before .joined) [] := by
  refine stands_of_answers answers trivial stands ?_
  obtain ⟨session, replies, rfl⟩ := session_of_answers answers not_false
  obtain ⟨world, onward, resting, same⟩ := stands.frame
  refine ⟨world, onward, resting, ?_⟩
  rw [Backdrop.joined, ← same]
  cases replies with
  | nothing none => simp [Station.backdrop, answered, Process.tally, launches, none]
  | ended settled => rfl

theorem startThread_stands {size : UInt64} {created : Except SystemError Unit}
    (answers : (surroundings policy).Answers (.device (.startThread size)) state created after)
    (stands : state.Stands frame []) : after.Stands frame [] := by
  refine stands_of_answers answers trivial stands ?_
  obtain ⟨session, replies, rfl⟩ := session_of_answers answers not_false
  cases replies
  exact stands.frame

theorem finish_stands {finished : Bool} {events : List Event}
    (answers : (surroundings policy).Answers (.shared (.slot .finish)) state finished after)
    (stands : state.Stands (Held policy before .joined) events) :
    after.Stands (Held policy before .released) events := by
  rw [← List.append_nil events]
  refine stands_of_answers answers trivial stands ?_
  obtain ⟨session, replies, rfl⟩ := session_of_answers answers not_false
  obtain ⟨world, onward, resting, same⟩ := stands.frame
  refine ⟨world, onward, resting, ?_⟩
  cases replies
  obtain ⟨idle, empty, -, -⟩ := resting
  simp only [Station.backdrop, Backdrop.joined, Backdrop.taken, Backdrop.mk.injEq]
    at same idle empty
  simp [Station.backdrop, answered, Backdrop.released, Session.share, Process.tally, Process.latest,
    launches, Slot.apply, same, idle, empty]

end Slots

section Refusing

abbrev Declines (policy : Policy) (before : Station) (errand : Errand) (rest : Agent Answer)
    (desk : Desk) : Prop :=
  (surroundings policy).Ensures (fun _ _ => True)
    (fun answer last => ∀ error, answer = .admission (.error error) →
      Declined policy before errand error last) rest desk

variable {errand : Errand} {error : UpdateError} {events : List Event} {rest : Agent Answer}

theorem ensures_unrefused
    (always : rest.Always (fun _ => True) fun answer =>
      ∀ error, answer ≠ .admission (.error error)) :
    (surroundings policy).Ensures (fun _ _ => True)
      (fun answer _ => ∀ error, answer ≠ .admission (.error error)) rest desk := by
  have nothing : (surroundings policy).Stable fun _ => True := fun _ _ _ _ => trivial
  refine ensures_mono (ensures_always always nothing (fun _ _ _ _ _ _ _ => trivial)
    (fun _ _ _ _ => trivial) trivial) ?_
  exact fun _ _ unrefused => unrefused.1

theorem declines_of_always
    (always : rest.Always (fun _ => True) fun answer =>
      ∀ error, answer ≠ .admission (.error error)) :
    Declines policy before errand rest desk :=
  ensures_mono (ensures_unrefused always) fun _ _ unrefused error same =>
    absurd same (unrefused error)

theorem level_declines (refuses : errand.Refuses error events)
    (stands : desk.Stands (Level policy before) events) :
    Declines policy before errand (.done (.admission (.error error))) desk := by
  refine ensures_done (stable_stands steady_level) stands ?_
  rintro last stands _ ⟨rfl⟩
  obtain ⟨world, onward, same⟩ := stands.frame
  exact ⟨⟨world, onward, .inl same⟩, stands.receives, stands.events ▸ refuses⟩

theorem log_declines {frame : Backdrop → Nat → Prop} (steady : Steady policy frame)
    (record : Log.Record) {next : Unit → Agent Answer} (stands : desk.Stands frame events)
    (onward : ∀ later : Desk, later.Stands frame events →
      Declines policy before errand (next ()) later) :
    Declines policy before errand (.ask (.device (.log record)) next) desk :=
  (whispers_withstands steady).ensures_ask (.device (.log record)) trivial stands
    fun _ => onward

/-- Complains to the log, tells of the failure, and gives this answer. -/
theorem failure_declines (record : Log.Record) (uuid : String) (cause : UpdateError)
    (message : String)
    (refuses : ∀ time, errand.Refuses error
      [.compose uuid .failure 0 (some cause) message time])
    (stands : desk.Stands (Level policy before) []) :
    Declines policy before errand
      (.ask (.device (.log record)) fun _ =>
        (Announcement.publish uuid .failure 0 (some cause) message).bind fun _ =>
          .done (.admission (.error error))) desk := by
  refine log_declines steady_level record stands ?_
  intro later stands
  refine ensures_bind (publish_stands steady_level uuid .failure 0 (some cause) message stands) ?_
  rintro _ last ⟨time, stands⟩
  exact level_declines (refuses time) stands

theorem cancel_declines (uuid : String) (stands : desk.Stands (Level policy before) []) :
    Declines policy before (.cancel uuid) ((Demand.cancel uuid).program policy) desk := by
  simp only [Demand.program, Admission.cancel, Agent.slot, Agent.shared, Agent.log, Agent.device,
    bind_eq, ask_bind, done_bind, pure_eq_done]
  refine ensures_ask (stable_stands steady_level) stands (fun _ _ => trivial) ?_
  intro state accepted after stands answers
  cases accepted with
  | true => exact declines_of_always ⟨trivial, fun _ => by simp⟩
  | false =>
      simp only [Bool.false_eq_true, if_false, ask_bind, Program.bind_assoc, done_bind]
      exact failure_declines _ uuid _ _ .idle (slot_refused answers rfl stands)

/-- The slot was taken and is given back, and no thread was launched in between. -/
theorem unstarted_declines {request : Request} (valid : request.check = .ok ())
    (record : Log.Record) (stands : desk.Stands (Held policy before .joined) []) :
    Declines policy before (.update request)
      (.ask (.device (.log record)) fun _ =>
        (Announcement.error request.uuid .failure .internal).bind fun _ =>
          .ask (.shared (.slot .finish)) fun _ => .done (.admission (.error .threadCreate)))
      desk := by
  refine log_declines steady_joined record stands ?_
  intro later stands
  refine ensures_bind (publish_stands steady_joined request.uuid .failure 0 (some .internal) ""
    stands) ?_
  rintro _ later ⟨time, stands⟩
  refine ensures_ask (stable_stands steady_joined) stands (fun _ _ => trivial) ?_
  intro state finished after stands answers
  refine ensures_done (stable_stands steady_released) (finish_stands answers stands) ?_
  rintro last stands _ ⟨rfl⟩
  obtain ⟨world, onward, resting, same⟩ := stands.frame
  exact ⟨⟨world, onward, .inr ⟨rfl, resting, same⟩⟩, stands.receives,
    stands.events ▸ .unstarted time valid⟩

theorem submit_declines (reachable : before.Reachable policy) (request : Request)
    (stands : desk.Stands (Level policy before) []) :
    Declines policy before (.update request) ((Demand.submit request).program policy) desk := by
  cases checked : request.check with
  | error error =>
      simp only [Demand.program, Admission.submit, checked, Agent.log, Agent.device, bind_eq,
        ask_bind, done_bind, pure_eq_done]
      exact log_declines steady_level _ stands fun later stands =>
        level_declines (.invalid checked) stands
  | ok value =>
      simp only [Demand.program, Admission.submit, checked, discard_eq_bind, Agent.join, Agent.slot,
        Agent.shared, Agent.log, Agent.device, bind_eq, ask_bind, done_bind, pure_eq_done]
      refine ensures_ask (stable_stands steady_level) stands (fun _ _ => trivial) ?_
      intro state started after stands answers
      cases started with
      | false =>
          simp only [Bool.false_eq_true, if_false, ask_bind, Program.bind_assoc, done_bind]
          exact failure_declines _ request.uuid _ "" (.busy · checked)
            (slot_refused answers rfl stands)
      | true =>
          have stands := start_stands reachable answers rfl stands
          refine ensures_ask (stable_stands steady_taken) stands (fun _ _ => trivial) ?_
          intro state left after stands answers
          have stands := join_stands answers stands
          refine ensures_ask (stable_stands steady_joined) stands (fun _ _ => trivial) ?_
          intro state created after stands answers
          cases created with
          | ok value => exact declines_of_always ⟨trivial, fun _ => ⟨trivial, fun _ => by simp⟩⟩
          | error error =>
              simp only [ask_bind, Program.bind_assoc, done_bind]
              exact unstarted_declines checked _ (startThread_stands answers stands)

theorem command_declines (reachable : before.Reachable policy) (command : Command)
    (stands : desk.Stands (Level policy before) []) :
    Declines policy before command.errand ((Demand.command command).program policy) desk := by
  obtain ⟨uuid, url, operation⟩ := command
  cases uuid with
  | none =>
      exact log_declines steady_level _ stands fun _ stands => level_declines .incomplete stands
  | some uuid =>
      cases operation with
      | none =>
          exact log_declines steady_level _ stands fun _ stands =>
            level_declines .incomplete stands
      | some operation =>
          simp only [Command.errand, Demand.program, Admission.command]
          cases Operation.ofText? operation with
          | none =>
              simp only [Agent.log, Agent.device, bind_eq, ask_bind, done_bind, pure_eq_done,
                Program.bind_assoc]
              exact failure_declines _ uuid _ "" .unknown stands
          | some named =>
              cases named with
              | update => exact submit_declines reachable _ stands
              | cancel => exact cancel_declines uuid stands

theorem payload_declines (reachable : before.Reachable policy) (payload : Bytes)
    (stands : desk.Stands (Level policy before) []) :
    Declines policy before
      (((Json.parse? payload).bind Command.ofJson?).elim .malformed Command.errand)
      ((Demand.payload payload).program policy) desk := by
  simp only [Demand.program, Admission.payload]
  cases (Json.parse? payload).bind Command.ofJson? with
  | none =>
      exact log_declines steady_level _ stands fun _ stands => level_declines .malformed stands
  | some command => exact command_declines reachable command stands

end Refusing

theorem stands_opening (vacant : before.process.client = none) :
    (opening before).Stands (Level policy before) [] :=
  ⟨vacant, ⟨before, .refl vacant, rfl⟩, rfl, nofun⟩

end Desk

/-- Whoever demands something and is answered with an error has changed nothing, at whatever point
of an installation it came, has asked for nothing beyond the desk, and one event has told of it, or
none, by what was demanded and why it was refused. -/
theorem refused_unchanged (policy : Policy) (before : Station) (reachable : before.Reachable policy)
    (vacant : before.process.client = none) (demand : Demand) (error : UpdateError) (last : Desk)
    (leads : (Desk.surroundings policy).Leads (demand.program policy, .opening before)
      (.done (.admission (.error error)), last)) :
    ∃ errand, demand.errand? = some errand ∧ Declined policy before errand error last := by
  have stands : (Desk.opening before).Stands (Desk.Level policy before) [] :=
    Desk.stands_opening vacant
  have declined {errand : Errand}
      (declines : Desk.Declines policy before errand (demand.program policy) (.opening before)) :
      Declined policy before errand error last :=
    (ensures_leads leads declines).ended error rfl
  -- Recovering and waiting have answers of their own.
  have unrefused
      (always : (demand.program policy).Always (fun _ => True)
        fun answer => ∀ error, answer ≠ .admission (.error error)) : False :=
    (ensures_leads leads (Desk.ensures_unrefused always)).ended error rfl
  cases demand with
  | submit request => exact ⟨_, rfl, declined (Desk.submit_declines reachable request stands)⟩
  | cancel uuid => exact ⟨_, rfl, declined (Desk.cancel_declines uuid stands)⟩
  | command command => exact ⟨_, rfl, declined (Desk.command_declines reachable command stands)⟩
  | payload payload => exact ⟨_, rfl, declined (Desk.payload_declines reachable payload stands)⟩
  | recover => exact (unrefused (always_bind (always_trivial _) fun _ _ => by simp)).elim
  | wait => exact (unrefused (always_bind (always_trivial _) fun _ _ => by simp)).elim

namespace Station

def sampleBusy : Station where
  process := {
    session := ⟨.running, .empty, some (.running (Session.installation .standard .sample))⟩
    client := none
    admitted := 1
    launched := 0
    existing := [0]
    strays := [] }
  settings := .empty
  request := some .sample
  history := []

theorem reachable_sampleBusy : sampleBusy.Reachable .standard := by
  have demanded : Leads .standard (opening .empty) _ := .single (.demand (.submit .sample) rfl)
  have started : Leads .standard (opening .empty) _ :=
    demanded.tail (.client rfl (.shared (.slot .start)) rfl)
  have joined : Leads .standard (opening .empty) _ :=
    started.tail (.client rfl (.nothing rfl) rfl)
  have created : Leads .standard (opening .empty) _ :=
    joined.tail (.client rfl (.device (.startThread _) (.ok ())) rfl)
  have launched : Leads .standard (opening .empty) _ :=
    created.tail (.client rfl (.shared (.launch _ _)) rfl)
  have logged : Leads .standard (opening .empty) _ :=
    launched.tail (.client rfl (.device (.log _) ()) rfl)
  exact ⟨.empty, logged.tail (.answer rfl)⟩

end Station

/-- The installation at work makes its first call while another one is refused, and the channel is
down. -/
theorem refused_unchanged_busy :
    ∃ last : Desk, last.stirred = 1 ∧
      (Desk.surroundings .standard).Leads
        ((Demand.submit .sample).program .standard, .opening .sampleBusy)
        (.done (.admission (.error .alreadyInProgress)), last) ∧
      ∃ errand, (Demand.submit .sample).errand? = some errand ∧
        Declined .standard .sampleBusy errand .alreadyInProgress last := by
  have worked : (Desk.surroundings .standard).Moves (.opening .sampleBusy) ⟨_, [], 1⟩ :=
    ⟨.tail (.refl rfl) (.thread rfl (.device .now 0) rfl) rfl, rfl, rfl⟩
  have refused : (Desk.surroundings .standard).Leads
      ((Demand.submit .sample).program .standard, .opening .sampleBusy)
      (.done (.admission (.error .alreadyInProgress)), ⟨_, _, 1⟩) :=
    .head (.move worked) <|
    .head (.answer ⟨_, _, .shared (.slot .start), rfl, rfl⟩) <|
    .head (.answer ⟨_, _, .device (.log _) (), rfl, rfl⟩) <|
    .head (.answer ⟨_, _, .device .now 0, rfl, rfl⟩) <|
    .head (.answer ⟨_, _, .shared (.notify .failed), rfl, rfl⟩) <|
    .head (.answer ⟨_, _, .device (.publish _) (.error (.other "down")), rfl, rfl⟩) <|
    .head (.answer ⟨_, _, .device (.log _) (), rfl, rfl⟩) .refl
  exact ⟨_, rfl, refused, refused_unchanged .standard .sampleBusy Station.reachable_sampleBusy rfl
    _ _ _ refused⟩

end DualBank
