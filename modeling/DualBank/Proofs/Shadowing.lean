import DualBank.Proofs.Desk

/-! Two runs of a station side by side, one of which got a cancel that nobody asked for in the
other. The slot is all that keeps it, so the runs go on alike until a thread looks at the slot:
every step of the one is matched by the other, which lets its own client finish first where it has
to. -/

namespace DualBank

open Program Agent.Call

/-- What is seen of a run: what clients demand, and what the threads ask for and are answered. A
panic is seen by what its thread asks for next. -/
inductive Mark where
  | demand (demand : Demand)
  | exchange (call : Agent.Call) (reply : Agent.Reply call)

abbrev Mark.stop : Mark :=
  .exchange (.shared (.slot .isRunning)) false

namespace Station

def asked (station : Station) (policy : Policy) (demand : Demand) : Station :=
  station.serving ⟨demand, demand.program policy, none⟩

structure Silent (before after : Station) : Prop where
  client : before.process.client = none → after.process.client = none
  history : ∀ call reply, after.history ≠ before.history ++ [.exchange call reply]

inductive Shows (policy : Policy) : Station → List Mark → Station → Prop
  | demand {station : Station} (demand : Demand) : station.process.client = none →
      Shows policy station [.demand demand] (station.asked policy demand)
  | thread {before after call reply} : Step policy before after →
      after.history = before.history ++ [.exchange call reply] →
      Shows policy before [.exchange call reply] after
  | silent {before after} : Step policy before after → Silent before after →
      Shows policy before [] after

inductive Runs (policy : Policy) : Station → List Mark → Station → Prop
  | refl {station} : Runs policy station [] station
  | tail {before marks between more after} : Runs policy before marks between →
      Shows policy between more after → Runs policy before (marks ++ more) after

variable {policy : Policy} {before between after : Station} {marks more : List Mark}

theorem Shows.step (shows : Shows policy before marks after) : Step policy before after := by
  cases shows with
  | demand demand vacant => exact .demand demand vacant
  | thread step _ => exact step
  | silent step _ => exact step

theorem heard_ne {call : Agent.Call} {reply : Agent.Reply call} {history : List Happening}
    (other : Agent.Call) (answer : Agent.Reply other) :
    call.heard reply history ≠ history ++ [.exchange other answer] := by
  unfold heard
  split <;> simp

theorem Shows.client {demand : Demand} {call : Agent.Call} {next : Agent.Reply call → Agent Answer}
    {met : Option (List Nat)} {reply : Agent.Reply call} {session : Session}
    {settings : SettingsTable}
    (demanding : before.process.client = some ⟨demand, .ask call next, met⟩)
    (answers : before.process.session.Answers call reply session)
    (affects : call.Affects before.settings reply settings) :
    Shows policy before []
      ((Desk.answered (.opening before) call reply session settings).station.serving
        ⟨demand, next reply, before.process.look met call⟩) := by
  refine .silent (.client demanding answers affects) ⟨fun vacant => ?_, heard_ne⟩
  exact absurd (vacant.symm.trans demanding) (by simp)

theorem exists_shows (step : Step policy before after) :
    ∃ marks, Shows policy before marks after := by
  cases step with
  | demand demand vacant => exact ⟨_, .demand demand vacant⟩
  | answer demanding => exact ⟨_, .silent (.answer demanding) ⟨fun _ => rfl, by simp⟩⟩
  | client demanding answers affects => exact ⟨_, .client demanding answers affects⟩
  | clientPanic demanding answered =>
      exact ⟨_, .silent (.clientPanic demanding answered) ⟨fun _ => rfl, by simp⟩⟩
  | thread running answers affects => exact ⟨_, .thread (.thread running answers affects) rfl⟩
  | threadEnd running => exact ⟨_, .silent (.threadEnd running) ⟨id, by simp⟩⟩
  | threadPanic running answered =>
      exact ⟨_, .silent (.threadPanic running answered) ⟨id, by simp⟩⟩
  | stray found answers affects =>
      refine ⟨_, .silent (.stray found answers affects) ⟨?_, by simp⟩⟩
      exact (client_tally _).trans

/-- Nothing that can happen is left out. -/
theorem leads_iff_runs : Leads policy before after ↔ ∃ marks, Runs policy before marks after := by
  constructor
  · intro leads
    induction leads with
    | refl => exact ⟨_, .refl⟩
    | tail _ step ih =>
        obtain ⟨marks, runs⟩ := ih
        obtain ⟨more, shows⟩ := exists_shows step
        exact ⟨_, runs.tail shows⟩
  · rintro ⟨marks, runs⟩
    induction runs with
    | refl => exact .refl
    | tail _ shows ih => exact ih.tail shows.step

theorem Runs.single (shows : Shows policy before marks after) : Runs policy before marks after :=
  Runs.refl.tail shows

theorem Runs.trans (first : Runs policy before marks between)
    (second : Runs policy between more after) : Runs policy before (marks ++ more) after := by
  induction second with
  | refl => rwa [List.append_nil]
  | tail _ shows ih =>
      rw [← List.append_assoc]
      exact ih.tail shows

theorem orderly_runs (orderly : before.process.Orderly policy)
    (runs : Runs policy before marks after) : after.process.Orderly policy := by
  induction runs with
  | refl => exact orderly
  | tail _ shows ih => exact orderly_step (process_step shows.step) ih

end Station

def Slot.Operation.Discerns : Slot.Operation → Prop
  | .cancel | .isRunning => True
  | _ => False

def Agent.Call.Discerns : Agent.Call → Prop
  | .shared (.slot operation) => operation.Discerns
  | _ => False

def Slot.Near (alone : Prop) (one other : Slot) : Prop :=
  one = other ∨ alone ∧ one = .canceling ∧ other = .running

namespace Backdrop

structure Near (alone : Prop) (one other : Backdrop) : Prop where
  slot : one.slot.Near alone other.slot
  rest : { one with slot := other.slot } = other

abbrev Shadows (one other : Backdrop) : Prop :=
  one.Near True other

variable {alone : Prop} {one other : Backdrop}

theorem Near.shadows (near : one.Near alone other) : one.Shadows other :=
  ⟨near.slot.imp_right fun canceled => ⟨trivial, canceled.2⟩, near.rest⟩

theorem Near.level (near : one.Near False other) : one = other := by
  rcases near.slot with same | ⟨impossible, _⟩
  · rw [← near.rest, ← same]
  · exact impossible.elim

theorem Near.withThread (near : one.Near alone other) (thread : Option Thread) :
    { one with thread := thread }.Near alone { other with thread := thread } :=
  ⟨near.slot, by rw [← near.rest]⟩

theorem Near.withSettings (near : one.Near alone other) (settings : SettingsTable) :
    { one with settings := settings }.Near alone { other with settings := settings } :=
  ⟨near.slot, by rw [← near.rest]⟩

theorem Near.withSlot (near : one.Near alone other) {slot twin : Slot}
    (slots : slot.Near alone twin) :
    { one with slot := slot }.Near alone { other with slot := twin } :=
  ⟨slots, by rw [← near.rest]⟩

theorem Near.withRequest (near : one.Near alone other)
    (change : Option Request → Option Request) :
    { one with request := change one.request }.Near alone
      { other with request := change other.request } :=
  ⟨near.slot, by rw [← near.rest]⟩

end Backdrop

section Slots

variable {alone : Prop} {one other : Slot}

theorem Slot.apply_near {operation : Slot.Operation} (near : one.Near alone other)
    (alike : ¬ operation.Discerns ∨ one = other) :
    (one.apply operation).1 = (other.apply operation).1 ∧
      (one.apply operation).2.Near alone (other.apply operation).2 := by
  rcases near with rfl | ⟨holds, rfl, rfl⟩
  · exact ⟨rfl, .inl rfl⟩
  · rcases alike with blind | impossible
    · cases operation with
      | cancel => exact absurd trivial blind
      | isRunning => exact absurd trivial blind
      | start => exact ⟨rfl, .inr ⟨holds, rfl, rfl⟩⟩
      | isBusy => exact ⟨rfl, .inr ⟨holds, rfl, rfl⟩⟩
      | finish => exact ⟨rfl, .inl rfl⟩
    · cases impossible

/-- Two cancels leave two slots the same. -/
theorem Slot.cancel_near (near : one.Near alone other) :
    (one.apply .cancel).2 = (other.apply .cancel).2 := by
  rcases near with rfl | ⟨_, rfl, rfl⟩ <;> rfl

theorem Slot.cancel_alone (near : one.Near alone other) (holds : alone) :
    (one.apply .cancel).2.Near alone other := by
  rcases near with rfl | ⟨_, rfl, rfl⟩
  · cases one with
    | running => exact .inr ⟨holds, rfl, rfl⟩
    | idle => exact .inl rfl
    | canceling => exact .inl rfl
  · exact .inr ⟨holds, rfl, rfl⟩

end Slots

namespace Station

variable {alone : Prop} {one other : Station}

def called (station : Station) (number : Nat) (call : Agent.Call) (reply : Agent.Reply call)
    (session : Session) (settings : SettingsTable) : Station :=
  { station with
    process := { station.process.tally number call reply with session := session }
    settings := settings }

theorem called_near {call : Agent.Call} {reply : Agent.Reply call} {session : Session}
    (near : one.backdrop.Near alone other.backdrop)
    (alike : ¬ call.Discerns ∨ one.process.session.slot = other.process.session.slot)
    (answers : one.process.session.Answers call reply session) (number : Nat)
    (settings : SettingsTable) :
    ∃ later, other.process.session.Answers call reply later ∧
      (one.called number call reply session settings).backdrop.Near alone
        (other.called number call reply later settings).backdrop := by
  obtain ⟨⟨⟨slot, listeners, thread⟩, client, admitted, launched, existing, strays⟩, stored,
    request, history⟩ := one
  obtain ⟨⟨⟨twin, heard, _⟩, absent, _, _, _, _⟩, _, _, past⟩ := other
  obtain ⟨slots, rest⟩ := near
  simp only [backdrop, Backdrop.mk.injEq, true_and] at slots rest alike
  obtain ⟨rfl, rfl, rfl, rfl, rfl, rfl, rfl⟩ := rest
  have tally := @tally_alike ⟨twin, heard, thread⟩ absent
    ⟨⟨slot, listeners, thread⟩, client, admitted, launched, existing, strays⟩ rfl number call reply
  have same {left reached : Session} (slots : left.slot.Near alone reached.slot)
      (threads : left.thread = reached.thread) :
      (called ⟨⟨⟨slot, listeners, thread⟩, client, admitted, launched, existing, strays⟩, stored,
        request, history⟩ number call reply left settings).backdrop.Near alone
      (called ⟨⟨⟨twin, heard, thread⟩, absent, admitted, launched, existing, strays⟩, stored,
        request, past⟩ number call reply reached settings).backdrop := by
    refine ⟨slots, ?_⟩
    simp only [backdrop, called, tally, threads]
  cases answers with
  | device call reply => exact ⟨_, .device call reply, same slots rfl⟩
  | nothing none => exact ⟨_, .nothing none, same slots rfl⟩
  | ended settled => exact ⟨_, .ended settled, same slots rfl⟩
  | shared call =>
      cases call with
      | notify notification => exact ⟨_, .shared _, same slots rfl⟩
      | launch policy request => exact ⟨_, .shared _, same slots rfl⟩
      | slot operation =>
          obtain ⟨replies, slots⟩ := Slot.apply_near slots alike
          have asked : Session.Answers (.shared (.slot operation)) ⟨twin, heard, thread⟩
              (slot.apply operation).1 ⟨(twin.apply operation).2, heard, thread⟩ := by
            rw [replies]
            exact .shared (.slot operation)
          exact ⟨_, asked, same slots rfl⟩

end Station

section Clients

def Client.Quiet (client : Option Client) : Prop :=
  ∀ telling, client = some telling → telling.rest.Always Tells fun _ => True

def Agent.Cancels (rest : Agent Answer) : Prop :=
  ∃ next, rest = .ask (.shared (.slot .cancel)) next ∧
    ∀ accepted, (next accepted).Always Tells fun _ => True

theorem Client.quiet_none : Client.Quiet none := by
  rintro telling ⟨⟩

theorem Client.quiet_some {client : Client} (tells : client.rest.Always Tells fun _ => True) :
    Client.Quiet (some client) := by
  rintro _ ⟨rfl⟩
  exact tells

inductive Client.Paired (alone : Prop) : Option Client → Option Client → Prop
  | same {client} : Paired alone client client
  | quiet {one other} : Quiet one → Quiet other → Paired alone one other
  | cancel {one other : Client} : one.rest.Cancels → other.rest.Cancels →
      Paired alone (some one) (some other)
  | lone {one : Client} {other : Option Client} : alone → one.rest.Cancels → Quiet other →
      Paired alone (some one) other

theorem Client.Paired.quiet_of_none {alone : Prop} {other : Option Client}
    (paired : Paired alone none other) : Quiet other := by
  cases paired with
  | same => exact quiet_none
  | quiet _ quiet => exact quiet

end Clients

section Discerning

variable {policy : Policy} {process : Process} {call : Agent.Call}

theorem not_discerns_of_apart (apart : call.Apart) : ¬ call.Discerns := by
  unfold Apart at apart
  split at apart
  · exact id
  · exact id
  · contradiction

theorem cancels_of_outside {next : Agent.Reply call → Agent Answer}
    (outside : Agent.Outside (.ask call next)) (discerns : call.Discerns) :
    Agent.Cancels (.ask call next) := by
  cases outside with
  | tells tells => exact absurd discerns (not_discerns_of_apart (apart_of_tells tells.1))
  | start _ _ => exact discerns.elim
  | cancel tells => exact ⟨_, rfl, tells⟩
  | busy _ _ => exact discerns.elim
  | join _ => exact discerns.elim

/-- Of all clients only those that cancel ask for what the slot can tell of a cancel. -/
theorem cancels_of_discerns {demand : Demand} {next : Agent.Reply call → Agent Answer}
    {met : Option (List Nat)} (orderly : process.Orderly policy)
    (demanding : process.client = some ⟨demand, .ask call next, met⟩) (discerns : call.Discerns) :
    Agent.Cancels (.ask call next) := by
  rcases orderly.mode with free | opening | busy
  · rcases free.client _ demanding with outside | apart
    · exact cancels_of_outside outside discerns
    · exact absurd discerns (not_discerns_of_apart apart.1)
  · obtain ⟨client, same, rest⟩ := opening.client
    obtain rfl := Option.some.inj (demanding.symm.trans same)
    rcases rest with admitting | ⟨rfl, _⟩ | ⟨tells, _⟩
    · cases admitting <;> exact discerns.elim
    · exact discerns.elim
    · exact absurd discerns (not_discerns_of_apart (apart_of_tells tells))
  · exact cancels_of_outside (busy.outside demanding) discerns

theorem looks_of_discerns {next : Agent.Reply call → Agent (Option Outcome)}
    (orderly : process.Orderly policy)
    (running : process.session.thread = some (.running (.ask call next)))
    (discerns : call.Discerns) : call = .shared (.slot .isRunning) := by
  rcases orderly.mode with free | opening | busy
  · exact absurd running (free.spent _ _)
  · exact absurd running (opening.spent _ _)
  · rcases busy.work with spent | ⟨_, rest, same, closes⟩
    · exact absurd running (spent _ _)
    · obtain rfl : rest = .ask call next := by simpa [same] using running
      rcases closes with ⟨rfl, _⟩ | ⟨apart | looks, _⟩
      · exact discerns.elim
      · exact absurd discerns (not_discerns_of_apart apart)
      · exact looks

end Discerning

namespace Station

structure Beside (alone : Prop) (one other : Station) : Prop where
  near : one.backdrop.Near alone other.backdrop
  clients : Client.Paired alone one.process.client other.process.client

section Quiet

variable {policy : Policy} {station later : Station} {call : Agent.Call} {demand : Demand}
  {next : Agent.Reply call → Agent Answer} {met : Option (List Nat)} {reply : Agent.Reply call}
  {session : Session} {settings : SettingsTable}

theorem backdrop_told (tells : call.Tells)
    (answers : station.process.session.Answers call reply session)
    (affects : call.Affects station.settings reply settings) :
    (Desk.answered (.opening station) call reply session settings).station.backdrop =
      station.backdrop :=
  (@Desk.backdrop_of_tells .standard call reply _ _ tells
    ⟨session, settings, answers, affects, rfl⟩).1

theorem silent_client (policy : Policy)
    (demanding : station.process.client = some ⟨demand, .ask call next, met⟩)
    (answers : station.process.session.Answers call reply session)
    (affects : call.Affects station.settings reply settings) :
    ∃ later, Shows policy station [] later ∧
      later.process.client = some ⟨demand, next reply, station.process.look met call⟩ ∧
      later.backdrop =
        (Desk.answered (.opening station) call reply session settings).station.backdrop :=
  ⟨_, .client demanding answers affects, rfl, rfl⟩

theorem exists_answers (tells : call.Tells) (station : Station) :
    ∃ reply session, station.process.session.Answers call reply session ∧
      call.Affects station.settings reply station.settings := by
  unfold Tells at tells
  split at tells
  · exact ⟨_, _, .device .now 0, rfl⟩
  · exact ⟨_, _, .device (.log _) (), rfl⟩
  · exact ⟨_, _, .device (.publish _) (.ok ()), rfl⟩
  · exact ⟨_, _, .shared (.notify _), rfl⟩
  · contradiction

theorem exists_vacant (policy : Policy) (quiet : Client.Quiet station.process.client) :
    ∃ later, Runs policy station [] later ∧ later.process.client = none ∧
      later.backdrop = station.backdrop := by
  cases demanding : station.process.client with
  | none => exact ⟨station, .refl, demanding, rfl⟩
  | some client =>
      obtain ⟨demand, rest, met⟩ := client
      have tells := quiet _ demanding
      clear quiet
      induction rest generalizing station met with
      | done answer =>
          exact ⟨_, .single (.silent (.answer demanding) ⟨fun _ => rfl, by simp⟩), rfl, rfl⟩
      | ask call next ih =>
          obtain ⟨reply, session, answers, affects⟩ := exists_answers tells.1 station
          obtain ⟨between, shows, onward, same⟩ := silent_client policy demanding answers affects
          obtain ⟨later, runs, vacant, still⟩ := ih reply _ onward (tells.2 reply)
          refine ⟨later, (Runs.single shows).trans runs, vacant, ?_⟩
          rw [still, same, backdrop_told tells.1 answers affects]

end Quiet

section Matching

variable {policy : Policy} {alone : Prop} {one other between later : Station}
  {marks more : List Mark}

theorem exchange_cases {call : Agent.Call} {reply : Agent.Reply call} (step : Step policy one later)
    (told : later.history = one.history ++ [.exchange call reply]) :
    ∃ next session settings, one.process.session.thread = some (.running (.ask call next)) ∧
      one.process.session.Answers call reply session ∧ call.Affects one.settings reply settings ∧
      later.process.client = one.process.client ∧
      later.backdrop = { (one.called one.process.launched call reply session settings).backdrop with
        thread := some (.running (next reply)) } := by
  cases step with
  | thread running answers affects =>
      simp only [List.append_cancel_left_eq, List.cons.injEq, Happening.exchange.injEq,
        and_true] at told
      obtain ⟨rfl, same⟩ := told
      cases same
      exact ⟨_, _, _, running, answers, affects, client_tally _, rfl⟩
  | client _ _ _ => exact absurd told (heard_ne _ _)
  | _ => simp at told

theorem beside_thread {call : Agent.Call} {reply : Agent.Reply call}
    (orderly : one.process.Orderly policy) (beside : Beside alone one other)
    (step : Step policy one later) (told : later.history = one.history ++ [.exchange call reply]) :
    (∃ last, Shows policy other [.exchange call reply] last ∧ Beside alone later last) ∨
      alone ∧ other.process.session.slot = .running ∧ Mark.exchange call reply = .stop := by
  obtain ⟨next, session, settings, running, answers, affects, client, same⟩ :=
    exchange_cases step told
  have matched (alike : ¬ call.Discerns ∨
      one.process.session.slot = other.process.session.slot) :
      ∃ last, Shows policy other [.exchange call reply] last ∧ Beside alone later last := by
    obtain ⟨reached, answered, near⟩ :=
      called_near beside.near alike answers one.process.launched settings
    have rest := beside.near.rest
    have thread : one.process.session.thread = other.process.session.thread :=
      congrArg Backdrop.thread rest
    have stored : one.settings = other.settings := congrArg Backdrop.settings rest
    have launched : one.process.launched = other.process.launched :=
      congrArg Backdrop.launched rest
    refine ⟨_, .thread (.thread (thread.symm.trans running) answered (stored ▸ affects)) rfl,
      ?_, ?_⟩
    · rw [same]
      rw [launched] at near ⊢
      exact near.withThread _
    · rw [client]
      exact (client_tally _).symm ▸ beside.clients
  -- Only a look tells the slots apart, and only while the one is canceling alone.
  by_cases discerns : call.Discerns
  · rcases beside.near.slot with level | ⟨holds, canceling, free⟩
    · exact .inl (matched (.inr level))
    · obtain rfl := looks_of_discerns orderly running discerns
      cases answers
      have told : (one.process.session.slot.apply .isRunning).1 = false := by
        rw [show one.process.session.slot = .canceling from canceling]
        rfl
      exact .inr ⟨holds, free, congrArg (Mark.exchange (.shared (.slot .isRunning))) told⟩
  · exact .inl (matched (.inl discerns))

theorem cancel_called {call : Agent.Call} {next : Agent.Reply call → Agent Answer}
    {reply : Agent.Reply call} {session : Session} {settings : SettingsTable}
    (cancels : Agent.Cancels (.ask call next))
    (answers : one.process.session.Answers call reply session)
    (affects : call.Affects one.settings reply settings) :
    (next reply).Always Tells (fun _ => True) ∧
      (Desk.answered (.opening one) call reply session settings).station.backdrop =
        { one.backdrop with slot := (one.process.session.slot.apply .cancel).2 } := by
  obtain ⟨onward, asks, tells⟩ := cancels
  cases asks
  cases answers
  obtain rfl : settings = one.settings := affects
  exact ⟨tells _, rfl⟩

theorem exists_cancel (policy : Policy) {client : Client}
    (demanding : other.process.client = some client) (cancels : client.rest.Cancels) :
    ∃ later, Shows policy other [] later ∧ Client.Quiet later.process.client ∧
      later.backdrop =
        { other.backdrop with slot := (other.process.session.slot.apply .cancel).2 } := by
  obtain ⟨demand, rest, met⟩ := client
  obtain ⟨next, rfl, tells⟩ := cancels
  obtain ⟨later, shows, onward, same⟩ := silent_client policy demanding (.shared _) rfl
  obtain ⟨quiet, left⟩ := cancel_called ⟨next, rfl, tells⟩ (.shared (.slot .cancel)) rfl
  refine ⟨later, shows, ?_, same.trans left⟩
  rw [onward]
  exact Client.quiet_some quiet

section Client

variable {demand : Demand} {call : Agent.Call} {next : Agent.Reply call → Agent Answer}
  {met : Option (List Nat)} {reply : Agent.Reply call} {session : Session}
  {settings : SettingsTable}

theorem exists_called (policy : Policy) (near : one.backdrop.Near alone other.backdrop)
    (blind : ¬ call.Discerns)
    (demanding : other.process.client = some ⟨demand, .ask call next, met⟩)
    (answers : one.process.session.Answers call reply session)
    (affects : call.Affects one.settings reply settings) :
    ∃ last, Shows policy other [] last ∧
      last.process.client = some ⟨demand, next reply, one.process.look met call⟩ ∧
      (Desk.answered (.opening one) call reply session settings).station.backdrop.Near alone
        last.backdrop := by
  have stored : one.settings = other.settings := congrArg Backdrop.settings near.rest
  have existing : one.process.existing = other.process.existing :=
    congrArg Backdrop.existing near.rest
  have latest : one.process.latest = other.process.latest :=
    congrArg (fun backdrop => backdrop.admitted - 1) near.rest
  have met : one.process.look met call = other.process.look met call := by
    unfold Process.look
    rw [existing]
  obtain ⟨reached, answered, called⟩ :=
    called_near near (.inl blind) answers one.process.latest settings
  obtain ⟨last, shows, going, still⟩ :=
    silent_client policy demanding answered (stored ▸ affects)
  refine ⟨last, shows, met ▸ going, ?_⟩
  have called : (one.called one.process.latest call reply session settings).backdrop.Near alone
      (other.called other.process.latest call reply reached settings).backdrop := by
    rw [← latest]
    exact called
  rw [still]
  exact called.withRequest call.launches

theorem beside_client (orderly : one.process.Orderly policy) (beside : Beside alone one other)
    (demanding : one.process.client = some ⟨demand, .ask call next, met⟩)
    (answers : one.process.session.Answers call reply session)
    (affects : call.Affects one.settings reply settings)
    (same : later.backdrop =
      (Desk.answered (.opening one) call reply session settings).station.backdrop)
    (onward : later.process.client = some ⟨demand, next reply, one.process.look met call⟩) :
    ∃ last, Runs policy other [] last ∧ Beside alone later last := by
  obtain ⟨near, clients⟩ := beside
  rw [demanding] at clients
  generalize absent : other.process.client = twin at clients
  -- Where both cancel, their slots are level again.
  have both {client : Client} (cancels : Agent.Cancels (.ask call next))
      (absent : other.process.client = some client) (twin : client.rest.Cancels) :
      ∃ last, Runs policy other [] last ∧ Beside alone later last := by
    obtain ⟨tells, left⟩ := cancel_called cancels answers affects
    obtain ⟨last, shows, still, reached⟩ := exists_cancel policy absent twin
    refine ⟨last, .single shows, ?_, .quiet ?_ still⟩
    · rw [same, left, reached]
      exact near.withSlot (.inl (Slot.cancel_near near.slot))
    · rw [onward]
      exact Client.quiet_some tells
  cases clients with
  | same =>
      by_cases discerns : call.Discerns
      · have cancels := cancels_of_discerns orderly demanding discerns
        exact both cancels absent cancels
      · obtain ⟨last, shows, going, still⟩ :=
          exists_called policy near discerns absent answers affects
        refine ⟨last, .single shows, ?_, ?_⟩
        · rw [same]
          exact still
        · rw [onward, going]
          exact .same
  | quiet tells quiet =>
      have tells := tells _ rfl
      refine ⟨other, .refl, ?_, .quiet ?_ (absent ▸ quiet)⟩
      · rw [same, backdrop_told tells.1 answers affects]
        exact near
      · rw [onward]
        exact Client.quiet_some (tells.2 reply)
  | cancel cancels twin => exact both cancels absent twin
  | lone holds cancels quiet =>
      obtain ⟨tells, left⟩ := cancel_called cancels answers affects
      refine ⟨other, .refl, ?_, .quiet ?_ (absent ▸ quiet)⟩
      · rw [same, left]
        exact near.withSlot (Slot.cancel_alone near.slot holds)
      · rw [onward]
        exact Client.quiet_some tells

end Client

theorem beside_silent (orderly : one.process.Orderly policy) (beside : Beside alone one other)
    (step : Step policy one later) (silent : Silent one later) :
    ∃ last, Runs policy other [] last ∧ Beside alone later last := by
  obtain ⟨near, clients⟩ := beside
  have thread : one.process.session.thread = other.process.session.thread :=
    congrArg Backdrop.thread near.rest
  have stored : one.settings = other.settings := congrArg Backdrop.settings near.rest
  cases step with
  | demand demand vacant => exact absurd (silent.client vacant) (by simp)
  | thread _ _ _ => exact absurd rfl (silent.history _ _)
  | stray found _ _ => simp [orderly.strays] at found
  | threadEnd running =>
      exact ⟨_, .single (.silent (.threadEnd (thread.symm.trans running)) ⟨id, by simp⟩),
        near.withThread _, clients⟩
  | threadPanic running answered =>
      refine ⟨_, .single (.silent (.threadPanic (thread.symm.trans running) (stored ▸ answered))
        ⟨id, by simp⟩), ?_, clients⟩
      exact (near.withThread _).withSettings _
  | answer demanding =>
      rw [demanding] at clients
      generalize absent : other.process.client = twin at clients
      cases clients with
      | same =>
          exact ⟨_, .single (.silent (.answer absent) ⟨fun _ => rfl, by simp⟩), near, .same⟩
      | quiet _ quiet => exact ⟨other, .refl, near, .quiet Client.quiet_none (absent ▸ quiet)⟩
      | cancel cancels _ => exact absurd cancels (by simp [Agent.Cancels])
      | lone _ cancels _ => exact absurd cancels (by simp [Agent.Cancels])
  | client demanding answers affects =>
      exact beside_client orderly ⟨near, clients⟩ demanding answers affects rfl rfl
  | clientPanic demanding answered =>
      rw [demanding] at clients
      generalize absent : other.process.client = twin at clients
      cases clients with
      | same =>
          exact ⟨_, .single (.silent (.clientPanic absent (stored ▸ answered))
            ⟨fun _ => rfl, by simp⟩), near.withSettings _, .same⟩
      | quiet tells quiet =>
          have unstored := not_stores_of_untouched (not_touches_of_tells (tells _ rfl).1)
          obtain rfl := Device.Call.settings_of_answered answered unstored
          exact ⟨other, .refl, near, .quiet Client.quiet_none (absent ▸ quiet)⟩
      | cancel cancels _ => exact absurd cancels (by simp [Agent.Cancels])
      | lone _ cancels _ => exact absurd cancels (by simp [Agent.Cancels])

/-- What one station goes through, the other can go through as well, until a thread of the one is
told to stop where a thread of the other is not. -/
theorem beside_shows (orderly : one.process.Orderly policy) (beside : Beside alone one other)
    (shows : Shows policy one marks later) :
    (∃ last, Runs policy other marks last ∧ Beside alone later last) ∨
      alone ∧ other.process.session.slot = .running ∧ marks = [.stop] := by
  cases shows with
  | demand demand vacant =>
      have clients := beside.clients
      rw [vacant] at clients
      -- There is no place for another client before the one that is left has finished.
      obtain ⟨between, runs, free, same⟩ := exists_vacant policy clients.quiet_of_none
      refine .inl ⟨_, runs.tail (.demand demand free), ?_, .same⟩
      change one.backdrop.Near alone between.backdrop
      rw [same]
      exact beside.near
  | thread step told =>
      rcases beside_thread orderly beside step told with
        ⟨last, shows, still⟩ | ⟨holds, free, stop⟩
      · exact .inl ⟨last, .single shows, still⟩
      · exact .inr ⟨holds, free, congrArg (fun mark => [mark]) stop⟩
  | silent step silent => exact .inl (beside_silent orderly beside step silent)

/-- Both runs go on alike up to a look at the slot; there the one is told to stop, while in the
other the slot is still running. -/
inductive Parts (policy : Policy) (one other : Station) : List Mark → Station → Prop
  | look {earlier rest mid looked later twin} : Runs policy one earlier mid →
      Shows policy mid [.stop] looked → Runs policy looked rest later →
      Runs policy other earlier twin → mid.backdrop.Shadows twin.backdrop →
      twin.process.session.slot = .running →
      Parts policy one other (earlier ++ .stop :: rest) later

theorem Parts.tail (parts : Parts policy one other marks between)
    (shows : Shows policy between more later) : Parts policy one other (marks ++ more) later := by
  cases parts with
  | look first stopped onward alike near free =>
      rw [List.append_assoc, List.cons_append]
      exact .look first stopped (onward.tail shows) alike near free

theorem beside_runs (orderly : one.process.Orderly policy) (beside : Beside alone one other)
    (runs : Runs policy one marks later) :
    (∃ last, Runs policy other marks last ∧ Beside alone later last) ∨
      alone ∧ Parts policy one other marks later := by
  induction runs with
  | refl => exact .inl ⟨other, .refl, beside⟩
  | tail runs shows ih =>
      rcases ih with ⟨last, alike, still⟩ | ⟨holds, parts⟩
      · rcases beside_shows (orderly_runs orderly runs) still shows with
          ⟨twin, more, near⟩ | ⟨holds, free, rfl⟩
        · exact .inl ⟨twin, alike.trans more, near⟩
        · exact .inr ⟨holds, .look runs shows .refl alike still.near.shadows free⟩
      · exact .inr ⟨holds, parts.tail shows⟩

end Matching

end Station

end DualBank
