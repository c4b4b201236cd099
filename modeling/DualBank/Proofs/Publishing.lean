import DualBank.Bench
import DualBank.Session
import DualBank.Proofs.Notices

/-! Listeners that come and go while events are published, on a device that may fail to send any of
them. -/

namespace DualBank

open Program

namespace Listeners

variable {listeners : Listeners} {id : Nat}

def IsFresh (listeners : Listeners) : Prop :=
  ∀ listener ∈ listeners.entries, listener.id < listeners.nextId

theorem inbox?_of_isFresh (fresh : listeners.IsFresh) (unknown : listeners.nextId ≤ id) :
    listeners.inbox? id = none := by
  rw [inbox?, Option.map_eq_none_iff, List.find?_eq_none]
  intro listener inside
  have known := fresh listener inside
  simp only [Bool.and_eq_true, decide_eq_true_eq, not_and]
  omega

theorem inbox?_subscribe (fresh : listeners.IsFresh) :
    listeners.subscribe.2.inbox? id =
      if id = listeners.nextId then some [] else listeners.inbox? id := by
  by_cases same : id = listeners.nextId
  · have absent := inbox?_of_isFresh fresh (Nat.le_of_eq same.symm)
    rw [inbox?, Option.map_eq_none_iff, same] at absent
    simp [inbox?, subscribe, List.find?_append, absent, same]
  · have other : ¬ listeners.nextId = id := fun equal => same equal.symm
    simp [inbox?, subscribe, List.find?_append, same, other]

theorem inbox?_release (other : Nat) :
    (listeners.release other).inbox? id = if id = other then none else listeners.inbox? id := by
  obtain ⟨nextId, entries⟩ := listeners
  simp only [inbox?, release]
  induction entries with
  | nil => simp
  | cons listener rest ih =>
      by_cases released : listener.id = other
      · by_cases same : id = other
        · simpa [List.find?_cons, released, same] using ih
        · have differs : ¬ other = id := fun equal => same equal.symm
          simpa [List.find?_cons, released, same, differs] using ih
      · by_cases found : listener.id = id && listener.held
        · have same : ¬ id = other := by
            rintro rfl
            simp [released] at found
          simp [released, found, same]
        · simpa [List.find?_cons, released, found] using ih

theorem inbox?_notify (notification : Notification) :
    (listeners.notify notification).inbox? id =
      (listeners.inbox? id).map (· ++ [notification]) := by
  obtain ⟨nextId, entries⟩ := listeners
  simp only [inbox?, notify]
  induction entries with
  | nil => rfl
  | cons listener rest ih =>
      by_cases held : listener.held
      · by_cases same : listener.id = id
        · simp [held, same]
        · simpa [List.find?_cons, held, same] using ih
      · simpa [List.find?_cons, held] using ih

def IsPruned (listeners : Listeners) : Prop :=
  ∀ listener ∈ listeners.entries, listener.held = true

theorem isPruned_notify (notification : Notification) :
    (listeners.notify notification).IsPruned := by
  intro listener inside
  obtain ⟨before, kept, rfl⟩ := List.mem_map.1 inside
  exact (List.mem_filter.1 kept).2

end Listeners

structure Publication where
  uuid : String
  phase : Phase
  progress : Int32
  error : Option UpdateError
  message : String

namespace Publication

def announce (publication : Publication) : Agent Unit :=
  Announcement.publish publication.uuid publication.phase publication.progress publication.error
    publication.message

structure Sent (publication : Publication) (event : Event) : Prop where
  uuid : event.requestUuid = publication.uuid
  status : event.status = publication.phase.status
  progress : event.progress.toInt = max 0 (min 100 publication.progress.toInt)
  code : event.code = (publication.error.elim .none UpdateError.statusCode : StatusCode).text
  message : event.message = publication.message

theorem toInt_clamp (progress : Int32) :
    (Event.clamp progress).toInt = max 0 (min 100 progress.toInt) := by
  have zero : (0 : Int32).toInt = 0 := by decide
  have hundred : (100 : Int32).toInt = 100 := by decide
  unfold Event.clamp
  split
  · rename_i low
    rw [Int32.lt_iff_toInt_lt, zero] at low
    omega
  · rename_i low
    rw [Int32.lt_iff_toInt_lt, zero] at low
    split
    · rename_i high
      rw [Int32.lt_iff_toInt_lt, hundred] at high
      omega
    · rename_i high
      rw [Int32.lt_iff_toInt_lt, hundred] at high
      omega

theorem sent_compose (publication : Publication) (time : Int64) :
    publication.Sent (.compose publication.uuid publication.phase publication.progress
      publication.error publication.message time) :=
  ⟨rfl, rfl, toInt_clamp publication.progress, rfl, rfl⟩

end Publication

structure Hall (σ : Type) where
  session : Session
  device : σ
  history : List Happening

namespace Hall

inductive Act where
  | subscribe
  | release (id : Nat)
  | publish (publication : Publication)

namespace Act

def publication? : Act → Option Publication
  | .publish publication => some publication
  | _ => none

def notification? : Act → Option Notification
  | .publish publication => publication.phase.notification?
  | _ => none

def tell (act : Act) (listeners : Listeners) : Listeners :=
  match act with
  | .subscribe => listeners.subscribe.2
  | .release id => listeners.release id
  | .publish publication =>
      match publication.phase.notification? with
      | some notification => listeners.notify notification
      | none => listeners

def tellAll (acts : List Act) (listeners : Listeners) : Listeners :=
  acts.foldl (fun listeners act => act.tell listeners) listeners

end Act

section Acting

variable {σ : Type} (device : (call : Device.Call) → σ → Device.Reply call × σ)

def opening (state : σ) : Hall σ :=
  ⟨.fresh, state, []⟩

def events (hall : Hall σ) : List Event :=
  hall.history.filterMap Happening.event?

def answer : (call : Agent.Call) → Hall σ → Agent.Reply call × Hall σ
  | .device call, hall =>
      ((device call hall.device).1,
        { hall with
          device := (device call hall.device).2
          history := hall.history ++ [.exchange (.device call) (device call hall.device).1] })
  | .shared call, hall =>
      ((hall.session.share call).1, { hall with session := (hall.session.share call).2 })
  | .join, hall => (.nothing, hall)

def withListeners (hall : Hall σ) (listeners : Listeners) : Hall σ :=
  { hall with session := { hall.session with listeners := listeners } }

def act (hall : Hall σ) : Act → Hall σ
  | .subscribe => hall.withListeners hall.session.listeners.subscribe.2
  | .release id => hall.withListeners (hall.session.listeners.release id)
  | .publish publication => (publication.announce.run (answer device) hall).2

def run (acts : List Act) (hall : Hall σ) : Hall σ :=
  acts.foldl (act device) hall

end Acting

section Steps

variable {σ : Type} {device : (call : Device.Call) → σ → Device.Reply call × σ} {hall : Hall σ}

theorem send_run (event : Event) :
    ((Announcement.send event).run (answer device) hall).2.session = hall.session ∧
      ((Announcement.send event).run (answer device) hall).2.events = hall.events ++ [event] := by
  simp only [Announcement.send, Agent.device, Agent.log, bind_eq, ask_bind, done_bind, pure_eq_done,
    Program.run, answer]
  cases (device (.publish event) hall.device).1 with
  | ok value => exact ⟨rfl, by simp [Program.run, events, Happening.event?]⟩
  | error failure => exact ⟨rfl, by simp [Program.run, answer, events, Happening.event?]⟩

theorem notify_run (phase : Phase) :
    ((Announcement.notify phase).run (answer device) hall).2.events = hall.events ∧
      ((Announcement.notify phase).run (answer device) hall).2.session.listeners =
        match phase.notification? with
        | some notification => hall.session.listeners.notify notification
        | none => hall.session.listeners := by
  unfold Announcement.notify
  cases phase.notification? <;> exact ⟨rfl, rfl⟩

variable (device hall)

/-- The listeners are told before anything is sent, so it does not matter to them what the channel
makes of it; and whatever it makes of it, one event was sent. -/
theorem announce_run (publication : Publication) :
    (publication.announce.run (answer device) hall).2.session.listeners =
        (Act.publish publication).tell hall.session.listeners ∧
      ∃ event, publication.Sent event ∧
        (publication.announce.run (answer device) hall).2.events = hall.events ++ [event] := by
  simp only [Publication.announce, Announcement.publish, Agent.device, bind_eq, ask_bind, done_bind,
    Program.run, Program.run_bind]
  refine ⟨?_, _, publication.sent_compose (device .now hall.device).1, ?_⟩
  · rw [(send_run _).1, (notify_run _).2]
    rfl
  · rw [(send_run _).2, (notify_run _).1]
    simp [events, answer, Happening.event?]

theorem act_run (act : Act) : (hall.act device act).session.listeners =
      act.tell hall.session.listeners ∧
    ∃ sent, List.Forall₂ Publication.Sent act.publication?.toList sent ∧
      (hall.act device act).events = hall.events ++ sent := by
  cases act with
  | subscribe => exact ⟨rfl, [], .nil, (List.append_nil _).symm⟩
  | release id => exact ⟨rfl, [], .nil, (List.append_nil _).symm⟩
  | publish publication =>
      obtain ⟨told, event, sent, longer⟩ := announce_run device hall publication
      exact ⟨told, [event], .cons sent .nil, longer⟩

theorem run_acts (acts : List Act) (hall : Hall σ) : (hall.run device acts).session.listeners =
      Act.tellAll acts hall.session.listeners ∧
    ∃ sent, List.Forall₂ Publication.Sent (acts.filterMap Act.publication?) sent ∧
      (hall.run device acts).events = hall.events ++ sent := by
  induction acts generalizing hall with
  | nil => exact ⟨rfl, [], .nil, (List.append_nil _).symm⟩
  | cons act rest ih =>
      obtain ⟨told, first, one, longer⟩ := act_run device hall act
      obtain ⟨others, second, more, whole⟩ := ih (hall.act device act)
      refine ⟨?_, first ++ second, ?_, ?_⟩
      · rw [Act.tellAll, List.foldl_cons, ← told]
        exact others
      · cases act with
        | publish publication => exact List.rel_append one more
        | subscribe => exact List.rel_append one more
        | release id => exact List.rel_append one more
      · rw [← List.append_assoc, ← longer]
        exact whole

end Steps

namespace Act

variable {listeners : Listeners} {id : Nat}

theorem isFresh_tell (act : Act) (fresh : listeners.IsFresh) :
    (act.tell listeners).IsFresh ∧ listeners.nextId ≤ (act.tell listeners).nextId := by
  cases act with
  | subscribe =>
      refine ⟨?_, Nat.le_succ _⟩
      intro listener inside
      rcases List.mem_append.1 inside with before | last
      · exact Nat.lt_succ_of_lt (fresh listener before)
      · rw [List.mem_singleton.1 last]
        exact Nat.lt_succ_self _
  | release id =>
      refine ⟨?_, Nat.le_refl _⟩
      intro listener inside
      obtain ⟨before, there, rfl⟩ := List.mem_map.1 inside
      have known := fresh before there
      split <;> exact known
  | publish publication =>
      simp only [tell]
      cases publication.phase.notification? with
      | none => exact ⟨fresh, Nat.le_refl _⟩
      | some notification =>
          refine ⟨?_, Nat.le_refl _⟩
          intro listener inside
          obtain ⟨before, kept, rfl⟩ := List.mem_map.1 inside
          exact fresh before (List.mem_filter.1 kept).1

theorem tellAll_cons (act : Act) (rest : List Act) (listeners : Listeners) :
    tellAll (act :: rest) listeners = tellAll rest (act.tell listeners) := rfl

theorem tellAll_append (first second : List Act) (listeners : Listeners) :
    tellAll (first ++ second) listeners = tellAll second (tellAll first listeners) :=
  List.foldl_append

/-- What an act makes of an inbox that it does not give up. -/
theorem inbox?_tell {act : Act} (fresh : listeners.IsFresh) (known : id < listeners.nextId)
    (kept : act ≠ .release id) : (act.tell listeners).inbox? id =
      (listeners.inbox? id).map (· ++ act.notification?.toList) := by
  cases act with
  | subscribe =>
      rw [tell, Listeners.inbox?_subscribe fresh, if_neg (Nat.ne_of_lt known)]
      simp [notification?]
  | release other =>
      have differs : id ≠ other := fun same => kept (same ▸ rfl)
      rw [tell, Listeners.inbox?_release, if_neg differs]
      simp [notification?]
  | publish publication =>
      rw [tell, notification?]
      cases publication.phase.notification? with
      | none => simp
      | some notification => exact Listeners.inbox?_notify notification

theorem inbox?_tellAll (acts : List Act) (fresh : listeners.IsFresh) (known : id < listeners.nextId)
    (kept : Act.release id ∉ acts) :
    (tellAll acts listeners).inbox? id =
      (listeners.inbox? id).map (· ++ acts.filterMap notification?) := by
  induction acts generalizing listeners with
  | nil => simp [tellAll]
  | cons act rest ih =>
      simp only [List.mem_cons, not_or] at kept
      obtain ⟨still, later⟩ := isFresh_tell act fresh
      have first := inbox?_tell fresh known (Ne.symm kept.1)
      rw [tellAll_cons, ih still (Nat.lt_of_lt_of_le known later) kept.2, first, Option.map_map]
      congr 1
      funext inbox
      cases heard : act.notification? <;> simp [heard]

theorem inbox?_tellAll_of_none (acts : List Act) (fresh : listeners.IsFresh)
    (known : id < listeners.nextId) (gone : listeners.inbox? id = none) :
    (tellAll acts listeners).inbox? id = none := by
  induction acts generalizing listeners with
  | nil => exact gone
  | cons act rest ih =>
      obtain ⟨still, later⟩ := isFresh_tell act fresh
      refine ih still (Nat.lt_of_lt_of_le known later) ?_
      by_cases released : act = .release id
      · simp only [released, tell, Listeners.inbox?_release, if_true]
      · rw [inbox?_tell fresh known released, gone]
        rfl

theorem isFresh_tellAll (acts : List Act) (fresh : listeners.IsFresh) :
    (tellAll acts listeners).IsFresh ∧ listeners.nextId ≤ (tellAll acts listeners).nextId := by
  induction acts generalizing listeners with
  | nil => exact ⟨fresh, Nat.le_refl _⟩
  | cons act rest ih =>
      obtain ⟨still, later⟩ := isFresh_tell act fresh
      exact ⟨(ih still).1, Nat.le_trans later (ih still).2⟩

/-- What later comes into an inbox depends on the inbox alone, and for who joins only later on the
next number. -/
theorem inbox?_tellAll_congr {one other : Listeners} (acts : List Act) (fresh : one.IsFresh)
    (otherFresh : other.IsFresh) (numbers : one.nextId = other.nextId)
    (same : one.inbox? id = other.inbox? id) :
    (tellAll acts one).inbox? id =
      (tellAll acts other).inbox? id := by
  induction acts generalizing one other with
  | nil => exact same
  | cons act rest ih =>
      refine ih (isFresh_tell act fresh).1 (isFresh_tell act otherFresh).1 ?_ ?_
      · cases act with
        | subscribe => exact congrArg (· + 1) numbers
        | release id => exact numbers
        | publish publication =>
            simp only [tell]
            cases publication.phase.notification? <;> exact numbers
      · cases act with
        | subscribe =>
            simp only [tell, Listeners.inbox?_subscribe fresh,
              Listeners.inbox?_subscribe otherFresh, numbers, same]
        | release id => simp only [tell, Listeners.inbox?_release, same]
        | publish publication =>
            simp only [tell]
            cases publication.phase.notification? with
            | none => exact same
            | some notification => simp only [Listeners.inbox?_notify, same]

end Act

section Running

variable {σ : Type} {device : (call : Device.Call) → σ → Device.Reply call × σ}

theorem listeners_run (acts : List Act) (state : σ) :
    ((opening state).run device acts).session.listeners = Act.tellAll acts .empty :=
  (run_acts _ acts (opening state)).1

theorem isFresh_empty : Listeners.empty.IsFresh :=
  fun _ inside => absurd inside List.not_mem_nil

theorem inbox?_run {before after : List Act} (state : σ) {id : Nat}
    (joined : id = ((opening state).run device before).session.listeners.subscribe.1) :
    (Act.release id ∉ after →
      ((opening state).run device (before ++ .subscribe :: after)).session.listeners.inbox? id =
        some (after.filterMap Act.notification?)) ∧
    (Act.release id ∈ after →
      ((opening state).run device (before ++ .subscribe :: after)).session.listeners.inbox? id =
        none) := by
  have fresh := (Act.isFresh_tellAll before isFresh_empty).1
  rw [listeners_run] at joined ⊢
  rw [Act.tellAll_append, Act.tellAll_cons]
  generalize Act.tellAll before .empty = listeners at *
  -- The number is a new one, so the inbox that is found under it is the empty one.
  have opened : (Act.subscribe.tell listeners).inbox? id = some [] := by
    rw [Act.tell, Listeners.inbox?_subscribe fresh, joined, Listeners.subscribe, if_pos rfl]
  have still := (Act.isFresh_tell .subscribe fresh).1
  have known : id < (Act.subscribe.tell listeners).nextId := by
    rw [joined]
    exact Nat.lt_succ_self _
  refine ⟨fun kept => ?_, fun gone => ?_⟩
  · rw [Act.inbox?_tellAll after still known kept, opened]
    rfl
  · obtain ⟨first, second, rfl⟩ := List.append_of_mem gone
    obtain ⟨whole, later⟩ := Act.isFresh_tellAll first still
    rw [Act.tellAll_append, Act.tellAll_cons]
    refine Act.inbox?_tellAll_of_none second (Act.isFresh_tell _ whole).1 ?_ ?_
    · exact Nat.lt_of_lt_of_le known (Nat.le_trans later (Act.isFresh_tell _ whole).2)
    · simp only [Act.tell, Listeners.inbox?_release, if_true]

end Running

end Hall

/-- Whatever becomes of the events on the channel, whoever joined the listeners and still holds an
inbox has in it the notifications of all that was published since then, in order and once each; what
others do with theirs makes no difference. Everything that is published is sent once. -/
theorem notifications_arrive_once {σ : Type}
    (device : (call : Device.Call) → σ → Device.Reply call × σ) (state : σ) :
    (∀ before after : List Hall.Act,
      let id := ((Hall.opening state).run device before).session.listeners.subscribe.1
      let last := (Hall.opening state).run device (before ++ .subscribe :: after)
      (.release id ∉ after →
        last.session.listeners.inbox? id = some (after.filterMap Hall.Act.notification?)) ∧
      (.release id ∈ after → last.session.listeners.inbox? id = none)) ∧
    (∀ phase : Phase, (phase.notification? = some .init ↔ phase = .acknowledged) ∧
      (phase.notification? = some .success ↔ phase = .success) ∧
      (phase.notification? = some .failed ↔ phase = .error ∨ phase = .failure)) ∧
    (∀ (before after : List Hall.Act) (id other : Nat), id ≠ other →
      ((Hall.opening state).run device (before ++ .release other :: after)).session.listeners.inbox?
          id =
        ((Hall.opening state).run device (before ++ after)).session.listeners.inbox? id) ∧
    (∀ acts : List Hall.Act, List.Forall₂ Publication.Sent
      (acts.filterMap Hall.Act.publication?) ((Hall.opening state).run device acts).events) ∧
    ∀ (before : List Hall.Act) (publication : Publication),
      publication.phase.notification? ≠ none →
        ((Hall.opening state).run device
          (before ++ [.publish publication])).session.listeners.IsPruned := by
  refine ⟨fun before after => Hall.inbox?_run state rfl, ?_, ?_, ?_, ?_⟩
  · intro phase
    cases phase <;> decide
  · intro before after id other differs
    have fresh := (Hall.Act.isFresh_tellAll before Hall.isFresh_empty).1
    rw [Hall.listeners_run, Hall.listeners_run, Hall.Act.tellAll_append, Hall.Act.tellAll_append,
      Hall.Act.tellAll_cons]
    refine Hall.Act.inbox?_tellAll_congr after (Hall.Act.isFresh_tell _ fresh).1 fresh rfl ?_
    rw [Hall.Act.tell, Listeners.inbox?_release, if_neg differs]
  · intro acts
    obtain ⟨-, sent, carried, same⟩ := Hall.run_acts device acts (Hall.opening state)
    rw [same]
    exact carried
  · intro before publication notifying
    rw [Hall.listeners_run, Hall.Act.tellAll_append, Hall.Act.tellAll_cons]
    simp only [Hall.Act.tell]
    cases heard : publication.phase.notification? with
    | none => exact absurd heard notifying
    | some notification => exact Listeners.isPruned_notify notification

namespace Setup

def muteDevice : (call : Device.Call) → Bench → Device.Reply call × Bench
  | .publish _, bench => (.error (.other "channel down"), bench)
  | call, bench => Bench.answer call bench

def plainPublication (phase : Phase) : Publication :=
  ⟨"id", phase, 250, none, ""⟩

def visit : List Hall.Act :=
  [.subscribe, .publish (plainPublication .acknowledged), .release 1,
    .publish (plainPublication .downloading), .publish (plainPublication .success)]

end Setup

open Setup

theorem notifications_arrive_once_visit :
    .release 0 ∉ visit ∧
      ((Hall.opening .fresh).run muteDevice (.subscribe :: visit)).session.listeners.inbox? 0 =
        some [.init, .success] := by
  have stays : .release 0 ∉ visit := by simp [visit]
  exact ⟨stays, ((notifications_arrive_once muteDevice .fresh).1 [] visit).1 stays⟩

end DualBank
