import DualBank.Proofs.Notices
import DualBank.Proofs.Recording

/-! What a program does, read off in order: its calls with their answers, but for the clock, the log
and the listeners on the device. What is done by two parts one after the other is done by them
together, so laws about the order of calls are put together from those of the parts. -/

namespace DualBank

open Surroundings

def Happening.isDeed : Happening → Bool
  | .exchange (.device .now) _ | .exchange (.device (.log _)) _ | .exchange (.shared (.notify _)) _
  | .cancel _ => false
  | .exchange .. => true

def Agent.Call.deeds (call : Agent.Call) (reply : Agent.Reply call) : List Happening :=
  [.exchange call reply].filter Happening.isDeed

theorem Agent.Call.deeds_eq {call : Agent.Call} {reply : Agent.Reply call}
    (deed : (Happening.exchange call reply).isDeed = true) :
    call.deeds reply = [.exchange call reply] :=
  List.filter_cons_of_pos deed

namespace Program

variable {α β : Type}

/-- With some answers the program does this, and comes to this value. -/
def Does : Agent α → List Happening → α → Prop
  | .done outcome, deeds, value => deeds = [] ∧ value = outcome
  | .ask call next, deeds, value =>
      ∃ reply onward, deeds = call.deeds reply ++ onward ∧ Does (next reply) onward value

theorem does_ask {call : Agent.Call} {next : Agent.Reply call → Agent α} {deeds : List Happening}
    {value : α} :
    (ask call next : Agent α).Does deeds value ↔
      ∃ reply onward, deeds = call.deeds reply ++ onward ∧ (next reply).Does onward value := .rfl

theorem does_bind {program : Agent α} {continuation : α → Agent β} {deeds : List Happening}
    {value : β} :
    (program.bind continuation).Does deeds value ↔
      ∃ first middle second, deeds = first ++ second ∧ program.Does first middle ∧
        (continuation middle).Does second value := by
  induction program generalizing deeds with
  | done outcome =>
      constructor
      · exact fun does => ⟨[], outcome, deeds, rfl, ⟨rfl, rfl⟩, does⟩
      · rintro ⟨_, _, second, rfl, ⟨rfl, rfl⟩, does⟩
        exact does
  | ask call next ih =>
      constructor
      · rintro ⟨reply, onward, rfl, does⟩
        obtain ⟨first, middle, second, rfl, does, continues⟩ := (ih reply).1 does
        exact ⟨call.deeds reply ++ first, middle, second, (List.append_assoc ..).symm,
          ⟨reply, first, rfl, does⟩, continues⟩
      · rintro ⟨_, middle, second, rfl, ⟨reply, first, rfl, does⟩, continues⟩
        exact ⟨reply, first ++ second, List.append_assoc .., (ih reply).2
          ⟨first, middle, second, rfl, does, continues⟩⟩

theorem does_always {allowed : Agent.Call → Prop} {post : α → Prop} {program : Agent α}
    {deeds : List Happening} {value : α} (always : program.Always allowed post)
    (does : program.Does deeds value) :
    post value ∧ ∀ happening ∈ deeds, ∃ call reply, happening = .exchange call reply ∧
      allowed call := by
  induction program generalizing deeds with
  | done outcome =>
      obtain ⟨rfl, rfl⟩ := does
      exact ⟨always, by simp⟩
  | ask call next ih =>
      obtain ⟨reply, onward, rfl, does⟩ := does
      obtain ⟨holds, allowed⟩ := ih reply (always.2 reply) does
      refine ⟨holds, fun happening inside => ?_⟩
      rcases List.mem_append.1 inside with now | later
      · exact ⟨call, reply, List.mem_singleton.1 (List.mem_filter.1 now).1, always.1⟩
      · exact allowed happening later

theorem does_log {record : Log.Record} {next : Unit → Agent α} {deeds : List Happening}
    {value : α} :
    (ask (.device (.log record)) next : Agent α).Does deeds value ↔ (next ()).Does deeds value := by
  rw [does_ask]
  constructor
  · rintro ⟨_, _, rfl, does⟩
    exact does
  · exact fun does => ⟨(), deeds, rfl, does⟩

end Program

open Program

section Announcing

variable {deeds : List Happening}

theorem notify_does {phase : Phase} {value : Unit}
    (does : (Announcement.notify phase).Does deeds value) :
    deeds = [] := by
  unfold Announcement.notify at does
  cases found : phase.notification? with
  | none =>
      rw [found] at does
      exact does.1
  | some notification =>
      rw [found] at does
      obtain ⟨_, _, rfl, rfl, _⟩ := does
      rfl

/-- An announcement sends one event, whatever comes of it. -/
theorem publish_does {uuid : String} {phase : Phase} {progress : Int32} {error : Option UpdateError}
    {message : String} {value : Unit}
    (does : (Announcement.publish uuid phase progress error message).Does deeds value) :
    ∃ time reply, deeds = [.exchange
      (.device (.publish (.compose uuid phase progress error message time))) reply] := by
  simp only [Announcement.publish, Agent.device, bind_eq, ask_bind, done_bind] at does
  obtain ⟨time, _, rfl, does⟩ := does
  obtain ⟨_, _, _, rfl, notified, reply, rest, rfl, sent⟩ := does_bind.1 does
  obtain rfl : rest = [] := by
    cases reply with
    | ok _ => exact sent.1
    | error failure => exact (does_log.1 sent).1
  cases notify_does notified
  exact ⟨time, reply, rfl⟩

theorem does_notify (phase : Phase) : (Announcement.notify phase).Does [] () := by
  unfold Announcement.notify
  cases phase.notification? with
  | none => exact ⟨rfl, rfl⟩
  | some notification => exact ⟨(), [], rfl, rfl, rfl⟩

theorem does_announcing {α : Type} (uuid : String) (phase : Phase) (progress : Int32)
    (error : Option UpdateError) (message : String) {onward : Agent α} {value : α}
    (does : onward.Does deeds value) :
    ((Announcement.publish uuid phase progress error message).bind fun _ => onward).Does
      (.exchange (.device (.publish (.compose uuid phase progress error message 0))) (.ok ()) ::
        deeds) value := by
  refine does_bind.2 ⟨[_], (), deeds, rfl, ?_, does⟩
  simp only [Announcement.publish, Agent.device, bind_eq, ask_bind, done_bind]
  exact ⟨0, _, rfl, does_bind.2 ⟨[], (), _, rfl, does_notify phase, .ok (), [], rfl, rfl, rfl⟩⟩

theorem does_announced {α : Type} {uuid : String} {phase : Phase} {progress : Int32}
    {error : Option UpdateError} {message : String} {continuation : Unit → Agent α} {value : α}
    (does : ((Announcement.publish uuid phase progress error message).bind continuation).Does deeds
      value) :
    ∃ time reply onward, deeds = .exchange
        (.device (.publish (.compose uuid phase progress error message time))) reply :: onward ∧
      (continuation ()).Does onward value := by
  obtain ⟨_, _, onward, rfl, told, continues⟩ := does_bind.1 does
  obtain ⟨time, reply, rfl⟩ := publish_does told
  exact ⟨time, reply, onward, rfl, continues⟩

end Announcing

section Storing

variable {deeds : List Happening}

theorem orFail_does {α : Type} {cause : SettingsError} {complaint : String}
    {reply : Except Failure α} {result : Except SettingsError α} :
    (Record.orFail cause complaint reply).Does deeds result ↔
      deeds = [] ∧ result = reply.mapError fun _ => cause := by
  cases reply with
  | ok value => exact .rfl
  | error failure => exact does_log

theorem stored_does {α β : Type} {call : Device.Call} {read : Device.Reply call → Except Failure α}
    {cause : SettingsError} {complaint : String} {next : Except SettingsError α → Agent β}
    {value : β}
    (does : (ask (.device call) fun reply =>
      (Record.orFail cause complaint (read reply)).bind next : Agent β).Does deeds value) :
    ∃ reply onward, deeds = Agent.Call.deeds (.device call) reply ++ onward ∧
      (next ((read reply).mapError fun _ => cause)).Does onward value := by
  obtain ⟨reply, _, rfl, goes⟩ := does
  obtain ⟨_, stored, onward, rfl, complains, continues⟩ := does_bind.1 goes
  obtain ⟨rfl, rfl⟩ := orFail_does.1 complains
  exact ⟨reply, onward, rfl, continues⟩

end Storing

def SettingsTable.Serves : SettingsTable → List Happening → SettingsTable → Prop
  | before, [], after => after = before
  | before, .exchange (.device call) reply :: onward, after =>
      ∃ between, call.Answered before reply between ∧ Serves between onward after
  | before, _ :: onward, after => Serves before onward after

theorem SettingsTable.serves_append {before last : SettingsTable} {first second : List Happening}
    (serves : before.Serves (first ++ second) last) :
    ∃ between : SettingsTable, before.Serves first between ∧ between.Serves second last := by
  induction first generalizing before with
  | nil => exact ⟨before, rfl, serves⟩
  | cons happening onward ih =>
      cases happening with
      | exchange call reply =>
          cases call with
          | device call =>
              obtain ⟨middle, answered, serves⟩ := serves
              obtain ⟨between, goes, ends⟩ := ih serves
              exact ⟨between, ⟨middle, answered, goes⟩, ends⟩
          | shared call => exact ih serves
          | join => exact ih serves
      | cancel accepted => exact ih serves

namespace Scene

def deeds (scene : Scene) : List Happening :=
  scene.history.filter Happening.isDeed

theorem deeds_passes {before after : Scene} (passes : surroundings.Passes before after) :
    after.deeds = before.deeds ∧ after.settings = before.settings := by
  induction passes with
  | refl => exact ⟨rfl, rfl⟩
  | tail _ moves ih =>
      subst moves
      refine ⟨?_, ih.2⟩
      rw [← ih.1, deeds, cancel, List.filter_append]
      exact List.append_nil _

theorem mem_deeds {scene : Scene} {happening : Happening} (deed : happening.isDeed = true) :
    happening ∈ scene.deeds ↔ happening ∈ scene.history := by
  rw [deeds, List.mem_filter, and_iff_left deed]

theorem events_deeds (scene : Scene) :
    scene.events = scene.deeds.filterMap Happening.event? := by
  rw [deeds, List.filterMap_filter, events]
  congr 1
  funext happening
  split
  · rfl
  · rename_i whispered
    unfold Happening.event?
    split
    · exact absurd rfl whispered
    · rfl

theorem deeds_answers {call : Agent.Call} {before after : Scene} {reply : Agent.Reply call}
    (answers : surroundings.Answers call before reply after) :
    after.deeds = before.deeds ++ call.deeds reply := by
  rw [deeds, history_of_answers answers, List.filter_append]
  rfl

theorem serves_answers {call : Agent.Call} {before after : Scene} {reply : Agent.Reply call}
    (answers : surroundings.Answers call before reply after) {deeds : List Happening}
    {last : SettingsTable} (onward : after.settings.Serves deeds last) :
    before.settings.Serves (call.deeds reply ++ deeds) last := by
  by_cases deed : (Happening.exchange call reply).isDeed
  · rw [Agent.Call.deeds_eq deed]
    cases call with
    | device call =>
        obtain ⟨between, answered, rfl⟩ := answers
        exact ⟨between, answered, onward⟩
    | shared call =>
        rw [settings_of_answers answers (fun impossible => impossible)] at onward
        exact onward
    | join =>
        rw [settings_of_answers answers (fun impossible => impossible)] at onward
        exact onward
  · rw [Agent.Call.deeds, List.filter_cons_of_neg deed, List.filter_nil, List.nil_append]
    have unstored : ¬ call.Stores := by
      intro stores
      unfold Agent.Call.Stores at stores
      split at stores
      · exact deed rfl
      · exact deed rfl
      · contradiction
    rwa [settings_of_answers answers unstored] at onward

/-- A run that has ended was one transcript of the program, answered by the settings in turn. -/
theorem does_of_leads {α : Type} {program : Agent α} {value : α} {before last : Scene}
    (leads : surroundings.Leads (program, before) (.done value, last)) :
    ∃ deeds, last.deeds = before.deeds ++ deeds ∧ program.Does deeds value ∧
      before.settings.Serves deeds last.settings := by
  induction program generalizing before with
  | done outcome =>
      obtain ⟨same, passes⟩ := passes_of_leads leads
      cases same
      obtain ⟨deeds, settings⟩ := deeds_passes passes
      exact ⟨[], by rw [deeds, List.append_nil], ⟨rfl, rfl⟩, settings⟩
  | ask call next ih =>
      obtain ⟨later, reply, after, passes, answers, onward⟩ := answers_of_leads leads
      obtain ⟨deeds, longer, does, serves⟩ := ih reply onward
      obtain ⟨before, settings⟩ := deeds_passes passes
      refine ⟨call.deeds reply ++ deeds, ?_, ⟨reply, deeds, rfl, does⟩, ?_⟩
      · rw [longer, deeds_answers answers, before, List.append_assoc]
      · rw [← settings]
        exact serves_answers answers serves

end Scene

end DualBank
