import DualBank.SettingsTable
import DualBank.Proofs.Footprint

/-! One installation at work, and beside it others who may ask for its end between any two of its
calls. The settings do what they are asked, or refuse and change nothing; all else on the device
answers as it likes. -/

namespace DualBank

inductive Happening where
  | exchange (call : Agent.Call) (reply : Agent.Reply call)
  | cancel (accepted : Bool)

def Happening.event? : Happening → Option Event
  | .exchange (.device (.publish event)) _ => some event
  | _ => none

theorem Slot.apply_cancel_ne_running (slot : Slot) : (slot.apply .cancel).2 ≠ .running := by
  cases slot <;> decide

/-- The history is all that happened since the installation was let in, oldest first. -/
structure Scene where
  settings : SettingsTable
  slot : Slot
  history : List Happening

/-- Whether a device may give this reply, and what the settings then are. -/
def Device.Call.Answered : (call : Device.Call) → (before : SettingsTable) → Device.Reply call →
    (after : SettingsTable) → Prop
  | .save space key value, before, .ok (), after => after = before.save space key value
  | .delete space key, before, .ok (), after => after = before.delete space key
  | .load space key, before, .ok value, after => value = before.load space key ∧ after = before
  | _, before, _, after => after = before

namespace Scene

def Answers : (call : Agent.Call) → Scene → Agent.Reply call → Scene → Prop
  | .device call, before, reply, after => ∃ settings, call.Answered before.settings reply settings ∧
      after = ⟨settings, before.slot, before.history ++ [.exchange (.device call) reply]⟩
  | .shared (.slot operation), before, reply, after => reply = (before.slot.apply operation).1 ∧
      after = ⟨before.settings, (before.slot.apply operation).2,
        before.history ++ [.exchange (.shared (.slot operation)) reply]⟩
  | call, before, reply, after =>
      after = { before with history := before.history ++ [.exchange call reply] }

def cancel (scene : Scene) : Scene :=
  ⟨scene.settings, (scene.slot.apply .cancel).2,
    scene.history ++ [.cancel (scene.slot.apply .cancel).1]⟩

abbrev surroundings : Surroundings Agent.interface where
  State := Scene
  Moves before after := after = before.cancel
  Answers := Answers

def opening (settings : SettingsTable) : Scene :=
  ⟨settings, .running, []⟩

theorem history_of_answers {call : Agent.Call} {before after : Scene}
    {reply : Agent.interface.Reply call} (answers : surroundings.Answers call before reply after) :
    after.history = before.history ++ [.exchange call reply] := by
  change Answers call before reply after at answers
  unfold Answers at answers
  split at answers
  · obtain ⟨settings, _, rfl⟩ := answers
    rfl
  · obtain ⟨_, rfl⟩ := answers
    rfl
  · subst answers
    rfl

end Scene

theorem Device.Call.settings_of_answered {call : Device.Call} {before after : SettingsTable}
    {reply : Device.Reply call} (answered : call.Answered before reply after)
    (unstored : ¬ (Agent.Call.device call).Stores) : after = before := by
  unfold Answered at answered
  split at answered
  · exact absurd trivial unstored
  · exact absurd trivial unstored
  · exact answered.2
  · exact answered

namespace Scene

theorem settings_of_answers {call : Agent.Call} {before after : Scene}
    {reply : Agent.interface.Reply call} (answers : surroundings.Answers call before reply after)
    (unstored : ¬ call.Stores) : after.settings = before.settings := by
  change Answers call before reply after at answers
  unfold Answers at answers
  split at answers
  · obtain ⟨settings, answered, rfl⟩ := answers
    exact Device.Call.settings_of_answered answered unstored
  · obtain ⟨_, rfl⟩ := answers
    rfl
  · subst answers
    rfl

def Holds (assertion : SettingsTable → Prop) (past : List Happening) (scene : Scene) : Prop :=
  assertion scene.settings ∧ past ⊆ scene.history

variable {assertion : SettingsTable → Prop} {past : List Happening}

theorem holds_nothing (scene : Scene) : scene.Holds (fun _ => True) [] :=
  ⟨trivial, List.nil_subset _⟩

theorem stable_holds : surroundings.Stable (Holds assertion past) := by
  rintro before after rfl holds
  exact ⟨holds.1, List.Subset.trans holds.2 (List.subset_append_left _ _)⟩

theorem keeps_holds {call : Agent.Call} (unstored : ¬ call.Stores) :
    surroundings.Keeps (Holds assertion past) call := by
  intro before reply after answers holds
  refine ⟨?_, ?_⟩
  · rw [settings_of_answers answers unstored]
    exact holds.1
  · rw [history_of_answers answers]
    exact List.Subset.trans holds.2 (List.subset_append_left _ _)

end Scene

end DualBank
