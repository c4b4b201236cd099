import DualBank.Bench
import DualBank.Proofs.Scene

/-! Installations tried out on a device in memory that has no faults, with a cancel at a chosen
place. -/

namespace DualBank

open Surroundings

def Request.sample : Request :=
  ⟨"00000000-0000-4000-8000-000000000000", "image.bin"⟩

theorem Request.check_sample : Request.sample.check = .ok () := rfl

structure Trial where
  bench : Bench
  slot : Slot
  history : List Happening

namespace Trial

def opening (script : List Download) : Trial where
  bench := { Bench.fresh with script := script }
  slot := .running
  history := []

def scene (trial : Trial) : Scene :=
  ⟨trial.bench.settings, trial.slot, trial.history⟩

def answer : (call : Agent.Call) → Trial → Agent.Reply call × Trial
  | .device call, trial =>
      let (reply, bench) := Bench.answer call trial.bench
      (reply, { trial with
        bench := bench
        history := trial.history ++ [.exchange (.device call) reply] })
  | .shared (.slot operation), trial =>
      let (reply, slot) := trial.slot.apply operation
      (reply, { trial with
        slot := slot
        history := trial.history ++ [.exchange (.shared (.slot operation)) reply] })
  | .shared (.notify notification), trial =>
      ((), { trial with
        history := trial.history ++ [.exchange (.shared (.notify notification)) ()] })
  | .shared (.launch policy request), trial =>
      ((), { trial with
        history := trial.history ++ [.exchange (.shared (.launch policy request)) ()] })
  | .join, trial =>
      (.nothing, { trial with history := trial.history ++ [.exchange .join .nothing] })

def cancel (trial : Trial) : Trial where
  bench := trial.bench
  slot := (trial.slot.apply .cancel).2
  history := trial.history ++ [.cancel (trial.slot.apply .cancel).1]

def answerUntil (last : Agent.Call → Bool) (call : Agent.Call) (trial : Trial) :
    Agent.Reply call × Trial :=
  ((answer call trial).1,
    if last call then (answer call trial).2.cancel else (answer call trial).2)

theorem answered (call : Device.Call) (bench : Bench) :
    call.Answered bench.settings (Bench.answer call bench).1
      (Bench.answer call bench).2.settings := by
  cases call with
  | load space key => exact ⟨rfl, rfl⟩
  | erase bank => cases bank <;> rfl
  | source call => cases call <;> rfl
  | download url headers timeout =>
      obtain ⟨settings, primary, secondary, written, swap, confirmed, script⟩ := bench
      cases script <;> rfl
  | _ => rfl

theorem answers (call : Agent.Call) (trial : Trial) :
    Scene.surroundings.Answers call trial.scene (answer call trial).1
      (answer call trial).2.scene := by
  cases call with
  | device call => exact ⟨_, answered call trial.bench, rfl⟩
  | shared call => cases call <;> first | rfl | exact ⟨rfl, rfl⟩
  | join => rfl

theorem answerUntil_faithful (last : Agent.Call → Bool) (call : Agent.Call) (trial : Trial) :
    ∃ later, Scene.surroundings.Answers call trial.scene (answerUntil last call trial).1 later ∧
      Scene.surroundings.Passes later (answerUntil last call trial).2.scene := by
  refine ⟨(answer call trial).2.scene, answers call trial, ?_⟩
  rw [answerUntil]
  split
  · exact .single rfl
  · exact .refl

theorem leads_answered {α : Type} (last : Agent.Call → Bool) (program : Agent α) (trial : Trial) :
    Scene.surroundings.Leads (program, trial.scene)
      (.done (program.run (answerUntil last) trial).1,
        (program.run (answerUntil last) trial).2.scene) :=
  @leads_run Agent.interface α Scene.surroundings Trial scene (answerUntil last)
    (answerUntil_faithful last) program trial

theorem leads_trial (last : Agent.Call → Bool) (policy : Policy) (request : Request)
    (trial : Trial) :
    Scene.surroundings.Leads (Installation.run policy request, trial.scene)
      (.done ((Installation.run policy request).run (answerUntil last) trial).1,
        ((Installation.run policy request).run (answerUntil last) trial).2.scene) :=
  leads_answered last (Installation.run policy request) trial

end Trial

end DualBank
