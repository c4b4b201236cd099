import DualBank.Bench
import DualBank.Proofs.Notices

/-! The percentages that are told while chunks are written. Whatever sizes are announced and
whatever the writer counts, they climb in whole steps. Where the size stays the same and everything
is written, they are exactly the steps that the bytes written so far have passed. -/

namespace DualBank

open Program Surroundings

namespace Staging

def handleAll (step : UInt8) : Progress → List Chunk → Agent (List UInt8 × Progress)
  | progress, [] => .done ([], progress)
  | progress, chunk :: rest =>
      (handle step progress chunk).bind fun (answer, progress) =>
        (handleAll step progress rest).bind fun (told, progress) =>
          match answer with
          | .ok (some percent) => .done (percent :: told, progress)
          | .ok none | .error _ => .done (told, progress)

end Staging

namespace Progress

/-- The share of the total that these bytes are, in percent and at most 100, rounded down to whole
steps. -/
def share (total : Nat) (step : UInt8) (written : Nat) : Nat :=
  min 100 (100 * written / total) - min 100 (100 * written / total) % (max step 1).toNat

theorem toNat_rounded (progress : Progress) (step : UInt8) :
    (progress.rounded step).toNat =
      progress.percent.toNat - progress.percent.toNat % (max step 1).toNat := by
  have smaller : progress.percent % max step 1 ≤ progress.percent := by
    rw [UInt8.le_iff_toNat_le, UInt8.toNat_mod]
    exact Nat.mod_le ..
  rw [rounded, UInt8.toNat_sub_of_le _ _ smaller, UInt8.toNat_mod]

theorem dvd_rounded (progress : Progress) (step : UInt8) :
    (max step 1).toNat ∣ (progress.rounded step).toNat := by
  rw [toNat_rounded]
  exact Nat.dvd_sub_mod _

theorem rounded_of_advance {progress : Progress} {step percent : UInt8}
    (told : (progress.advance step).1 = some percent) : progress.rounded step = percent := by
  unfold advance at told
  split at told
  · contradiction
  · split at told
    · exact Option.some.inj told
    · contradiction

theorem toNat_percent_wrapped (progress : Progress) : progress.percent.toNat =
    min 100 (100 * progress.written.toNat % UInt64.size / progress.total.toNat) := by
  have product : (progress.written * 100).toNat =
      100 * progress.written.toNat % UInt64.size := by
    rw [UInt64.toNat_mul, Nat.mul_comm]
    rfl
  have quotient : (min (progress.written * 100 / progress.total) 100).toNat =
      min 100 (100 * progress.written.toNat % UInt64.size / progress.total.toNat) := by
    rw [UInt64.toNat_min, UInt64.toNat_div, product, Nat.min_comm]
    rfl
  rw [percent, UInt64.toNat_toUInt8, quotient]
  have small := Nat.min_le_left 100
    (100 * progress.written.toNat % UInt64.size / progress.total.toNat)
  exact Nat.mod_eq_of_lt (by omega)

theorem toNat_percent {progress : Progress}
    (bounded : 100 * progress.written.toNat < UInt64.size) :
    progress.percent.toNat = min 100 (100 * progress.written.toNat / progress.total.toNat) := by
  rw [toNat_percent_wrapped, Nat.mod_eq_of_lt bounded]

theorem toNat_rounded_share {progress : Progress} (step : UInt8)
    (bounded : 100 * progress.written.toNat < UInt64.size) :
    (progress.rounded step).toNat =
      share progress.total.toNat step progress.written.toNat := by
  rw [toNat_rounded, toNat_percent bounded, share]

theorem sub_mod_mono {lower higher : Nat} (step : Nat) (ordered : lower ≤ higher) :
    lower - lower % step ≤ higher - higher % step := by
  have whole (value : Nat) : value - value % step = step * (value / step) := by
    have parts := Nat.div_add_mod value step
    omega
  rw [whole, whole]
  exact Nat.mul_le_mul_left _ (Nat.div_le_div_right ordered)

theorem share_mono {total : Nat} {step : UInt8} {fewer more : Nat} (fits : fewer ≤ more) :
    share total step fewer ≤ share total step more := by
  have quotient : 100 * fewer / total ≤ 100 * more / total :=
    Nat.div_le_div_right (Nat.mul_le_mul_left 100 fits)
  exact sub_mod_mono _ (by omega)

theorem share_whole {total : Nat} {step : UInt8} (some : 0 < total) :
    share total step total = 100 - 100 % (max step 1).toNat := by
  rw [share, Nat.mul_div_cancel _ some, Nat.min_self]

end Progress

section Rising

def rises (last : Nat) : List Nat → List Nat
  | [] => []
  | value :: rest => if last < value then value :: rises value rest else rises last rest

theorem rises_eq_eraseDups {last : Nat} {values : List Nat} (sorted : values.Pairwise (· ≤ ·)) :
    rises last values = (values.filter (last < ·)).eraseDups := by
  induction values generalizing last with
  | nil => simp [rises]
  | cons value rest ih =>
      obtain ⟨least, others⟩ := List.pairwise_cons.1 sorted
      by_cases higher : last < value
      · have same : (rest.filter (last < ·)).filter (!· == value) = rest.filter (value < ·) := by
          rw [List.filter_filter]
          refine List.filter_congr ?_
          intro other inside
          have above := least other inside
          rw [Bool.eq_iff_iff]
          simp only [Bool.and_eq_true, Bool.not_eq_true', beq_eq_false_iff_ne, decide_eq_true_eq]
          omega
        rw [rises, if_pos higher, List.filter_cons_of_pos (by simpa using higher),
          List.eraseDups_cons, same, ih others]
      · rw [rises, if_neg higher, List.filter_cons_of_neg (by simpa using higher), ih others]

theorem getLast?_rises {last top : Nat} {values : List Nat}
    (bounded : ∀ value ∈ values, value ≤ top) (ends : values.getLast? = some top) :
    (rises last values).getLast? = if last < top then some top else none := by
  induction values generalizing last with
  | nil => simp at ends
  | cons value rest ih =>
      have below : value ≤ top := bounded value (.head _)
      cases rest with
      | nil =>
          obtain rfl : value = top := by simpa using ends
          by_cases higher : last < value <;> simp [rises, higher]
      | cons next others =>
          have onward (last : Nat) : (rises last (next :: others)).getLast? =
              if last < top then some top else none :=
            ih (fun value inside => bounded value (.tail _ inside))
              (by rwa [List.getLast?_cons_cons] at ends)
          rw [rises]
          split
          · rename_i higher
            have reached : last < top := by omega
            rw [List.getLast?_cons, onward, if_pos reached]
            split
            · rfl
            · have same : value = top := by omega
              rw [same]
              rfl
          · exact onward last

end Rising

namespace Staging

section Climbing

variable {percents : List Nat} {progress : Progress}

/-- Whatever the slot and the writer answer, what is told of a chunk is a whole step higher up. -/
theorem handle_rises (step : UInt8) (chunk : Chunk) (climb : Climb percents progress) :
    (handle step progress chunk).Always (fun _ => True) fun handled => match handled.1 with
      | .ok (some percent) => Climb (percents ++ [percent.toNat]) handled.2 ∧
          (max step 1).toNat ∣ percent.toNat
      | .ok none | .error _ => Climb percents handled.2 := by
  simp only [handle, Agent.slot, Agent.shared, Agent.device, Agent.log, bind_eq, ask_bind,
    done_bind, pure_eq_done]
  refine ⟨trivial, fun running => ?_⟩
  cases running with
  | false => exact climb
  | true =>
      refine ⟨trivial, fun written => ?_⟩
      cases written with
      | error error => exact ⟨trivial, fun _ => climb⟩
      | ok written =>
          have climb : Climb percents { progress with written := written, total := chunk.total } :=
            ⟨climb.rising, climb.bounded, climb.below⟩
          have advanced := climb_advance climb step
          dsimp only
          split
          · rename_i none
            rw [none] at advanced
            exact advanced
          · rename_i percent some
            rw [some] at advanced
            refine ⟨trivial, fun _ => ⟨advanced.2, ?_⟩⟩
            rw [← Progress.rounded_of_advance some]
            exact Progress.dvd_rounded _ step

theorem handleAll_rises (step : UInt8) (chunks : List Chunk) (climb : Climb percents progress) :
    (handleAll step progress chunks).Always (fun _ => True) fun handled =>
      Climb (percents ++ handled.1.map UInt8.toNat) handled.2 ∧
        ∀ percent ∈ handled.1, (max step 1).toNat ∣ percent.toNat := by
  induction chunks generalizing percents progress with
  | nil => exact ⟨by simpa using climb, by simp⟩
  | cons chunk rest ih =>
      refine always_bind (handle_rises step chunk climb) ?_
      rintro ⟨answer, progress⟩ climb
      cases answer with
      | error error => exact always_bind (ih climb) fun _ rest => rest
      | ok told =>
          cases told with
          | none => exact always_bind (ih climb) fun _ rest => rest
          | some percent =>
              refine always_bind (ih climb.1) ?_
              rintro ⟨told, progress⟩ ⟨rest, steps⟩
              refine ⟨by simpa using rest, ?_⟩
              simpa using ⟨climb.2, steps⟩

end Climbing

section Taking

def Takes : (call : Agent.Call) → Nat → Agent.Reply call → Nat → Prop
  | .device (.write data _), before, reply, after =>
      after = before + data.length ∧ reply = .ok (UInt64.ofNat after)
  | .shared (.slot .isRunning), before, reply, after => after = before ∧ reply = true
  | _, before, _, after => after = before

abbrev taking : Surroundings Agent.interface where
  State := Nat
  Moves _ _ := False
  Answers := Takes

theorem taking_still : taking.Still :=
  fun _ _ impossible => impossible

theorem taking_answers (call : Agent.Call) (before : Nat) :
    ∃ reply after, taking.Answers call before reply after := by
  cases call with
  | device call =>
      have reply : Device.Reply call := (Bench.answer call .fresh).1
      cases call with
      | write data last => exact ⟨.ok (.ofNat (before + data.length)), _, rfl, rfl⟩
      | _ => exact ⟨reply, before, rfl⟩
  | shared call =>
      cases call with
      | slot operation => cases operation <;> exact ⟨true, before, by simp [Takes]⟩
      | notify notification => exact ⟨(), before, rfl⟩
      | launch policy request => exact ⟨(), before, rfl⟩
  | join => exact ⟨.nothing, before, rfl⟩

def cumulative : Nat → List Chunk → List Nat
  | _, [] => []
  | taken, chunk :: rest =>
      (taken + chunk.data.length) :: cumulative (taken + chunk.data.length) rest

theorem le_cumulative {taken : Nat} {chunks : List Chunk} :
    ∀ sum ∈ cumulative taken chunks, taken ≤ sum := by
  induction chunks generalizing taken with
  | nil => simp [cumulative]
  | cons chunk rest ih =>
      intro sum inside
      rcases List.mem_cons.1 inside with same | later
      · omega
      · have onward := ih sum later
        omega

theorem cumulative_sorted (taken : Nat) (chunks : List Chunk) :
    (cumulative taken chunks).Pairwise (· ≤ ·) := by
  induction chunks generalizing taken with
  | nil => exact List.Pairwise.nil
  | cons chunk rest ih => exact List.pairwise_cons.2 ⟨le_cumulative, ih _⟩

theorem getLast?_cumulative {taken : Nat} {chunks : List Chunk} (some : chunks ≠ []) :
    (cumulative taken chunks).getLast? =
      .some (taken + (chunks.flatMap Chunk.data).length) := by
  induction chunks generalizing taken with
  | nil => exact absurd rfl some
  | cons chunk rest ih =>
      cases rest with
      | nil => simp [cumulative]
      | cons next others =>
          rw [cumulative, List.getLast?_cons, ih (by simp), List.flatMap_cons (x := chunk),
            List.length_append, Nat.add_assoc]
          rfl

theorem shares_sorted (total : Nat) (step : UInt8) (taken : Nat) (chunks : List Chunk) :
    ((cumulative taken chunks).map (Progress.share total step)).Pairwise (· ≤ ·) :=
  (cumulative_sorted taken chunks).map _ fun _ _ => Progress.share_mono

theorem handle_takes (step : UInt8) (progress : Progress) (chunk : Chunk) (taken : Nat) :
    taking.Ensures (fun _ _ => True)
      (fun handled after => after = taken + chunk.data.length ∧
        handled = (.ok (Progress.advance { progress with
            written := UInt64.ofNat after, total := chunk.total } step).1,
          (Progress.advance { progress with
            written := UInt64.ofNat after, total := chunk.total } step).2))
      (handle step progress chunk) taken := by
  simp only [handle, Agent.slot, Agent.shared, Agent.device, Agent.log, bind_eq, ask_bind,
    done_bind, pure_eq_done]
  refine taking_still.ensures_ask trivial ?_
  rintro running taken ⟨rfl, rfl⟩
  refine taking_still.ensures_ask trivial ?_
  rintro written after ⟨same, rfl⟩
  dsimp only
  split
  · rename_i none
    exact taking_still.ensures_done ⟨same, by rw [none]⟩
  · rename_i percent some
    refine taking_still.ensures_ask trivial ?_
    rintro _ after rfl
    exact taking_still.ensures_done ⟨same, by rw [some]⟩

theorem handleAll_takes (step : UInt8) {total : UInt64} (announced : total ≠ 0)
    (chunks : List Chunk) (constant : ∀ chunk ∈ chunks, chunk.total = total)
    (progress : Progress) (taken : Nat)
    (bounded : 100 * (taken + (chunks.flatMap Chunk.data).length) < UInt64.size) :
    taking.Ensures (fun _ _ => True)
      (fun handled _ => handled.1.map UInt8.toNat = rises progress.lastPercent.toNat
        ((cumulative taken chunks).map (Progress.share total.toNat step)))
      (handleAll step progress chunks) taken := by
  induction chunks generalizing progress taken with
  | nil => exact fun _ _ => rfl
  | cons chunk rest ih =>
      rw [List.flatMap_cons, List.length_append] at bounded
      -- The bound is on all the bytes, so neither this count nor a later one wraps.
      have onward (progress : Progress) := ih (fun chunk inside => constant chunk (.tail _ inside))
        progress (taken + chunk.data.length) (by omega)
      have counted : (UInt64.ofNat (taken + chunk.data.length)).toNat =
          taken + chunk.data.length := UInt64.toNat_ofNat_of_lt' (by omega)
      have share := @Progress.toNat_rounded_share { progress with
        written := UInt64.ofNat (taken + chunk.data.length), total := total } step
        (by rw [counted]; omega)
      rw [counted] at share
      refine ensures_bind (handle_takes step progress chunk taken) ?_
      rintro _ _ ⟨rfl, rfl⟩
      rw [constant chunk (.head _), Progress.advance, if_neg announced]
      simp only [cumulative, List.map_cons, rises, ← share, ← UInt8.lt_iff_toNat_lt]
      split
      · refine ensures_bind (onward _) ?_
        rintro ⟨told, progress⟩ later rest passed _
        exact congrArg _ rest
      · refine ensures_bind (onward _) ?_
        rintro ⟨told, progress⟩ later rest passed _
        exact rest

def shares (step : UInt8) (total : UInt64) (chunks : List Chunk) : List Nat :=
  (((cumulative 0 chunks).map (Progress.share total.toNat step)).filter (0 < ·)).eraseDups

theorem shares_eq_rises (step : UInt8) (total : UInt64) (chunks : List Chunk) :
    shares step total chunks =
      rises 0 ((cumulative 0 chunks).map (Progress.share total.toNat step)) :=
  (rises_eq_eraseDups (shares_sorted ..)).symm

theorem getLast?_shares (step : UInt8) {total : UInt64} (announced : total ≠ 0)
    {chunks : List Chunk} (whole : (chunks.flatMap Chunk.data).length = total.toNat) :
    (shares step total chunks).getLast? =
      if 0 < 100 - 100 % (max step 1).toNat then some (100 - 100 % (max step 1).toNat)
      else none := by
  have positive : 0 < total.toNat :=
    Nat.pos_of_ne_zero fun zero => announced (UInt64.toNat_inj.1 zero)
  have filled : chunks ≠ [] := by
    rintro rfl
    simp only [List.flatMap_nil, List.length_nil] at whole
    omega
  have last : ((cumulative 0 chunks).map (Progress.share total.toNat step)).getLast? =
      some (100 - 100 % (max step 1).toNat) := by
    rw [List.getLast?_map, getLast?_cumulative filled, whole, Nat.zero_add, Option.map_some,
      Progress.share_whole positive]
  have sorted := shares_sorted total.toNat step 0 chunks
  rw [shares_eq_rises]
  refine getLast?_rises ?_ last
  intro value inside
  obtain ⟨init, parts⟩ := List.getLast?_eq_some_iff.1 last
  rw [parts] at inside sorted
  rcases List.mem_append.1 inside with earlier | same
  · exact (List.pairwise_append.1 sorted).2.2 value earlier _ (.head _)
  · exact Nat.le_of_eq (List.mem_singleton.1 same)

/-- A writer that takes everything makes the pipeline tell this, of these chunks. -/
def Tells (step : UInt8) (chunks : List Chunk) (told : List UInt8) : Prop :=
  ∃ progress taken,
    taking.Leads (handleAll step .zero chunks, 0) (.done (told, progress), taken)

theorem tells_iff (step : UInt8) {total : UInt64} (announced : total ≠ 0) {chunks : List Chunk}
    (constant : ∀ chunk ∈ chunks, chunk.total = total)
    (bounded : 100 * (chunks.flatMap Chunk.data).length < UInt64.size) (told : List UInt8) :
    Tells step chunks told ↔ told.map UInt8.toNat = shares step total chunks := by
  have ensured := handleAll_takes step announced chunks constant .zero 0 (by rwa [Nat.zero_add])
  have listed (told : List UInt8) (tells : Tells step chunks told) :
      told.map UInt8.toNat = shares step total chunks := by
    obtain ⟨progress, taken, leads⟩ := tells
    rw [shares_eq_rises]
    exact (ensures_leads leads ensured).ended
  refine ⟨listed told, fun same => ?_⟩
  obtain ⟨⟨other, progress⟩, taken, leads⟩ :=
    ends_of_ensures (fun call state _ => taking_answers call state) ensured
  have equal : other.map UInt8.toNat = told.map UInt8.toNat :=
    (listed other ⟨progress, taken, leads⟩).trans same.symm
  have injective : Function.Injective UInt8.toNat := fun _ _ => UInt8.toNat_inj.1
  rw [← List.map_injective_iff.2 injective equal]
  exact ⟨progress, taken, leads⟩

end Taking

end Staging

open Staging

/-- Whatever is announced, counted and refused, the percentages that are told climb, each of them a
multiple of the step and at most 100. Where the size stays the same and everything is written, they
are exactly the different shares that are above zero, one after the other, and what is told last of
a whole image is 100 rounded down to the step, if that is anything. -/
theorem progress_debounced (step : UInt8) (chunks : List Chunk) :
    (handleAll step .zero chunks).Always (fun _ => True) (fun handled =>
      (handled.1.map UInt8.toNat).Pairwise (· < ·) ∧ ∀ percent ∈ handled.1,
        0 < percent.toNat ∧ percent.toNat ≤ 100 ∧ (max step 1).toNat ∣ percent.toNat) ∧
    ∀ total : UInt64, total ≠ 0 → (∀ chunk ∈ chunks, chunk.total = total) →
      100 * (chunks.flatMap Chunk.data).length < UInt64.size →
      ∀ told : List UInt8,
        (Tells step chunks told ↔ told.map UInt8.toNat = (((cumulative 0 chunks).map
          (Progress.share total.toNat step)).filter (0 < ·)).eraseDups) ∧
        (Tells step chunks told → (chunks.flatMap Chunk.data).length = total.toNat →
          (told.map UInt8.toNat).getLast? =
            if 0 < 100 - 100 % (max step 1).toNat then some (100 - 100 % (max step 1).toNat)
            else none) := by
  refine ⟨always_mono (handleAll_rises step chunks climb_zero) (fun _ _ => trivial) ?_, ?_⟩
  · rintro ⟨told, progress⟩ ⟨climb, steps⟩
    obtain ⟨above, rising⟩ := List.pairwise_cons.1 climb.rising
    refine ⟨rising, fun percent inside => ?_⟩
    have listed := List.mem_map_of_mem (f := UInt8.toNat) inside
    exact ⟨above _ listed, climb.bounded _ listed, steps percent inside⟩
  · intro total announced constant bounded told
    have tells := tells_iff step announced constant bounded told
    refine ⟨tells, fun led whole => ?_⟩
    rw [tells.1 led]
    exact getLast?_shares step announced whole

def Staging.sampleQuarters : List Chunk :=
  [⟨[1], 1, 4, false⟩, ⟨[2], 2, 4, false⟩, ⟨[3], 3, 4, false⟩, ⟨[4], 4, 4, true⟩]

theorem progress_debounced_quarters :
    Tells 10 sampleQuarters [20, 50, 70, 100] ∧
      (List.map UInt8.toNat [20, 50, 70, 100]).getLast? = some 100 := by
  have debounced := (progress_debounced 10 sampleQuarters).2 4 (by decide) (by decide) (by decide)
    [20, 50, 70, 100]
  have tells := debounced.1.2 (by decide)
  exact ⟨tells, debounced.2 tells (by decide)⟩

end DualBank
