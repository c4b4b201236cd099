import DualBank.Proofs.Debouncing

/-! When the percentage that is told is that of exact arithmetic. The product is one of 64-bit
words: where it does not fit in them a checked build ends the thread, and a wrapping one goes on
with what is left of it, which is hardly ever enough. -/

namespace DualBank

/-- What wraps is at least one whole total short. -/
theorem min_wrapped_iff {product total size : Nat} (positive : 0 < total) (smaller : total < size) :
    min 100 (product % size / total) = min 100 (product / total) ↔
      product < size ∨ 100 * total ≤ product % size := by
  by_cases fits : product < size
  · simp [fits, Nat.mod_eq_of_lt fits]
  · have least : product % size + total ≤ product := by
      have parts := Nat.mod_add_div product size
      have once : size * 1 ≤ size * (product / size) :=
        Nat.mul_le_mul_left size (Nat.div_pos (Nat.le_of_not_lt fits) (by omega))
      omega
    have lost : product % size / total + 1 ≤ product / total := by
      rw [← Nat.add_div_right _ positive]
      exact Nat.div_le_div_right least
    have whole : 100 ≤ product % size / total ↔ 100 * total ≤ product % size :=
      Nat.le_div_iff_mul_le positive
    rw [← whole]
    omega

namespace Progress

/-- The thread goes on, and what it tells is the share that the bytes are, if it is above the last
one told. -/
def IsExact (build : Build) (progress : Progress) (step : UInt8) : Prop :=
  ∃ advanced, progress.advanceIn build step = some advanced ∧
    ∀ percent, advanced.1 = some percent ↔
      percent.toNat = share progress.total.toNat step progress.written.toNat ∧
        progress.lastPercent < percent

variable {progress : Progress} {step : UInt8}

theorem advanceIn_eq_some {build : Build} {advanced : Option UInt8 × Progress}
    (goesOn : progress.advanceIn build step = some advanced) :
    advanced = progress.advance step := by
  cases build with
  | wrapping => exact (Option.some.inj goesOn).symm
  | checked =>
      unfold advanceIn at goesOn
      dsimp only at goesOn
      split at goesOn
      · exact (Option.some.inj goesOn).symm
      · contradiction

theorem advanceIn_checked_eq_none_iff (announced : progress.total ≠ 0) :
    progress.advanceIn .checked step = none ↔ UInt64.size ≤ 100 * progress.written.toNat := by
  rw [advanceIn]
  simp [announced]

theorem advance_eq_some_iff (announced : progress.total ≠ 0) (percent : UInt8) :
    (progress.advance step).1 = some percent ↔
      percent = progress.rounded step ∧ progress.lastPercent < percent := by
  rw [advance, if_neg announced]
  by_cases higher : progress.lastPercent < progress.rounded step
  · rw [if_pos higher]
    constructor
    · intro told
      cases told
      exact ⟨rfl, higher⟩
    · rintro ⟨rfl, -⟩
      rfl
  · rw [if_neg higher]
    constructor
    · intro told
      contradiction
    · rintro ⟨rfl, above⟩
      exact absurd above higher

theorem share_le (total : Nat) (step : UInt8) (written : Nat) : share total step written ≤ 100 :=
  Nat.le_trans (Nat.sub_le _ _) (Nat.min_le_left _ _)

theorem rounded_le_share (progress : Progress) (step : UInt8) : (progress.rounded step).toNat ≤
    share progress.total.toNat step progress.written.toNat := by
  rw [toNat_rounded, toNat_percent_wrapped]
  apply sub_mod_mono
  have less : 100 * progress.written.toNat % UInt64.size / progress.total.toNat ≤
      100 * progress.written.toNat / progress.total.toNat :=
    Nat.div_le_div_right (Nat.mod_le _ _)
  omega

theorem isExact_wrapping : IsExact .wrapping progress step ↔
    ∀ percent, (progress.advance step).1 = some percent ↔
      percent.toNat = share progress.total.toNat step progress.written.toNat ∧
        progress.lastPercent < percent := by
  simp [IsExact, advanceIn]

/-- One answer is exact if the share is right, and also if it would not be told anyway. -/
theorem isExact_iff (announced : progress.total ≠ 0) : IsExact .wrapping progress step ↔
    (progress.rounded step).toNat = share progress.total.toNat step progress.written.toNat ∨
      share progress.total.toNat step progress.written.toNat ≤ progress.lastPercent.toNat := by
  have lower := rounded_le_share progress step
  have bounded := share_le progress.total.toNat step progress.written.toNat
  rw [isExact_wrapping]
  generalize share progress.total.toNat step progress.written.toNat = exact at lower bounded ⊢
  have fits : (UInt8.ofNat exact).toNat = exact := by
    rw [UInt8.toNat_ofNat']
    omega
  constructor
  · intro answers
    by_cases higher : progress.lastPercent.toNat < exact
    · have above : progress.lastPercent < UInt8.ofNat exact := by
        rwa [UInt8.lt_iff_toNat_lt, fits]
      have told := (answers (UInt8.ofNat exact)).2 ⟨fits, above⟩
      rw [← ((advance_eq_some_iff announced _).1 told).1]
      exact .inl fits
    · exact .inr (Nat.le_of_not_lt higher)
  · rintro same percent
    rw [advance_eq_some_iff announced, ← UInt8.toNat_inj, UInt8.lt_iff_toNat_lt]
    omega

theorem percent_exact_iff (progress : Progress) (announced : progress.total ≠ 0) :
    progress.percent.toNat = min 100 (100 * progress.written.toNat / progress.total.toNat) ↔
      100 * progress.written.toNat < UInt64.size ∨
        100 * progress.total.toNat ≤ 100 * progress.written.toNat % UInt64.size := by
  have positive : 0 < progress.total.toNat :=
    Nat.pos_of_ne_zero fun zero => announced (UInt64.toNat_inj.1 zero)
  rw [toNat_percent_wrapped]
  exact min_wrapped_iff positive progress.total.toNat_lt

/-- Steps of one percent, told from nothing on, show every difference. -/
theorem percent_of_isExact (announced : progress.total ≠ 0) (first : progress.lastPercent = 0)
    (exact : IsExact .wrapping progress 1) : progress.percent.toNat =
      min 100 (100 * progress.written.toNat / progress.total.toNat) := by
  have lower := rounded_le_share progress 1
  have same := (isExact_iff announced).1 exact
  have one : (max 1 1 : UInt8).toNat = 1 := rfl
  rw [toNat_rounded, share, one, Nat.mod_one, Nat.mod_one, Nat.sub_zero, Nat.sub_zero] at lower same
  rw [first] at same
  rcases same with same | nothing
  · exact same
  · exact Nat.le_antisymm lower (Nat.le_trans nothing (Nat.zero_le _))

theorem isExact_of_fits (announced : progress.total ≠ 0)
    (fits : 100 * progress.written.toNat < UInt64.size) : IsExact .wrapping progress step := by
  rw [isExact_iff announced]
  exact .inl (toNat_rounded_share step fits)

/-- A checked build gives an exact answer or none. -/
theorem isExact_checked_iff (announced : progress.total ≠ 0) :
    IsExact .checked progress step ↔ 100 * progress.written.toNat < UInt64.size := by
  constructor
  · rintro ⟨advanced, goesOn, _⟩
    by_contra exceeds
    have ends : progress.advanceIn .checked step = none :=
      (advanceIn_checked_eq_none_iff announced).2 (Nat.le_of_not_lt exceeds)
    rw [goesOn] at ends
    contradiction
  · intro fits
    refine ⟨progress.advance step, ?_, isExact_wrapping.1 (isExact_of_fits announced fits)⟩
    simp [advanceIn, fits]

end Progress

open Progress

/-- A checked build tells the exact percentage if a hundred times the bytes fit in 64 bits, and ends
the thread if they do not. A wrapping one tells it, for every step and every last percentage, just
if they fit, or what is left of them is still enough for the whole. Neither tells too much. -/
theorem percentage_exact_iff (written total : UInt64) (announced : total ≠ 0) :
    (∀ last step,
      (IsExact .checked ⟨written, total, last⟩ step ↔ 100 * written.toNat < UInt64.size) ∧
      (advanceIn .checked ⟨written, total, last⟩ step = none ↔
        UInt64.size ≤ 100 * written.toNat)) ∧
    ((∀ last step, IsExact .wrapping ⟨written, total, last⟩ step) ↔
      100 * written.toNat < UInt64.size ∨
        100 * total.toNat ≤ 100 * written.toNat % UInt64.size) ∧
    ∀ build last step percent later,
      advanceIn build ⟨written, total, last⟩ step = some (some percent, later) →
        percent.toNat ≤ share total.toNat step written.toNat := by
  have percents := percent_exact_iff ⟨written, total, 0⟩ announced
  refine ⟨fun last step => ⟨?_, ?_⟩, ⟨fun exact => ?_, fun enough last step => ?_⟩, ?_⟩
  · exact isExact_checked_iff announced
  · exact advanceIn_checked_eq_none_iff announced
  · exact percents.1 (percent_of_isExact announced rfl (exact 0 1))
  · have same : (percent ⟨written, total, last⟩).toNat =
        min 100 (100 * written.toNat / total.toNat) := percents.2 enough
    rw [isExact_iff announced, toNat_rounded, share, same]
    exact .inl rfl
  · intro build last step percent later goesOn
    have told : (advance ⟨written, total, last⟩ step).1 = some percent := by
      rw [← advanceIn_eq_some goesOn]
    rw [((advance_eq_some_iff announced percent).1 told).1]
    exact rounded_le_share ⟨written, total, last⟩ step

/-- Half of an image in a checked build, and in a wrapping one so many bytes that what is left of
the product is still the whole. -/
theorem percentage_exact_iff_sample :
    (4 : UInt64) ≠ 0 ∧ (∀ last step, IsExact .checked ⟨2, 4, last⟩ step) ∧
      (1 : UInt64) ≠ 0 ∧ ∀ last step, IsExact .wrapping ⟨184467440737095518, 1, last⟩ step :=
  ⟨by decide, fun last step => ((percentage_exact_iff 2 4 (by decide)).1 last step).1.2 (by decide),
    by decide, (percentage_exact_iff 184467440737095518 1 (by decide)).2.1.2 (by decide)⟩

/-- The fewest bytes for which the product does not fit are a whole image. A checked build ends the
thread over them, and a wrapping one tells nothing. -/
theorem percentage_lost :
    advanceIn .checked ⟨184467440737095517, 184467440737095517, 0⟩ 10 = none ∧
      advanceIn .wrapping ⟨184467440737095517, 184467440737095517, 0⟩ 10 =
        some (none, ⟨184467440737095517, 184467440737095517, 0⟩) ∧
      share 184467440737095517 10 184467440737095517 = 100 ∧
      ∀ build, ¬ IsExact build ⟨184467440737095517, 184467440737095517, 0⟩ 10 := by
  have ended : advanceIn .checked ⟨184467440737095517, 184467440737095517, 0⟩ 10 = none := by
    decide
  have untold : advanceIn .wrapping ⟨184467440737095517, 184467440737095517, 0⟩ 10 =
      some (none, ⟨184467440737095517, 184467440737095517, 0⟩) := by decide
  have whole : share 184467440737095517 10 184467440737095517 = 100 := by decide
  refine ⟨ended, untold, whole, ?_⟩
  rintro build ⟨advanced, goesOn, answers⟩
  have told := (answers 100).2 ⟨whole.symm, by decide⟩
  cases build with
  | checked =>
      rw [ended] at goesOn
      contradiction
  | wrapping =>
      rw [untold] at goesOn
      rw [← Option.some.inj goesOn] at told
      contradiction

end DualBank
