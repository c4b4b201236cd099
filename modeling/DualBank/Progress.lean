/-! How far a download has come, told in whole steps. -/

namespace DualBank

/-- What becomes of a product that does not fit in its words: a checked build ends the thread over
it, and in a wrapping one it loses its upper part. -/
inductive Build where
  | checked
  | wrapping
deriving DecidableEq

structure Progress where
  written : UInt64
  total : UInt64
  lastPercent : UInt8
deriving DecidableEq

namespace Progress

def zero : Progress := ⟨0, 0, 0⟩

-- As in a wrapping build: the product is one of 64-bit words.
def percent (progress : Progress) : UInt8 :=
  (min (progress.written * 100 / progress.total) 100).toUInt8

def rounded (progress : Progress) (step : UInt8) : UInt8 :=
  progress.percent - progress.percent % max step 1

-- Tells the rounded share only when it is above the last one told, so what is told never falls,
-- whatever total is announced next.
def advance (progress : Progress) (step : UInt8) : Option UInt8 × Progress :=
  if progress.total = 0 then (none, progress)
  else if progress.lastPercent < progress.rounded step then
    (some (progress.rounded step), { progress with lastPercent := progress.rounded step })
  else (none, progress)

theorem advance_snd (progress : Progress) (step : UInt8) :
    (progress.advance step).2.written = progress.written ∧
      (progress.advance step).2.total = progress.total := by
  unfold advance
  split
  · exact ⟨rfl, rfl⟩
  · split <;> exact ⟨rfl, rfl⟩

/-- How far the thread gets with it in this build: `none` is its end. Without a total there is no
product. -/
def advanceIn (build : Build) (progress : Progress) (step : UInt8) :
    Option (Option UInt8 × Progress) :=
  match build with
  | .wrapping => some (progress.advance step)
  | .checked =>
      if progress.total = 0 ∨ 100 * progress.written.toNat < UInt64.size then
        some (progress.advance step)
      else none

end Progress

end DualBank
