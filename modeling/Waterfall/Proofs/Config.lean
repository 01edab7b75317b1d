import Waterfall.Analysis.Config
import Waterfall.Proofs.Outcome

/-! # Settings that are accepted

Settings are accepted exactly when none of the checks finds a fault, whatever the order in which the
checks are made.
-/

namespace Waterfall.AnalysisConfig

/-- What the checks promise about accepted settings. -/
structure Valid (config : AnalysisConfig) : Prop where
  two_le_windowLength : 2 ≤ config.windowLength
  windowLength_even : config.windowLength % 2 = 0
  overlap_finite : nonFiniteText? config.overlap = none
  historyRows_pos : 0 < config.historyRows
  two_le_spareWindows : 2 ≤ config.spareWindows

/-- The checks as one choice after the other. -/
private theorem validate_eq (config : AnalysisConfig) :
    config.validate =
      if config.windowLength < 2 ∨ config.windowLength % 2 ≠ 0 then
        .error (.windowLength config.windowLength)
      else match nonFiniteText? config.overlap with
        | some text => .error (.overlap text)
        | none =>
          if config.historyRows = 0 then .error .noHistoryRows
          else if config.spareWindows < 2 then .error (.spareWindows config.spareWindows)
          else .ok () := by
  rw [validate]
  cases nonFiniteText? config.overlap <;> rfl

theorem validate_eq_ok_iff (config : AnalysisConfig) :
    config.validate = .ok () ↔ config.Valid := by
  rw [validate_eq]
  constructor
  · intro accepted
    split at accepted
    · cases accepted
    · cases finite : nonFiniteText? config.overlap with
      | some text =>
        rw [finite] at accepted
        cases accepted
      | none =>
        simp only [finite] at accepted
        split at accepted
        · cases accepted
        · split at accepted
          · cases accepted
          · constructor <;> first | exact finite | omega
  · rintro ⟨two_le_windowLength, windowLength_even, overlap_finite, historyRows_pos,
      two_le_spareWindows⟩
    rw [if_neg (by omega), overlap_finite]
    dsimp only
    rw [if_neg (by omega), if_neg (by omega)]

end Waterfall.AnalysisConfig
