import Mathlib.Algebra.Order.Field.Basic
import Mathlib.Data.List.Induction
import Mathlib.Tactic.Linarith

/-!
# Exponential averages

An average that starts with the first sample and then moves by a fixed share towards every next one.
It lies between the smallest and the largest sample (`smoothAll_between`).
-/

namespace Fabric.Support

variable {K : Type*} [Field K] [LinearOrder K]

/-- The next average. One that is not positive has not started yet. -/
def smooth (a e c : K) : K := if e ≤ 0 then c else (1 - a) * e + a * c

/-- The average of a list of samples, from a start on. -/
def smoothAll (a e : K) (cs : List K) : K := cs.foldl (smooth a) e

theorem smoothAll_append (a e : K) (cs : List K) (c : K) :
    smoothAll a e (cs ++ [c]) = smooth a (smoothAll a e cs) c :=
  List.foldl_append

variable [IsStrictOrderedRing K] {a e c : K} {cs : List K}

theorem le_smooth {lo : K} (ha : 0 ≤ a) (ha' : a ≤ 1) (he : lo ≤ e) (hc : lo ≤ c) :
    lo ≤ smooth a e c := by
  unfold smooth
  split_ifs
  · exact hc
  · have hkeep := mul_le_mul_of_nonneg_left he (sub_nonneg.mpr ha')
    have hmove := mul_le_mul_of_nonneg_left hc ha
    linarith

theorem smooth_le {hi : K} (ha : 0 ≤ a) (ha' : a ≤ 1) (he : e ≤ hi) (hc : c ≤ hi) :
    smooth a e c ≤ hi := by
  unfold smooth
  split_ifs
  · exact hc
  · have hkeep := mul_le_mul_of_nonneg_left he (sub_nonneg.mpr ha')
    have hmove := mul_le_mul_of_nonneg_left hc ha
    linarith

/-- The average lies between two of the samples. -/
theorem smoothAll_between (ha : 0 ≤ a) (ha' : a ≤ 1) (he : e ≤ 0) (hne : cs ≠ []) :
    ∃ lo ∈ cs, ∃ hi ∈ cs, lo ≤ smoothAll a e cs ∧ smoothAll a e cs ≤ hi := by
  induction cs using List.reverseRecOn with
  | nil => exact absurd rfl hne
  | append_singleton cs c ih =>
    rw [smoothAll_append]
    by_cases hnil : cs = []
    · subst hnil
      have hfirst : smooth a (smoothAll a e []) c = c := if_pos he
      rw [hfirst]
      exact ⟨c, by simp, c, by simp, le_rfl, le_rfl⟩
    · obtain ⟨lo, hlo, hi, hhi, hle, hge⟩ := ih hnil
      have hmin : min lo c ∈ cs ++ [c] := by
        rcases min_choice lo c with h | h <;> simp [h, hlo]
      have hmax : max hi c ∈ cs ++ [c] := by
        rcases max_choice hi c with h | h <;> simp [h, hhi]
      exact ⟨_, hmin, _, hmax,
        le_smooth ha ha' ((min_le_left _ _).trans hle) (min_le_right _ _),
        smooth_le ha ha' (hge.trans (le_max_left _ _)) (le_max_right _ _)⟩

end Fabric.Support
