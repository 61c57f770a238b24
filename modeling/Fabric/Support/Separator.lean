import Mathlib.Data.List.Basic
import Mathlib.Data.List.Infix

/-!
# Texts joined by separators

Fields that may hold any text are joined by separators in between. A separator is a mark followed
by a text without that mark, so separators do not overlap (`append_separator_cases`).

The fields can be read back from a joined text exactly when no field holds a separator that stands
beside it (`join₃_unique_iff`).
-/

namespace Fabric.Support.Separator

variable {α : Type} {mark : α} {s t : List α}

/-- A text that is cut at two separators: the cuts are the same, or one part holds the separator of
the other cut. -/
theorem append_separator_cases {a b u v : List α} (hs : mark ∉ s) (ht : mark ∉ t)
    (h : a ++ mark :: s ++ u = b ++ mark :: t ++ v) :
    a = b ∧ s ++ u = t ++ v ∨ (∃ x, b = a ++ mark :: s ++ x ∧ u = x ++ mark :: t ++ v) ∨
      ∃ x, a = b ++ mark :: t ++ x ∧ v = x ++ mark :: s ++ u := by
  -- The later cut is behind the whole separator of the earlier one.
  have later : ∀ {s t u v x : List α}, mark ∉ s →
      mark :: (s ++ u) = x ++ mark :: (t ++ v) →
      x = [] ∧ s ++ u = t ++ v ∨ ∃ y, x = mark :: s ++ y ∧ u = y ++ mark :: (t ++ v) := by
    intro s t u v x hs h
    cases x with
    | nil => exact .inl ⟨rfl, (List.cons.inj h).2⟩
    | cons m x =>
      obtain ⟨rfl, htail⟩ := List.cons.inj h
      rcases List.append_eq_append_iff.mp htail with ⟨y, rfl, hu⟩ | ⟨y, rfl, hv⟩
      · exact .inr ⟨y, rfl, hu⟩
      · cases y with
        | nil => exact .inr ⟨[], by simp, by simpa using hv.symm⟩
        | cons m' y =>
          obtain ⟨rfl, -⟩ := List.cons.inj hv
          simp at hs
  rw [List.append_assoc, List.append_assoc, List.cons_append, List.cons_append] at h
  rcases List.append_eq_append_iff.mp h with ⟨x, rfl, hx⟩ | ⟨x, rfl, hx⟩
  · rcases later hs hx with ⟨rfl, heq⟩ | ⟨y, rfl, hu⟩
    · exact .inl ⟨(List.append_nil _).symm, heq⟩
    · exact .inr (.inl ⟨y, by simp, by simpa using hu⟩)
  · rcases later ht hx with ⟨rfl, heq⟩ | ⟨y, rfl, hv⟩
    · exact .inl ⟨List.append_nil _, heq.symm⟩
    · exact .inr (.inr ⟨y, by simp, by simpa using hv⟩)

/-- Three fields with two separators in between. -/
def join₃ (sep sep' x y z : List α) : List α := x ++ sep ++ (y ++ sep' ++ z)

/-- The fields can be read back exactly when none holds a separator beside it. -/
theorem join₃_unique_iff (hs : mark ∉ s) (ht : mark ∉ t) (hst : ∀ u v, s ++ u ≠ t ++ v)
    (x y z : List α) :
    (∀ x' y' z', join₃ (mark :: s) (mark :: t) x' y' z' = join₃ (mark :: s) (mark :: t) x y z →
      x' = x ∧ y' = y ∧ z' = z) ↔
      (¬ mark :: s <:+: x) ∧ ((¬ mark :: s <:+: y) ∧ ¬ mark :: t <:+: y) ∧ ¬ mark :: t <:+: z := by
  constructor
  · -- A separator in a field could stand for the one beside it.
    intro h
    refine ⟨?_, ⟨?_, ?_⟩, ?_⟩
    · rintro ⟨a, b, rfl⟩
      obtain ⟨ha, -, -⟩ := h a (b ++ mark :: s ++ y) z (by simp [join₃])
      simpa using congrArg List.length ha
    · rintro ⟨a, b, rfl⟩
      obtain ⟨hx, -, -⟩ := h (x ++ mark :: s ++ a) b z (by simp [join₃])
      simpa using congrArg List.length hx
    · rintro ⟨a, b, rfl⟩
      obtain ⟨-, ha, -⟩ := h x a (b ++ mark :: t ++ z) (by simp [join₃])
      simpa using congrArg List.length ha
    · rintro ⟨a, b, rfl⟩
      obtain ⟨-, hy, -⟩ := h x (y ++ mark :: t ++ a) b (by simp [join₃])
      simpa using congrArg List.length hy
  · rintro ⟨hx, ⟨hys, hyt⟩, hz⟩ x' y' z' h
    rcases append_separator_cases hs hs h with ⟨rfl, hrest⟩ | ⟨a, rfl, -⟩ | ⟨a, -, hrest⟩
    · rcases append_separator_cases ht ht (List.append_cancel_left hrest) with
        ⟨rfl, hlast⟩ | ⟨a, rfl, -⟩ | ⟨a, -, rfl⟩
      · exact ⟨rfl, rfl, List.append_cancel_left hlast⟩
      · exact absurd ⟨_, _, rfl⟩ hyt
      · exact absurd ⟨_, _, rfl⟩ hz
    · exact absurd ⟨_, _, rfl⟩ hx
    · -- The first separator stands behind the first field, so in one of the others.
      rcases append_separator_cases ht hs hrest with ⟨-, heq⟩ | ⟨b, -, rfl⟩ | ⟨b, rfl, -⟩
      · exact absurd heq.symm (hst _ _)
      · exact absurd ⟨b ++ mark :: s ++ y', z', by simp⟩ hz
      · exact absurd ⟨_, _, rfl⟩ hys

end Fabric.Support.Separator
