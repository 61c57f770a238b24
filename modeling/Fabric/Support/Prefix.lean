import Fabric.Support.OrdMap
import Mathlib.Data.List.Lex

/-!
# Prefixes in lexicographic order

The lists that start with a prefix stand together in lexicographic order, right behind the prefix
itself. So the first key of a map that is not below the prefix is the least key that has it, if any
key does (`lowerBound_prefix_iff`).

`append_cons_inj` splits two equal lists at their first separator.
-/

namespace Fabric.Support

variable {α : Type}

/-- Two equal lists with a first separator are equal before it and after it. -/
theorem append_cons_inj {p : α → Prop} {l₁ l₂ x y : List α} {b c : α} (h₁ : ∀ a ∈ l₁, p a)
    (h₂ : ∀ a ∈ l₂, p a) (hb : ¬ p b) (hc : ¬ p c) (h : l₁ ++ b :: x = l₂ ++ c :: y) :
    l₁ = l₂ ∧ x = y := by
  induction l₁ generalizing l₂ with
  | nil =>
    cases l₂ with
    | nil => exact ⟨rfl, (List.cons.inj h).2⟩
    | cons a l₂ =>
      obtain ⟨rfl, -⟩ := List.cons.inj h
      exact absurd (h₂ _ List.mem_cons_self) hb
  | cons a l₁ ih =>
    cases l₂ with
    | nil =>
      obtain ⟨rfl, -⟩ := List.cons.inj h
      exact absurd (h₁ _ List.mem_cons_self) hc
    | cons a' l₂ =>
      obtain ⟨rfl, htail⟩ := List.cons.inj h
      obtain ⟨rfl, hxy⟩ := ih (fun e he => h₁ e (List.mem_cons_of_mem _ he))
        (fun e he => h₂ e (List.mem_cons_of_mem _ he)) htail
      exact ⟨rfl, hxy⟩

variable [LinearOrder α]

theorem nil_le_list (l : List α) : [] ≤ l := not_lt.mp (List.not_lt_nil l)

theorem cons_le_cons_iff {a b : α} {l l' : List α} :
    a :: l ≤ b :: l' ↔ a < b ∨ a = b ∧ l ≤ l' := by
  have hlt : b :: l' < a :: l ↔ b < a ∨ b = a ∧ l' < l := List.cons_lt_cons_iff
  rw [← not_lt, hlt]
  rcases lt_trichotomy a b with h | rfl | h
  · exact iff_of_true (not_or.mpr ⟨h.asymm, fun hb => h.ne' hb.1⟩) (.inl h)
  · simp
  · exact iff_of_false (not_not.mpr (.inl h)) (not_or.mpr ⟨h.asymm, fun ha => h.ne' ha.1⟩)

theorem prefix_le {pre l : List α} (h : pre <+: l) : pre ≤ l := by
  induction pre generalizing l with
  | nil => exact nil_le_list l
  | cons a pre ih =>
    obtain ⟨rest, rfl⟩ := h
    exact cons_le_cons_iff.mpr (.inr ⟨rfl, ih (List.prefix_append pre rest)⟩)

/-- Between a prefix and a list that has it, every list has it. -/
theorem prefix_of_between {pre l t : List α} (h₁ : pre ≤ l) (h₂ : l ≤ t) (ht : pre <+: t) :
    pre <+: l := by
  induction pre generalizing l t with
  | nil => exact List.nil_prefix
  | cons a pre ih =>
    obtain ⟨rest, rfl⟩ := ht
    cases l with
    | nil =>
      rcases h₁.lt_or_eq with hlt | heq
      · exact absurd hlt (List.not_lt_nil _)
      · cases heq
    | cons b l =>
      rcases cons_le_cons_iff.mp h₁ with hab | ⟨rfl, hpre⟩
      · rcases cons_le_cons_iff.mp h₂ with hba | ⟨rfl, -⟩
        · exact absurd hba hab.asymm
        · exact absurd hab (lt_irrefl _)
      · rcases cons_le_cons_iff.mp h₂ with hba | ⟨-, hrest⟩
        · exact absurd hba (lt_irrefl _)
        · exact (List.prefix_cons_inj _).mpr (ih hpre hrest (List.prefix_append pre rest))

namespace OrdMap

variable {V : Type}

/-- The lower bound is the least entry that is not below the key. -/
theorem lowerBound_eq_some_iff {K : Type} [LinearOrder K] {m : OrdMap K V} {k : K} {e : K × V} :
    m.lowerBound k = some e ↔
      e ∈ m.entries ∧ k ≤ e.1 ∧ ∀ e' ∈ m.entries, k ≤ e'.1 → e.1 ≤ e'.1 := by
  rw [lowerBound, List.find?_eq_some_iff_append]
  simp only [Bool.not_eq_eq_eq_not, Bool.not_true, decide_eq_false_iff_not, not_lt, Bool.not_false,
    decide_eq_true_eq]
  constructor
  · rintro ⟨hk, pre, post, heq, hbelow⟩
    have hsorted := m.sorted
    rw [heq, List.pairwise_append, List.pairwise_cons] at hsorted
    refine ⟨by rw [heq]; simp, hk, fun e' he' hk' => ?_⟩
    rw [heq] at he'
    rcases List.mem_append.mp he' with hpre | hpost
    · exact absurd (hbelow e' hpre) (not_lt.mpr hk')
    · rcases List.mem_cons.mp hpost with rfl | hpost
      · exact le_rfl
      · exact (hsorted.2.1.1 e' hpost).le
  · rintro ⟨hmem, hk, hleast⟩
    obtain ⟨pre, post, heq⟩ := List.append_of_mem hmem
    have hsorted := m.sorted
    rw [heq, List.pairwise_append] at hsorted
    refine ⟨hk, pre, post, heq, fun a ha => lt_of_not_ge fun hka => ?_⟩
    have hle := hleast a (by rw [heq]; simp [ha]) hka
    exact absurd (hsorted.2.2 a ha e List.mem_cons_self) (not_lt.mpr hle)

/-- The lower bound of a prefix has it exactly when it is the least entry whose key has it. -/
theorem lowerBound_prefix_iff {m : OrdMap (List α) V} {pre : List α} {e : List α × V} :
    m.lowerBound pre = some e ∧ pre <+: e.1 ↔
      e ∈ m.entries ∧ pre <+: e.1 ∧ ∀ e' ∈ m.entries, pre <+: e'.1 → e.1 ≤ e'.1 := by
  rw [lowerBound_eq_some_iff]
  constructor
  · rintro ⟨⟨hmem, -, hleast⟩, hpre⟩
    exact ⟨hmem, hpre, fun e' he' hpre' => hleast e' he' (prefix_le hpre')⟩
  · rintro ⟨hmem, hpre, hleast⟩
    refine ⟨⟨hmem, prefix_le hpre, fun e' he' hle => ?_⟩, hpre⟩
    by_contra hlt
    rw [not_le] at hlt
    exact absurd (hleast e' he' (prefix_of_between hle hlt.le hpre)) (not_le.mpr hlt)

/-- When some key has the prefix, the lower bound has it. -/
theorem exists_lowerBound_prefix {m : OrdMap (List α) V} {pre : List α} {e : List α × V}
    (hmem : e ∈ m.entries) (hpre : pre <+: e.1) :
    ∃ first, m.lowerBound pre = some first ∧ pre <+: first.1 := by
  cases hbound : m.lowerBound pre with
  | none =>
    have hnot := List.find?_eq_none.mp hbound e hmem
    simp [not_lt.mpr (prefix_le hpre)] at hnot
  | some first =>
    obtain ⟨-, hle, hleast⟩ := lowerBound_eq_some_iff.mp hbound
    exact ⟨first, rfl, prefix_of_between hle (hleast e hmem (prefix_le hpre)) hpre⟩

end OrdMap

end Fabric.Support
