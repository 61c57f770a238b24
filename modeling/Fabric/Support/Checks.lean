/-!
# Chains of checks

A validation routine runs checks one after the other and stops at the first that fails.
Here it is a computation in `Except ε`; `require` checks a condition and `orFail` checks
that an optional value is there. The rules say when a chain succeeds and when it fails, one
link at a time, so that a chain is taken apart by rewriting and never unfolded. `FailsWith`
collects what holds of every failure of a chain.
-/

namespace Fabric.Support.Checks

variable {ε α β : Type}

/-- Fail with `e` unless `c` holds. -/
def require (c : Prop) [Decidable c] (e : ε) : Except ε Unit := if c then .ok () else .error e

/-- The value, or failure with `e`. -/
def orFail (x : Option α) (e : ε) : Except ε α :=
  match x with
  | none => .error e
  | some a => .ok a

theorem bind_eq_ok_iff {x : Except ε α} {f : α → Except ε β} {b : β} :
    x >>= f = .ok b ↔ ∃ a, x = .ok a ∧ f a = .ok b := by
  constructor
  · intro h
    cases x with
    | error e => cases h
    | ok a => exact ⟨a, rfl, h⟩
  · rintro ⟨a, rfl, h⟩
    exact h

theorem bind_eq_error_iff {x : Except ε α} {f : α → Except ε β} {e : ε} :
    x >>= f = .error e ↔ x = .error e ∨ ∃ a, x = .ok a ∧ f a = .error e := by
  constructor
  · intro h
    cases x with
    | error e' => exact .inl (by cases h; rfl)
    | ok a => exact .inr ⟨a, rfl, h⟩
  · rintro (rfl | ⟨a, rfl, h⟩)
    · rfl
    · exact h

theorem require_eq_ok_iff {c : Prop} [Decidable c] {e : ε} {u : Unit} :
    require c e = .ok u ↔ c := by
  unfold require
  split <;> simp [*]

theorem require_eq_error_iff {c : Prop} [Decidable c] {e e' : ε} :
    require c e = .error e' ↔ ¬ c ∧ e = e' := by
  unfold require
  split <;> simp [*]

theorem orFail_eq_ok_iff {x : Option α} {e : ε} {a : α} : orFail x e = .ok a ↔ x = some a := by
  cases x <;> simp [orFail]

theorem orFail_eq_error_iff {x : Option α} {e e' : ε} :
    orFail x e = .error e' ↔ x = none ∧ e = e' := by
  cases x <;> simp [orFail]

/-! ## What every failure meets -/

/-- Every failure of `x` meets `P`. -/
def FailsWith (P : ε → Prop) (x : Except ε α) : Prop := ∀ e, x = .error e → P e

namespace FailsWith

variable {P : ε → Prop}

theorem ok (a : α) : FailsWith P (.ok a : Except ε α) := fun e h => by cases h

theorem require {c : Prop} [Decidable c] {e : ε} (h : P e) : FailsWith P (require c e) := by
  intro e' he
  obtain ⟨-, rfl⟩ := require_eq_error_iff.mp he
  exact h

theorem orFail {x : Option α} {e : ε} (h : P e) : FailsWith P (orFail x e) := by
  intro e' he
  obtain ⟨-, rfl⟩ := orFail_eq_error_iff.mp he
  exact h

theorem bind {x : Except ε α} {f : α → Except ε β} (hx : FailsWith P x)
    (hf : ∀ a, FailsWith P (f a)) : FailsWith P (x >>= f) := by
  intro e he
  rcases bind_eq_error_iff.mp he with he | ⟨a, -, he⟩
  · exact hx e he
  · exact hf a e he

theorem foldlM {f : β → α → Except ε β} (hf : ∀ b a, FailsWith P (f b a)) (l : List α) (b : β) :
    FailsWith P (l.foldlM f b) := by
  induction l generalizing b with
  | nil => exact ok b
  | cons a l ih =>
    rw [List.foldlM_cons]
    exact (hf b a).bind fun b' => ih b'

end FailsWith

end Fabric.Support.Checks
