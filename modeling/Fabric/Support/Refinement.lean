import Fabric.Support.Machine

/-!
# Refinement between machines

A machine refines another one when its states map to states of the other and each of its calls
does there what a list of calls does. `calls` is what a history amounts to on the other machine.

* `Refines.after`: the map of the state after a history is the state after its calls.
* `Refines.trans`: refinements compose.
-/

namespace Fabric.Support

variable {σ ι ο τ κ π υ μ ρ : Type}

namespace Machine

variable (M : Machine σ ι ο) (call : σ → ι → List κ)

/-- What a list of calls issued from `s` amounts to, in order. -/
def calls (s : σ) : List ι → List κ
  | [] => []
  | i :: is => call s i ++ calls (M.next s i) is

theorem calls_snoc (s : σ) (is : List ι) (i : ι) :
    M.calls call s (is ++ [i]) = M.calls call s is ++ call (M.run s is) i := by
  induction is generalizing s with
  | nil => simp [calls]
  | cons j is ih => simp [calls, ih]

@[simp] theorem calls_singleton (s : σ) (i : ι) : M.calls call s [i] = call s i :=
  List.append_nil _

end Machine

/-- `A` refines `B`: on the states with `I`, the map `abs` turns a step of `A` into the calls
that `call` gives for it. -/
structure Refines (A : Machine σ ι ο) (B : Machine τ κ π) (I : σ → Prop) (abs : σ → τ)
    (call : σ → ι → List κ) : Prop where
  start : I A.init
  keeps : ∀ s i, I s → I (A.next s i)
  init : abs A.init = B.init
  next : ∀ s i, I s → abs (A.next s i) = B.run (abs s) (call s i)

namespace Refines

variable {A : Machine σ ι ο} {B : Machine τ κ π} {C : Machine υ μ ρ} {I : σ → Prop} {J : τ → Prop}
  {abs : σ → τ} {abs' : τ → υ} {call : σ → ι → List κ} {call' : τ → κ → List μ}

theorem holds (h : Refines A B I abs call) (is : List ι) : I (A.after is) :=
  A.invariant h.start h.keeps is

/-- A list of calls amounts to its calls on the other machine. -/
theorem run (h : Refines A B I abs call) {s : σ} (hs : I s) (is : List ι) :
    I (A.run s is) ∧ abs (A.run s is) = B.run (abs s) (A.calls call s is) := by
  induction is generalizing s with
  | nil => exact ⟨hs, rfl⟩
  | cons i is ih =>
    obtain ⟨hI, habs⟩ := ih (h.keeps s i hs)
    refine ⟨hI, ?_⟩
    rw [Machine.calls, B.run_append, ← h.next s i hs]
    exact habs

/-- The map of the state after a history is the state after its calls. -/
theorem after (h : Refines A B I abs call) (is : List ι) :
    abs (A.after is) = B.after (A.calls call A.init is) := by
  rw [Machine.after, (h.run h.start is).2, h.init]
  rfl

/-- Refinements compose. -/
theorem trans (h : Refines A B I abs call) (h' : Refines B C J abs' call') :
    Refines A C (fun s => I s ∧ J (abs s)) (fun s => abs' (abs s))
      (fun s i => B.calls call' (abs s) (call s i)) where
  start := ⟨h.start, h.init ▸ h'.start⟩
  keeps s i hs := by
    refine ⟨h.keeps s i hs.1, ?_⟩
    rw [h.next s i hs.1]
    exact (h'.run hs.2 _).1
  init := by rw [h.init, h'.init]
  next s i hs := by
    rw [h.next s i hs.1]
    exact (h'.run hs.2 _).2

end Refines

end Fabric.Support
