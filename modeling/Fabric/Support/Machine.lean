import Mathlib.Data.List.Induction

/-!
# Machines that answer calls

A `Machine` is a start state together with a step that answers a call and moves to the
next state. A *history* is the list of calls issued so far, oldest first; `after` is the
state it leads to. Statements about "every run" quantify over histories, statements about
an earlier call split a history as `pre ++ i :: mid`.

* `invariant`: what holds at the start and is kept by every step holds after every
  history. `invariant_of_guarded` is the same rule for histories whose calls all meet a
  condition on the state they are issued in.
* `throughout_iff_guarded`: a step law with both directions (a step keeps `P` exactly when
  the condition holds) becomes a law about whole histories.
* `persists`: what every step keeps, once true, stays true.
* `Happened.since`: what an event brings about and every later call keeps.
* `Latest.since`: what the last event of a kind brings about and the other calls keep.
* `Stages.among`: the calls of one party lead through their stages among calls of others that keep
  each stage.
* `replies_eq_of_simulation`: a relation that every call keeps while giving equal answers
  makes two runs indistinguishable.
-/

namespace Fabric.Support

/-- A deterministic machine: where it starts, and what a call returns and leaves behind. -/
structure Machine (σ ι ο : Type) where
  init : σ
  step : σ → ι → ο × σ

namespace Machine

variable {σ ι ο : Type} (M : Machine σ ι ο)

/-- The state a call leaves behind. -/
def next (s : σ) (i : ι) : σ := (M.step s i).2

/-- The answer to a call. -/
def reply (s : σ) (i : ι) : ο := (M.step s i).1

/-- The state after a list of calls issued from `s`. -/
def run (s : σ) (is : List ι) : σ := is.foldl M.next s

/-- The answers to a list of calls issued from `s`. -/
def replies (s : σ) : List ι → List ο
  | [] => []
  | i :: is => M.reply s i :: replies (M.next s i) is

/-- The state after a history. -/
def after (is : List ι) : σ := M.run M.init is

@[simp] theorem run_nil (s : σ) : M.run s [] = s := rfl

@[simp] theorem run_cons (s : σ) (i : ι) (is : List ι) :
    M.run s (i :: is) = M.run (M.next s i) is := rfl

theorem run_append (s : σ) (is js : List ι) :
    M.run s (is ++ js) = M.run (M.run s is) js := List.foldl_append

theorem replies_snoc (s : σ) (is : List ι) (i : ι) :
    M.replies s (is ++ [i]) = M.replies s is ++ [M.reply (M.run s is) i] := by
  induction is generalizing s with
  | nil => rfl
  | cons j is ih => simp [replies, ih]

@[simp] theorem after_snoc (is : List ι) (i : ι) :
    M.after (is ++ [i]) = M.next (M.after is) i := M.run_append _ is [i]

theorem after_append (is js : List ι) : M.after (is ++ js) = M.run (M.after is) js :=
  M.run_append _ is js

/-! ## Invariants -/

variable {M} {I P : σ → Prop} {C : σ → ι → Prop}

/-- What holds at the start and is kept by every step holds after every history. -/
theorem invariant (h0 : P M.init) (hstep : ∀ s i, P s → P (M.next s i)) (is : List ι) :
    P (M.after is) := by
  induction is using List.reverseRecOn with
  | nil => exact h0
  | append_singleton is i ih =>
    rw [after_snoc]
    exact hstep _ _ ih

/-- What every step keeps stays true through any continuation. -/
theorem persists (hI : ∀ is, I (M.after is)) (hstep : ∀ s i, I s → P s → P (M.next s i))
    {is : List ι} (h : P (M.after is)) (js : List ι) : P (M.after (is ++ js)) := by
  induction js using List.reverseRecOn with
  | nil => simpa using h
  | append_singleton js j ih =>
    rw [← List.append_assoc, after_snoc]
    exact hstep _ _ (hI _) ih

/-- What every call of a list keeps is kept by the list. -/
theorem run_keeps {is : List ι} (hstep : ∀ s, ∀ i ∈ is, P s → P (M.next s i)) {s : σ} (h : P s) :
    P (M.run s is) := by
  induction is generalizing s with
  | nil => exact h
  | cons i is ih =>
    exact ih (fun s j hj => hstep s j (List.mem_cons_of_mem _ hj)) (hstep s i List.mem_cons_self h)

/-! ## Histories whose calls meet a condition -/

variable (M) in
/-- Every call of the history meets `C` in the state it is issued in. -/
def Guarded (C : σ → ι → Prop) (is : List ι) : Prop :=
  ∀ pre i post, is = pre ++ i :: post → C (M.after pre) i

variable (M) in
/-- `P` holds in every state the history passes through. -/
def Throughout (P : σ → Prop) (is : List ι) : Prop :=
  ∀ pre post, is = pre ++ post → P (M.after pre)

theorem guarded_nil : M.Guarded C [] := by
  intro pre i post h
  simp at h

theorem guarded_snoc {is : List ι} {i : ι} :
    M.Guarded C (is ++ [i]) ↔ M.Guarded C is ∧ C (M.after is) i := by
  constructor
  · intro h
    refine ⟨fun pre j post hp => h pre j (post ++ [i]) (by simp [hp]), h is i [] rfl⟩
  · rintro ⟨h, hi⟩ pre j post hp
    rcases List.eq_nil_or_concat post with rfl | ⟨post, k, rfl⟩
    · obtain ⟨rfl, hji⟩ := List.append_inj' hp rfl
      obtain rfl : i = j := by simpa using hji
      exact hi
    · rw [List.concat_eq_append, ← List.cons_append, ← List.append_assoc] at hp
      exact h pre j post (List.append_inj' hp rfl).1

theorem Guarded.prefix {pre post : List ι} (h : M.Guarded C (pre ++ post)) :
    M.Guarded C pre := fun a i b hp => h a i (b ++ post) (by simp [hp])

variable (M) in
/-- The calls of a list issued from `s` all meet `C`. -/
def GuardedFrom (C : σ → ι → Prop) (s : σ) : List ι → Prop
  | [] => True
  | i :: is => C s i ∧ GuardedFrom C (M.next s i) is

theorem guardedFrom_snoc {s : σ} {is : List ι} {i : ι} :
    M.GuardedFrom C s (is ++ [i]) ↔ M.GuardedFrom C s is ∧ C (M.run s is) i := by
  induction is generalizing s with
  | nil => simp [GuardedFrom]
  | cons j is ih => simp [GuardedFrom, ih, and_assoc]

/-- A history can be checked call by call from its start. -/
theorem guarded_iff_guardedFrom {is : List ι} :
    M.Guarded C is ↔ M.GuardedFrom C M.init is := by
  induction is using List.reverseRecOn with
  | nil => exact iff_of_true guarded_nil trivial
  | append_singleton is i ih =>
    rw [guarded_snoc, guardedFrom_snoc, ih]
    rfl

theorem throughout_nil : M.Throughout P [] ↔ P M.init := by
  constructor
  · exact fun h => h [] [] rfl
  · intro h pre post hp
    obtain ⟨rfl, rfl⟩ := List.append_eq_nil_iff.mp hp.symm
    exact h

theorem throughout_snoc {is : List ι} {i : ι} :
    M.Throughout P (is ++ [i]) ↔ M.Throughout P is ∧ P (M.after (is ++ [i])) := by
  constructor
  · intro h
    exact ⟨fun pre post hp => h pre (post ++ [i]) (by simp [hp]), h _ [] (by simp)⟩
  · rintro ⟨h, hi⟩ pre post hp
    rcases List.eq_nil_or_concat post with rfl | ⟨post, k, rfl⟩
    · rw [List.append_nil] at hp
      exact hp ▸ hi
    · rw [List.concat_eq_append, ← List.append_assoc] at hp
      exact h pre post (List.append_inj' hp rfl).1

theorem Throughout.last {is : List ι} (h : M.Throughout P is) : P (M.after is) :=
  h is [] (by simp)

/-- The invariant rule for histories whose calls all meet `C`; `I` is an invariant of all
histories that the step may use. -/
theorem invariant_of_guarded (hI : ∀ is, I (M.after is)) (h0 : P M.init)
    (hstep : ∀ s i, I s → C s i → P s → P (M.next s i)) {is : List ι}
    (h : M.Guarded C is) : P (M.after is) := by
  induction is using List.reverseRecOn with
  | nil => exact h0
  | append_singleton is i ih =>
    obtain ⟨hpre, hi⟩ := guarded_snoc.mp h
    rw [after_snoc]
    exact hstep _ _ (hI is) hi (ih hpre)

/-- When a step keeps `P` exactly if the call meets `C`, a history passes through states
with `P` only exactly if all its calls meet `C`. -/
theorem throughout_iff_guarded (hI : ∀ is, I (M.after is)) (h0 : P M.init)
    (hstep : ∀ s i, I s → P s → (P (M.next s i) ↔ C s i)) (is : List ι) :
    M.Throughout P is ↔ M.Guarded C is := by
  induction is using List.reverseRecOn with
  | nil => exact ⟨fun _ => guarded_nil, fun _ => throughout_nil.mpr h0⟩
  | append_singleton is i ih =>
    rw [throughout_snoc, guarded_snoc, after_snoc, ← ih]
    exact and_congr_right fun h => hstep _ _ (hI is) h.last

/-! ## What happened in a history -/

variable (M) in
/-- Some call of the history met `E` in the state it was issued in. -/
def Happened (E : σ → ι → Prop) (is : List ι) : Prop :=
  ∃ pre i post, is = pre ++ i :: post ∧ E (M.after pre) i

variable {E : σ → ι → Prop}

theorem not_happened_iff {is : List ι} :
    ¬ M.Happened E is ↔ M.Guarded (fun s i => ¬ E s i) is := by
  simp only [Happened, Guarded, not_exists, not_and]

theorem not_happened_nil : ¬ M.Happened E [] := not_happened_iff.mpr guarded_nil

theorem happened_snoc {is : List ι} {i : ι} :
    M.Happened E (is ++ [i]) ↔ M.Happened E is ∨ E (M.after is) i := by
  rw [← not_iff_not, not_happened_iff, guarded_snoc, ← not_happened_iff, not_or]

/-- What happened has happened whatever comes later. -/
theorem Happened.append {is : List ι} (h : M.Happened E is) (js : List ι) :
    M.Happened E (is ++ js) := by
  obtain ⟨pre, i, post, rfl, hi⟩ := h
  exact ⟨pre, i, post ++ js, by rw [List.append_assoc, List.cons_append], hi⟩

/-- What an event brings about and every later call keeps holds once the event happened. -/
theorem Happened.since_of_guarded (hI : ∀ is, I (M.after is))
    (hstart : ∀ s i, I s → C s i → E s i → P (M.next s i))
    (hstep : ∀ s i, I s → C s i → P s → P (M.next s i)) {is : List ι} (hC : M.Guarded C is)
    (h : M.Happened E is) : P (M.after is) := by
  induction is using List.reverseRecOn with
  | nil => exact absurd h not_happened_nil
  | append_singleton is i ih =>
    obtain ⟨hpre, hi⟩ := guarded_snoc.mp hC
    rw [after_snoc]
    rcases happened_snoc.mp h with h | h
    · exact hstep _ _ (hI is) hi (ih hpre h)
    · exact hstart _ _ (hI is) hi h

theorem Happened.since (hI : ∀ is, I (M.after is)) (hstart : ∀ s i, I s → E s i → P (M.next s i))
    (hstep : ∀ s i, I s → P s → P (M.next s i)) {is : List ι} (h : M.Happened E is) :
    P (M.after is) :=
  h.since_of_guarded (C := fun _ _ => True) hI (fun s i hs _ => hstart s i hs)
    (fun s i hs _ => hstep s i hs) fun _ _ _ _ => trivial

/-! ## The last event of a kind -/

section Latest

variable {α : Type} {E : σ → ι → α → Prop} {x : α}

variable (M) in
/-- The last call of the history that met `E` met it with `x`. -/
def Latest (E : σ → ι → α → Prop) (x : α) (is : List ι) : Prop :=
  ∃ pre i post, is = pre ++ i :: post ∧ E (M.after pre) i x ∧
    ∀ mid j rest y, post = mid ++ j :: rest → ¬ E (M.after (pre ++ i :: mid)) j y

theorem not_latest_nil : ¬ M.Latest E x [] := by
  rintro ⟨pre, i, post, h, -⟩
  simp at h

theorem latest_snoc {is : List ι} {i : ι} : M.Latest E x (is ++ [i]) ↔
    E (M.after is) i x ∨ M.Latest E x is ∧ ∀ y, ¬ E (M.after is) i y := by
  constructor
  · rintro ⟨pre, j, post, h, hj, hlast⟩
    rcases List.eq_nil_or_concat post with rfl | ⟨post, k, rfl⟩
    · obtain ⟨rfl, hij⟩ := List.append_inj' h rfl
      obtain rfl : i = j := by simpa using hij
      exact .inl hj
    · rw [List.concat_eq_append, ← List.cons_append, ← List.append_assoc] at h
      obtain ⟨rfl, hik⟩ := List.append_inj' h rfl
      obtain rfl : i = k := by simpa using hik
      refine .inr ⟨⟨pre, j, post, rfl, hj, fun mid l rest y hpost => ?_⟩, fun y => ?_⟩
      · exact hlast mid l (rest ++ [i]) y (by simp [hpost])
      · exact hlast post i [] y (by simp)
  · rintro (hi | ⟨⟨pre, j, post, rfl, hj, hlast⟩, hnot⟩)
    · exact ⟨is, i, [], rfl, hi, fun mid _ _ _ h => by simp at h⟩
    · refine ⟨pre, j, post ++ [i], by simp, hj, fun mid l rest y hpost => ?_⟩
      rcases List.eq_nil_or_concat rest with rfl | ⟨rest, k, rfl⟩
      · obtain ⟨rfl, hil⟩ := List.append_inj' hpost rfl
        obtain rfl : i = l := by simpa using hil
        exact hnot y
      · rw [List.concat_eq_append, ← List.cons_append, ← List.append_assoc] at hpost
        exact hlast mid l rest y (List.append_inj' hpost rfl).1

/-- What the last event of a kind brings about and the calls of no such event keep. -/
theorem Latest.since {Q : α → σ → Prop} (hstart : ∀ s i, E s i x → Q x (M.next s i))
    (hstep : ∀ s i, (∀ y, ¬ E s i y) → Q x s → Q x (M.next s i)) {is : List ι}
    (h : M.Latest E x is) : Q x (M.after is) := by
  induction is using List.reverseRecOn with
  | nil => exact absurd h not_latest_nil
  | append_singleton is i ih =>
    rw [after_snoc]
    rcases latest_snoc.mp h with h | ⟨h, hnot⟩
    · exact hstart _ _ h
    · exact hstep _ _ hnot (ih h)

end Latest

/-! ## What a history notes -/

section Log

variable {α : Type} {note : σ → ι → Option α}

variable (M) in
/-- What the calls of a list issued from `s` note, oldest first. -/
def log (note : σ → ι → Option α) (s : σ) : List ι → List α
  | [] => []
  | i :: is => (note s i).toList ++ log note (M.next s i) is

theorem log_snoc {s : σ} {is : List ι} {i : ι} :
    M.log note s (is ++ [i]) = M.log note s is ++ (note (M.run s is) i).toList := by
  induction is generalizing s with
  | nil => simp [log]
  | cons j is ih => simp [log, ih]

theorem log_append {s : σ} {is js : List ι} :
    M.log note s (is ++ js) = M.log note s is ++ M.log note (M.run s is) js := by
  induction is generalizing s with
  | nil => rfl
  | cons i is ih => simp [log, ih]

/-! ## One party among others -/

variable {τ : Type} {At : σ → τ → Prop} {mine : ι → Prop} [DecidablePred mine]

variable (M) in
/-- The calls of one party lead from stage to stage, whatever else the state holds. -/
inductive Stages (note : σ → ι → Option α) (At : σ → τ → Prop) : List ι → τ → List α → τ → Prop
  | nil (t : τ) : Stages note At [] t [] t
  | cons {i : ι} {is : List ι} {t t' t'' : τ} {a : Option α} {as : List α}
      (hstep : ∀ s, At s t → note s i = a ∧ At (M.next s i) t')
      (hrest : Stages note At is t' as t'') : Stages note At (i :: is) t (a.toList ++ as) t''

/-- The calls of one party lead through its stages also when calls of others come in between that
keep every stage. -/
theorem Stages.among {own is : List ι} {s : σ} {t t' : τ} {as : List α}
    (h : M.Stages note At own t as t') (hown : is.filter mine = own)
    (hnote : ∀ s i, ¬ mine i → note s i = none)
    (hkeep : ∀ s i t, C s i → ¬ mine i → At s t → At (M.next s i) t)
    (hguard : M.GuardedFrom C s is) (hs : At s t) :
    M.log note s is = as ∧ At (M.run s is) t' := by
  induction is generalizing s t own as with
  | nil =>
    obtain rfl := hown
    cases h
    exact ⟨rfl, hs⟩
  | cons i is ih =>
    obtain ⟨hi, hguard⟩ := hguard
    by_cases hmine : mine i
    · rw [List.filter_cons_of_pos (by simpa using hmine)] at hown
      obtain rfl := hown
      cases h with
      | cons hstep hrest =>
        obtain ⟨hnoted, hat⟩ := hstep s hs
        obtain ⟨hlog, hend⟩ := ih hrest rfl hguard hat
        exact ⟨by rw [log, hnoted, hlog], hend⟩
    · rw [List.filter_cons_of_neg (by simpa using hmine)] at hown
      obtain ⟨hlog, hend⟩ := ih h hown hguard (hkeep s i t hi hmine hs)
      exact ⟨by rw [log, hnote s i hmine, hlog]; rfl, hend⟩

end Log

/-! ## Two runs -/

/-- A relation kept by the calls of `A`, with equal answers, makes the runs on these calls
indistinguishable. -/
theorem replies_eq_of_simulation {R : σ → σ → Prop} {A : ι → Prop}
    (hstep : ∀ s t i, A i → R s t → M.reply s i = M.reply t i ∧ R (M.next s i) (M.next t i))
    {s t : σ} (h : R s t) {is : List ι} (hA : ∀ i ∈ is, A i) :
    M.replies s is = M.replies t is ∧ R (M.run s is) (M.run t is) := by
  induction is generalizing s t with
  | nil => exact ⟨rfl, h⟩
  | cons i is ih =>
    obtain ⟨hr, hn⟩ := hstep s t i (hA i List.mem_cons_self) h
    obtain ⟨hrs, hns⟩ := ih hn fun j hj => hA j (List.mem_cons_of_mem _ hj)
    exact ⟨by simp [replies, hr, hrs], hns⟩

end Machine

end Fabric.Support
