import Mathlib.Algebra.GroupWithZero.Nat
import Mathlib.Order.Lattice
import Mathlib.Order.Defs.LinearOrder
import Mathlib.Algebra.BigOperators.Group.List.Basic
import Mathlib.Algebra.Order.BigOperators.Group.List
import Mathlib.Algebra.Order.Group.Nat
import Mathlib.Data.List.Induction

/-!
# Finite maps kept in key order

`OrdMap K V` is an association list whose keys are strictly increasing; the order is a
field, so a map with a repeated or misplaced key cannot be built. It is the
iteration-ordered map of a tree-based container: looking up, overwriting and inserting
act on one key, and walking the entries visits the keys from the smallest on.

* `find?_insert`, `find?_mapValues`, `find?_erase`: what each operation does to a lookup.
* `ext_find?`: two maps with the same lookups are equal.
* `ofEntries_entries`: a map is rebuilt from its entries, one after the other.
* `sum_insert_of_none`, `sum_insert_of_some`: how a sum over the entries moves when one
  entry is added or replaced.
-/

namespace Fabric.Support

/-- A finite map as its entries in strictly increasing key order. -/
structure OrdMap (K V : Type) [LinearOrder K] where
  entries : List (K × V)
  sorted : entries.Pairwise (fun a b => a.1 < b.1)

namespace OrdMap

variable {K V W : Type} [LinearOrder K]

/-! ## Entry lists -/

/-- The value stored under `k`, scanning from the front. -/
def lookup (k : K) : List (K × V) → Option V
  | [] => none
  | (k', v) :: rest => if k = k' then some v else lookup k rest

/-- Put `v` under `k`, replacing what was there. -/
def put (k : K) (v : V) : List (K × V) → List (K × V)
  | [] => [(k, v)]
  | (k', v') :: rest =>
    if k < k' then (k, v) :: (k', v') :: rest
    else if k = k' then (k, v) :: rest
    else (k', v') :: put k v rest

theorem mem_put {k : K} {v : V} {l : List (K × V)} {e : K × V} (h : e ∈ put k v l) :
    e = (k, v) ∨ e ∈ l := by
  induction l with
  | nil => simpa [put] using h
  | cons a rest ih =>
    unfold put at h
    split_ifs at h with h1 h2
    · simpa using h
    · rcases List.mem_cons.mp h with rfl | h
      · exact Or.inl rfl
      · exact Or.inr (List.mem_cons_of_mem _ h)
    · rcases List.mem_cons.mp h with rfl | h
      · exact Or.inr List.mem_cons_self
      · exact (ih h).imp id (List.mem_cons_of_mem _)

theorem put_sorted (k : K) (v : V) {l : List (K × V)}
    (h : l.Pairwise (fun a b => a.1 < b.1)) :
    (put k v l).Pairwise (fun a b => a.1 < b.1) := by
  induction l with
  | nil => simp [put]
  | cons a rest ih =>
    obtain ⟨ha, hrest⟩ := List.pairwise_cons.mp h
    unfold put
    split_ifs with h1 h2
    · refine List.pairwise_cons.mpr ⟨?_, h⟩
      intro b hb
      rcases List.mem_cons.mp hb with rfl | hb
      · exact h1
      · exact h1.trans (ha b hb)
    · exact List.pairwise_cons.mpr ⟨fun b hb => h2 ▸ ha b hb, hrest⟩
    · refine List.pairwise_cons.mpr ⟨?_, ih hrest⟩
      intro b hb
      rcases mem_put hb with rfl | hb
      · exact lt_of_le_of_ne (not_lt.mp h1) (Ne.symm h2)
      · exact ha b hb

theorem lookup_put (k k' : K) (v : V) {l : List (K × V)}
    (h : l.Pairwise (fun a b => a.1 < b.1)) :
    lookup k' (put k v l) = if k' = k then some v else lookup k' l := by
  induction l with
  | nil => simp [put, lookup]
  | cons a rest ih =>
    obtain ⟨ka, va⟩ := a
    obtain ⟨ha, hrest⟩ := List.pairwise_cons.mp h
    rcases lt_trichotomy k ka with hk | rfl | hk
    · simp [put, hk, lookup]
    · by_cases hk' : k' = k <;> simp [put, lookup, hk']
    · have hne : k ≠ ka := hk.ne'
      simp only [put, hk.not_gt, hne, if_false, lookup, ih hrest]
      split_ifs with h1 h2
      · exact absurd (h2.symm.trans h1) hne
      · rfl
      · rfl
      · rfl

theorem lookup_eq_some_iff {k : K} {v : V} {l : List (K × V)}
    (h : l.Pairwise (fun a b => a.1 < b.1)) : lookup k l = some v ↔ (k, v) ∈ l := by
  induction l with
  | nil => simp [lookup]
  | cons a rest ih =>
    obtain ⟨ka, va⟩ := a
    obtain ⟨ha, hrest⟩ := List.pairwise_cons.mp h
    by_cases hk : k = ka
    · subst hk
      have hnot : (k, v) ∉ rest := fun hm => lt_irrefl k (ha _ hm)
      simp [lookup, hnot, eq_comm]
    · simp [lookup, hk, ih hrest]

theorem lookup_map (f : K → V → W) (k : K) (l : List (K × V)) :
    lookup k (l.map fun e => (e.1, f e.1 e.2)) = (lookup k l).map (f k) := by
  induction l with
  | nil => rfl
  | cons a rest ih =>
    by_cases hk : k = a.1
    · subst hk
      simp [lookup]
    · simp [lookup, hk, ih]

/-- Sorted entry lists with the same lookups are equal: their first keys are both the
smallest key present. -/
theorem eq_of_lookup {l₁ l₂ : List (K × V)} (h₁ : l₁.Pairwise (fun a b => a.1 < b.1))
    (h₂ : l₂.Pairwise (fun a b => a.1 < b.1)) (h : ∀ k, lookup k l₁ = lookup k l₂) :
    l₁ = l₂ := by
  have hmem : ∀ e, e ∈ l₁ ↔ e ∈ l₂ := fun e => by
    rw [← lookup_eq_some_iff h₁, ← lookup_eq_some_iff h₂, h]
  clear h
  induction l₁ generalizing l₂ with
  | nil =>
    cases l₂ with
    | nil => rfl
    | cons b rest => exact absurd ((hmem b).mpr List.mem_cons_self) (by simp)
  | cons a rest ih =>
    cases l₂ with
    | nil => exact absurd ((hmem a).mp List.mem_cons_self) (by simp)
    | cons b rest' =>
      obtain ⟨ha, hrest⟩ := List.pairwise_cons.mp h₁
      obtain ⟨hb, hrest'⟩ := List.pairwise_cons.mp h₂
      have hab : a = b := by
        rcases List.mem_cons.mp ((hmem a).mp List.mem_cons_self) with h | h
        · exact h
        · rcases List.mem_cons.mp ((hmem b).mpr List.mem_cons_self) with h' | h'
          · exact h'.symm
          · exact absurd (hb a h) (ha b h').not_gt
      subst hab
      refine congrArg _ (ih hrest hrest' fun e => ⟨fun he => ?_, fun he => ?_⟩)
      · rcases List.mem_cons.mp ((hmem e).mp (List.mem_cons_of_mem _ he)) with rfl | h
        · exact absurd (ha _ he) (lt_irrefl _)
        · exact h
      · rcases List.mem_cons.mp ((hmem e).mpr (List.mem_cons_of_mem _ he)) with rfl | h
        · exact absurd (hb _ he) (lt_irrefl _)
        · exact h

theorem lookup_filter_ne (k k' : K) (l : List (K × V)) :
    lookup k' (l.filter fun e => e.1 ≠ k) = if k' = k then none else lookup k' l := by
  induction l with
  | nil => simp [lookup]
  | cons a rest ih =>
    by_cases ha : a.1 = k
    · rw [List.filter_cons_of_neg (by simpa using ha), ih]
      split_ifs with hk
      · rfl
      · rw [lookup, if_neg (fun h => hk (h.trans ha))]
    · rw [List.filter_cons_of_pos (by simpa using ha), lookup, ih, lookup]
      split_ifs with h1 h2 h2
      · exact absurd (h1.symm.trans h2) ha
      · rfl
      · rfl
      · rfl

/-! ## Maps -/

/-- The map with no entry. -/
def empty : OrdMap K V := ⟨[], List.Pairwise.nil⟩

instance : Inhabited (OrdMap K V) := ⟨empty⟩

def find? (m : OrdMap K V) (k : K) : Option V := lookup k m.entries

def contains (m : OrdMap K V) (k : K) : Bool := (m.find? k).isSome

/-- Insert or overwrite. -/
def insert (m : OrdMap K V) (k : K) (v : V) : OrdMap K V :=
  ⟨put k v m.entries, put_sorted k v m.sorted⟩

/-- Insert only when the key is absent. -/
def emplace (m : OrdMap K V) (k : K) (v : V) : OrdMap K V :=
  if m.contains k then m else m.insert k v

def erase (m : OrdMap K V) (k : K) : OrdMap K V :=
  ⟨m.entries.filter (fun e => e.1 ≠ k), m.sorted.filter _⟩

def size (m : OrdMap K V) : Nat := m.entries.length

/-- Replace every value by a function of its key and itself. -/
def mapValues (f : K → V → W) (m : OrdMap K V) : OrdMap K W :=
  ⟨m.entries.map fun e => (e.1, f e.1 e.2), by
    rw [List.pairwise_map]
    exact m.sorted⟩

/-- The first entry whose key is not below `k`. -/
def lowerBound (m : OrdMap K V) (k : K) : Option (K × V) :=
  m.entries.find? (fun e => !decide (e.1 < k))

/-- Insert the entries of a list from the front, later ones overwriting. -/
def ofEntries (l : List (K × V)) : OrdMap K V :=
  l.foldl (fun m e => m.insert e.1 e.2) empty

@[simp] theorem find?_empty (k : K) : (empty : OrdMap K V).find? k = none := rfl

@[simp] theorem find?_insert (m : OrdMap K V) (k k' : K) (v : V) :
    (m.insert k v).find? k' = if k' = k then some v else m.find? k' :=
  lookup_put k k' v m.sorted

theorem find?_insert_self (m : OrdMap K V) (k : K) (v : V) :
    (m.insert k v).find? k = some v := by simp

@[simp] theorem find?_mapValues (f : K → V → W) (m : OrdMap K V) (k : K) :
    (m.mapValues f).find? k = (m.find? k).map (f k) :=
  lookup_map f k m.entries

@[simp] theorem find?_erase (m : OrdMap K V) (k k' : K) :
    (m.erase k).find? k' = if k' = k then none else m.find? k' :=
  lookup_filter_ne k k' m.entries

theorem contains_iff {m : OrdMap K V} {k : K} :
    m.contains k = true ↔ ∃ v, m.find? k = some v := Option.isSome_iff_exists

@[simp] theorem contains_eq_false_iff {m : OrdMap K V} {k : K} :
    m.contains k = false ↔ m.find? k = none := by
  simp [contains]

theorem emplace_of_none {m : OrdMap K V} {k : K} (v : V) (h : m.find? k = none) :
    m.emplace k v = m.insert k v := by
  rw [emplace, if_neg]
  simp [h]

theorem find?_eq_some_iff {m : OrdMap K V} {k : K} {v : V} :
    m.find? k = some v ↔ (k, v) ∈ m.entries := lookup_eq_some_iff m.sorted

/-- Values that know their keys are in the order of the keys. -/
theorem pairwise_values (m : OrdMap K V) {key : V → K} (h : ∀ e ∈ m.entries, key e.2 = e.1) :
    (m.entries.map Prod.snd).Pairwise fun v w => key v < key w := by
  refine List.pairwise_map.mpr (m.sorted.imp_of_mem fun {a b} ha hb hab => ?_)
  rw [h a ha, h b hb]
  exact hab

@[ext] theorem ext_find? {m₁ m₂ : OrdMap K V} (h : ∀ k, m₁.find? k = m₂.find? k) :
    m₁ = m₂ := by
  obtain ⟨l₁, h₁⟩ := m₁
  obtain ⟨l₂, h₂⟩ := m₂
  obtain rfl : l₁ = l₂ := eq_of_lookup h₁ h₂ h
  rfl

/-- Overwriting a key with the value it already has changes nothing. -/
theorem insert_eq_self {m : OrdMap K V} {k : K} {v : V} (h : m.find? k = some v) :
    m.insert k v = m := by
  ext k'
  rw [find?_insert]
  split_ifs with hk
  · rw [hk, h]
  · rfl

theorem insert_insert (m : OrdMap K V) (k : K) (v w : V) :
    (m.insert k v).insert k w = m.insert k w := by
  ext k'
  simp only [find?_insert]
  split_ifs <;> rfl

/-- Inserting sorted entries over a map: they are looked up before it. -/
theorem find?_foldl_insert {l : List (K × V)} (h : l.Pairwise (fun a b => a.1 < b.1))
    (m : OrdMap K V) (k : K) :
    (l.foldl (fun m e => m.insert e.1 e.2) m).find? k = (lookup k l).or (m.find? k) := by
  induction l generalizing m with
  | nil => rfl
  | cons a rest ih =>
    obtain ⟨ha, hrest⟩ := List.pairwise_cons.mp h
    rw [List.foldl_cons, ih hrest, find?_insert, lookup]
    by_cases hk : k = a.1
    · have hnone : lookup k rest = none := by
        cases hv : lookup k rest with
        | none => rfl
        | some v =>
          have hlt := ha _ ((lookup_eq_some_iff hrest).mp hv)
          rw [hk] at hlt
          exact absurd hlt (lt_irrefl _)
      simp [hk, hk ▸ hnone]
    · simp [hk]

/-- Erasing a key before it is put back is overwriting it. -/
theorem emplace_erase (m : OrdMap K V) (k : K) (v : V) : (m.erase k).emplace k v = m.insert k v := by
  rw [emplace_of_none v (by rw [find?_erase, if_pos rfl])]
  ext k'
  simp only [find?_insert, find?_erase]
  split_ifs <;> rfl

/-- Sorted entries whose keys are not in the map are all new. -/
theorem foldl_emplace {l : List (K × V)} (h : l.Pairwise (fun a b => a.1 < b.1))
    {m : OrdMap K V} (hm : ∀ e ∈ l, m.find? e.1 = none) :
    l.foldl (fun m e => m.emplace e.1 e.2) m = l.foldl (fun m e => m.insert e.1 e.2) m := by
  induction l generalizing m with
  | nil => rfl
  | cons a rest ih =>
    obtain ⟨ha, hrest⟩ := List.pairwise_cons.mp h
    rw [List.foldl_cons, List.foldl_cons, emplace_of_none a.2 (hm a List.mem_cons_self)]
    apply ih hrest
    intro e he
    rw [find?_insert, if_neg (ha e he).ne', hm e (List.mem_cons_of_mem _ he)]

theorem ofEntries_snoc (l : List (K × V)) (e : K × V) :
    ofEntries (l ++ [e]) = (ofEntries l).insert e.1 e.2 := by
  rw [ofEntries, List.foldl_append]
  rfl

/-- A part of the entries has no later key. -/
theorem find?_ofEntries_of_sorted {pre post : List (K × V)} {e : K × V}
    (h : (pre ++ e :: post).Pairwise (fun a b => a.1 < b.1)) : (ofEntries pre).find? e.1 = none := by
  obtain ⟨hpre, -, hlt⟩ := List.pairwise_append.mp h
  rw [ofEntries, find?_foldl_insert hpre, find?_empty, Option.or_none]
  cases hv : lookup e.1 pre with
  | none => rfl
  | some v =>
    have hmem := (lookup_eq_some_iff hpre).mp hv
    exact absurd (hlt _ hmem e List.mem_cons_self) (lt_irrefl _)

/-- A map is rebuilt from its entries. -/
theorem ofEntries_entries (m : OrdMap K V) : ofEntries m.entries = m := by
  ext k
  rw [ofEntries, find?_foldl_insert m.sorted, find?_empty, Option.or_none]
  rfl

theorem entries_ofEntries_of_sorted {l : List (K × V)} (h : l.Pairwise (fun a b => a.1 < b.1)) :
    (ofEntries l).entries = l := congrArg entries (ofEntries_entries ⟨l, h⟩)

theorem perm_put_of_none {k : K} (v : V) {l : List (K × V)} (h : lookup k l = none) :
    (put k v l).Perm ((k, v) :: l) := by
  induction l with
  | nil => exact List.Perm.refl _
  | cons a rest ih =>
    obtain ⟨ka, va⟩ := a
    by_cases hk : k = ka
    · simp [lookup, hk] at h
    · simp only [lookup, hk, if_false] at h
      unfold put
      split_ifs
      · exact List.Perm.refl _
      · exact ((ih h).cons _).trans (List.Perm.swap ..)

/-- The entries of a map with a new key. -/
theorem perm_insert_of_none {m : OrdMap K V} {k : K} (v : V) (h : m.find? k = none) :
    (m.insert k v).entries.Perm ((k, v) :: m.entries) := perm_put_of_none v h

/-- Values that are entered under new and different keys. -/
theorem perm_foldl_emplace {α : Type} {key : α → K} {value : α → V} {as : List α}
    (hnodup : (as.map key).Nodup) {m : OrdMap K V} (hnew : ∀ a ∈ as, m.find? (key a) = none) :
    (as.foldl (fun m a => m.emplace (key a) (value a)) m).entries.Perm
      (as.map (fun a => (key a, value a)) ++ m.entries) := by
  induction as generalizing m with
  | nil => exact List.Perm.refl _
  | cons a as ih =>
    obtain ⟨ha, hnodup⟩ := List.nodup_cons.mp hnodup
    have hfree := hnew a List.mem_cons_self
    rw [List.foldl_cons, emplace_of_none _ hfree]
    refine (ih hnodup fun b hb => ?_).trans ?_
    · have hne : key b ≠ key a := fun heq => ha (heq ▸ List.mem_map_of_mem hb)
      rw [find?_insert, if_neg hne]
      exact hnew b (List.mem_cons_of_mem _ hb)
    · exact ((perm_insert_of_none _ hfree).append_left _).trans List.perm_middle

theorem put_of_last {k : K} (v : V) {l : List (K × V)} (h : ∀ e ∈ l, e.1 < k) :
    put k v l = l ++ [(k, v)] := by
  induction l with
  | nil => rfl
  | cons a rest ih =>
    have hlt := h a List.mem_cons_self
    rw [put, if_neg hlt.not_gt, if_neg hlt.ne', ih fun e he => h e (List.mem_cons_of_mem _ he)]
    rfl

/-- A key above all others comes last. -/
theorem entries_insert_of_last {m : OrdMap K V} {k : K} (v : V) (h : ∀ e ∈ m.entries, e.1 < k) :
    (m.insert k v).entries = m.entries ++ [(k, v)] := put_of_last v h

theorem countP_put_congr {p : K × V → Bool} {k : K} {v w : V} (h : p (k, v) = p (k, w))
    (l : List (K × V)) : (put k v l).countP p = (put k w l).countP p := by
  induction l with
  | nil => simp [put, h]
  | cons a rest ih =>
    unfold put
    split_ifs
    · simp [List.countP_cons, h]
    · simp [List.countP_cons, h]
    · simp [List.countP_cons, ih]

/-- Two values that count alike may be put under a key in place of each other. -/
theorem countP_insert_congr (m : OrdMap K V) {p : K × V → Bool} {k : K} {v w : V}
    (h : p (k, v) = p (k, w)) :
    (m.insert k v).entries.countP p = (m.insert k w).entries.countP p :=
  countP_put_congr h m.entries

/-- When one entry at most can count, it counts once. -/
theorem countP_eq_one {m : OrdMap K V} {p : K × V → Bool} {k : K} {v : V} (hfind : m.find? k = some v)
    (hv : p (k, v) = true) (honly : ∀ e ∈ m.entries, p e = true → e.1 = k) :
    m.entries.countP p = 1 := by
  have hsplit : (m.erase k).insert k v = m := by
    ext k'
    rw [find?_insert, find?_erase]
    split_ifs with hk
    · rw [hk, hfind]
    · rfl
  have hperm := perm_insert_of_none (m := m.erase k) v (by rw [find?_erase, if_pos rfl])
  rw [hsplit] at hperm
  rw [hperm.countP_eq, List.countP_cons_of_pos hv, List.countP_eq_zero.mpr fun e he hp => ?_]
  obtain ⟨hmem, hne⟩ := List.mem_filter.mp he
  exact of_decide_eq_true hne (honly e hmem hp)

theorem length_put_le (k : K) (v : V) (l : List (K × V)) : (put k v l).length ≤ l.length + 1 := by
  induction l with
  | nil => exact Nat.le_refl _
  | cons a rest ih =>
    unfold put
    split_ifs
    · exact Nat.le_refl _
    · exact Nat.le_succ _
    · exact Nat.succ_le_succ ih

/-- Building a map from a list loses the keys that come again. -/
theorem length_ofEntries_le (l : List (K × V)) : (ofEntries l).entries.length ≤ l.length := by
  induction l using List.reverseRecOn with
  | nil => exact Nat.le_refl _
  | append_singleton l e ih =>
    rw [ofEntries_snoc, List.length_append]
    exact (length_put_le _ _ _).trans (Nat.succ_le_succ ih)

theorem mem_of_mem_ofEntries {l : List (K × V)} {e : K × V} (h : e ∈ (ofEntries l).entries) :
    e ∈ l := by
  induction l using List.reverseRecOn with
  | nil => exact h
  | append_singleton l e' ih =>
    rw [ofEntries_snoc] at h
    rcases mem_put h with rfl | h
    · exact List.mem_append_right _ List.mem_cons_self
    · exact List.mem_append_left _ (ih h)

/-! ## Sums over the entries -/

section Sums

variable {M : Type} [AddCommMonoid M]

/-- The sum of `f` over the entries. -/
def sum (f : K → V → M) (m : OrdMap K V) : M := (m.entries.map fun e => f e.1 e.2).sum

theorem sum_put_of_none (f : K → V → M) {k : K} (v : V) {l : List (K × V)}
    (h : lookup k l = none) :
    ((put k v l).map fun e => f e.1 e.2).sum = f k v + (l.map fun e => f e.1 e.2).sum := by
  induction l with
  | nil => simp [put]
  | cons a rest ih =>
    obtain ⟨ka, va⟩ := a
    by_cases hk : k = ka
    · simp [lookup, hk] at h
    · simp only [lookup, hk, if_false] at h
      unfold put
      split_ifs
      · simp
      · simp only [List.map_cons, List.sum_cons, ih h]
        exact add_left_comm _ _ _

theorem sum_put_of_some (f : K → V → M) {k : K} (v : V) {v₀ : V} {l : List (K × V)}
    (hs : l.Pairwise (fun a b => a.1 < b.1)) (h : lookup k l = some v₀) :
    ((put k v l).map fun e => f e.1 e.2).sum + f k v₀ =
      (l.map fun e => f e.1 e.2).sum + f k v := by
  induction l with
  | nil => simp [lookup] at h
  | cons a rest ih =>
    obtain ⟨ka, va⟩ := a
    obtain ⟨ha, hrest⟩ := List.pairwise_cons.mp hs
    by_cases hk : k = ka
    · subst hk
      simp only [lookup, if_true, Option.some.injEq] at h
      subst h
      simp only [put, lt_irrefl, if_false, if_true, List.map_cons, List.sum_cons]
      rw [add_right_comm, add_comm (f k v), add_assoc, add_assoc, add_comm (f k v)]
    · simp only [lookup, hk, if_false] at h
      have hlt : ¬ k < ka := fun hlt =>
        absurd ((ha _ ((lookup_eq_some_iff hrest).mp h)).trans hlt) (lt_irrefl _)
      simp only [put, hlt, hk, if_false, List.map_cons, List.sum_cons, add_assoc, ih hrest h]

theorem sum_add (f g : K → V → M) (m : OrdMap K V) :
    m.sum (fun k v => f k v + g k v) = m.sum f + m.sum g := List.sum_map_add

theorem sum_mapValues (f : K → V → M) (g : K → W → V) (m : OrdMap K W) :
    (m.mapValues g).sum f = m.sum fun k w => f k (g k w) := by
  simp only [sum, mapValues, List.map_map]
  rfl

theorem sum_insert_of_none (f : K → V → M) {m : OrdMap K V} {k : K} (v : V)
    (h : m.find? k = none) : (m.insert k v).sum f = f k v + m.sum f :=
  sum_put_of_none f v h

/-- Replacing `v₀` by `v` moves the sum by the difference of the two terms. -/
theorem sum_insert_of_some (f : K → V → M) {m : OrdMap K V} {k : K} (v : V) {v₀ : V}
    (h : m.find? k = some v₀) : (m.insert k v).sum f + f k v₀ = m.sum f + f k v :=
  sum_put_of_some f v m.sorted h

theorem size_eq_sum (m : OrdMap K V) : m.size = m.sum fun _ _ => 1 := by
  simp [size, sum]

theorem size_insert_of_none {m : OrdMap K V} {k : K} (v : V) (h : m.find? k = none) :
    (m.insert k v).size = m.size + 1 := by
  rw [size_eq_sum, size_eq_sum, sum_insert_of_none _ v h, add_comm]

theorem size_insert_of_some {m : OrdMap K V} {k : K} (v : V) {v₀ : V} (h : m.find? k = some v₀) :
    (m.insert k v).size = m.size := by
  have hsum := sum_insert_of_some (fun (_ : K) (_ : V) => 1) v h
  rw [size_eq_sum, size_eq_sum]
  exact Nat.add_right_cancel hsum

/-- A sum is at most another whose terms are not below it. -/
theorem sum_le_sum [Preorder M] [IsOrderedAddMonoid M] {f g : K → V → M}
    {m : OrdMap K V} (h : ∀ k v, m.find? k = some v → f k v ≤ g k v) : m.sum f ≤ m.sum g :=
  List.sum_le_sum fun e he => h e.1 e.2 (find?_eq_some_iff.mpr he)

theorem le_sum (m : OrdMap K V) (size : V → ℕ) {e : K × V} (he : e ∈ m.entries) :
    size e.2 ≤ m.sum fun _ v => size v :=
  List.le_sum_of_mem (List.mem_map_of_mem (f := fun e : K × V => size e.2) he)

/-- Every entry counts at least one. -/
theorem size_le_sum (m : OrdMap K V) (size : V → ℕ) (h : ∀ v, 1 ≤ size v) :
    m.size ≤ m.sum fun _ v => size v := by
  rw [size_eq_sum]
  exact sum_le_sum fun _ v _ => h v

end Sums

end OrdMap

end Fabric.Support
