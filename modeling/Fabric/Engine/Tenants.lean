import Fabric.Engine.Fairness
import Fabric.Support.Machine
import Mathlib.Data.Finset.Card

/-!
# Fairness accounting

The fairness controller under every sequence of its calls, side by side with the exact number of
outstanding admissions of each tenant. A call for a new tenant pushes the tenant with the smallest
id out of a full table (`activeAdmitted_modify`), and what was counted for that one is lost. So the
counts stay exact as long as no such tenant has an outstanding admission, and no count is full
(`accounting_survives_iff`).
-/

namespace Fabric

open Support

variable {F : Type} [Double F]

/-! ## Calls -/

/-- The calls that change a fairness controller. -/
inductive FairnessCall (F : Type) [Double F]
  | setTenantWeight (t : TenantId) (weight : F)
  | noteAdmission (now : TimePoint) (t : TenantId)
  | noteDeferral (t : TenantId)
  | noteRejection (t : TenantId)
  | noteCompletion (t : TenantId)
  | noteAdmissionStarted (t : TenantId)

namespace FairnessCall

def tenant : FairnessCall F → TenantId
  | setTenantWeight t _ | noteAdmission _ t | noteDeferral t | noteRejection t | noteCompletion t
  | noteAdmissionStarted t => t

/-- The call counts an admission. -/
def admits : FairnessCall F → Bool
  | noteAdmission _ _ | noteAdmissionStarted _ => true
  | _ => false

/-- The call counts a completion. -/
def completes : FairnessCall F → Bool
  | noteCompletion _ => true
  | _ => false

/-- The outstanding admissions of the tenant of a call: a completion without one counts nothing. -/
def tally (n : ℕ) : FairnessCall F → ℕ
  | noteAdmission _ _ | noteAdmissionStarted _ => n + 1
  | noteCompletion _ => n - 1
  | _ => n

/-- What a call does to the counter of its tenant. -/
def change (n : UInt32) : FairnessCall F → UInt32
  | noteAdmission _ _ | noteAdmissionStarted _ => n + 1
  | noteCompletion _ => if n > 0 then n - 1 else n
  | _ => n

/-- The counter is changed as the tally is, unless an admission finds it full. -/
theorem toNat_change_eq_iff (n : UInt32) (c : FairnessCall F) :
    (c.change n).toNat = c.tally n.toNat ↔ (c.admits = true → n.toNat + 1 < 2 ^ 32) := by
  have hlt := n.toNat_lt
  have hadd : (n + 1).toNat = n.toNat + 1 ↔ n.toNat + 1 < 2 ^ 32 := by
    rw [UInt32.toNat_add, UInt32.toNat_one]
    omega
  cases c with
  | noteAdmission now t => exact hadd.trans ⟨fun h _ => h, fun h => h rfl⟩
  | noteAdmissionStarted t => exact hadd.trans ⟨fun h _ => h, fun h => h rfl⟩
  | noteCompletion t =>
    refine iff_of_true ?_ nofun
    show (if n > 0 then n - 1 else n).toNat = n.toNat - 1
    split_ifs with hpos
    · have hone : (1 : UInt32) ≤ n := UInt32.le_iff_toNat_le.mpr (UInt32.lt_iff_toNat_lt.mp hpos)
      rw [UInt32.toNat_sub_of_le _ _ hone]
      rfl
    · have hzero : ¬ 0 < n.toNat := fun h => hpos (UInt32.lt_iff_toNat_lt.mpr h)
      omega
  | setTenantWeight t weight => exact iff_of_true rfl nofun
  | noteDeferral t => exact iff_of_true rfl nofun
  | noteRejection t => exact iff_of_true rfl nofun

end FairnessCall

namespace FairnessController

variable {c : FairnessController F}

def call (c : FairnessController F) : FairnessCall F → FairnessController F
  | .setTenantWeight t weight => c.setTenantWeight t weight
  | .noteAdmission now t => c.noteAdmission now t
  | .noteDeferral t => c.noteDeferral t
  | .noteRejection t => c.noteRejection t
  | .noteCompletion t => c.noteCompletion t
  | .noteAdmissionStarted t => c.noteAdmissionStarted t

/-- The tenant that a call for `t` pushes out: the one with the smallest id, when `t` is new and
the table is full. -/
def evicted? (c : FairnessController F) (t : TenantId) : Option TenantId :=
  if c.tenants.contains t = false ∧ c.tenantCount ≥ kMaxTenants then
    c.tenants.entries.head?.map Prod.fst
  else none

/-! ## One change -/

theorem find?_modify (c : FairnessController F) (t t' : TenantId)
    (f : TenantState F → TenantState F) : (c.modify t f).tenants.find? t' =
      if t' = t then some (f ((c.tenants.find? t).getD {}))
      else if c.evicted? t = some t' then none
      else c.tenants.find? t' := by
  unfold modify evicted? tenantCount
  cases hfind : c.tenants.find? t with
  | some st =>
    have hcontains : c.tenants.contains t = true := OrdMap.contains_iff.mpr ⟨st, hfind⟩
    simp [hcontains]
  | none =>
    have hcontains : c.tenants.contains t = false := OrdMap.contains_eq_false_iff.mpr hfind
    simp only [hcontains, true_and, Option.getD_none, OrdMap.find?_insert]
    by_cases hfull : c.tenants.size ≥ kMaxTenants
    · simp only [hfull, if_true]
      cases hhead : c.tenants.entries.head? with
      | none => simp
      | some first => simp [eq_comm]
    · simp [hfull]

/-- The counter of the tenant of a change is the changed one, that of a tenant that is pushed out
is lost, and the others stay. -/
theorem activeAdmitted_modify (c : FairnessController F) (t t' : TenantId)
    (f : TenantState F → TenantState F) : (c.modify t f).activeAdmitted t' =
      if t' = t then (f ((c.tenants.find? t).getD {})).active
      else if c.evicted? t = some t' then 0
      else c.activeAdmitted t' := by
  rw [activeAdmitted, find?_modify]
  split_ifs <;> rfl

theorem activeAdmitted_eq (c : FairnessController F) (t : TenantId) :
    c.activeAdmitted t = ((c.tenants.find? t).getD {}).active := by
  unfold activeAdmitted
  cases c.tenants.find? t <;> rfl

theorem activeAdmitted_call (c : FairnessController F) (k : FairnessCall F) (t : TenantId) :
    (c.call k).activeAdmitted t =
      if t = k.tenant then k.change (c.activeAdmitted t)
      else if c.evicted? k.tenant = some t then 0
      else c.activeAdmitted t := by
  have hmodify (f : TenantState F → TenantState F) (hf : ∀ st, (f st).active = k.change st.active)
      (hcall : c.call k = c.modify k.tenant f) : (c.call k).activeAdmitted t =
        if t = k.tenant then k.change (c.activeAdmitted t)
        else if c.evicted? k.tenant = some t then 0
        else c.activeAdmitted t := by
    rw [hcall, activeAdmitted_modify, hf]
    split_ifs with ht
    · rw [ht, activeAdmitted_eq c]
    · rfl
    · rfl
  cases k with
  | setTenantWeight t weight => exact hmodify (fun st => { st with weight }) (fun _ => rfl) rfl
  | noteAdmission now t =>
    exact hmodify (fun st =>
      { st with
        active := st.active + 1
        recentAdmissions := st.recentAdmissions + 1
        lastAdmit := some now }) (fun _ => rfl) rfl
  | noteDeferral t =>
    exact hmodify (fun st => { st with recentDeferrals := st.recentDeferrals + 1 })
      (fun _ => rfl) rfl
  | noteRejection t =>
    exact hmodify (fun st => { st with recentRejections := st.recentRejections + 1 })
      (fun _ => rfl) rfl
  | noteCompletion t =>
    exact hmodify
      (fun st => { st with active := if st.active > 0 then st.active - 1 else st.active })
      (fun _ => rfl) rfl
  | noteAdmissionStarted t =>
    exact hmodify (fun st => { st with active := st.active + 1 }) (fun _ => rfl) rfl

/-- A full table makes room for a new tenant. -/
theorem tenantCount_modify (h : c.tenantCount ≤ kMaxTenants) (t : TenantId)
    (f : TenantState F → TenantState F) : (c.modify t f).tenantCount ≤ kMaxTenants := by
  unfold modify
  cases hfind : c.tenants.find? t with
  | some st => exact (OrdMap.size_insert_of_some _ hfind).trans_le h
  | none =>
    refine (OrdMap.length_put_le _ _ _).trans ?_
    split_ifs with hfull
    · cases hhead : c.tenants.entries.head? with
      | none =>
        rw [List.head?_eq_none_iff.mp hhead]
        exact (by decide : 0 + 1 ≤ kMaxTenants)
      | some first =>
        have hmem : first ∈ c.tenants.entries := List.mem_of_mem_head? hhead
        have hlt : (c.tenants.erase first.1).entries.length < c.tenants.entries.length :=
          List.length_filter_lt_length_iff_exists.mpr ⟨first, hmem, by simp⟩
        exact hlt.trans_le h
    · exact not_le.mp hfull

theorem tenantCount_call (h : c.tenantCount ≤ kMaxTenants) (k : FairnessCall F) :
    (c.call k).tenantCount ≤ kMaxTenants := by
  cases k <;> exact tenantCount_modify h _ _

theorem evicted?_ne (c : FairnessController F) (t : TenantId) : c.evicted? t ≠ some t := by
  unfold evicted?
  split_ifs with hnew
  · intro hhead
    obtain ⟨first, hfirst, rfl⟩ := Option.map_eq_some_iff.mp hhead
    have hfind : c.tenants.find? first.1 = some first.2 :=
      OrdMap.find?_eq_some_iff.mpr (List.mem_of_mem_head? hfirst)
    rw [OrdMap.contains_eq_false_iff.mp hnew.1] at hfind
    cases hfind
  · nofun

end FairnessController

/-! ## Sequences of calls -/

/-- A controller with the admissions and completions of each tenant, and its outstanding
admissions. -/
structure Ledger (F : Type) [Double F] where
  controller : FairnessController F := {}
  admissions : TenantId → ℕ := fun _ => 0
  completions : TenantId → ℕ := fun _ => 0
  outstanding : TenantId → ℕ := fun _ => 0

namespace Ledger

/-- A call of the controller, entered in the books. -/
def enter (s : Ledger F) (k : FairnessCall F) : Ledger F where
  controller := s.controller.call k
  admissions t := if t = k.tenant ∧ k.admits then s.admissions t + 1 else s.admissions t
  completions t := if t = k.tenant ∧ k.completes then s.completions t + 1 else s.completions t
  outstanding t := if t = k.tenant then k.tally (s.outstanding t) else s.outstanding t

variable (F) in
def machine : Machine (Ledger F) (FairnessCall F) Unit := ⟨{}, fun s k => ((), s.enter k)⟩

/-- The counts of the controller are those of the books. -/
def Exact (s : Ledger F) : Prop :=
  ∀ t, (s.controller.activeAdmitted t).toNat = s.outstanding t

def Bounded (s : Ledger F) : Prop := s.controller.tenantCount ≤ FairnessController.kMaxTenants

/-- No more tenants than the table holds have more admissions than completions. -/
def FewBusy (s : Ledger F) : Prop :=
  ∃ busy : Finset TenantId, busy.card ≤ FairnessController.kMaxTenants ∧
    ∀ t, s.completions t < s.admissions t → t ∈ busy

/-- The accounting survives a sequence of calls: the table stays bounded, and the counts are exact
as long as there have not been too many busy tenants. -/
def Survives (h : List (FairnessCall F)) : Prop :=
  (machine F).Throughout Bounded h ∧
    ∀ pre post, h = pre ++ post → (machine F).Throughout FewBusy pre → ((machine F).after pre).Exact

/-- The tenant that the call pushes out has nothing outstanding, and an admission does not find the
counter of its tenant full. -/
def KeepsCounts (s : Ledger F) (k : FairnessCall F) : Prop :=
  (∀ t, s.controller.evicted? k.tenant = some t → s.outstanding t = 0) ∧
    (k.admits = true → s.outstanding k.tenant + 1 < 2 ^ 32)

theorem exact_enter_iff {s : Ledger F} (hs : s.Exact) (k : FairnessCall F) :
    (s.enter k).Exact ↔ s.KeepsCounts k := by
  have hcounter (t : TenantId) (ht : t = k.tenant) :
      ((s.controller.call k).activeAdmitted t).toNat = (s.enter k).outstanding t ↔
        (k.admits = true → s.outstanding k.tenant + 1 < 2 ^ 32) := by
    subst ht
    show _ = (if _ then _ else _) ↔ _
    rw [FairnessController.activeAdmitted_call, if_pos rfl, if_pos rfl, ← hs,
      FairnessCall.toNat_change_eq_iff]
  have hother (t : TenantId) (ht : t ≠ k.tenant) :
      ((s.controller.call k).activeAdmitted t).toNat = (s.enter k).outstanding t ↔
        (s.controller.evicted? k.tenant = some t → s.outstanding t = 0) := by
    show _ = (if _ then _ else _) ↔ _
    rw [FairnessController.activeAdmitted_call, if_neg ht, if_neg ht]
    split_ifs with hevicted
    · exact ⟨fun h _ => h.symm, fun h => (h hevicted).symm⟩
    · exact iff_of_true (hs t) fun h => absurd h hevicted
  constructor
  · intro h
    refine ⟨fun t hevicted => ?_, (hcounter _ rfl).mp (h _)⟩
    have hne : t ≠ k.tenant := fun ht => s.controller.evicted?_ne _ (ht ▸ hevicted)
    exact (hother t hne).mp (h t) hevicted
  · rintro ⟨hevicted, hroom⟩ t
    by_cases ht : t = k.tenant
    · exact (hcounter t ht).mpr hroom
    · exact (hother t ht).mpr (hevicted t)

theorem bounded_after (h : List (FairnessCall F)) : ((machine F).after h).Bounded :=
  (machine F).invariant (P := Bounded) (Nat.zero_le _)
    (fun _ k hs => FairnessController.tenantCount_call hs k) h

theorem throughout_exact_iff (h : List (FairnessCall F)) :
    (machine F).Throughout Exact h ↔ (machine F).Guarded KeepsCounts h :=
  (machine F).throughout_iff_guarded (I := fun _ => True) (fun _ => trivial) (fun _ => rfl)
    (fun _ k _ hs => exact_enter_iff hs k) h

/-- As long as there have not been too many busy tenants, every call keeps the counts. -/
def KeepsWhileFew (h : List (FairnessCall F)) : Prop :=
  ∀ pre k post, h = pre ++ k :: post → (machine F).Throughout FewBusy (pre ++ [k]) →
    ((machine F).after pre).KeepsCounts k

/-- The accounting survives exactly the sequences in which every call keeps the counts as long as
there have not been too many busy tenants. -/
theorem accounting_survives_iff (h : List (FairnessCall F)) : Survives h ↔ KeepsWhileFew h := by
  constructor
  · rintro ⟨-, hexact⟩ pre k post rfl hfew
    have hbefore := hexact pre (k :: post) rfl (Machine.throughout_snoc.mp hfew).1
    have hafter := hexact (pre ++ [k]) post (by simp) hfew
    rw [Machine.after_snoc] at hafter
    exact (exact_enter_iff hbefore k).mp hafter
  · intro hkeeps
    refine ⟨fun pre _ _ => bounded_after pre, ?_⟩
    rintro pre post rfl hfew
    refine ((throughout_exact_iff pre).mpr fun a k b hsplit => ?_).last
    subst hsplit
    refine hkeeps a k (b ++ post) (by simp) fun c e hprefix => hfew c (e ++ b) ?_
    rw [← List.append_assoc, ← hprefix]
    simp

theorem mem_of_admissions_pos {h : List (FairnessCall F)} {t : TenantId}
    (ht : 0 < ((machine F).after h).admissions t) :
    t ∈ (h.filter FairnessCall.admits).map FairnessCall.tenant := by
  induction h using List.reverseRecOn with
  | nil => cases ht
  | append_singleton h k ih =>
    rw [List.filter_append, List.map_append, List.mem_append]
    rw [Machine.after_snoc] at ht
    replace ht : 0 < if t = k.tenant ∧ k.admits then ((machine F).after h).admissions t + 1
        else ((machine F).after h).admissions t := ht
    split_ifs at ht with hk
    · refine .inr ?_
      rw [List.filter_singleton, hk.2, hk.1]
      exact List.mem_singleton_self _
    · exact .inl (ih ht)

/-- A sequence that counts no more admissions than the table holds tenants keeps few busy. -/
theorem throughout_fewBusy {h : List (FairnessCall F)}
    (hcount : h.countP FairnessCall.admits ≤ FairnessController.kMaxTenants) :
    (machine F).Throughout FewBusy h := by
  rintro pre post rfl
  refine ⟨((pre.filter FairnessCall.admits).map FairnessCall.tenant).toFinset, ?_, ?_⟩
  · have hlen := List.toFinset_card_le ((pre.filter FairnessCall.admits).map FairnessCall.tenant)
    rw [List.length_map, ← List.countP_eq_length_filter] at hlen
    rw [List.countP_append] at hcount
    omega
  · intro t ht
    exact List.mem_toFinset.mpr (mem_of_admissions_pos (by omega))

end Ledger

namespace Sample

def arrival (n : ℕ) : TenantId := ⟨UInt64.ofNat (n + 1)⟩

/-- An admission for each of `n` tenants, in the order of their ids. -/
def arrivals (n : ℕ) : List (FairnessCall Binary64) :=
  (List.range n).map fun i => .noteAdmission 0 (arrival i)

/-- An admission for each of 512 tenants, and then a rejection of another one. -/
def overflow : List (FairnessCall Binary64) := arrivals 512 ++ [.noteRejection (arrival 512)]

theorem arrival_lt {i n : ℕ} (hi : i < n) (hn : n ≤ FairnessController.kMaxTenants) :
    arrival i < arrival n := by
  have hlt : n ≤ 512 := hn
  show (UInt64.ofNat (i + 1)).toNat < (UInt64.ofNat (n + 1)).toNat
  rw [UInt64.toNat_ofNat', UInt64.toNat_ofNat']
  omega

/-- The next tenant comes after all those in the table, and is not in it. -/
theorem arrival_new {c : FairnessController Binary64} {n : ℕ}
    (hn : n ≤ FairnessController.kMaxTenants)
    (hkeys : c.tenants.entries.map Prod.fst = (List.range n).map arrival) :
    (∀ e ∈ c.tenants.entries, e.1 < arrival n) ∧ c.tenants.find? (arrival n) = none := by
  have hbelow : ∀ e ∈ c.tenants.entries, e.1 < arrival n := by
    intro e he
    have hmem : e.1 ∈ (List.range n).map arrival := hkeys ▸ List.mem_map_of_mem he
    obtain ⟨i, hi, heq⟩ := List.mem_map.mp hmem
    rw [← heq]
    exact arrival_lt (List.mem_range.mp hi) hn
  refine ⟨hbelow, ?_⟩
  cases hfind : c.tenants.find? (arrival n) with
  | none => rfl
  | some st => exact absurd (hbelow _ (OrdMap.find?_eq_some_iff.mp hfind)) (lt_irrefl _)

theorem tenantCount_eq {c : FairnessController Binary64} {n : ℕ}
    (hkeys : c.tenants.entries.map Prod.fst = (List.range n).map arrival) : c.tenantCount = n := by
  have hlen := congrArg List.length hkeys
  rw [List.length_map, List.length_map, List.length_range] at hlen
  exact hlen

end Sample

namespace Ledger

theorem after_arrivals {n : ℕ} (hn : n ≤ FairnessController.kMaxTenants) :
    let s := (machine Binary64).after (Sample.arrivals n)
    s.controller.tenants.entries.map Prod.fst = (List.range n).map Sample.arrival ∧
      (0 < n → 0 < s.outstanding (Sample.arrival 0)) := by
  induction n with
  | zero => exact ⟨rfl, nofun⟩
  | succ n ih =>
    obtain ⟨hkeys, hfirst⟩ := ih (Nat.le_of_succ_le hn)
    rw [Sample.arrivals, List.range_succ, List.map_append, List.map_singleton, ← Sample.arrivals,
      Machine.after_snoc]
    generalize (machine Binary64).after (Sample.arrivals n) = s at hkeys hfirst
    obtain ⟨hbelow, hnew⟩ := Sample.arrival_new (Nat.le_of_succ_le hn) hkeys
    have hroom : ¬ s.controller.tenants.size ≥ FairnessController.kMaxTenants :=
      not_le.mpr ((Sample.tenantCount_eq hkeys).trans_lt hn)
    constructor
    · show (s.controller.modify (Sample.arrival n) _).tenants.entries.map Prod.fst = _
      unfold FairnessController.modify
      simp only [hnew, hroom, if_false]
      rw [OrdMap.entries_insert_of_last _ hbelow, List.map_append, hkeys, List.map_append]
      rfl
    · intro _
      show 0 < if Sample.arrival 0 = Sample.arrival n then s.outstanding _ + 1
        else s.outstanding _
      split_ifs with heq
      · exact Nat.succ_pos _
      · refine hfirst (Nat.pos_of_ne_zero ?_)
        rintro rfl
        exact heq rfl

/-- With an admission for each of 512 tenants, a rejection of another one pushes out the first and
forgets its admission. -/
theorem accounting_survives_fails : (machine Binary64).Throughout FewBusy Sample.overflow ∧
    ¬ Survives Sample.overflow := by
  have hcount : Sample.overflow.countP FairnessCall.admits ≤ 512 := by
    rw [Sample.overflow, List.countP_append]
    refine (Nat.add_le_add_right List.countP_le_length _).trans ?_
    rw [Sample.arrivals, List.length_map, List.length_range]
    rfl
  have hfew := throughout_fewBusy hcount
  refine ⟨hfew, fun hsurvives => ?_⟩
  have hbefore := hsurvives.2 (Sample.arrivals 512) _ rfl (Machine.throughout_snoc.mp hfew).1
  have hafter := hsurvives.2 Sample.overflow [] (by simp) hfew
  rw [Sample.overflow, Machine.after_snoc] at hafter
  obtain ⟨hevicted, -⟩ := (exact_enter_iff hbefore _).mp hafter
  obtain ⟨hkeys, hfirst⟩ := after_arrivals (n := 512) le_rfl
  obtain ⟨-, hnew⟩ := Sample.arrival_new le_rfl hkeys
  refine (hfirst (by decide)).ne' (hevicted _ ?_)
  have hfull := Sample.tenantCount_eq hkeys
  show FairnessController.evicted? _ (Sample.arrival 512) = _
  rw [FairnessController.evicted?, if_pos ⟨OrdMap.contains_eq_false_iff.mpr hnew, hfull.ge⟩,
    ← List.head?_map, hkeys, List.head?_map, List.head?_range]
  rfl

end Ledger

end Fabric
