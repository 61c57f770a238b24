import Fabric.Reservation.Accounting

/-!
# Restoring a saved table

When `ReservationManager::restore` takes over a table. It refuses every list with an entry
that is no longer live and still carries a demand (`restore_of_dead`); the table of a manager
whose accounts agree is taken over when all its entries are live (`restore_of_live`).
-/

namespace Fabric.ReservationManager

open Support Support.Checks

variable {g g' : Gathered} {r : ResourceReservation} {list : List ResourceReservation}

/-! ## What is refused -/

theorem live_of_gather (h : gather g r = .ok g') :
    r.status.isLive = true ∨ r.demand.isZero = true := by
  unfold gather at h
  obtain ⟨_, -, h⟩ := bind_eq_ok_iff.mp h
  cases hs : r.status with
  | reserved => exact .inl rfl
  | committed => exact .inl rfl
  | released | expired | rolledBack =>
    simp only [hs] at h
    obtain ⟨_, hzero, -⟩ := bind_eq_ok_iff.mp h
    exact .inr (require_eq_ok_iff.mp hzero)

theorem live_of_foldlM (h : list.foldlM gather g = .ok g') :
    ∀ r ∈ list, r.status.isLive = true ∨ r.demand.isZero = true := by
  induction list generalizing g with
  | nil => exact fun _ hr => by cases hr
  | cons a list ih =>
    rw [List.foldlM_cons] at h
    obtain ⟨g₁, ha, hlist⟩ := bind_eq_ok_iff.mp h
    intro r hr
    rcases List.mem_cons.mp hr with rfl | hr
    · exact live_of_gather ha
    · exact ih hlist r hr

/-- A list that passes has no terminal entry with a demand. -/
theorem live_of_restoreCheck {reserved used : ResourceVector} {u : Unit}
    (h : restoreCheck list reserved used = .ok u) :
    ∀ r ∈ list, r.status.isLive = true ∨ r.demand.isZero = true := by
  obtain ⟨g, hg, -⟩ := bind_eq_ok_iff.mp h
  exact live_of_foldlM hg

/-- A failure of `restore` is not the success code. -/
theorem gather_failsWith (g : Gathered) (r : ResourceReservation) :
    FailsWith (fun s => s.isOk = false) (gather g r) := by
  unfold gather
  refine FailsWith.bind (FailsWith.require rfl) fun _ => ?_
  cases r.status with
  | reserved => exact FailsWith.bind (FailsWith.orFail rfl) fun _ => FailsWith.ok _
  | committed => exact FailsWith.bind (FailsWith.orFail rfl) fun _ => FailsWith.ok _
  | released | expired | rolledBack =>
    exact FailsWith.bind (FailsWith.require rfl) fun _ => FailsWith.ok _

theorem restoreCheck_failsWith (list : List ResourceReservation) (reserved used : ResourceVector) :
    FailsWith (fun s => s.isOk = false) (restoreCheck list reserved used) := by
  unfold restoreCheck
  refine FailsWith.bind (FailsWith.foldlM gather_failsWith list _) fun g => ?_
  refine FailsWith.bind (FailsWith.require rfl) fun _ => ?_
  exact FailsWith.require rfl

/-- A list with a terminal entry that carries a demand is refused. -/
theorem restore_of_dead (m : ReservationManager) {reserved used : ResourceVector}
    (hr : r ∈ list) (hdead : r.status.isLive = false) (hdemand : r.demand.isZero = false) :
    (m.restore list reserved used).1.isOk = false := by
  cases hcheck : restoreCheck list reserved used with
  | error s =>
    rw [restore, hcheck]
    exact restoreCheck_failsWith list reserved used s hcheck
  | ok u =>
    rcases live_of_restoreCheck hcheck r hr with h | h
    · simp [h] at hdead
    · simp [h] at hdemand

/-! ## What is taken over -/

/-- The exact demand of the entries of a list with status `st`. -/
def listDemand (list : List ResourceReservation) (st : ReservationStatus) : ResourceId → ℕ :=
  (list.map fun r => r.demandAs st).sum

theorem listDemand_cons (r : ResourceReservation) (list : List ResourceReservation)
    (st : ReservationStatus) : listDemand (r :: list) st = r.demandAs st + listDemand list st := by
  rw [listDemand, List.map_cons, List.sum_cons]
  rfl

/-- A live entry with a new id is added to the sum of its status. -/
theorem gather_of_live (hlive : r.status.isLive = true) (hnew : g.seen.find? r.id = none)
    (hreserved : ∀ i, g.reserved.quantities i + r.demandAs .reserved i < 2 ^ 64)
    (hused : ∀ i, g.used.quantities i + r.demandAs .committed i < 2 ^ 64) :
    ∃ g', gather g r = .ok g' ∧ g'.seen = g.seen.insert r.id () ∧
      g'.reserved.quantities = g.reserved.quantities + r.demandAs .reserved ∧
      g'.used.quantities = g.used.quantities + r.demandAs .committed := by
  have hseen : g.seen.contains r.id = false := OrdMap.contains_eq_false_iff.mpr hnew
  cases hs : r.status with
  | reserved =>
    rw [ResourceReservation.demandAs_of_eq hs] at hreserved ⊢
    have hzero : r.demandAs .committed = 0 := ResourceReservation.demandAs_of_ne (by simp [hs])
    obtain ⟨v, hv⟩ := ResourceVector.exists_tryAdd hreserved
    refine ⟨{ g with seen := g.seen.insert r.id (), reserved := v }, ?_, rfl,
      ResourceVector.tryAdd_eq_some_iff.mp hv, by rw [hzero, add_zero]⟩
    rw [gather, require, if_pos hseen, hs]
    simp only [hv]
    rfl
  | committed =>
    rw [ResourceReservation.demandAs_of_eq hs] at hused ⊢
    have hzero : r.demandAs .reserved = 0 := ResourceReservation.demandAs_of_ne (by simp [hs])
    obtain ⟨v, hv⟩ := ResourceVector.exists_tryAdd hused
    refine ⟨{ g with seen := g.seen.insert r.id (), used := v }, ?_, rfl,
      by rw [hzero, add_zero], ResourceVector.tryAdd_eq_some_iff.mp hv⟩
    rw [gather, require, if_pos hseen, hs]
    simp only [hv]
    rfl
  | released | expired | rolledBack => simp [hs, ReservationStatus.isLive] at hlive

/-- A list of live entries with different ids is gathered to its exact sums. -/
theorem foldlM_of_live (hlive : ∀ r ∈ list, r.status.isLive = true)
    (hnodup : (list.map ResourceReservation.id).Nodup)
    (hnew : ∀ r ∈ list, g.seen.find? r.id = none)
    (hreserved : ∀ i, g.reserved.quantities i + listDemand list .reserved i < 2 ^ 64)
    (hused : ∀ i, g.used.quantities i + listDemand list .committed i < 2 ^ 64) :
    ∃ g', list.foldlM gather g = .ok g' ∧
      g'.reserved.quantities = g.reserved.quantities + listDemand list .reserved ∧
      g'.used.quantities = g.used.quantities + listDemand list .committed := by
  induction list generalizing g with
  | nil => exact ⟨g, rfl, by simp [listDemand], by simp [listDemand]⟩
  | cons r list ih =>
    obtain ⟨hr, hnodup⟩ := List.nodup_cons.mp hnodup
    simp only [listDemand_cons, ← add_assoc, Pi.add_apply] at hreserved hused ⊢
    obtain ⟨g₁, hg₁, hseen₁, hres₁, huse₁⟩ := gather_of_live (hlive r List.mem_cons_self)
      (hnew r List.mem_cons_self) (fun i => (Nat.le_add_right _ _).trans_lt (hreserved i))
      fun i => (Nat.le_add_right _ _).trans_lt (hused i)
    have hnew₁ : ∀ r' ∈ list, g₁.seen.find? r'.id = none := by
      intro r' hr'
      have hne : r'.id ≠ r.id := fun heq => hr (heq ▸ List.mem_map_of_mem hr')
      rw [hseen₁, OrdMap.find?_insert, if_neg hne]
      exact hnew r' (List.mem_cons_of_mem _ hr')
    obtain ⟨g₂, hg₂, hres₂, huse₂⟩ := ih (fun r' hr' => hlive r' (List.mem_cons_of_mem _ hr'))
      hnodup hnew₁ (hres₁ ▸ hreserved) (huse₁ ▸ hused)
    refine ⟨g₂, ?_, by rw [hres₂, hres₁], by rw [huse₂, huse₁]⟩
    rw [List.foldlM_cons]
    exact bind_eq_ok_iff.mpr ⟨g₁, hg₁, hg₂⟩

/-- The entries of a table in the order in which they are saved. -/
def saved (m : ReservationManager) : List ResourceReservation := m.reservations.entries.map Prod.snd

variable {m : ReservationManager}

theorem demandOf_eq_listDemand (st : ReservationStatus) :
    m.demandOf st = listDemand m.saved st := by
  rw [demandOf, OrdMap.sum, listDemand, saved, List.map_map]
  rfl

/-- Entries filed under their ids are saved with different ids. -/
theorem saved_ids (hkeyed : ∀ rid r, m.reservations.find? rid = some r → r.id = rid) :
    m.saved.map ResourceReservation.id = m.reservations.entries.map Prod.fst := by
  rw [saved, List.map_map]
  apply List.map_congr_left
  intro e he
  exact hkeyed e.1 e.2 (OrdMap.find?_eq_some_iff.mpr he)

theorem rebuilt (hkeyed : ∀ rid r, m.reservations.find? rid = some r → r.id = rid) :
    m.saved.foldl (fun table r => table.emplace r.id r) .empty = m.reservations := by
  have hids : ∀ (table : OrdMap ReservationId ResourceReservation), ∀ e ∈ m.reservations.entries,
      table.emplace e.2.id e.2 = table.emplace e.1 e.2 := by
    intro table e he
    rw [hkeyed e.1 e.2 (OrdMap.find?_eq_some_iff.mpr he)]
  rw [saved, List.foldl_map, List.foldl_ext _ _ _ hids,
    OrdMap.foldl_emplace m.reservations.sorted fun _ _ => rfl]
  exact OrdMap.ofEntries_entries m.reservations

/-- A table of live entries, filed under their ids and with exact sums, is taken over. -/
theorem restore_of_live (hm : m.Accounting)
    (hkeyed : ∀ rid r, m.reservations.find? rid = some r → r.id = rid)
    (hlive : ∀ rid r, m.reservations.find? rid = some r → r.status.isLive = true)
    (m' : ReservationManager) :
    m'.restore m.saved m.reservedSum m.usedSum =
      (.success,
        { m' with
          reservations := m.reservations
          reservedSum := m.reservedSum
          usedSum := m.usedSum }) := by
  have hall : ∀ r ∈ m.saved, r.status.isLive = true := by
    intro r hr
    obtain ⟨e, he, rfl⟩ := List.mem_map.mp hr
    exact hlive e.1 e.2 (OrdMap.find?_eq_some_iff.mpr he)
  have hnodup : (m.saved.map ResourceReservation.id).Nodup := by
    rw [saved_ids hkeyed, List.nodup_iff_pairwise_ne, List.pairwise_map]
    exact m.reservations.sorted.imp fun h => h.ne
  have hres : ∀ i, listDemand m.saved .reserved i < 2 ^ 64 := by
    intro i
    rw [← demandOf_eq_listDemand, ← hm.reserved]
    exact m.reservedSum.quantities_lt i
  have huse : ∀ i, listDemand m.saved .committed i < 2 ^ 64 := by
    intro i
    rw [← demandOf_eq_listDemand, ← hm.used]
    exact m.usedSum.quantities_lt i
  have hzero : ∀ i, ResourceVector.zero.quantities i = 0 := fun _ => rfl
  obtain ⟨g, hg, hreserved, hused⟩ := foldlM_of_live (g := {}) hall hnodup (fun _ _ => rfl)
    (fun i => by rw [hzero, zero_add]; exact hres i) fun i => by rw [hzero, zero_add]; exact huse i
  rw [ResourceVector.quantities_zero, zero_add, ← demandOf_eq_listDemand] at hreserved hused
  have hcheck : restoreCheck m.saved m.reservedSum m.usedSum = .ok () := by
    refine bind_eq_ok_iff.mpr ⟨g, hg, bind_eq_ok_iff.mpr ⟨(), ?_, ?_⟩⟩
    · exact require_eq_ok_iff.mpr (ResourceVector.quantities_injective
        (hreserved.trans hm.reserved.symm))
    · exact require_eq_ok_iff.mpr (ResourceVector.quantities_injective
        (hused.trans hm.used.symm))
  rw [restore, hcheck]
  simp only [rebuilt hkeyed]

/-! ## What passes the checks -/

/-- An entry that passes has a new id and is added to the sum of its status. -/
theorem gathered_of_ok (h : gather g r = .ok g') : g.seen.find? r.id = none ∧
    g'.seen = g.seen.insert r.id () ∧
    g'.reserved.quantities = g.reserved.quantities + r.demandAs .reserved ∧
    g'.used.quantities = g.used.quantities + r.demandAs .committed := by
  unfold gather at h
  obtain ⟨_, hnew, h⟩ := bind_eq_ok_iff.mp h
  have hfree := OrdMap.contains_eq_false_iff.mp (require_eq_ok_iff.mp hnew)
  cases hs : r.status with
  | reserved =>
    simp only [hs] at h
    obtain ⟨v, hv, hpure⟩ := bind_eq_ok_iff.mp h
    cases hpure
    refine ⟨hfree, rfl, ?_, ?_⟩
    · rw [ResourceReservation.demandAs_of_eq hs]
      exact ResourceVector.tryAdd_eq_some_iff.mp (orFail_eq_ok_iff.mp hv)
    · rw [ResourceReservation.demandAs_of_ne (by simp [hs]), add_zero]
  | committed =>
    simp only [hs] at h
    obtain ⟨v, hv, hpure⟩ := bind_eq_ok_iff.mp h
    cases hpure
    refine ⟨hfree, rfl, ?_, ?_⟩
    · rw [ResourceReservation.demandAs_of_ne (by simp [hs]), add_zero]
    · rw [ResourceReservation.demandAs_of_eq hs]
      exact ResourceVector.tryAdd_eq_some_iff.mp (orFail_eq_ok_iff.mp hv)
  | released | expired | rolledBack =>
    simp only [hs] at h
    obtain ⟨_, -, hpure⟩ := bind_eq_ok_iff.mp h
    cases hpure
    refine ⟨hfree, rfl, ?_, ?_⟩ <;>
      rw [ResourceReservation.demandAs_of_ne (by simp [hs]), add_zero]

theorem gathered_of_foldlM (h : list.foldlM gather g = .ok g') :
    (∀ r ∈ list, g.seen.find? r.id = none) ∧ (list.map ResourceReservation.id).Nodup ∧
      g'.reserved.quantities = g.reserved.quantities + listDemand list .reserved ∧
      g'.used.quantities = g.used.quantities + listDemand list .committed := by
  induction list generalizing g with
  | nil =>
    cases h
    exact ⟨nofun, List.nodup_nil, by simp [listDemand], by simp [listDemand]⟩
  | cons r list ih =>
    rw [List.foldlM_cons] at h
    obtain ⟨g₁, hr, hlist⟩ := bind_eq_ok_iff.mp h
    obtain ⟨hfree, hseen, hreserved, hused⟩ := gathered_of_ok hr
    obtain ⟨hnew, hnodup, hreserved', hused'⟩ := ih hlist
    have hother : ∀ r' ∈ list, r'.id ≠ r.id ∧ g.seen.find? r'.id = none := by
      intro r' hr'
      have hnone := hnew r' hr'
      rw [hseen, OrdMap.find?_insert] at hnone
      split_ifs at hnone with heq
      exact ⟨heq, hnone⟩
    refine ⟨List.forall_mem_cons.mpr ⟨hfree, fun r' hr' => (hother r' hr').2⟩, ?_, ?_, ?_⟩
    · refine List.nodup_cons.mpr ⟨fun hmem => ?_, hnodup⟩
      obtain ⟨r', hr', heq⟩ := List.mem_map.mp hmem
      exact (hother r' hr').1 heq
    · rw [hreserved', hreserved, listDemand_cons, add_assoc]
    · rw [hused', hused, listDemand_cons, add_assoc]

/-- A list that passes has different ids, and the recorded sums are its exact sums. -/
theorem sums_of_restoreCheck {reserved used : ResourceVector} {u : Unit}
    (h : restoreCheck list reserved used = .ok u) :
    (list.map ResourceReservation.id).Nodup ∧ reserved.quantities = listDemand list .reserved ∧
      used.quantities = listDemand list .committed := by
  obtain ⟨g, hg, hrest⟩ := bind_eq_ok_iff.mp h
  obtain ⟨_, hreserved, hused⟩ := bind_eq_ok_iff.mp hrest
  obtain ⟨-, hnodup, hres, huse⟩ := gathered_of_foldlM hg
  rw [ResourceVector.quantities_zero, zero_add] at hres huse
  rw [require_eq_ok_iff.mp hreserved] at hres
  rw [require_eq_ok_iff.mp hused] at huse
  exact ⟨hnodup, hres, huse⟩

/-- The table that is built from a list with different ids has exactly its entries. -/
theorem perm_restored (hnodup : (list.map ResourceReservation.id).Nodup) :
    (list.foldl (fun table r => table.emplace r.id r)
      (.empty : OrdMap ReservationId ResourceReservation)).entries.Perm
      (list.map fun r => (r.id, r)) := by
  rw [← List.append_nil (list.map _)]
  exact OrdMap.perm_foldl_emplace hnodup fun _ _ => rfl

theorem demandOf_restored (hnodup : (list.map ResourceReservation.id).Nodup)
    (htable : m.reservations = list.foldl (fun table r => table.emplace r.id r) .empty)
    (st : ReservationStatus) : m.demandOf st = listDemand list st := by
  rw [demandOf, OrdMap.sum, htable, ((perm_restored hnodup).map _).sum_eq, List.map_map]
  rfl

end Fabric.ReservationManager
