import Fabric.Persistence.Contents
import Fabric.Persistence.Install

/-!
# When a recovered engine is consistent

`restore_state` checks the sums of the reservation table and that ids are different, but it does not
compare requests, reservations and counters with each other. So the recovered engine is consistent
exactly when the saved records pass this comparison (`recovers_consistent_iff`).
-/

namespace Fabric

open Support Support.ByteReader ByteReader

variable {F : Type} [DoubleBits F]

/-- The status that the reservation of a request in this lifecycle has. -/
def RequestLifecycle.backing : RequestLifecycle → Option ReservationStatus
  | reserved => some .reserved
  | admitted => some .committed
  | _ => none

/-- The request is reserved or admitted with reservation `rid`. -/
def RequestRecord.holds (record : RequestRecord F) (rid : ReservationId) : Bool :=
  record.lifecycle.backing.isSome ∧ record.reservation? = some rid

namespace AdmissionFabric

/-- Sums, requests, reservations and counters agree. -/
structure Consistent (f : AdmissionFabric F) : Prop where
  reserved : f.reservations.reservedSum.quantities = f.reservations.demandOf .reserved
  used : f.reservations.usedSum.quantities = f.reservations.demandOf .committed
  backed : ∀ x record, f.requests.find? x = some record → ∀ st ∈ record.lifecycle.backing,
    ∃ rid r, record.reservation? = some rid ∧ f.table.find? rid = some r ∧ r.status = st
  owned : ∀ rid r, f.table.find? rid = some r → r.status.isLive = true →
    ∃! x, ∃ record, f.requests.find? x = some record ∧ record.holds rid = true
  lifecycle : ∀ x record, f.requests.find? x = some record → record.lifecycle ≠ .unknown
  ids : ∀ rid r, f.table.find? rid = some r → rid.value < f.reservationCounter ∧
    ∀ gen ∈ r.admissionGeneration, gen.value < f.admissionGeneration.value
  decided : ∀ x record, f.requests.find? x = some record → ∀ dec ∈ record.lastDecision,
    dec.admissionGeneration.value < f.admissionGeneration.value ∧
      ∀ rid ∈ dec.reservationId, rid.value < f.reservationCounter

end AdmissionFabric

namespace SavedRequest

/-- The reservation that a saved request points at. -/
def reservation? (q : SavedRequest F) : Option ReservationId :=
  q.lastDecision.bind AdmissionDecision.reservationId

def holds (q : SavedRequest F) (rid : ReservationId) : Bool :=
  q.lifecycle.backing.isSome ∧ q.reservation? = some rid

end SavedRequest

/-- The comparison that is left out. -/
structure SavedState.CrossChecked (s : SavedState F) : Prop where
  backed : ∀ q ∈ s.requests, ∀ st ∈ q.lifecycle.backing,
    ∃ r ∈ s.reservations.list, q.reservation? = some r.id ∧ r.status = st
  owned : ∀ r ∈ s.reservations.list, r.status.isLive = true →
    (s.requests.filter fun q => q.holds r.id).length = 1
  lifecycle : ∀ q ∈ s.requests, q.lifecycle ≠ .unknown
  ids : ∀ r ∈ s.reservations.list, r.id.value < s.rest.reservationCounter ∧
    ∀ gen ∈ r.admissionGeneration, gen.value < s.rest.admissionGeneration.value
  decided : ∀ q ∈ s.requests, ∀ dec ∈ q.lastDecision,
    dec.admissionGeneration.value < s.rest.admissionGeneration.value ∧
      ∀ rid ∈ dec.reservationId, rid.value < s.rest.reservationCounter

/-- Entries with different keys, of which exactly one is selected. -/
theorem length_filter_eq_one_iff {α κ : Type} {key : α → κ} {p : α → Bool} {l : List α}
    (hnodup : (l.map key).Nodup) :
    (l.filter p).length = 1 ↔ ∃! x, ∃ a ∈ l, key a = x ∧ p a = true := by
  constructor
  · intro hone
    obtain ⟨a, ha⟩ := List.length_eq_one_iff.mp hone
    have hmem : ∀ b, b ∈ l ∧ p b = true ↔ b = a := fun b => by
      rw [← List.mem_filter, ha, List.mem_singleton]
    obtain ⟨hal, hpa⟩ := (hmem a).mpr rfl
    refine ⟨key a, ⟨a, hal, rfl, hpa⟩, ?_⟩
    rintro _ ⟨b, hb, rfl, hpb⟩
    exact congrArg key ((hmem b).mp ⟨hb, hpb⟩)
  · rintro ⟨_, ⟨a, ha, rfl, hpa⟩, hunique⟩
    have heq : ∀ b ∈ l.filter p, b = a := by
      intro b hb
      obtain ⟨hbl, hpb⟩ := List.mem_filter.mp hb
      exact List.inj_on_of_nodup_map hnodup hbl ha (hunique _ ⟨b, hbl, rfl, hpb⟩)
    have hrepeat := List.eq_replicate_iff.mpr ⟨rfl, heq⟩
    have hnodup' : (l.filter p).Nodup := (List.Nodup.of_map key hnodup).filter p
    rw [hrepeat, List.nodup_replicate] at hnodup'
    have hpos := List.length_pos_of_mem (List.mem_filter.mpr ⟨ha, hpa⟩)
    omega

/-! ## The recovered tables -/

namespace AdmissionFabric

variable {now : TimePoint} {saved : SavedState F} {g : AdmissionFabric F}

/-- A fresh engine after recovery, in terms of the saved records. -/
structure RestoredFrom (g : AdmissionFabric F) (now : TimePoint) (saved : SavedState F) : Prop where
  requests : ∀ x record, g.requests.find? x = some record ↔
    ∃ q ∈ saved.requests, q.id = x ∧ q.record now = record
  distinct : (saved.requests.map SavedRequest.id).Nodup
  table : ∀ rid r, g.table.find? rid = some r ↔ r ∈ saved.reservations.list ∧ r.id = rid
  reserved : g.reservations.reservedSum.quantities = g.reservations.demandOf .reserved
  used : g.reservations.usedSum.quantities = g.reservations.demandOf .committed
  admissionGeneration : g.admissionGeneration = saved.rest.admissionGeneration
  reservationCounter : g.reservationCounter = saved.rest.reservationCounter

theorem find?_restored {list : List ResourceReservation}
    (hnodup : (list.map ResourceReservation.id).Nodup) (rid : ReservationId)
    (r : ResourceReservation) :
    (list.foldl (fun table r => table.emplace r.id r)
      (.empty : OrdMap ReservationId ResourceReservation)).find? rid = some r ↔
        r ∈ list ∧ r.id = rid := by
  rw [OrdMap.find?_eq_some_iff, (ReservationManager.perm_restored hnodup).mem_iff, List.mem_map]
  constructor
  · rintro ⟨r, hr, heq⟩
    cases heq
    exact ⟨hr, rfl⟩
  · rintro ⟨hr, rfl⟩
    exact ⟨r, hr, rfl⟩

theorem restoredFrom_of_install (h : ({} : AdmissionFabric F).install now saved = some g) :
    g.RestoredFrom now saved := by
  have hinstallable := exists_install_iff.mp ⟨g, h⟩
  obtain ⟨policy, m, requests, -, htable, hrequests, rfl⟩ := install_eq_some_iff.mp h
  obtain ⟨hcheck, rfl⟩ := ReservationManager.addSaved_eq_some_iff.mp htable
  obtain ⟨hids, hreserved, hused⟩ := ReservationManager.sums_of_restoreCheck hcheck
  obtain ⟨total, heq⟩ := withSaved_eq ({} : AdmissionFabric F) policy _ requests saved
  rw [heq]
  constructor
  · exact find?_addRequests hrequests
  · exact hinstallable.2.2
  · exact find?_restored hids
  · exact hreserved.trans (ReservationManager.demandOf_restored hids rfl .reserved).symm
  · exact hused.trans (ReservationManager.demandOf_restored hids rfl .committed).symm
  · rfl
  · rfl

/-! ## The comparison -/

theorem consistent_iff (h : g.RestoredFrom now saved) : g.Consistent ↔ saved.CrossChecked := by
  have hfind : ∀ q ∈ saved.requests, g.requests.find? q.id = some (q.record now) :=
    fun q hq => (h.requests _ _).mpr ⟨q, hq, rfl, rfl⟩
  have howner : ∀ rid, (∃! x, ∃ record, g.requests.find? x = some record ∧
      record.holds rid = true) ↔ (saved.requests.filter fun q => q.holds rid).length = 1 := by
    intro rid
    rw [length_filter_eq_one_iff h.distinct]
    refine existsUnique_congr fun x => ?_
    constructor
    · rintro ⟨record, hrecord, hholds⟩
      obtain ⟨q, hq, rfl, rfl⟩ := (h.requests _ _).mp hrecord
      exact ⟨q, hq, rfl, hholds⟩
    · rintro ⟨q, hq, rfl, hholds⟩
      exact ⟨q.record now, hfind q hq, hholds⟩
  constructor
  · intro hc
    constructor
    · intro q hq st hst
      obtain ⟨rid, r, hrid, hr, hstatus⟩ := hc.backed q.id _ (hfind q hq) st hst
      obtain ⟨hmem, rfl⟩ := (h.table _ _).mp hr
      exact ⟨r, hmem, hrid, hstatus⟩
    · intro r hr hlive
      exact (howner r.id).mp (hc.owned r.id r ((h.table _ _).mpr ⟨hr, rfl⟩) hlive)
    · exact fun q hq => hc.lifecycle q.id _ (hfind q hq)
    · intro r hr
      rw [← h.admissionGeneration, ← h.reservationCounter]
      exact hc.ids r.id r ((h.table _ _).mpr ⟨hr, rfl⟩)
    · intro q hq
      rw [← h.admissionGeneration, ← h.reservationCounter]
      exact hc.decided q.id _ (hfind q hq)
  · intro hc
    constructor
    · exact h.reserved
    · exact h.used
    · intro x record hrecord st hst
      obtain ⟨q, hq, rfl, rfl⟩ := (h.requests _ _).mp hrecord
      obtain ⟨r, hr, hrid, hstatus⟩ := hc.backed q hq st hst
      exact ⟨r.id, r, hrid, (h.table _ _).mpr ⟨hr, rfl⟩, hstatus⟩
    · intro rid r hr hlive
      obtain ⟨hmem, rfl⟩ := (h.table _ _).mp hr
      exact (howner r.id).mpr (hc.owned r hmem hlive)
    · intro x record hrecord
      obtain ⟨q, hq, rfl, rfl⟩ := (h.requests _ _).mp hrecord
      exact hc.lifecycle q hq
    · intro rid r hr
      obtain ⟨hmem, rfl⟩ := (h.table _ _).mp hr
      rw [h.admissionGeneration, h.reservationCounter]
      exact hc.ids r hmem
    · intro x record hrecord
      obtain ⟨q, hq, rfl, rfl⟩ := (h.requests _ _).mp hrecord
      rw [h.admissionGeneration, h.reservationCounter]
      exact hc.decided q hq

/-- If a fresh engine accepts the payload, it is consistent then. -/
def RecoversConsistent (F : Type) [DoubleBits F] (now : TimePoint) (payload : ByteString)
    (cfg : PersistenceConfig) : Prop :=
  (({} : AdmissionFabric F).applyPayload now payload cfg).1.isOk = true →
    (({} : AdmissionFabric F).applyPayload now payload cfg).2.Consistent

theorem recovers_consistent_iff (F : Type) [DoubleBits F] (now : TimePoint) (payload : ByteString)
    (cfg : PersistenceConfig) : RecoversConsistent F now payload cfg ↔
      ∀ saved : SavedState F, cfg.Holds payload saved →
        ({} : AdmissionFabric F).Installable saved → saved.CrossChecked := by
  constructor
  · intro hall saved hholds hinstallable
    obtain ⟨g, hg⟩ : ∃ g, ({} : AdmissionFabric F).install now saved = some g :=
      exists_install_iff.mpr hinstallable
    obtain ⟨hok, hstate⟩ := accepts_iff.mpr ⟨saved, hholds, hg⟩
    exact (consistent_iff (restoredFrom_of_install hg)).mp (hstate ▸ hall hok)
  · intro hall hok
    obtain ⟨saved, hholds, hg⟩ := accepts_iff.mp ⟨hok, rfl⟩
    exact (consistent_iff (restoredFrom_of_install hg)).mpr
      (hall saved hholds (exists_install_iff.mp ⟨_, hg⟩))

end AdmissionFabric

/-- A state with a reserved request that has no decision and no reservation. -/
def Sample.orphaned : AdmissionFabric Binary64 :=
  { requests := OrdMap.empty.insert ⟨1⟩
      { id := ⟨1⟩, lifecycle := .reserved, descriptor := descriptor 1 } }

namespace AdmissionFabric

/-- The payload of a reserved request without a reservation is accepted. -/
theorem recovers_consistent_fails :
    ¬ RecoversConsistent Binary64 0 (Sample.orphaned.buildPayload {}) {} := by
  have hbytes : Sample.orphaned.savedSize < 2 ^ 32 := by decide +kernel
  have hreadable : Sample.orphaned.Readable :=
    ⟨by decide +kernel, by decide +kernel, by decide +kernel, by decide +kernel,
      by decide +kernel, by decide +kernel⟩
  have hholds := holds_buildPayload (counted_of_savedSize hbytes) hreadable hbytes {}
  have hinstallable : ({} : AdmissionFabric Binary64).Installable Sample.orphaned.contents := by
    refine ⟨⟨fun p hp => absurd hp List.not_mem_nil, List.nodup_nil⟩, ?_, ?_⟩
    · rfl
    · exact List.nodup_singleton _
  obtain ⟨g, hg⟩ : ∃ g, ({} : AdmissionFabric Binary64).install 0 Sample.orphaned.contents = some g :=
    exists_install_iff.mpr hinstallable
  obtain ⟨hok, hstate⟩ := accepts_iff.mpr ⟨_, hholds, hg⟩
  intro h
  have hchecked := (consistent_iff (restoredFrom_of_install hg)).mp (hstate ▸ h hok)
  obtain ⟨r, hr, -⟩ := hchecked.backed _ (List.mem_singleton_self _) .reserved rfl
  exact List.not_mem_nil hr

end AdmissionFabric

end Fabric
