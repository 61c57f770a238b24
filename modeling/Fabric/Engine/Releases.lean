import Fabric.Engine.Expiry
import Fabric.Engine.Holdings

/-!
# Releases

A release of a reservation that the engine has answered with always succeeds, and the reservation
is given back for good: whatever is called afterwards, nothing is held for it (`given_back`). So
what an engine holds is held by the reservations that were not released (`held_eq_unreleased`), and
an engine whose reservations were all released has its whole ceiling available (`drained`). Every
engine can be brought there (`drains`).
-/

namespace Fabric

open Support

variable {F : Type} [Double F]

namespace AdmissionFabric

/-- The call releases `rid` and succeeds. -/
def Releases (f : AdmissionFabric F) (c : EngineCall F) (rid : ReservationId) : Prop :=
  c.op = .release rid ∧ (f.call c).1 = .status .success

/-- The entry is dead, and the record that names it is not waiting or running. -/
structure GivenBack (f : AdmissionFabric F) (rid : ReservationId) : Prop where
  entry : ∃ r, f.table.find? rid = some r ∧ r.status.isLive = false
  records : ∀ x record, Names f.requests x record rid →
    record.lifecycle ≠ .reserved ∧ record.lifecycle ≠ .admitted

variable {f f' : AdmissionFabric F} {c : EngineCall F} {rid : ReservationId}
  {r : ResourceReservation}

/-! ## One call -/

/-- A known reservation can be released. -/
theorem releases_of_known (hacc : f.reservations.Accounting) (hr : f.table.find? rid = some r)
    (now : TimePoint) : f.Releases ⟨now, .release rid⟩ rid := by
  refine ⟨rfl, congrArg EngineReply.status ?_⟩
  show (f.releaseReservation now rid).1 = .success
  rw [releaseReservation]
  rcases ReservationManager.release_cases hacc rid with ⟨hnone, -⟩ | ⟨_, -, -, h⟩ |
    ⟨_, _, _, -, -, h⟩
  · cases hnone.symm.trans hr
  · rw [h]
    rfl
  · rw [h]
    rfl

theorem givenBack_of_releases (hf : f.Linked) (h : f.Releases c rid) :
    (f.call c).2.GivenBack rid := by
  obtain ⟨hop, hreply⟩ := h
  have he := call_effect hf.accounting c
  rw [hreply] at he
  generalize (f.call c).2 = f' at he ⊢
  cases he with
  | released rid' r st hop' _ _ hst hrequests htable =>
    obtain rfl : rid = rid' := by simpa [hop] using hop'
    refine ⟨⟨_, htable ▸ OrdMap.find?_insert_self _ _ _, ?_⟩, fun x record' hn => ?_⟩
    · rcases hst with rfl | rfl <;> rfl
    · have hfind := hn.find
      rw [hrequests, OrdMap.find?_mapValues] at hfind
      obtain ⟨record, -, rfl⟩ := Option.map_eq_some_iff.mp hfind
      have hlink := hn.link
      rw [RequestRecord.reservation?, releaseRecord_lastDecision] at hlink
      rw [releaseRecord]
      split_ifs with hrel
      · simp
      · exact not_or.mp fun hlife => hrel ⟨hlink, hlife.symm⟩
  | failed s _ hreply' hs =>
    obtain rfl : Status.success = s := by simpa using hreply'
    cases hs
  | configured hop' => simp [hop, EngineOp.IsConfiguration] at hop'
  | refused _ _ _ hop' => simp [hop] at hop'
  | admitted _ _ _ _ _ hop' => simp [hop] at hop'
  | committed _ _ _ _ _ _ hop' => simp [hop] at hop'
  | lapsed _ _ _ _ _ _ _ hop' => simp [hop] at hop'
  | cancelled _ _ hop' => simp [hop] at hop'
  | rolledBack _ _ _ _ hop' => simp [hop] at hop'

/-- No call takes back what was given back. -/
theorem GivenBack.call (hf : f.Linked) (h : f.GivenBack rid) (c : EngineCall F) :
    (f.call c).2.GivenBack rid := by
  have he := call_effect hf.accounting c
  obtain ⟨⟨r, hr, hdead⟩, hrecords⟩ := h
  obtain ⟨r', hr', hfollows⟩ := he.entry_kept hr
  refine ⟨⟨r', hr', hfollows.dead hdead⟩, fun x record' hn => ?_⟩
  obtain ⟨record, hn₀⟩ := he.names_back hr hn
  have hold := hrecords x record hn₀
  obtain ⟨record₁, hfind, hmoves⟩ := he.record_kept hf.links hn₀.find
  obtain rfl := Option.some.inj (hn.find.symm.trans hfind)
  cases hmoves with
  | stayed h => rwa [h]
  | admitted hcommits h =>
    -- Only a provisional entry is committed, and this one is dead.
    have hnames := hcommits.names
    obtain rfl := Option.some.inj (hn₀.find.symm.trans hnames.find)
    obtain rfl := Option.some.inj (hn₀.link.symm.trans hnames.link)
    obtain rfl := Option.some.inj (hr.symm.trans hcommits.entry)
    simp [hcommits.status, ReservationStatus.isLive] at hdead
  | released _ h => simp [h]
  | cancelled _ h => simp [h]

end AdmissionFabric

/-! ## Histories -/

open AdmissionFabric

/-- Reservation `rid` was released with success. -/
def ReleasedIn (h : List (EngineCall F)) (rid : ReservationId) : Prop :=
  (engine F).Happened (fun f c => f.Releases c rid) h

/-- Nothing is held, and no request that names a reservation waits or runs. -/
structure AdmissionFabric.Drained (f : AdmissionFabric F) : Prop where
  held : ∀ i, f.reservations.held i = 0
  available : ∀ i, f.reservations.availability.quantities i = (f.reservations.dimCeiling i).toNat
  records : ∀ x record rid, Names f.requests x record rid →
    record.lifecycle ≠ .reserved ∧ record.lifecycle ≠ .admitted

section Histories

variable {h : List (EngineCall F)} {x : AdmissionRequestId} {rid : ReservationId}
  {r : ResourceReservation} {now : TimePoint}

/-- What was released stays given back. -/
theorem given_back (hr : ReleasedIn h rid) : ((engine F).after h).GivenBack rid :=
  hr.since (P := fun f => f.GivenBack rid) linked_after
    (fun _ _ hf hc => givenBack_of_releases hf hc) fun _ c hf hback => hback.call hf c

/-- Every entry was granted to a request. -/
theorem created_of_entry (hr : ((engine F).after h).table.find? rid = some r) :
    ∃ x, CreatedFor h x rid := by
  induction h using List.reverseRecOn generalizing r with
  | nil => cases hr
  | append_singleton h c ih =>
    rw [Machine.after_snoc] at hr
    simp only [CreatedFor, Machine.happened_snoc]
    cases hold : ((engine F).after h).table.find? rid with
    | some r₀ =>
      obtain ⟨x, hx⟩ := ih hold
      exact ⟨x, .inl hx⟩
    | none =>
      obtain ⟨d, -, dec, hop, hreply, hrid, -⟩ :=
        (call_effect (accounting_after h) c).entry_new hold hr
      exact ⟨d.admissionRequestId, .inr ⟨dec, ⟨d, hop, rfl, hreply⟩, hrid⟩⟩

theorem heldBy_eq_zero {p : ReservationId → Prop} [DecidablePred p] {table : Reservations}
    (hnone : ∀ rid r, table.find? rid = some r → ¬ p rid) : heldBy p table = 0 := by
  rw [heldBy, OrdMap.sum]
  apply List.sum_eq_zero
  intro demand hmem
  obtain ⟨e, he, rfl⟩ := List.mem_map.mp hmem
  exact if_neg (hnone e.1 e.2 (OrdMap.find?_eq_some_iff.mpr he))

/-- What an engine holds, those reservations hold that were not released. -/
theorem held_eq_unreleased (h : List (EngineCall F))
    [DecidablePred fun rid => ¬ ReleasedIn h rid] (i : ResourceId) :
    ((engine F).after h).reservations.held i =
      heldBy (fun rid => ¬ ReleasedIn h rid) ((engine F).after h).table i := by
  refine le_antisymm ?_ (heldBy_le_held (accounting_after h) i)
  have hle : (((engine F).after h).table.sum fun _ r => r.demandAs .reserved + r.demandAs .committed) ≤
      heldBy (fun rid => ¬ ReleasedIn h rid) ((engine F).after h).table := by
    refine OrdMap.sum_le_sum fun rid r hr => ?_
    rw [← r.liveDemand_eq]
    split_ifs with hreleased
    · exact le_rfl
    · obtain ⟨r', hr', hdead⟩ := (given_back (not_not.mp hreleased)).entry
      obtain rfl := Option.some.inj (hr.symm.trans hr')
      rw [ResourceReservation.liveDemand, hdead]
      exact le_rfl
  rw [OrdMap.sum_add] at hle
  have hacc := accounting_after h
  rw [ReservationManager.held, congrFun hacc.used i, congrFun hacc.reserved i, add_comm]
  exact hle i

theorem drained_of_released
    (hall : ∀ rid r, ((engine F).after h).table.find? rid = some r → ReleasedIn h rid) :
    ((engine F).after h).Drained := by
  classical
  have hheld : ∀ i, ((engine F).after h).reservations.held i = 0 := by
    intro i
    rw [held_eq_unreleased, heldBy_eq_zero fun rid r hr => not_not.mpr (hall rid r hr)]
    rfl
  refine ⟨hheld, fun i => ?_, fun x record rid hn => ?_⟩
  · have hacc := accounting_after h
    have hi := hheld i
    rw [ReservationManager.held, congrFun hacc.used i, congrFun hacc.reserved i] at hi
    rw [ReservationManager.availability_eq hacc]
    omega
  · obtain ⟨r, hr⟩ := (linked_after h).links.present x record rid hn
    exact (given_back (hall rid r hr)).records x record hn

/-- When every reservation that was granted was released, all capacity is back. -/
theorem drained (h : List (EngineCall F)) (hall : ∀ x rid, CreatedFor h x rid → ReleasedIn h rid) :
    ((engine F).after h).Drained := by
  refine drained_of_released fun rid r hr => ?_
  obtain ⟨x, hx⟩ := created_of_entry hr
  exact hall x rid hx

namespace Sample

/-- Two requests are admitted. One is committed, and both are released. -/
def returned : List (EngineCall Binary64) :=
  opening ++ [⟨0, .evaluate (descriptor 1)⟩, ⟨0, .evaluate (descriptor 2)⟩, ⟨0, .commit ⟨1⟩ ⟨1⟩⟩,
    ⟨0, .release ⟨1⟩⟩, ⟨0, .release ⟨2⟩⟩]

theorem released_returned (x : AdmissionRequestId) (rid : ReservationId)
    (hx : CreatedFor returned x rid) : ReleasedIn returned rid := by
  have hkeys : ((engine Binary64).after returned).table.entries.map Prod.fst = [⟨1⟩, ⟨2⟩] := by
    decide +kernel
  obtain ⟨⟨r, hr⟩, -⟩ := hx.names
  have hmem : rid ∈ [⟨1⟩, ⟨2⟩] :=
    hkeys ▸ List.mem_map_of_mem (f := Prod.fst) (OrdMap.find?_eq_some_iff.mp hr)
  obtain rfl | rfl : rid = ⟨1⟩ ∨ rid = ⟨2⟩ := by simpa using hmem
  · have hknown : (((engine Binary64).after (returned.take 5)).table.find? ⟨1⟩).isSome = true := by
      decide +kernel
    obtain ⟨r, hr⟩ := Option.isSome_iff_exists.mp hknown
    exact ⟨returned.take 5, _, _, rfl, releases_of_known (accounting_after _) hr 0⟩
  · have hknown : (((engine Binary64).after (returned.take 6)).table.find? ⟨2⟩).isSome = true := by
      decide +kernel
    obtain ⟨r, hr⟩ := Option.isSome_iff_exists.mp hknown
    exact ⟨returned.take 6, _, _, rfl, releases_of_known (accounting_after _) hr 0⟩

end Sample

theorem drained_returned : ((engine Binary64).after Sample.returned).Drained :=
  drained Sample.returned Sample.released_returned

/-- Releases of these reservations. -/
def releaseAll (now : TimePoint) (rids : List ReservationId) : List (EngineCall F) :=
  rids.map fun rid => ⟨now, .release rid⟩

/-- Releases grant nothing. -/
theorem CreatedFor.of_releaseAll {rids : List ReservationId}
    (hx : CreatedFor (h ++ releaseAll now rids) x rid) : CreatedFor h x rid := by
  induction rids using List.reverseRecOn with
  | nil => rwa [releaseAll, List.map_nil, List.append_nil] at hx
  | append_singleton rids rid' ih =>
    rw [releaseAll, List.map_append, ← List.append_assoc] at hx
    rcases Machine.happened_snoc.mp hx with hx | ⟨dec, ⟨d, hop, -⟩, -⟩
    · exact ih hx
    · cases hop

/-- A reservation that was created can be released whenever one likes. -/
theorem CreatedFor.releases (hx : CreatedFor h x rid) (now : TimePoint) :
    ((engine F).after h).Releases ⟨now, .release rid⟩ rid := by
  obtain ⟨⟨r, hr⟩, -⟩ := hx.names
  exact releases_of_known (accounting_after h) hr now

/-- Every engine is drained by releasing what its table lists, and each of these releases
succeeds. -/
theorem drains (h : List (EngineCall F)) (now : TimePoint) :
    ((engine F).after (h ++ releaseAll now
        (((engine F).after h).table.entries.map Prod.fst))).Drained ∧
      ∀ a rid b, ((engine F).after h).table.entries.map Prod.fst = a ++ rid :: b →
        (engine F).reply ((engine F).after (h ++ releaseAll now a)) ⟨now, .release rid⟩ =
          .status .success := by
  have hreleases : ∀ a rid b, ((engine F).after h).table.entries.map Prod.fst = a ++ rid :: b →
      ((engine F).after (h ++ releaseAll now a)).Releases ⟨now, .release rid⟩ rid := by
    intro a rid b hsplit
    have hmem : rid ∈ ((engine F).after h).table.entries.map Prod.fst :=
      hsplit ▸ List.mem_append_right a List.mem_cons_self
    obtain ⟨e, he, rfl⟩ := List.mem_map.mp hmem
    obtain ⟨x, hx⟩ := created_of_entry (OrdMap.find?_eq_some_iff.mpr he)
    exact CreatedFor.releases (Machine.Happened.append hx _) now
  refine ⟨drained_of_released fun rid r hr => ?_, fun a rid b hsplit => (hreleases a rid b hsplit).2⟩
  obtain ⟨x, hx⟩ := created_of_entry hr
  obtain ⟨⟨r₀, hr₀⟩, -⟩ := hx.of_releaseAll.names
  obtain ⟨a, b, hsplit⟩ := List.append_of_mem
    (List.mem_map_of_mem (f := Prod.fst) (OrdMap.find?_eq_some_iff.mp hr₀))
  refine ⟨h ++ releaseAll now a, ⟨now, .release rid⟩, releaseAll now b, ?_, hreleases a rid b hsplit⟩
  rw [hsplit, releaseAll, List.map_append, List.map_cons, List.append_assoc]
  rfl

end Histories

end Fabric
