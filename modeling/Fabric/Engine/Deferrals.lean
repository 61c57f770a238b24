import Fabric.Engine.Gates

/-!
# What a deferral is laid on

The explanation of a deferral names the dimension it is laid on, or says that some dimension of the
snapshot is unavailable (`Blames`). A gate lays a deferral only on a dimension that the request
asks something of, with one exception: the check for unavailable dimensions does not look at the
request (`gates_dimension`). The reservation that follows can fail in any dimension
(`reserveCheck_dimension`).
-/

namespace Fabric

open Support Support.Checks

variable {F : Type} [Double F]

/-! ## Explanations that name a dimension -/

/-- The explanation lays a deferral on dimension `i`. -/
def ResourceSnapshot.Blames (s : ResourceSnapshot) (explanation : ByteString) (i : ResourceId) :
    Prop :=
  explanation = ascii "some capacity dimension unavailable; deferring" ∧
      s.provenance i = .unavailable ∨
    explanation = ascii "quota headroom insufficient for: " ++ ascii i.name ∨
    explanation = ascii "insufficient headroom (limiting: " ++ ascii i.name ++ ascii ")" ∨
    explanation = ascii "reservation failed: " ++ ascii ("insufficient " ++ i.name)

theorem head_append {s : String} {c : UInt8} (h : (ascii s).head? = some c) (rest : ByteString) :
    (ascii s ++ rest).head? = some c := by
  rw [List.head?_append, h]
  rfl

/-- The first letter of an explanation says which check it comes from. -/
theorem ResourceSnapshot.Blames.of_head {s : ResourceSnapshot} {explanation : ByteString}
    {i : ResourceId} {c : UInt8} (h : s.Blames explanation i)
    (hhead : explanation.head? = some c) :
    c = 115 ∧ s.provenance i = .unavailable ∨
      c = 113 ∧ explanation = ascii "quota headroom insufficient for: " ++ ascii i.name ∨
      c = 105 ∧
        explanation = ascii "insufficient headroom (limiting: " ++ ascii i.name ++ ascii ")" ∨
      c = 114 ∧
        explanation = ascii "reservation failed: " ++ ascii ("insufficient " ++ i.name) := by
  have hletter : ∀ {c' : UInt8}, explanation.head? = some c' → c = c' :=
    fun h' => Option.some.inj (hhead.symm.trans h')
  rcases h with ⟨rfl, hprov⟩ | rfl | rfl | rfl
  · exact .inl ⟨hletter (by decide), hprov⟩
  · exact .inr (.inl ⟨hletter (head_append (by decide) _), rfl⟩)
  · rw [List.append_assoc] at hletter
    exact .inr (.inr (.inl ⟨hletter (head_append (by decide) _), rfl⟩))
  · exact .inr (.inr (.inr ⟨hletter (head_append (by decide) _), rfl⟩))

theorem ascii_name_injective : Function.Injective fun i : ResourceId => ascii i.name := by decide

theorem ascii_insufficient_injective :
    Function.Injective fun i : ResourceId => ascii ("insufficient " ++ i.name) := by decide

namespace AdmissionFabric

variable {f : AdmissionFabric F} {now : TimePoint} {d : AdmissionDescriptor F}
  {pol : AdmissionPolicy F} {fc : Forecast F} {slo : SloFeasibility F} {r : Refusal F}
  {i : ResourceId}

/-! ## The gates -/

/-- The checks before the one for unavailable dimensions, on the state before the evaluation. -/
structure ReachesAvailability (f : AdmissionFabric F) (now : TimePoint) (pol : AdmissionPolicy F)
    (d : AdmissionDescriptor F) : Prop where
  valid : d.validate.isOk = true
  isOpen : ∀ record, f.requests.find? d.admissionRequestId = some record →
    record.lifecycle.isOpen = true
  capability : f.classifyCapability d ≠ .rejectCapability
  known : f.hasSnapshot = true
  fresh : ¬ (f.snapshot.isStaleAsOf now pol.maxSnapshotAge ∧ pol.acceptStaleSnapshot = false)

theorem snapshotGate_dimension (h : f.snapshotGate now pol d fc = .error r)
    (hdefer : r.decision.outcome = .defer)
    (hblame : f.snapshot.Blames r.decision.explanation i) :
    f.hasSnapshot = true ∧
      ¬ (f.snapshot.isStaleAsOf now pol.maxSnapshotAge ∧ pol.acceptStaleSnapshot = false) ∧
      f.snapshot.provenance i = .unavailable := by
  unfold snapshotGate at h
  split_ifs at h with hsnap
  · rcases bind_eq_error_iff.mp h with h | ⟨_, hfresh, h⟩
    · obtain ⟨-, rfl⟩ := require_eq_error_iff.mp h
      cases hdefer
    · obtain ⟨-, rfl⟩ := require_eq_error_iff.mp h
      have hprov := hblame.of_head (c := 115) rfl
      exact ⟨hsnap, require_eq_ok_iff.mp hfresh, by simpa using hprov⟩
  · obtain ⟨-, rfl⟩ := require_eq_error_iff.mp h
    have hnone := hblame.of_head (c := 110) rfl
    simp at hnone

/-- A dimension that is found short of something is one that the request asks something of. -/
theorem pos_of_gt {demand limit : ResourceVector} (h : demand.get i > limit.get i) :
    demand.quantities i ≠ 0 := by
  rw [gt_iff_lt, UInt64.lt_iff_toNat_lt] at h
  exact Nat.ne_of_gt (Nat.lt_of_le_of_lt (Nat.zero_le _) h)

theorem classifyQuota_defers {demand : ResourceVector}
    (hquota : (f.classifyQuota d demand).1 = .deferQuota) : ∃ j,
      (f.classifyQuota d demand).2 = ascii j.name ∧ demand.quantities j ≠ 0 := by
  simp only [classifyQuota] at hquota ⊢
  split_ifs at hquota ⊢
  cases hfind : ResourceId.all.find? fun id =>
      f.quota.constrained id && decide (demand.get id > f.quota.remaining.get id) with
  | none => simp [hfind] at hquota
  | some j =>
    have hshort := List.find?_some hfind
    rw [Bool.and_eq_true, decide_eq_true_eq] at hshort
    exact ⟨j, rfl, pos_of_gt hshort.2⟩

theorem quotaGate_dimension (h : f.quotaGate now d fc = .error r)
    (hdefer : r.decision.outcome = .defer)
    (hblame : f.snapshot.Blames r.decision.explanation i) : fc.demand.quantities i ≠ 0 := by
  rcases bind_eq_error_iff.mp h with h | ⟨_, -, h⟩
  · obtain ⟨-, rfl⟩ := require_eq_error_iff.mp h
    cases hdefer
  rcases bind_eq_error_iff.mp h with h | ⟨_, -, h⟩
  · obtain ⟨hquota, rfl⟩ := require_eq_error_iff.mp h
    obtain ⟨j, hname, hpos⟩ := classifyQuota_defers (not_not.mp hquota)
    replace hblame : f.snapshot.Blames
      (ascii "quota headroom insufficient for: " ++ (f.classifyQuota d fc.demand).2) i := hblame
    rw [hname] at hblame
    have hsame := hblame.of_head (head_append (c := 113) (by decide) _)
    obtain rfl : j = i := ascii_name_injective (by simpa using hsame)
    exact hpos
  · cases h

theorem sloGate_dimension (h : f.sloGate now d fc = .error r)
    (hdefer : r.decision.outcome = .defer) :
    ¬ f.snapshot.Blames r.decision.explanation i := by
  intro hblame
  rcases bind_eq_error_iff.mp h with h | ⟨_, -, h⟩
  · obtain ⟨-, rfl⟩ := require_eq_error_iff.mp h
    cases hdefer
  rcases bind_eq_error_iff.mp h with h | ⟨_, -, h⟩
  · obtain ⟨-, rfl⟩ := require_eq_error_iff.mp h
    have hnone := hblame.of_head (c := 83) rfl
    simp at hnone
  · cases h

/-- A demand that does not fit is over the limit in some dimension. -/
theorem exists_over {demand limit : ResourceVector} (h : ¬ demand.fitsIn limit = true) :
    ∃ j, (ResourceId.all.find? fun id => demand.get id > limit.get id) = some j ∧
      demand.quantities j ≠ 0 := by
  cases hfind : ResourceId.all.find? fun id => demand.get id > limit.get id with
  | none =>
    refine absurd (List.all_eq_true.mpr fun id hid => ?_) h
    have hle := List.find?_eq_none.mp hfind id hid
    simpa using hle
  | some j =>
    have hover := List.find?_some hfind
    rw [decide_eq_true_eq] at hover
    exact ⟨j, rfl, pos_of_gt hover⟩

theorem capacityGate_dimension (h : f.capacityGate now pol d fc slo = .error r)
    (hblame : f.snapshot.Blames r.decision.explanation i) : fc.demand.quantities i ≠ 0 := by
  rcases bind_eq_error_iff.mp h with h | ⟨_, -, h⟩
  · obtain ⟨hfits, rfl⟩ := require_eq_error_iff.mp h
    obtain ⟨j, hfind, hpos⟩ := exists_over hfits
    simp only [hfind] at hblame
    replace hblame : f.snapshot.Blames
      (ascii "insufficient headroom (limiting: " ++ ascii j.name ++ ascii ")") i := hblame
    rw [List.append_assoc] at hblame
    have hsame := hblame.of_head (head_append (c := 105) (by decide) _)
    obtain rfl : j = i := ascii_name_injective (by simpa using hsame)
    exact hpos
  · obtain ⟨-, rfl⟩ := require_eq_error_iff.mp h
    have hnone := hblame.of_head (c := 100) rfl
    simp at hnone

/-- The gates of the prepared engine lay a deferral on a dimension that the request asks something
of, or on one that the snapshot says is unavailable. -/
theorem gates_dimension {u : Unit} (hentry : f.entryGate now d = .ok u)
    (h : (f.prepared now d pol).gates now pol d = .error r) (hdefer : r.decision.outcome = .defer)
    (hblame : f.snapshot.Blames r.decision.explanation i) :
    f.ReachesAvailability now pol d ∧ f.snapshot.provenance i = .unavailable ∨
      (f.predictor.predictDemand d).quantities i ≠ 0 := by
  obtain ⟨hvalid, hopen⟩ := entryGate_eq_ok_iff.mp hentry
  obtain ⟨record, hprep⟩ := f.exists_prepared_eq now d pol
  have hfc : (f.prepared now d pol).forecast d = f.forecast d := forecast_prepared
  have hsnapshot : (f.prepared now d pol).snapshot = f.snapshot := by
    rw [hprep]
    rfl
  rw [← hsnapshot] at hblame
  rcases bind_eq_error_iff.mp h with h | ⟨_, hcap, h⟩
  · obtain ⟨-, rfl⟩ := require_eq_error_iff.mp h
    cases hdefer
  rcases bind_eq_error_iff.mp h with h | ⟨_, -, h⟩
  · have hcap' := require_eq_ok_iff.mp hcap
    obtain ⟨hknown, hfresh, hprov⟩ := snapshotGate_dimension h hdefer hblame
    rw [hprep] at hcap' hknown
    rw [hsnapshot] at hfresh hprov
    exact .inl ⟨⟨hvalid, hopen, hcap', hknown, hfresh⟩, hprov⟩
  rw [hfc] at h
  rcases bind_eq_error_iff.mp h with h | ⟨_, -, h⟩
  · exact .inr (quotaGate_dimension h hdefer hblame)
  rcases bind_eq_error_iff.mp h with h | ⟨_, -, h⟩
  · exact absurd hblame (sloGate_dimension h hdefer)
  rcases bind_eq_error_iff.mp h with h | ⟨_, -, h⟩
  · exact .inr (capacityGate_dimension h hblame)
  · cases h

theorem snapshotGate_of_unavailable (d : AdmissionDescriptor F) (fc : Forecast F)
    (hknown : f.hasSnapshot = true)
    (hfresh : ¬ (f.snapshot.isStaleAsOf now pol.maxSnapshotAge ∧ pol.acceptStaleSnapshot = false))
    (hi : f.snapshot.provenance i = .unavailable) : ∃ r : Refusal F,
      f.snapshotGate now pol d fc = .error r ∧ r.decision.outcome = .defer ∧
      r.decision.explanation = ascii "some capacity dimension unavailable; deferring" := by
  have hany : ¬ f.snapshot.hasUnavailableDimension = false := by
    rw [Bool.not_eq_false]
    exact List.any_eq_true.mpr ⟨i, ResourceId.mem_all i, by simp [hi]⟩
  unfold snapshotGate
  rw [if_pos hknown]
  exact ⟨_, bind_eq_error_iff.mpr (.inr ⟨(), require_eq_ok_iff.mpr hfresh,
    require_eq_error_iff.mpr ⟨hany, rfl⟩⟩), rfl, rfl⟩

/-- A request that meets an unavailable dimension is turned away by the gates. -/
theorem gates_of_unavailable (hreach : f.ReachesAvailability now pol d)
    (hi : f.snapshot.provenance i = .unavailable) : ∃ r : Refusal F,
      (f.prepared now d pol).gates now pol d = .error r ∧ r.decision.outcome = .defer ∧
      r.decision.explanation = ascii "some capacity dimension unavailable; deferring" := by
  obtain ⟨record, hprep⟩ := f.exists_prepared_eq now d pol
  have hsnapshot : (f.prepared now d pol).snapshot = f.snapshot := by
    rw [hprep]
    rfl
  have hknown : (f.prepared now d pol).hasSnapshot = true := by
    rw [hprep]
    exact hreach.known
  have hfresh := hreach.fresh
  rw [← hsnapshot] at hfresh hi
  obtain ⟨r, hr, hout, htext⟩ := snapshotGate_of_unavailable d (f.forecast d) hknown hfresh hi
  refine ⟨r, bind_eq_error_iff.mpr (.inr ⟨(), ?_, bind_eq_error_iff.mpr (.inl ?_)⟩), hout, htext⟩
  · rw [hprep]
    exact require_eq_ok_iff.mpr hreach.capability
  · rw [forecast_prepared]
    exact hr

/-! ## The reservation -/

/-- A reservation that fails for want of a dimension would take it over the ceiling. -/
theorem reserveCheck_dimension {m : ReservationManager} {rid : ReservationId}
    {demand : ResourceVector} {s : Status} {snapshot : ResourceSnapshot}
    (h : m.reserveCheck rid demand = .error s)
    (hblame : snapshot.Blames (ascii "reservation failed: " ++ s.message) i) :
    demand.isZero = false ∧ (m.dimCeiling i).toNat < m.reservedSum.quantities i +
      m.usedSum.quantities i + demand.quantities i := by
  have hname := hblame.of_head (head_append (c := 114) (by decide) _)
  have hmessage : s.message = ascii ("insufficient " ++ i.name) := by simpa using hname
  -- The other failures of `reserve` are explained by texts that start with another letter.
  have hother : ∀ {text : String}, s.message = ascii text →
      (ascii text).head? = some 105 := by
    intro text htext
    rw [← htext, hmessage]
    cases i <;> decide
  rcases bind_eq_error_iff.mp h with h | ⟨_, -, h⟩
  · obtain ⟨-, rfl⟩ := require_eq_error_iff.mp h
    exact absurd (hother rfl) (by decide)
  rcases bind_eq_error_iff.mp h with h | ⟨_, hpos, h⟩
  · obtain ⟨-, rfl⟩ := require_eq_error_iff.mp h
    exact absurd (hother rfl) (by decide)
  rcases bind_eq_error_iff.mp h with h | ⟨next, hnext, h⟩
  · obtain ⟨-, rfl⟩ := orFail_eq_error_iff.mp h
    exact absurd (hother rfl) (by decide)
  rcases bind_eq_error_iff.mp h with h | ⟨total, htotal, h⟩
  · obtain ⟨-, rfl⟩ := orFail_eq_error_iff.mp h
    exact absurd (hother rfl) (by decide)
  refine ⟨require_eq_ok_iff.mp hpos, ?_⟩
  split at h
  · rename_i j hfind
    obtain rfl := Except.error.inj h
    obtain rfl : j = i := ascii_insufficient_injective hmessage
    have hover := List.find?_some hfind
    rw [decide_eq_true_eq, gt_iff_lt, UInt64.lt_iff_toNat_lt] at hover
    have hreserved := congrFun
      (ResourceVector.tryAdd_eq_some_iff.mp (orFail_eq_ok_iff.mp hnext)) j
    have hall := congrFun (ResourceVector.tryAdd_eq_some_iff.mp (orFail_eq_ok_iff.mp htotal)) j
    rw [Pi.add_apply] at hreserved hall
    rw [← ResourceVector.quantities_apply, hall, hreserved] at hover
    omega
  · cases h

end AdmissionFabric

end Fabric
