import Fabric.Engine.Steps
import Fabric.Persistence.State
import Mathlib.Algebra.Order.Group.Nat

/-!
# How long a saved engine is

The number of bytes of every encoding, counted from the value: fixed widths plus the lengths
of its strings and lists. `length_saveState` adds them up for a whole engine.
-/

namespace Fabric

open Support

variable {F : Type} [DoubleBits F] {α Tag : Type}

/-! ## Parts -/

def ByteString.savedSize (s : ByteString) : ℕ := 4 + s.length

def stringsSize (v : List ByteString) : ℕ := 4 + (v.map ByteString.savedSize).sum

/-- The flag of an optional value, and `n` more bytes if there is one. -/
def optSize (o : Option α) (n : ℕ) : ℕ := if o.isSome then 1 + n else 1

section Lengths

open ByteWriter

@[simp] theorem length_u8 (v : UInt8) : (u8 v).length = 1 := rfl

@[simp] theorem length_u32 (v : UInt32) : (u32 v).length = 4 := length_leBytes 4 _

@[simp] theorem length_u64 (v : UInt64) : (u64 v).length = 8 := length_leBytes 8 _

@[simp] theorem length_i64 (v : Int64) : (i64 v).length = 8 := length_u64 _

@[simp] theorem length_f64 (v : F) : (f64 v).length = 8 := length_u64 _

@[simp] theorem length_flag (b : Bool) : (flag b).length = 1 := rfl

@[simp] theorem length_count (n : ℕ) : (count n).length = 4 := length_u32 _

@[simp] theorem length_ident (i : Id Tag) : (ident i).length = 8 := length_u64 _

@[simp] theorem length_enum [ByteEnum α] (a : α) : (enum a).length = 1 := rfl

@[simp] theorem length_string (s : ByteString) : (string s).length = s.savedSize := by
  rw [string, List.length_append, length_count, ByteString.savedSize]

@[simp] theorem length_stringvec (v : List ByteString) : (stringvec v).length = stringsSize v := by
  simp only [stringvec, List.length_append, length_count, List.length_flatMap, length_string,
    stringsSize]

theorem length_opt {encode : α → ByteString} {n : ℕ} (h : ∀ a, (encode a).length = n)
    (o : Option α) : (opt encode o).length = optSize o n := by
  cases o with
  | none => rfl
  | some a =>
    rw [opt, List.length_append, length_flag, h a]
    rfl

@[simp] theorem length_resourceVector (v : ResourceVector) : (resourceVector v).length = 96 := by
  simp [resourceVector, ResourceId.all]

@[simp] theorem length_capabilities (c : Capabilities) :
    (capabilities c).length = stringsSize (c.tokens.entries.map Prod.fst) := length_stringvec _

end Lengths

theorem ByteString.counted_of_savedSize {s : ByteString} (h : s.savedSize < 2 ^ 32) :
    s.counted = true := by
  unfold ByteString.savedSize at h
  exact decide_eq_true (by omega)

theorem stringsCounted_of_size {v : List ByteString} (h : stringsSize v < 2 ^ 32) :
    stringsCounted v = true := by
  unfold stringsSize at h
  have hlen : v.length ≤ (v.map ByteString.savedSize).sum := by
    rw [← List.length_map (f := ByteString.savedSize)]
    refine List.length_le_sum_of_one_le _ fun n hn => ?_
    obtain ⟨s, -, rfl⟩ := List.mem_map.mp hn
    unfold ByteString.savedSize
    omega
  refine decide_eq_true ⟨by omega, List.all_eq_true.mpr fun s hs => ?_⟩
  have hle := List.le_sum_of_mem (List.mem_map_of_mem (f := ByteString.savedSize) hs)
  exact ByteString.counted_of_savedSize (by omega)

/-! ## Structures -/

def AdmissionDescriptor.savedSize (d : AdmissionDescriptor F) : ℕ :=
  95 + optSize d.adapterId 8 + optSize d.deadline 8 + optSize d.requestedSlo 8 +
    optSize d.expectedDemand 96 +
    d.backend.savedSize + d.dtype.savedSize + d.quantization.savedSize +
    d.workloadClass.savedSize + stringsSize d.policyTags

@[simp] theorem length_encodeDescriptor (d : AdmissionDescriptor F) :
    (encodeDescriptor d).length = d.savedSize := by
  simp only [encodeDescriptor, AdmissionDescriptor.savedSize, List.flatten_cons, List.flatten_nil,
    List.length_append, List.length_nil, length_enum, length_ident, length_opt length_ident,
    length_u64, length_flag, length_u8, length_opt length_i64, length_opt length_f64,
    length_opt length_resourceVector, length_i64, length_string, length_stringvec]
  omega

def ResourceSnapshot.savedSize (s : ResourceSnapshot) : ℕ :=
  445 + s.nodeName.savedSize + s.deviceName.savedSize +
    stringsSize (s.capabilities.tokens.entries.map Prod.fst) +
    stringsSize s.modelResidencyHints + stringsSize s.transferPathHints

@[simp] theorem length_encodeSnapshot (s : ResourceSnapshot) :
    (encodeSnapshot s).length = s.savedSize := by
  have hperResource : ∀ encode : ResourceId → ByteString, (∀ i, (encode i).length = 1) →
      (ResourceId.all.flatMap encode).length = 12 := by
    intro encode h
    simp [ResourceId.all, h]
  simp only [encodeSnapshot, ResourceSnapshot.savedSize, List.flatten_cons, List.flatten_nil,
    List.length_append, List.length_nil, length_ident, length_i64, length_string, length_u32,
    length_resourceVector, length_capabilities, length_flag, length_stringvec,
    hperResource _ fun _ => length_enum _]
  omega

theorem ResourceSnapshot.counted_of_savedSize {s : ResourceSnapshot} (h : s.savedSize < 2 ^ 32) :
    s.counted = true := by
  unfold ResourceSnapshot.savedSize at h
  exact decide_eq_true ⟨ByteString.counted_of_savedSize (by omega),
    ByteString.counted_of_savedSize (by omega), stringsCounted_of_size (by omega),
    stringsCounted_of_size (by omega), stringsCounted_of_size (by omega)⟩

def ResourceReservation.savedSize (r : ResourceReservation) : ℕ :=
  137 + optSize r.admissionRequestId 8 + optSize r.admissionGeneration 8

@[simp] theorem length_encodeReservation (r : ResourceReservation) :
    (encodeReservation r).length = r.savedSize := by
  simp only [encodeReservation, ResourceReservation.savedSize, List.flatten_cons,
    List.flatten_nil, List.length_append, List.length_nil, length_ident, length_resourceVector,
    length_i64, length_opt length_ident, length_u8, length_u64]
  omega

def PolicyOverride.savedSize (o : PolicyOverride F) : ℕ :=
  o.key.savedSize + optSize o.safetyHeadroomRatio 8 +
    optSize o.overcommitMode 1 + optSize o.overcommitAllowance 96 +
    optSize o.minPredictorConfidence 8 + optSize o.admitSloRisk 1 +
    optSize o.requireReservation 1 + optSize o.smallRequestBoost 8

@[simp] theorem length_encodeOverride (o : PolicyOverride F) :
    (encodeOverride o).length = o.savedSize := by
  simp only [encodeOverride, PolicyOverride.savedSize, List.flatten_cons, List.flatten_nil,
    List.length_append, List.length_nil, length_string, length_opt length_f64,
    length_opt length_enum, length_opt length_resourceVector, length_opt length_flag]
  omega

def AdmissionPolicy.savedSize (p : AdmissionPolicy F) : ℕ :=
  297 + p.name.savedSize + (p.overrides.map fun o => o.savedSize).sum

@[simp] theorem length_encodePolicy (p : AdmissionPolicy F) :
    (encodePolicy p).length = p.savedSize := by
  simp only [encodePolicy, AdmissionPolicy.savedSize, List.flatten_cons, List.flatten_nil,
    List.length_append, List.length_nil, List.length_flatMap, length_ident, length_string,
    length_f64, length_resourceVector, length_enum, length_i64, length_flag, length_u32,
    length_count, length_encodeOverride]
  omega

def QuotaSnapshot.savedSize (q : QuotaSnapshot) : ℕ := 330 + q.sourceAuthority.savedSize

@[simp] theorem length_encodeQuota (q : QuotaSnapshot) : (encodeQuota q).length = q.savedSize := by
  simp only [encodeQuota, QuotaSnapshot.savedSize, List.flatten_cons, List.flatten_nil,
    List.length_append, List.length_nil, length_flag, length_u64, length_string, length_i64,
    length_resourceVector, length_u32]
  omega

def AdmissionDecision.savedSize (d : AdmissionDecision F) : ℕ :=
  197 + optSize d.reservationId 8 + d.explanation.savedSize

@[simp] theorem length_encodeDecision (d : AdmissionDecision F) :
    (encodeDecision d).length = d.savedSize := by
  simp only [encodeDecision, AdmissionDecision.savedSize, List.flatten_cons, List.flatten_nil,
    List.length_append, List.length_nil, length_ident, length_enum, length_u32, length_f64,
    length_i64, length_opt length_ident, length_resourceVector, length_string]
  omega

def PredictionProfile.savedSize (p : PredictionProfile F) : ℕ :=
  152 + p.backend.savedSize + p.dtype.savedSize + p.quantization.savedSize

@[simp] theorem length_encodePredictionProfile (p : PredictionProfile F) :
    (encodePredictionProfile p).length = p.savedSize := by
  simp only [encodePredictionProfile, PredictionProfile.savedSize, List.flatten_cons,
    List.flatten_nil, List.length_append, List.length_nil, length_ident, length_string, length_u64,
    length_f64, length_u32]
  omega

def RequestRecord.savedSize (record : RequestRecord F) : ℕ :=
  9 + record.descriptor.savedSize +
    (record.lastDecision.elim 1 fun dec => 1 + dec.savedSize)

/-! ## The engine -/

namespace AdmissionFabric

/-- The number of bytes of a saved engine. -/
def savedSize (f : AdmissionFabric F) : ℕ :=
  322 + f.policy.policies.sum (fun _ p => p.savedSize) +
    f.predictor.profs.sum (fun _ p => p.savedSize) + f.table.sum (fun _ r => r.savedSize) +
    f.requests.sum (fun _ record => record.savedSize) + f.quota.savedSize +
    if f.hasSnapshot then f.snapshot.savedSize else 0

theorem length_entries {K V : Type} [LinearOrder K] (m : OrdMap K V) {encode : K × V → ByteString}
    {size : V → ℕ} (h : ∀ e, (encode e).length = size e.2) :
    (m.entries.flatMap encode).length = m.sum fun _ v => size v := by
  rw [List.length_flatMap, OrdMap.sum]
  simp only [h]

theorem length_saveRequest (e : AdmissionRequestId × RequestRecord F) :
    (saveRequest e).length = e.2.savedSize := by
  simp only [saveRequest, RequestRecord.savedSize, List.flatten_cons, List.flatten_nil,
    List.length_append, List.length_nil, length_ident, length_u8, length_encodeDescriptor]
  cases e.2.lastDecision with
  | none =>
    show 8 + (1 + (e.2.descriptor.savedSize + (1 + 0))) = 9 + e.2.descriptor.savedSize + 1
    omega
  | some dec =>
    rw [ByteWriter.opt, List.length_append, length_flag, length_encodeDecision]
    show _ = 9 + e.2.descriptor.savedSize + (1 + dec.savedSize)
    omega

theorem length_saveState (f : AdmissionFabric F) : f.saveState.length = f.savedSize := by
  have hpolicies := length_entries f.policy.policies fun e => length_encodePolicy e.2
  have hprofiles := length_entries f.predictor.profs fun e => length_encodePredictionProfile e.2
  have htable := length_entries f.table fun e => length_encodeReservation e.2
  have hrequests := length_entries f.requests length_saveRequest
  simp only [saveState, savePolicies, saveProfiles, saveReservations, saveRequests, saveRest,
    savedSize, List.flatten_cons, List.flatten_nil, List.length_append, List.length_nil,
    length_count, length_resourceVector, length_enum, length_encodeQuota, length_ident, length_u64,
    length_flag, hpolicies, hprofiles, htable, hrequests]
  split_ifs
  · rw [length_encodeSnapshot]
    omega
  · rw [List.length_nil]
    omega

theorem size_table_le (f : AdmissionFabric F) :
    f.table.size ≤ f.table.sum fun _ r => r.savedSize :=
  f.table.size_le_sum ResourceReservation.savedSize fun r => by
    unfold ResourceReservation.savedSize
    omega

theorem size_requests_le (f : AdmissionFabric F) :
    f.requests.size ≤ f.requests.sum fun _ record => record.savedSize :=
  f.requests.size_le_sum RequestRecord.savedSize fun record => by
    unfold RequestRecord.savedSize
    omega

/-- A saved engine has a byte at least for every reservation and every request. -/
theorem size_le_savedSize (f : AdmissionFabric F) :
    f.table.size + f.requests.size ≤ f.savedSize := by
  have htable := f.size_table_le
  have hrequests := f.size_requests_le
  unfold savedSize
  omega

end AdmissionFabric

end Fabric
