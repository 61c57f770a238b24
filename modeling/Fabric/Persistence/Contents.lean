import Fabric.Persistence.Saved
import Fabric.Persistence.Sections
import Fabric.Persistence.Size

/-!
# What is read from a saved engine

The bytes of a saved engine are the encoding of its `contents`, if the numbers of its entries and
the sizes of its strings and lists fit the 32 bits in which they are written. Then the contents are
read back when they are within the limits of the reader, and nothing that starts with these bytes is
read otherwise (`settles_state`, `holds_buildPayload`).
-/

namespace Fabric

open Support Support.ByteReader ByteReader

variable {F : Type} [DoubleBits F] {α β : Type}

/-- The sizes of the strings and lists of a record fit 32 bits. -/
def RequestRecord.counted (record : RequestRecord F) : Bool :=
  record.descriptor.counted ∧ record.lastDecision.all AdmissionDecision.counted

namespace AdmissionFabric

/-- What a saved engine holds of a request. -/
def savedRequest (e : AdmissionRequestId × RequestRecord F) : SavedRequest F :=
  { id := e.1
    lifecycle := e.2.lifecycle
    descriptor := e.2.descriptor
    lastDecision := e.2.lastDecision.map AdmissionDecision.recorded }

/-- What a saved engine holds. -/
def contents (f : AdmissionFabric F) : SavedState F :=
  { policies := f.policy.policies.entries.map Prod.snd
    profiles := f.predictor.profs.entries.map Prod.snd
    reservations := savedReservations f.reservations
    requests := f.requests.entries.map savedRequest
    rest :=
      { quota := f.quota
        admissionGeneration := f.admissionGeneration
        reservationCounter := f.reservationCounter
        snapshot := if f.hasSnapshot then some f.snapshot else none } }

/-- The sizes of everything that is saved fit the 32 bits in which they are written. -/
structure Counted (f : AdmissionFabric F) : Prop where
  policies : f.policy.policies.size < 2 ^ 32 ∧
    ∀ e ∈ f.policy.policies.entries, e.2.counted = true
  profiles : f.predictor.profs.size < 2 ^ 32 ∧
    ∀ e ∈ f.predictor.profs.entries, e.2.counted = true
  reservations : f.table.size < 2 ^ 32
  requests : f.requests.size < 2 ^ 32 ∧ ∀ e ∈ f.requests.entries, e.2.counted = true
  quota : f.quota.counted = true
  snapshot : f.hasSnapshot = true → f.snapshot.counted = true

/-- Everything that is saved is within the limits of the reader. -/
structure Readable (f : AdmissionFabric F) : Prop where
  policies : f.policy.policies.size ≤ PolicyEngine.kMaxGenerations ∧
    ∀ e ∈ f.policy.policies.entries, e.2.fits = true
  profiles : f.predictor.profs.size ≤ WorkloadPredictor.kMaxProfiles ∧
    ∀ e ∈ f.predictor.profs.entries, e.2.fits = true
  reservations : f.table.size ≤ kMaxEntries
  requests : f.requests.size ≤ kMaxEntries ∧ ∀ e ∈ f.requests.entries, e.2.fits = true
  quota : f.quota.fits = true
  snapshot : f.hasSnapshot = true → f.snapshot.fits = true

/-! ## Sections -/

variable {f : AdmissionFabric F} {limit : ℕ} {message : String} {d : ℕ → Decoder Status α}
  {m : Decoder Status α} {bytes : ByteString} {a : α} {P : Prop}

theorem settles_counted {n : ℕ} (hn : n < 2 ^ 32) (h : Settles (d n) bytes a P) :
    Settles (decodeCounted limit message d) (ByteWriter.count n ++ bytes) a (n ≤ limit ∧ P) := by
  obtain ⟨v, hv, hcount⟩ := decodes_count (E := Status) hn
  refine Settles.after hcount ?_
  rw [hv, ← ite_not]
  exact (h.ite fun _ => not_succeeds_throw).congr (by rw [not_not])

/-- A section of entries that are settled one by one. -/
theorem settles_entries {K V : Type} [LinearOrder K] [Exact m] (map : OrdMap K V)
    {encode : K × V → ByteString} {value : K × V → α} {R : K × V → Prop} (hsize : map.size < 2 ^ 32)
    (h : ∀ e ∈ map.entries, Settles m (encode e) (value e) (R e)) :
    Settles (decodeCounted limit message (times m))
      [ByteWriter.count map.size, map.entries.flatMap encode].flatten (map.entries.map value)
      (map.size ≤ limit ∧ ∀ e ∈ map.entries, R e) := by
  rw [List.flatten_cons, List.flatten_singleton]
  exact settles_counted hsize (Settles.times_map map.entries h)

theorem settles_policies (h : f.policy.policies.size < 2 ^ 32 ∧
    ∀ e ∈ f.policy.policies.entries, e.2.counted = true) :
    Settles decodePolicies f.savePolicies f.contents.policies
      (f.policy.policies.size ≤ PolicyEngine.kMaxGenerations ∧
        ∀ e ∈ f.policy.policies.entries, e.2.fits = true) :=
  settles_entries f.policy.policies h.1 fun e he => settles_policy (h.2 e he)

theorem settles_profiles (h : f.predictor.profs.size < 2 ^ 32 ∧
    ∀ e ∈ f.predictor.profs.entries, e.2.counted = true) :
    Settles decodeProfiles f.saveProfiles f.contents.profiles
      (f.predictor.profs.size ≤ WorkloadPredictor.kMaxProfiles ∧
        ∀ e ∈ f.predictor.profs.entries, e.2.fits = true) :=
  settles_entries f.predictor.profs h.1 fun e he => settles_predictionProfile (h.2 e he)

/-- The reservation section holds no strings. -/
theorem settles_table (h : f.table.size < 2 ^ 32) :
    Settles decodeTable (saveReservations f.reservations) (savedReservations f.reservations)
      (f.table.size ≤ kMaxEntries) := by
  rw [saveReservations, List.flatten_cons]
  exact (settles_counted h (decodes_reservations f.reservations).settles).congr (and_iff_left trivial)

theorem settles_savedRequest {e : AdmissionRequestId × RequestRecord F} (h : e.2.counted = true) :
    Settles decodeRequest (saveRequest e) (savedRequest e) (e.2.fits = true) := by
  obtain ⟨hdescriptor, hdecision⟩ := of_decide_eq_true h
  have hlast : Settles (opt decodeDecision) (ByteWriter.opt encodeDecision e.2.lastDecision)
      (e.2.lastDecision.map AdmissionDecision.recorded)
      (∀ dec, e.2.lastDecision = some dec → dec.fits = true) := by
    refine settles_opt_map fun dec hdec => settles_decision ?_
    rw [hdec] at hdecision
    exact hdecision
  have hfits : (e.2.descriptor.fits = true ∧
      (∀ dec, e.2.lastDecision = some dec → dec.fits = true) ∧ True) ↔ e.2.fits = true := by
    rw [RequestRecord.fits, decide_eq_true_iff, and_true]
    cases e.2.lastDecision <;> simp
  rw [← propext hfits]
  unfold decodeRequest saveRequest
  apply Settles.step (decodes_ident _)
  apply Settles.step (Decodes.u8 _)
  rw [RequestLifecycle.ofByte?_toByte, List.flatten_cons]
  apply (settles_descriptor hdescriptor).bind
  rw [List.flatten_cons]
  apply hlast.bind
  exact (Decodes.pure _).settles

theorem settles_requests (h : f.requests.size < 2 ^ 32 ∧
    ∀ e ∈ f.requests.entries, e.2.counted = true) :
    Settles decodeRequests f.saveRequests f.contents.requests
      (f.requests.size ≤ kMaxEntries ∧ ∀ e ∈ f.requests.entries, e.2.fits = true) :=
  settles_entries f.requests h.1 fun e he => settles_savedRequest (h.2 e he)

theorem settles_rest (hquota : f.quota.counted = true)
    (hsnapshot : f.hasSnapshot = true → f.snapshot.counted = true) :
    Settles decodeRest f.saveRest f.contents.rest
      (f.quota.fits = true ∧ (f.hasSnapshot = true → f.snapshot.fits = true)) := by
  unfold decodeRest saveRest contents
  rw [List.flatten_cons]
  apply (settles_quota hquota).bind
  apply Settles.step (decodes_ident _)
  apply Settles.step (decodes_u64 _)
  apply Settles.step (decodes_flag _)
  rw [List.flatten_singleton]
  cases hhas : f.hasSnapshot with
  | false => exact (Decodes.pure _).settles.congr (iff_of_true trivial nofun)
  | true =>
    refine Settles.congr ?_ ⟨fun h _ => h, fun h => h rfl⟩
    exact (settles_snapshot (hsnapshot hhas)).last (Decodes.pure _)

/-! ## The whole engine -/

theorem settles_both {β : Type} {d₁ : Decoder Status α} {d₂ : Decoder Status β} [Exact d₂]
    {chunk : ByteString} {chunks : List ByteString} {b : β} {Q : Prop} (h₁ : Settles d₁ chunk a P)
    (h₂ : Settles d₂ chunks.flatten b Q) :
    Settles (both d₁ d₂) (chunk :: chunks).flatten (a, b) (P ∧ Q) := by
  rw [List.flatten_cons]
  exact h₁.bind (h₂.last (Decodes.pure _))

theorem settles_state (h : f.Counted) :
    Settles decodeState f.saveState f.contents f.Readable := by
  have hrest : Settles (both decodeRest finish) [f.saveRest].flatten (f.contents.rest, ()) _ :=
    settles_both (settles_rest h.quota h.snapshot) (Decodes.settles fun _ => rfl)
  have hsections := settles_both (settles_policies h.policies) <|
    settles_both (settles_profiles h.profiles) <| settles_both (settles_table h.reservations) <|
    settles_both (settles_requests h.requests) hrest
  refine (hsections.map _).congr ⟨?_, ?_⟩
  · rintro ⟨hpolicies, hprofiles, htable, hrequests, ⟨hquota, hsnapshot⟩, -⟩
    exact ⟨hpolicies, hprofiles, htable, hrequests, hquota, hsnapshot⟩
  · rintro ⟨hpolicies, hprofiles, htable, hrequests, hquota, hsnapshot⟩
    exact ⟨hpolicies, hprofiles, htable, hrequests, ⟨hquota, hsnapshot⟩, trivial⟩

end AdmissionFabric

/-! ## Short enough to be counted -/

section Counted

variable {n : ℕ}

omit [DoubleBits F] in
theorem AdmissionDescriptor.counted_of_savedSize {d : AdmissionDescriptor F}
    (h : d.savedSize < 2 ^ 32) : d.counted = true := by
  unfold AdmissionDescriptor.savedSize at h
  exact decide_eq_true ⟨ByteString.counted_of_savedSize (by omega),
    ByteString.counted_of_savedSize (by omega), ByteString.counted_of_savedSize (by omega),
    ByteString.counted_of_savedSize (by omega), stringsCounted_of_size (by omega)⟩

theorem AdmissionPolicy.counted_of_savedSize {p : AdmissionPolicy F} (h : p.savedSize < 2 ^ 32) :
    p.counted = true := by
  unfold AdmissionPolicy.savedSize at h
  have hlen : p.overrides.length ≤ (p.overrides.map fun o => o.savedSize).sum := by
    rw [← List.length_map (f := fun o : PolicyOverride F => o.savedSize)]
    refine List.length_le_sum_of_one_le _ fun n hn => ?_
    obtain ⟨o, -, rfl⟩ := List.mem_map.mp hn
    unfold PolicyOverride.savedSize ByteString.savedSize
    omega
  refine decide_eq_true ⟨ByteString.counted_of_savedSize (by omega), by omega,
    List.all_eq_true.mpr fun o ho => ?_⟩
  have hle := List.le_sum_of_mem (List.mem_map_of_mem (f := fun o : PolicyOverride F => o.savedSize) ho)
  have hkey : o.key.savedSize ≤ o.savedSize := by
    unfold PolicyOverride.savedSize
    omega
  exact ByteString.counted_of_savedSize (by omega)

theorem PredictionProfile.counted_of_savedSize {p : PredictionProfile F}
    (h : p.savedSize < 2 ^ 32) : p.counted = true := by
  unfold PredictionProfile.savedSize at h
  exact decide_eq_true ⟨ByteString.counted_of_savedSize (by omega),
    ByteString.counted_of_savedSize (by omega), ByteString.counted_of_savedSize (by omega)⟩

theorem RequestRecord.counted_of_savedSize {record : RequestRecord F}
    (h : record.savedSize < 2 ^ 32) : record.counted = true := by
  unfold RequestRecord.savedSize at h
  refine decide_eq_true ⟨AdmissionDescriptor.counted_of_savedSize (by omega), ?_⟩
  cases hdec : record.lastDecision with
  | none => rfl
  | some dec =>
    rw [hdec] at h
    simp only [Option.elim_some, AdmissionDecision.savedSize] at h
    exact ByteString.counted_of_savedSize (by omega)

end Counted

namespace AdmissionFabric

variable {f : AdmissionFabric F}

/-- A saved state that is short enough for its trailer is counted. -/
theorem counted_of_savedSize (h : f.savedSize < 2 ^ 32) : f.Counted := by
  unfold savedSize at h
  have hpolicies := f.policy.policies.size_le_sum AdmissionPolicy.savedSize fun p => by
    unfold AdmissionPolicy.savedSize
    omega
  have hprofiles := f.predictor.profs.size_le_sum PredictionProfile.savedSize fun p => by
    unfold PredictionProfile.savedSize
    omega
  have htable := f.size_table_le
  have hrequests := f.size_requests_le
  constructor
  · refine ⟨by omega, fun e he => ?_⟩
    have hle := f.policy.policies.le_sum AdmissionPolicy.savedSize he
    exact AdmissionPolicy.counted_of_savedSize (by omega)
  · refine ⟨by omega, fun e he => ?_⟩
    have hle := f.predictor.profs.le_sum PredictionProfile.savedSize he
    exact PredictionProfile.counted_of_savedSize (by omega)
  · omega
  · refine ⟨by omega, fun e he => ?_⟩
    have hle := f.requests.le_sum RequestRecord.savedSize he
    exact RequestRecord.counted_of_savedSize (by omega)
  · exact ByteString.counted_of_savedSize (by unfold QuotaSnapshot.savedSize at h; omega)
  · intro hhas
    rw [if_pos hhas] at h
    exact ResourceSnapshot.counted_of_savedSize (by omega)

/-- The payload of an engine holds its contents, if they can be read and are not too long. -/
theorem holds_buildPayload (h : f.Counted) (hread : f.Readable) (hbytes : f.savedSize < 2 ^ 32)
    (cfg : PersistenceConfig) : cfg.Holds (f.buildPayload cfg) f.contents := by
  refine ⟨f.saveState, ?_, (settles_state h).decodes hread⟩
  rw [buildPayload, parseFrame_frame, length_saveState, if_pos hbytes]

end AdmissionFabric

end Fabric
