import Fabric.Persistence.Contents
import Fabric.Persistence.Recovery

/-!
# Truncated and extended payloads

A payload that is cut off or goes on is refused, whatever its last 16 bytes are, because the state
that it has to hold delimits itself (`rejects_altered`). This rests on the sizes that are written in
front of strings and lists. They are cut to 32 bits, and a string of `2 ^ 32` bytes is written as if
it were empty: a payload with such a string can begin with the payload of another state
(`rejects_altered_fails`).
-/

namespace Fabric

open Support Support.ByteReader ByteReader

variable {F : Type} [DoubleBits F]

namespace AdmissionFabric

variable {f : AdmissionFabric F} {now : TimePoint} {cfg : PersistenceConfig} {G : ByteString}

/-- Every other byte string that begins with the payload of `f`, or with which it begins, is refused
by a fresh engine. -/
def RejectsAltered (f : AdmissionFabric F) (cfg : PersistenceConfig) (now : TimePoint) : Prop :=
  ∀ G, G ≠ f.buildPayload cfg → G <+: f.buildPayload cfg ∨ f.buildPayload cfg <+: G →
    (({} : AdmissionFabric F).applyPayload now G cfg).1.isOk = false

/-- What holds a saved state and agrees with the payload of `f` as far as both go is that payload. -/
theorem eq_buildPayload (hf : f.Counted) {saved : SavedState F} (hholds : cfg.Holds G saved)
    {y z : ByteString} (heq : G ++ y = f.buildPayload cfg ++ z) : G = f.buildPayload cfg := by
  obtain ⟨body, hparse, hread⟩ := hholds
  obtain ⟨trailer, hlen, rfl⟩ := exists_trailer hparse
  obtain ⟨trailer', hlen', hframe⟩ := exists_frame cfg.magic cfg.version f.saveState
  rw [buildPayload, hframe, List.append_assoc, List.append_assoc] at heq
  obtain rfl := (settles_state hf).eq_of_decodes hread heq
  obtain ⟨rfl, -⟩ := List.append_inj (List.append_cancel_left heq) (hlen.trans hlen'.symm)
  exact hframe.symm

theorem rejects_altered (h : List (EngineCall F)) (hcounted : ((engine F).after h).Counted)
    (cfg : PersistenceConfig) (now : TimePoint) :
    ((engine F).after h).RejectsAltered cfg now := by
  intro G hne hG
  by_contra hok
  obtain ⟨saved, hholds, -⟩ := accepts_iff.mp ⟨by simpa using hok, rfl⟩
  refine hne ?_
  rcases hG with ⟨z, hz⟩ | ⟨z, hz⟩
  · exact eq_buildPayload hcounted hholds (hz.trans (List.append_nil _).symm)
  · exact eq_buildPayload hcounted hholds ((List.append_nil G).trans hz.symm)

/-- An engine with an admitted request. -/
theorem rejects_altered_admitted :
    ((engine Binary64).after Sample.admitted).RejectsAltered {} 0 := by
  apply rejects_altered
  constructor
  · exact ⟨by decide +kernel, by decide +kernel⟩
  · exact ⟨by decide +kernel, by decide +kernel⟩
  · decide +kernel
  · exact ⟨by decide +kernel, by decide +kernel⟩
  · decide +kernel
  · decide +kernel

end AdmissionFabric

/-! ## A string that hides a payload -/

namespace Sample

/-- The quota of an authority with this name. -/
def named (authority : ByteString) : List (EngineCall Binary64) :=
  [⟨0, .setQuota { sourceAuthority := authority }⟩]

/-- What is saved before the name of the authority. -/
def beforeName : ByteString :=
  let f : AdmissionFabric Binary64 := {}
  [f.savePolicies, f.saveProfiles, AdmissionFabric.saveReservations f.reservations, f.saveRequests,
    ByteWriter.flag false, ByteWriter.u64 0].flatten

/-- What is saved after it. -/
def afterName : ByteString :=
  let q : QuotaSnapshot := {}
  [ByteWriter.i64 q.timestamp, ByteWriter.flag q.stale, ByteWriter.resourceVector q.limits,
    ByteWriter.resourceVector q.used, ByteWriter.resourceVector q.reserved,
    ByteWriter.u64 q.tokenBudget, ByteWriter.u32 q.maxConcurrentRequests,
    ByteWriter.u32 q.maxSequences, ByteWriter.i64 q.computeTimeAllowance].flatten ++
  let f : AdmissionFabric Binary64 := {}
  [ByteWriter.ident f.admissionGeneration, ByteWriter.u64 f.reservationCounter,
    ByteWriter.flag false].flatten

theorem saveState_named (authority : ByteString) :
    ((engine Binary64).after (named authority)).saveState =
      beforeName ++ (ByteWriter.string authority ++ afterName) := by
  have hstate : (engine Binary64).after (named authority) =
      { ({} : AdmissionFabric Binary64) with quota := { sourceAuthority := authority } } := rfl
  rw [hstate]
  simp only [AdmissionFabric.saveState, AdmissionFabric.saveRest, encodeQuota, beforeName,
    afterName, List.flatten_cons, List.flatten_nil, List.append_assoc, List.append_nil]
  rfl

/-- The payload of an engine whose authority has no name. -/
def unnamed : ByteString := ((engine Binary64).after (named [])).buildPayload {}

theorem accepts_unnamed :
    (({} : AdmissionFabric Binary64).applyPayload 0 unnamed {}).1.isOk = true := by
  have hfit : ((engine Binary64).after (named [])).fits = true := by decide +kernel
  have hrec : ((engine Binary64).after (named [])).Recoverable :=
    ⟨fun _ _ hr => (by cases hr), by decide +kernel, by decide +kernel, by decide +kernel⟩
  obtain ⟨g, hloads, -⟩ := AdmissionFabric.loads_state (AdmissionFabric.stored_after _)
    (AdmissionFabric.linked_after _) hfit hrec 0
  rw [unnamed, AdmissionFabric.applyPayload_of_loads {} 0 hrec.bytes hloads]
  rfl

/-- What follows the empty name in that payload, filled up to a length that is written as zero. -/
def decoy : ByteString :=
  let rest := unnamed.drop (beforeName ++ ByteWriter.string []).length
  rest ++ List.replicate (2 ^ 32 - rest.length) 0

theorem unnamed_eq : ∃ rest padding, decoy = rest ++ padding ∧ decoy.length = 2 ^ 32 ∧
    unnamed = beforeName ++ (ByteWriter.string [] ++ rest) := by
  obtain ⟨trailer, hlen, hframe⟩ := exists_frame ({} : PersistenceConfig).magic
    ({} : PersistenceConfig).version ((engine Binary64).after (named [])).saveState
  have hunnamed : unnamed = beforeName ++ ByteWriter.string [] ++ (afterName ++ trailer) := by
    rw [unnamed, AdmissionFabric.buildPayload, hframe, saveState_named]
    simp only [List.append_assoc]
  have hrest : unnamed.drop (beforeName ++ ByteWriter.string []).length = afterName ++ trailer := by
    rw [hunnamed, List.drop_left]
  have hshort : (afterName ++ trailer).length ≤ 2 ^ 32 := by
    have hafter : afterName.length ≤ 1000 := by decide +kernel
    rw [List.length_append, hlen]
    omega
  refine ⟨afterName ++ trailer, _, by rw [decoy, hrest], ?_, by rw [hunnamed, List.append_assoc]⟩
  rw [decoy, hrest, List.length_append, List.length_replicate]
  omega

end Sample

namespace AdmissionFabric

/-- The payload of an engine whose authority has a name of `2 ^ 32` bytes begins with the payload of
an engine whose authority has none. -/
theorem rejects_altered_fails :
    ¬ ((engine Binary64).after (Sample.named Sample.decoy)).RejectsAltered {} 0 := by
  intro h
  obtain ⟨rest, padding, hdecoy, hlen, hunnamed⟩ := Sample.unnamed_eq
  obtain ⟨trailer, htrailer, hframe⟩ := exists_frame ({} : PersistenceConfig).magic
    ({} : PersistenceConfig).version ((engine Binary64).after (Sample.named Sample.decoy)).saveState
  have hcount : ByteWriter.count (2 ^ 32) = ByteWriter.count 0 := by decide
  have hpayload : ((engine Binary64).after (Sample.named Sample.decoy)).buildPayload {} =
      Sample.unnamed ++ (padding ++ (Sample.afterName ++ trailer)) := by
    rw [buildPayload, hframe, Sample.saveState_named, ByteWriter.string, hlen, hcount, hunnamed,
      hdecoy, ByteWriter.string]
    simp
  have hrefused := h Sample.unnamed ?_ (.inl ⟨_, hpayload.symm⟩)
  · rw [Sample.accepts_unnamed] at hrefused
    cases hrefused
  · intro heq
    rw [hpayload] at heq
    have hnil := List.append_right_eq_self.mp heq.symm
    rw [List.append_eq_nil_iff, List.append_eq_nil_iff] at hnil
    rw [hnil.2.2] at htrailer
    cases htrailer

end AdmissionFabric

end Fabric
