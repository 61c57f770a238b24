import Fabric.Engine.Evaluate
import Fabric.Support.Machine

/-!
# Runs of the engine

The operations of `AdmissionFabric` as one machine. A history is the list of calls issued to
a fresh engine, each with its clock reading. Restoring a saved state is not an operation
here: it is only ever applied to a fresh engine.
-/

namespace Fabric

open Support

/-- The operations that change an engine. -/
inductive EngineOp (F : Type) [Double F]
  | installPolicy (p : AdmissionPolicy F)
  | registerProfile (prof : PredictionProfile F)
  | setSnapshot (s : ResourceSnapshot)
  | setQuota (q : QuotaSnapshot)
  | evaluate (d : AdmissionDescriptor F)
  | commit (id : AdmissionRequestId) (gen : AdmissionGeneration)
  | release (id : ReservationId)
  | cancel (id : AdmissionRequestId)
  | observe (o : Observation)
  | setTenantWeight (t : TenantId) (weight : F)
  | noteAdmission (t : TenantId)
  | noteDeferral (t : TenantId)
  | noteRejection (t : TenantId)
  | noteCompletion (t : TenantId)
  | noteAdmissionStarted (t : TenantId)

/-- A call: the operation and the clock reading it gets. -/
structure EngineCall (F : Type) [Double F] where
  now : TimePoint
  op : EngineOp F

inductive EngineReply (F : Type) [Double F]
  | decision (dec : AdmissionDecision F)
  | status (s : Status)
  | accepted (b : Bool)
  | done

namespace EngineReply

variable {F : Type} [Double F]

def decision? : EngineReply F → Option (AdmissionDecision F)
  | decision dec => some dec
  | _ => none

def status? : EngineReply F → Option Status
  | status s => some s
  | _ => none

theorem decision?_eq_some_iff {r : EngineReply F} {dec : AdmissionDecision F} :
    r.decision? = some dec ↔ r = .decision dec := by
  cases r <;> simp [decision?]

end EngineReply

variable {F : Type} [Double F]

namespace AdmissionFabric

/-- A call on an engine. -/
def call (f : AdmissionFabric F) (c : EngineCall F) : EngineReply F × AdmissionFabric F :=
  match c.op with
  | .installPolicy p =>
    let (s, f) := f.installPolicy p
    (.status s, f)
  | .registerProfile prof =>
    let (b, f) := f.registerProfile prof
    (.accepted b, f)
  | .setSnapshot s => (.done, f.setSnapshot s)
  | .setQuota q => (.done, f.setQuota q)
  | .evaluate d =>
    let (dec, f) := f.evaluate c.now d
    (.decision dec, f)
  | .commit id gen =>
    let (s, f) := f.commitAdmission c.now id gen
    (.status s, f)
  | .release id =>
    let (s, f) := f.releaseReservation c.now id
    (.status s, f)
  | .cancel id =>
    let (s, f) := f.cancelRequest c.now id
    (.status s, f)
  | .observe o => (.done, f.observe o)
  | .setTenantWeight t weight =>
    (.done, { f with fairness := f.fairness.setTenantWeight t weight })
  | .noteAdmission t => (.done, { f with fairness := f.fairness.noteAdmission c.now t })
  | .noteDeferral t => (.done, { f with fairness := f.fairness.noteDeferral t })
  | .noteRejection t => (.done, { f with fairness := f.fairness.noteRejection t })
  | .noteCompletion t => (.done, { f with fairness := f.fairness.noteCompletion t })
  | .noteAdmissionStarted t => (.done, { f with fairness := f.fairness.noteAdmissionStarted t })

end AdmissionFabric

/-- The engine as a machine that starts fresh. -/
def engine (F : Type) [Double F] : Machine (AdmissionFabric F) (EngineCall F) (EngineReply F) :=
  ⟨{}, AdmissionFabric.call⟩

/-! ## Decisions and grants -/

/-- The call is an evaluation of request `x` that answers `dec`. -/
def AdmissionFabric.Decides (f : AdmissionFabric F) (c : EngineCall F) (x : AdmissionRequestId)
    (dec : AdmissionDecision F) : Prop :=
  ∃ d, c.op = .evaluate d ∧ d.admissionRequestId = x ∧ (f.call c).1 = .decision dec

/-- The call is an evaluation of request `x` that admits it. -/
def AdmissionFabric.Admits (f : AdmissionFabric F) (c : EngineCall F) (x : AdmissionRequestId) :
    Prop :=
  ∃ dec, f.Decides c x dec ∧ dec.outcome = .admitted

theorem AdmissionFabric.admits_of_reply {f : AdmissionFabric F} {c : EngineCall F}
    {d : AdmissionDescriptor F} {x : AdmissionRequestId} (hop : c.op = .evaluate d)
    (hx : d.admissionRequestId = x)
    (h : (f.call c).1.decision?.map (·.outcome) = some .admitted) : f.Admits c x := by
  obtain ⟨dec, hdec, hout⟩ := Option.map_eq_some_iff.mp h
  exact ⟨dec, ⟨d, hop, hx, EngineReply.decision?_eq_some_iff.mp hdec⟩, hout⟩

/-- The call is an evaluation of request `x` that answers with reservation `rid`. -/
def AdmissionFabric.Grants (f : AdmissionFabric F) (c : EngineCall F) (x : AdmissionRequestId)
    (rid : ReservationId) : Prop :=
  ∃ dec, f.Decides c x dec ∧ dec.reservationId = some rid

/-- Reservation `rid` was created for request `x`. -/
def CreatedFor (h : List (EngineCall F)) (x : AdmissionRequestId) (rid : ReservationId) : Prop :=
  (engine F).Happened (fun f c => f.Grants c x rid) h

/-! ## A small workload

Default policies, one governed dimension, and requests that all ask for the same: the
fallback prediction for a descriptor without profile is 412719532 bytes. -/

namespace Sample

def policy : AdmissionPolicy Binary64 := {}

def snapshot (bytes : UInt64) : ResourceSnapshot :=
  { total := ⟨fun id => if id = .acceleratorMemory then bytes else 0⟩
    provenance := fun _ => .measured }

def descriptor (x : UInt64) : AdmissionDescriptor Binary64 :=
  { admissionRequestId := ⟨x⟩
    requestId := ⟨1⟩
    attemptId := ⟨1⟩
    tenantId := ⟨1⟩
    modelId := ⟨1⟩
    modelRevision := ⟨1⟩
    policyGeneration := ⟨1⟩ }

/-- A policy and capacity for a few requests. -/
def opening : List (EngineCall Binary64) :=
  [⟨0, .installPolicy policy⟩, ⟨0, .setSnapshot (snapshot 2000000000)⟩]

end Sample

end Fabric
