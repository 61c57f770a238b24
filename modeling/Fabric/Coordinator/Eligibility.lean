import Fabric.Coordinator.Placement
import Fabric.Engine.Refusals

/-!
# Placement and the capability check

`choose_snapshot` and the engine work out separately which capabilities a request needs. The
coordinator leaves out the quantization, the engine asks for it when a backend is declared. They
agree exactly when no request is placed on an agent without its quantization while another live
agent would do (`placement_agrees_iff`).
-/

namespace Fabric

open Support

variable {F : Type} [Double F]

/-- The agent has every token that the capability check of the engine asks for. -/
def AgentConn.Accepts (a : AgentConn) (d : AdmissionDescriptor F) : Prop :=
  d.backend.isEmpty = false → a.snapshot.capabilities.Offers d

namespace Coordinator

variable {c : Coordinator F} {d : AdmissionDescriptor F} {now : TimePoint} {conn : ConnId}
  {a : AgentConn}

/-- Against the snapshot of an agent the engine passes what the agent accepts. -/
theorem accepts_iff (f : AdmissionFabric F) : a.Accepts d ↔
    (f.setSnapshot a.snapshot).classifyCapability d ≠ .rejectCapability :=
  (AdmissionFabric.classifyCapability_ne_iff (f := f.setSnapshot a.snapshot)).symm

omit [Double F] in
theorem containsAll_required_iff {s : Capabilities} : s.containsAll (required d) = true ↔
    (d.backend.isEmpty = false → s.contains (Capabilities.backend d.backend) = true) ∧
      (d.dtype.isEmpty = false → s.contains (Capabilities.dtype d.dtype) = true) := by
  rw [required, Capabilities.containsAll_ite_add, Capabilities.containsAll_ite_add,
    and_iff_left (Capabilities.containsAll_empty s), and_comm]

/-- Some live agent accepts the request. -/
def Eligible (c : Coordinator F) (d : AdmissionDescriptor F) : Prop :=
  ∃ id a, c.current id = some a ∧ a.alive = true ∧ a.Accepts d

/-- When some live agent accepts the request, it is not rejected for want of a capability, and
the agent that is chosen accepts it. -/
def PlacementAgrees (c : Coordinator F) (now : TimePoint) (d : AdmissionDescriptor F) : Prop :=
  c.Eligible d →
    (∀ dec, (c.step (.client now (.evaluate d))).1 = .decision dec →
      dec.reason ≠ .rejectCapability) ∧
    ∀ conn a, c.chooseSnapshot d = some conn → c.contexts.find? conn = some a → a.Accepts d

/-- A backend and a quantization are declared. The live agent with the most free memory among
those that have the backend and the data type lacks the quantization, and another accepts the
request. -/
def Misplaced (c : Coordinator F) (d : AdmissionDescriptor F) : Prop :=
  d.backend.isEmpty = false ∧ d.quantization.isEmpty = false ∧
    (∃ id conn a, c.Leads d id conn a ∧
      a.snapshot.capabilities.contains (Capabilities.quantization d.quantization) = false) ∧
    c.Eligible d

/-- What is chosen accepts a request that is not misplaced. -/
theorem accepts_of_chosen (h : ¬ c.Misplaced d) (helig : c.Eligible d)
    (hchosen : c.chooseSnapshot d = some conn) (ha : c.contexts.find? conn = some a) :
    a.Accepts d := by
  obtain ⟨id, a', hleads⟩ := leads_of_chosen hchosen
  obtain rfl := Option.some.inj (ha.symm.trans hleads.context)
  obtain ⟨hback, hdtype⟩ := containsAll_required_iff.mp hleads.capable
  intro hdecl
  refine ⟨hback, hdtype, fun hquant => ?_⟩
  by_contra hmissing
  exact h ⟨hdecl, hquant, ⟨id, conn, a, hleads, by simpa using hmissing⟩, helig⟩

/-- When some live agent accepts a request with a backend, an agent is chosen. -/
theorem chosen_of_eligible (helig : c.Eligible d) (hdecl : d.backend.isEmpty = false) :
    ∃ conn a, c.chooseSnapshot d = some conn ∧ c.contexts.find? conn = some a := by
  obtain ⟨id, b, hb, halive, haccepts⟩ := helig
  have hoffers := haccepts hdecl
  obtain ⟨conn, hchosen⟩ := exists_chosen hb halive
    (containsAll_required_iff.mpr ⟨hoffers.backend, hoffers.dtype⟩)
  obtain ⟨id', a, hleads⟩ := leads_of_chosen hchosen
  exact ⟨conn, a, hchosen, hleads.context⟩

/-- Placement and the capability check agree exactly when no request is misplaced. -/
theorem placement_agrees_iff (c : Coordinator F) (now : TimePoint) (d : AdmissionDescriptor F) :
    c.PlacementAgrees now d ↔ ¬ c.Misplaced d := by
  constructor
  · rintro hagrees ⟨hdecl, hquant, ⟨id, conn, a, hleads, hmissing⟩, helig⟩
    have hchosen := chooseSnapshot_eq_some_iff.mpr ⟨id, a, hleads⟩
    have hhas := ((hagrees helig).2 conn a hchosen hleads.context hdecl).quantization hquant
    rw [hmissing] at hhas
    cases hhas
  · intro h helig
    refine ⟨fun dec hreply hreason => ?_, fun conn a => accepts_of_chosen h helig⟩
    rw [step_evaluate] at hreply
    obtain rfl := CoordinatorReply.decision.inj hreply
    have hrejected := AdmissionFabric.classifyCapability_of_reason hreason
    -- The check can only fail for a request with a backend, and then an agent was chosen.
    have hdecl : d.backend.isEmpty = false := by
      by_contra hnone
      exact AdmissionFabric.classifyCapability_ne_iff.mpr (fun hdecl => absurd hdecl hnone) hrejected
    obtain ⟨conn, a, hchosen, ha⟩ := chosen_of_eligible helig hdecl
    rw [snapshotFor_of_chosen hchosen ha] at hrejected
    exact (accepts_iff c.engine).mp (accepts_of_chosen h helig hchosen ha) hrejected

end Coordinator

namespace Sample

/-- A capacity report of an agent with the given capabilities. -/
def equipped (agent boot bytes : UInt64) (tokens : List ByteString) : ResourceSnapshot :=
  { snapshot bytes with
    generation := ⟨1⟩
    agentId := ⟨agent⟩
    bootId := ⟨boot⟩
    capabilities := tokens.foldl Capabilities.add {} }

/-- The agent with more memory cannot run the quantization that the other one can. -/
def uneven : List (CoordinatorEvent Binary64) :=
  [.host 0 (.installPolicy policy),
    .register 0 ⟨1⟩ ⟨100⟩,
    .agent 0 (.capacityUpdate 1 (equipped 1 100 4000000000 [ascii "backend=cuda"])),
    .register 1 ⟨2⟩ ⟨200⟩,
    .agent 1 (.capacityUpdate 1
      (equipped 2 200 2000000000 [ascii "backend=cuda", ascii "quant=int8"]))]

def quantized : AdmissionDescriptor Binary64 :=
  { descriptor 1 with backend := ascii "cuda", quantization := ascii "int8" }

end Sample

namespace Coordinator

/-- A valid request is rejected for want of a capability that the second agent has. -/
theorem placement_agrees_fails : Sample.quantized.validate.isOk = true ∧
    ¬ ((coordinator Binary64).after Sample.uneven).PlacementAgrees 0 Sample.quantized := by
  refine ⟨by decide +kernel, fun hagrees => ?_⟩
  have hsecond : (((coordinator Binary64).after Sample.uneven).current ⟨2⟩).map (fun a =>
      a.alive && a.snapshot.capabilities.contains (ascii "backend=cuda") &&
        a.snapshot.capabilities.contains (ascii "quant=int8")) = some true := by
    decide +kernel
  obtain ⟨a, ha, hall⟩ := Option.map_eq_some_iff.mp hsecond
  simp only [Bool.and_eq_true] at hall
  refine (hagrees ⟨⟨2⟩, a, ha, hall.1.1, fun _ => ⟨fun _ => hall.1.2, nofun, fun _ => hall.2⟩⟩).1 _
    (congrArg Prod.fst (step_evaluate _ _ _)) ?_
  decide +kernel

end Coordinator

end Fabric
