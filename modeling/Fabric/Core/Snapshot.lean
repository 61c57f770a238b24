import Fabric.Core.Enumerations
import Fabric.Core.ResourceVector
import Fabric.Support.OrdMap

/-!
# Resource snapshots

The capability set and the `ResourceSnapshot` of `resource.hpp`. A snapshot is what a node
says about its capacity; the engine reads its total, its capabilities, its age and whether
some dimension is unavailable.
-/

namespace Fabric

open Support

/-- `Capabilities`: a set of canonical string tokens. -/
structure Capabilities where
  tokens : OrdMap ByteString Unit := .empty

namespace Capabilities

def add (c : Capabilities) (token : ByteString) : Capabilities := ⟨c.tokens.insert token ()⟩

def contains (c : Capabilities) (token : ByteString) : Bool := c.tokens.contains token

def containsAll (c required : Capabilities) : Bool :=
  required.tokens.entries.all fun t => c.contains t.1

def backend (b : ByteString) : ByteString := ascii "backend=" ++ b

def dtype (d : ByteString) : ByteString := ascii "dtype=" ++ d

def quantization (q : ByteString) : ByteString := ascii "quant=" ++ q

variable {c required : Capabilities} {token t : ByteString}

theorem contains_add : (c.add token).contains t = true ↔ t = token ∨ c.contains t = true := by
  rw [contains, contains, add, OrdMap.contains_iff, OrdMap.contains_iff, OrdMap.find?_insert]
  split_ifs with h
  · simp [h]
  · simp [h]

theorem containsAll_iff : c.containsAll required = true ↔
    ∀ t, required.contains t = true → c.contains t = true := by
  rw [containsAll, List.all_eq_true]
  constructor
  · intro h t ht
    obtain ⟨u, hu⟩ := OrdMap.contains_iff.mp ht
    exact h (t, u) (OrdMap.find?_eq_some_iff.mp hu)
  · rintro h ⟨t, u⟩ ht
    exact h t (OrdMap.contains_iff.mpr ⟨u, OrdMap.find?_eq_some_iff.mpr ht⟩)

theorem containsAll_empty (c : Capabilities) : c.containsAll {} = true := rfl

theorem containsAll_add : c.containsAll (required.add token) = true ↔
    c.contains token = true ∧ c.containsAll required = true := by
  simp only [containsAll_iff, contains_add, forall_eq_or_imp]

/-- A token that is required only when something is declared. -/
theorem containsAll_ite_add {b : Bool} :
    c.containsAll (if b then required else required.add token) = true ↔
      (b = false → c.contains token = true) ∧ c.containsAll required = true := by
  cases b with
  | true => simp
  | false => simp [containsAll_add]

end Capabilities

/-- `ResourceSnapshot`. -/
structure ResourceSnapshot where
  generation : ResourceSnapshotGeneration := default
  timestamp : TimePoint := 0
  agentId : AgentId := default
  bootId : AgentBootId := default
  nodeName : ByteString := []
  deviceIndex : UInt32 := 0
  deviceName : ByteString := []
  total : ResourceVector := .zero
  used : ResourceVector := .zero
  reserved : ResourceVector := .zero
  reclaimable : ResourceVector := .zero
  capabilities : Capabilities := {}
  healthy : Bool := true
  modelResidencyHints : List ByteString := []
  transferPathHints : List ByteString := []
  pressure : ResourceId → PressureLevel := fun _ => .none
  provenance : ResourceId → Provenance := fun _ => .undeclared 0 Provenance.zero_undeclared

namespace ResourceSnapshot

/-- `headroom`: total minus used minus reserved, at least zero. -/
def headroom (s : ResourceSnapshot) : ResourceVector := (s.total.satSub s.used).satSub s.reserved

def isStaleAsOf (s : ResourceSnapshot) (now : TimePoint) (maxAge : Nanoseconds) : Bool :=
  decide (now - s.timestamp > maxAge)

def hasUnavailableDimension (s : ResourceSnapshot) : Bool :=
  ResourceId.all.any fun i => s.provenance i == .unavailable

end ResourceSnapshot

end Fabric
