import Fabric.Policy.Engine

/-!
# Fairness

`fairness.hpp`: bounded state for each tenant and the advice whether a large request waits
for smaller ones. An evaluation only reads this state.
-/

namespace Fabric

open Support

/-- The part of `TenantState` that some function reads or updates. -/
structure TenantState (F : Type) [Double F] where
  weight : F := 1.0
  active : UInt32 := 0
  recentAdmissions : UInt64 := 0
  recentDeferrals : UInt64 := 0
  recentRejections : UInt64 := 0
  lastAdmit : Option TimePoint := none

/-- `FairnessController`. -/
structure FairnessController (F : Type) [Double F] where
  tenants : OrdMap TenantId (TenantState F) := .empty

variable {F : Type} [Double F]

namespace FairnessController

def kMaxTenants : Nat := 512

/-- `state`, as an update: change the state of a tenant. A new tenant pushes out the one with
the smallest id when the table is full. -/
def modify (c : FairnessController F) (t : TenantId) (f : TenantState F → TenantState F) :
    FairnessController F :=
  match c.tenants.find? t with
  | some st => ⟨c.tenants.insert t (f st)⟩
  | none =>
    let kept := if c.tenants.size ≥ kMaxTenants then
        match c.tenants.entries.head? with
        | some (first, _) => c.tenants.erase first
        | none => c.tenants
      else c.tenants
    ⟨kept.insert t (f {})⟩

def setTenantWeight (c : FairnessController F) (t : TenantId) (weight : F) :
    FairnessController F :=
  c.modify t fun st => { st with weight }

def noteAdmission (c : FairnessController F) (now : TimePoint) (t : TenantId) :
    FairnessController F :=
  c.modify t fun st =>
    { st with
      active := st.active + 1
      recentAdmissions := st.recentAdmissions + 1
      lastAdmit := some now }

def noteDeferral (c : FairnessController F) (t : TenantId) : FairnessController F :=
  c.modify t fun st => { st with recentDeferrals := st.recentDeferrals + 1 }

def noteRejection (c : FairnessController F) (t : TenantId) : FairnessController F :=
  c.modify t fun st => { st with recentRejections := st.recentRejections + 1 }

def noteCompletion (c : FairnessController F) (t : TenantId) : FairnessController F :=
  c.modify t fun st => { st with active := if st.active > 0 then st.active - 1 else st.active }

def noteAdmissionStarted (c : FairnessController F) (t : TenantId) : FairnessController F :=
  c.modify t fun st => { st with active := st.active + 1 }

def activeAdmitted (c : FairnessController F) (t : TenantId) : UInt32 :=
  match c.tenants.find? t with
  | some st => st.active
  | none => 0

def tenantCount (c : FairnessController F) : Nat := c.tenants.size

/-- `starvation_age`: the time since the last admission of a tenant, zero without one. -/
def starvationAge (c : FairnessController F) (now : TimePoint) (t : TenantId) : Nanoseconds :=
  match (c.tenants.find? t).bind TenantState.lastAdmit with
  | some last => now - last
  | none => 0

/-- `should_defer_large`. -/
def shouldDeferLarge (p : AdmissionPolicy F) (pendingSmallRequests : UInt32)
    (capacityFraction : F) (largeStarving : Bool) : Bool :=
  if pendingSmallRequests = 0 then false
  else if largeStarving then false
  else decide (capacityFraction > 0.60 ∧ pendingSmallRequests ≥ p.fairnessWindow / 4)

end FairnessController

end Fabric
