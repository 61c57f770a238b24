import Fabric.Reservation.Accounting

/-!
# The plain account

`ResourceAccount` of `resource.hpp`: a total with a used and a reserved vector, and no table. A
reservation manager without overcommit, over a total that governs every dimension, drives an
account through the calls that match its own.

* `agrees`: a call of the manager is accepted exactly when the matching call of the account is,
  and it moves the sums of the manager as that call moves the account.
* `accounts_agree`: along every run the two accept and refuse the same operations, hold the same
  sums, and the account is coherent.
-/

namespace Fabric

open Support

/-! ## The account -/

/-- `ResourceAccount`. -/
structure ResourceAccount where
  total : ResourceVector := .zero
  used : ResourceVector := .zero
  reserved : ResourceVector := .zero

namespace ResourceAccount

/-- Whether a mutation went through, and the account it leaves. -/
def attempt (a : ResourceAccount) (next : Option ResourceAccount) : Bool × ResourceAccount :=
  (next.isSome, next.getD a)

/-- `reserve`: the demand is added unless it overflows or exceeds the total. -/
def reserve (a : ResourceAccount) (demand : ResourceVector) : Bool × ResourceAccount :=
  a.attempt do
    let next ← a.reserved.tryAdd demand
    let sum ← a.used.tryAdd next
    if sum.fitsIn a.total then some { a with reserved := next } else none

/-- `commit`: move the demand from reserved to used. -/
def commit (a : ResourceAccount) (demand : ResourceVector) : Bool × ResourceAccount :=
  a.attempt <| if demand.fitsIn a.reserved then do
    let r2 ← a.reserved.trySub demand
    let u2 ← a.used.tryAdd demand
    some { a with reserved := r2, used := u2 }
  else none

/-- `rollback`: take the demand off reserved. -/
def rollback (a : ResourceAccount) (demand : ResourceVector) : Bool × ResourceAccount :=
  a.attempt <| if demand.fitsIn a.reserved then do
    let r2 ← a.reserved.trySub demand
    some { a with reserved := r2 }
  else none

/-- `release`: take the demand off used. -/
def release (a : ResourceAccount) (demand : ResourceVector) : Bool × ResourceAccount :=
  a.attempt <| if demand.fitsIn a.used then do
    let u2 ← a.used.trySub demand
    some { a with used := u2 }
  else none

/-- `coherent`: used and reserved together are within the total. -/
def coherent (a : ResourceAccount) : Bool :=
  (a.used.tryAdd a.reserved).any fun sum => sum.fitsIn a.total

variable {a : ResourceAccount} {demand r2 u2 next : ResourceVector}

theorem coherent_of_le (h : ∀ i, a.used.quantities i + a.reserved.quantities i ≤
    a.total.quantities i) : a.coherent = true := by
  obtain ⟨sum, hsum⟩ := ResourceVector.exists_tryAdd (v := a.used) (w := a.reserved)
    fun i => (h i).trans_lt (a.total.quantities_lt i)
  rw [coherent, hsum, Option.any_some, ResourceVector.fitsIn_iff,
    ResourceVector.tryAdd_eq_some_iff.mp hsum]
  exact h

theorem fitsIn_of_trySub {v w u : ResourceVector} (h : v.trySub w = some u) :
    w.fitsIn v = true := by
  rw [ResourceVector.fitsIn_iff, ResourceVector.trySub_eq_some_iff.mp h]
  exact fun i => Nat.le_add_left _ _

theorem reserve_of_le (hnext : a.reserved.tryAdd demand = some next)
    (hle : ∀ i, a.used.quantities i + next.quantities i ≤ a.total.quantities i) :
    a.reserve demand = (true, { a with reserved := next }) := by
  obtain ⟨sum, hsum⟩ := ResourceVector.exists_tryAdd (v := a.used) (w := next)
    fun i => (hle i).trans_lt (a.total.quantities_lt i)
  have hfits : sum.fitsIn a.total = true := by
    rw [ResourceVector.fitsIn_iff, ResourceVector.tryAdd_eq_some_iff.mp hsum]
    exact hle
  rw [reserve, hnext, Option.bind_eq_bind, Option.bind_some, hsum, Option.bind_some,
    if_pos hfits]
  rfl

/-- A reservation that would exceed the total is refused. -/
theorem reserve_of_not_le (h : ∀ next, a.reserved.tryAdd demand = some next →
    ¬ ∀ i, a.used.quantities i + next.quantities i ≤ a.total.quantities i) :
    a.reserve demand = (false, a) := by
  rw [reserve]
  cases hnext : a.reserved.tryAdd demand with
  | none => rfl
  | some next =>
    rw [Option.bind_eq_bind, Option.bind_some]
    cases hsum : a.used.tryAdd next with
    | none => rfl
    | some sum =>
      have hfits : ¬ sum.fitsIn a.total = true := by
        rw [ResourceVector.fitsIn_iff, ResourceVector.tryAdd_eq_some_iff.mp hsum]
        exact h next hnext
      rw [Option.bind_some, if_neg hfits]
      rfl

theorem commit_of_trySub (hr : a.reserved.trySub demand = some r2)
    (hu : a.used.tryAdd demand = some u2) :
    a.commit demand = (true, { a with reserved := r2, used := u2 }) := by
  rw [commit, if_pos (fitsIn_of_trySub hr), hr, hu]
  rfl

theorem rollback_of_trySub (hr : a.reserved.trySub demand = some r2) :
    a.rollback demand = (true, { a with reserved := r2 }) := by
  rw [rollback, if_pos (fitsIn_of_trySub hr), hr]
  rfl

theorem release_of_trySub (hu : a.used.trySub demand = some u2) :
    a.release demand = (true, { a with used := u2 }) := by
  rw [release, if_pos (fitsIn_of_trySub hu), hu]
  rfl

end ResourceAccount

/-! ## Matching calls -/

/-- A call on an account. -/
inductive AccountOp
  | reserve (demand : ResourceVector)
  | commit (demand : ResourceVector)
  | rollback (demand : ResourceVector)
  | release (demand : ResourceVector)

/-- Whether the call went through, and the account it leaves. -/
def AccountOp.perform (a : ResourceAccount) : AccountOp → Bool × ResourceAccount
  | reserve demand => a.reserve demand
  | commit demand => a.commit demand
  | rollback demand => a.rollback demand
  | release demand => a.release demand

def ManagerReply.accepted : ManagerReply → Bool
  | .reserved (.ok _) => true
  | .reserved (.error _) => false
  | .status s => s.isOk
  | .done => true

namespace ReservationManager

/-- The account with the total and the sums of a manager. -/
def account (m : ReservationManager) : ResourceAccount :=
  { total := m.total, used := m.usedSum, reserved := m.reservedSum }

/-- The call on the account that matches an operation: none when the entry is missing or its
status makes the manager refuse or repeat. -/
def matching (m : ReservationManager) : ManagerOp → Option AccountOp
  | .reserve _ _ demand _ => some (.reserve demand)
  | .commit id _ _ =>
    match m.reservations.find? id with
    | some r => if r.status = .reserved then some (.commit r.demand) else none
    | none => none
  | .rollback id =>
    match m.reservations.find? id with
    | some r => if r.status = .reserved then some (.rollback r.demand) else none
    | none => none
  | .release id =>
    match m.reservations.find? id with
    | some r =>
      if r.status = .reserved then some (.rollback r.demand)
      else if r.status = .committed then some (.release r.demand)
      else none
    | none => none
  | _ => none

/-- The calls of the run: a fresh id and a demand for every reservation, and no commit of an
entry past its lifetime. -/
def covered (m : ReservationManager) (c : ManagerCall) : Bool :=
  match c.op with
  | .reserve id _ demand _ => m.reservations.contains id = false ∧ demand.isZero = false
  | .commit id _ _ =>
    (m.reservations.find? id).all fun r => r.status = .reserved → ¬ c.now > r.expiresAt
  | .rollback _ | .release _ => true
  | _ => false

/-- A manager without overcommit over a total that governs every dimension. -/
structure Plain (m : ReservationManager) : Prop where
  accounting : m.Accounting
  mode : m.overcommitMode = .none
  governed : ∀ i, m.total.get i ≠ 0
  within : ∀ i, m.held i ≤ m.total.quantities i

/-- What a call does to the manager, the matching call does to the account. -/
structure Agrees (m : ReservationManager) (c : ManagerCall) : Prop where
  mode : (machine.next m c).overcommitMode = m.overcommitMode
  total : (machine.next m c).total = m.total
  unmatched : m.matching c.op = none → (machine.next m c).account = m.account
  matched : ∀ op, m.matching c.op = some op →
    op.perform m.account = ((machine.reply m c).accepted, (machine.next m c).account)

variable {m m' : ReservationManager} {now : TimePoint} {id : ReservationId}

/-- Without overcommit, the ceiling of a governed dimension is its total. -/
theorem toNat_dimCeiling (hmode : m.overcommitMode = .none) {i : ResourceId}
    (hi : m.total.get i ≠ 0) : (m.dimCeiling i).toNat = m.total.quantities i := by
  have hle : m.total.quantities i ≤ 2 ^ 64 - 1 := Nat.le_sub_one_of_lt (m.total.quantities_lt i)
  have hnone : ¬ m.overcommitMode ≠ .none := not_not.mpr hmode
  rw [dimCeiling, if_neg hi, if_neg hnone, toNat_satAdd, UInt64.toNat_zero, Nat.add_zero]
  exact Nat.min_eq_left hle

theorem Plain.ceiling (hm : m.Plain) (i : ResourceId) :
    (m.dimCeiling i).toNat = m.total.quantities i := toNat_dimCeiling hm.mode (hm.governed i)

/-- A call without a match that leaves the account as it is. -/
theorem Agrees.of_unmatched {c : ManagerCall} {reply : ManagerReply} (h : m.call c = (reply, m'))
    (hnone : m.matching c.op = none) (hmode : m'.overcommitMode = m.overcommitMode)
    (haccount : m'.account = m.account) : m.Agrees c := by
  have hnext : machine.next m c = m' := congrArg Prod.snd h
  constructor
  · rw [hnext, hmode]
  · rw [hnext]
    exact congrArg ResourceAccount.total haccount
  · rw [hnext]
    exact fun _ => haccount
  · rw [hnone]
    exact nofun

/-- A call with a match. -/
theorem Agrees.of_matched {c : ManagerCall} {reply : ManagerReply} {o : AccountOp}
    (h : m.call c = (reply, m')) (hop : m.matching c.op = some o)
    (hmode : m'.overcommitMode = m.overcommitMode) (htotal : m'.total = m.total)
    (hperform : o.perform m.account = (reply.accepted, m'.account)) : m.Agrees c := by
  have hnext : machine.next m c = m' := congrArg Prod.snd h
  have hreply : machine.reply m c = reply := congrArg Prod.fst h
  constructor
  · rw [hnext, hmode]
  · rw [hnext, htotal]
  · rw [hop]
    exact nofun
  · rw [hop, hnext, hreply]
    rintro _ ⟨⟩
    exact hperform

/-! ## Each operation -/

theorem agrees_reserve (hm : m.Plain) {owner : TenantId} {demand : ResourceVector}
    {ttl : Nanoseconds} (hc : m.covered ⟨now, .reserve id owner demand ttl⟩ = true) :
    m.Agrees ⟨now, .reserve id owner demand ttl⟩ := by
  obtain ⟨hfresh, hpos⟩ := of_decide_eq_true hc
  have hnew := OrdMap.contains_eq_false_iff.mp hfresh
  by_cases hcheck : ∃ next, m.reserveCheck id demand = .ok next
  · obtain ⟨next, hok⟩ := hcheck
    obtain ⟨-, -, hnext, hle⟩ := reserveCheck_eq_ok_iff.mp hok
    have hrun : m.reserve now id owner demand ttl = (.ok id,
        { m with
          reservedSum := next
          generation := m.nextGeneration
          reservations :=
            m.reservations.insert id (m.provisional now id owner demand ttl) }) := by
      rw [reserve, hok]
      rfl
    refine .of_matched (call_reserve hrun) rfl rfl rfl ?_
    exact ResourceAccount.reserve_of_le hnext fun i => (hle i).trans_eq (hm.ceiling i)
  · -- The account refuses what the manager refuses: id and demand are in order.
    have hnot : ∀ next, m.reservedSum.tryAdd demand = some next →
        ¬ ∀ i, m.usedSum.quantities i + next.quantities i ≤ m.total.quantities i := by
      intro next hnext hle
      refine hcheck ⟨next, reserveCheck_eq_ok_iff.mpr ⟨hnew, hpos, hnext, fun i => ?_⟩⟩
      exact (hle i).trans_eq (hm.ceiling i).symm
    cases hres : m.reserveCheck id demand with
    | ok next => exact absurd ⟨next, hres⟩ hcheck
    | error s =>
      have hrun : m.reserve now id owner demand ttl = (.error s, m) := by
        rw [reserve, hres]
      exact .of_matched (call_reserve hrun) rfl rfl rfl (ResourceAccount.reserve_of_not_le hnot)

theorem agrees_commit (hm : m.Plain) {ar : AdmissionRequestId} {gen : AdmissionGeneration}
    (hc : m.covered ⟨now, .commit id ar gen⟩ = true) : m.Agrees ⟨now, .commit id ar gen⟩ := by
  rcases commit_cases hm.accounting now id ar gen with ⟨s, h, -, hnot⟩ |
    ⟨r, r2, hfind, hr, hlate, -⟩ | ⟨r, r2, u2, hfind, hr, -, hsub, hadd, h⟩
  · refine .of_unmatched (call_commit h) ?_ rfl rfl
    cases hfind : m.reservations.find? id with
    | none => simp only [matching, hfind]
    | some r => simp only [matching, hfind, if_neg (hnot r hfind)]
  · have hall : decide (r.status = .reserved → ¬ now > r.expiresAt) = true := by
      simpa [covered, hfind] using hc
    exact absurd hlate (of_decide_eq_true hall hr)
  · refine .of_matched (call_commit h) (o := .commit r.demand) ?_ rfl rfl ?_
    · simp only [matching, hfind, if_pos hr]
    · exact ResourceAccount.commit_of_trySub hsub hadd

theorem agrees_rollback (hm : m.Plain) : m.Agrees ⟨now, .rollback id⟩ := by
  rcases rollback_cases hm.accounting id with ⟨s, h, -, hnot⟩ | ⟨r, r2, hfind, hr, hsub, h⟩
  · refine .of_unmatched (call_rollback h) ?_ rfl rfl
    cases hfind : m.reservations.find? id with
    | none => simp only [matching, hfind]
    | some r => simp only [matching, hfind, if_neg (hnot r hfind)]
  · refine .of_matched (call_rollback h) (o := .rollback r.demand) ?_ rfl rfl ?_
    · simp only [matching, hfind, if_pos hr]
    · exact ResourceAccount.rollback_of_trySub hsub

theorem agrees_release (hm : m.Plain) : m.Agrees ⟨now, .release id⟩ := by
  rcases release_cases hm.accounting id with ⟨hfind, h⟩ | ⟨r, hfind, hr, h⟩ |
    ⟨r, r2, u2, hfind, hcase, h⟩
  · refine .of_unmatched (call_release h) ?_ rfl rfl
    simp only [matching, hfind]
  · refine .of_unmatched (call_release h) ?_ rfl rfl
    rcases hr with hr | hr <;> simp [matching, hfind, hr]
  · rcases hcase with ⟨hr, hsub, rfl⟩ | ⟨hr, hsub, rfl⟩ | ⟨hr, rfl, rfl⟩
    · refine .of_matched (call_release h) (o := .rollback r.demand) ?_ rfl rfl ?_
      · simp only [matching, hfind, if_pos hr]
      · exact ResourceAccount.rollback_of_trySub hsub
    · refine .of_matched (call_release h) (o := .release r.demand) ?_ rfl rfl ?_
      · simp [matching, hfind, hr]
      · exact ResourceAccount.release_of_trySub hsub
    · -- An expired entry holds nothing, so its release has no match.
      refine .of_unmatched (call_release h) ?_ rfl rfl
      simp [matching, hfind, hr]

theorem agrees (hm : m.Plain) {c : ManagerCall} (hc : m.covered c = true) : m.Agrees c := by
  obtain ⟨now, op⟩ := c
  cases op with
  | reserve => exact agrees_reserve hm hc
  | commit => exact agrees_commit hm hc
  | rollback => exact agrees_rollback hm
  | release => exact agrees_release hm
  | _ => cases hc

theorem Plain.next (hm : m.Plain) {c : ManagerCall} (hc : m.covered c = true) :
    (machine.next m c).Plain := by
  have hlaw := callLaw hm.accounting c
  have hagrees := agrees hm hc
  have hmode := hagrees.mode.trans hm.mode
  have hgoverned : ∀ i, (machine.next m c).total.get i ≠ 0 := by
    rw [hagrees.total]
    exact hm.governed
  refine ⟨hlaw.accounting, hmode, hgoverned, fun i => ?_⟩
  rw [hagrees.total]
  by_cases hok : ∃ id, machine.reply m c = .reserved (.ok id)
  · obtain ⟨id, hid⟩ := hok
    have hceiling := toNat_dimCeiling hmode (hgoverned i)
    rw [hagrees.total] at hceiling
    exact (hlaw.withinCeiling id hid i).trans_eq hceiling
  · exact (hlaw.noIncrease (fun id hid => hok ⟨id, hid⟩) i).trans (hm.within i)

/-! ## Runs -/

/-- A manager and the account that its calls drive. The answer is what the manager said, and what
the account said if it was called. -/
def twin (total allowance : ResourceVector) :
    Machine (ReservationManager × ResourceAccount) ManagerCall (Bool × Option Bool) where
  init := ({ total, overcommitAllowance := allowance }, { total })
  step s c :=
    let (reply, m) := s.1.call c
    let driven := (s.1.matching c.op).map (AccountOp.perform s.2)
    ((reply.accepted, driven.map Prod.fst), (m, (driven.map Prod.snd).getD s.2))

variable {total allowance : ResourceVector}

/-- One call of the twin, when the account has the sums of the manager. -/
theorem twin_step {s : ReservationManager × ResourceAccount} (hm : s.1.Plain)
    (hs : s.2 = s.1.account) {c : ManagerCall} (hc : s.1.covered c = true) :
    ((twin total allowance).next s c).1.Plain ∧
      ((twin total allowance).next s c).2 = ((twin total allowance).next s c).1.account ∧
      ∀ accepted, ((twin total allowance).reply s c).2 = some accepted →
        accepted = ((twin total allowance).reply s c).1 := by
  obtain ⟨m, a⟩ := s
  obtain rfl : a = m.account := hs
  have hagrees := agrees hm hc
  have hnext := hm.next hc
  simp only [Machine.next, Machine.reply, twin]
  cases hop : m.matching c.op with
  | none => exact ⟨hnext, (hagrees.unmatched hop).symm, nofun⟩
  | some op =>
    rw [Option.map_some, hagrees.matched op hop]
    exact ⟨hnext, rfl, fun _ haccepted => (Option.some.inj haccepted).symm⟩

/-- Along every run of fresh reservations with a demand, commits in time, rollbacks and releases,
over a total that governs every dimension, the account accepts what the manager accepts whenever
it is called; at every step their sums are the same and the account is coherent. -/
theorem accounts_agree (total allowance : ResourceVector) (htotal : ∀ i, total.get i ≠ 0)
    (h : List ManagerCall)
    (hcovered : (twin total allowance).Guarded (fun s c => s.1.covered c = true) h) :
    (twin total allowance).Throughout (fun s => s.2.reserved = s.1.reservedSum ∧
        s.2.used = s.1.usedSum ∧ s.2.coherent = true) h ∧
      (twin total allowance).Guarded (fun s c => ∀ accepted,
        ((twin total allowance).reply s c).2 = some accepted →
          accepted = ((twin total allowance).reply s c).1) h := by
  have hplain : ∀ {is : List ManagerCall},
      (twin total allowance).Guarded (fun s c => s.1.covered c = true) is →
        ((twin total allowance).after is).1.Plain ∧
          ((twin total allowance).after is).2 = ((twin total allowance).after is).1.account := by
    intro is hguarded
    refine Machine.invariant_of_guarded
      (P := fun s : ReservationManager × ResourceAccount => s.1.Plain ∧ s.2 = s.1.account)
      (I := fun _ => True) (fun _ => trivial) ?_ ?_ hguarded
    · refine ⟨⟨Accounting.of_empty total allowance .none 1, rfl, htotal, fun i => ?_⟩, rfl⟩
      exact Nat.zero_le _
    · rintro s c - hc ⟨hm, hs⟩
      exact (twin_step hm hs hc).imp_right And.left
  constructor
  · rintro pre post rfl
    obtain ⟨hm, hs⟩ := hplain hcovered.prefix
    rw [hs]
    exact ⟨rfl, rfl, ResourceAccount.coherent_of_le hm.within⟩
  · rintro pre c post rfl
    obtain ⟨hm, hs⟩ := hplain hcovered.prefix
    exact (twin_step hm hs (hcovered pre c post rfl)).2.2

/-- The same amount of everything. -/
def Sample.uniform (n : UInt64) : ResourceVector := ⟨fun _ => n⟩

/-- Two reservations of which the second does not fit, and the whole life of the first. -/
def Sample.reservations : List ManagerCall :=
  [⟨0, .reserve ⟨1⟩ ⟨1⟩ (Sample.uniform 6) 10⟩, ⟨0, .reserve ⟨2⟩ ⟨1⟩ (Sample.uniform 6) 10⟩,
    ⟨5, .commit ⟨1⟩ ⟨1⟩ ⟨1⟩⟩, ⟨6, .release ⟨1⟩⟩, ⟨7, .rollback ⟨1⟩⟩]

theorem accounts_agree_sample :
    ((twin (Sample.uniform 10) .zero).after Sample.reservations).2.coherent = true := by
  have hcovered : (twin (Sample.uniform 10) .zero).Guarded (fun s c => s.1.covered c = true)
      Sample.reservations := by
    refine Machine.guarded_iff_guardedFrom.mpr ⟨?_, ?_, ?_, ?_, ?_, trivial⟩ <;> decide +kernel
  exact (accounts_agree (Sample.uniform 10) .zero (by decide) Sample.reservations
    hcovered).1.last.2.2

end ReservationManager

end Fabric
