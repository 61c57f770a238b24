import Fabric.Reservation.Manager
import Fabric.Support.Machine
import Mathlib.Algebra.Group.Pi.Basic
import Mathlib.Algebra.Order.Pi

/-!
# Accounting of the reservation manager

The two cached sums of a `ReservationManager` against its table, along every history of
calls with arbitrary arguments and clock readings.

* `Accounting`: `reservedSum` is the exact sum of the demands of the reserved entries,
  `usedSum` that of the committed ones, and their total stays inside 64 bits.
* `Accounting.replace`: an entry may be replaced when the sums move by the difference; every
  operation that touches an entry is an instance.
* `reserve_cases`, `commit_cases`, `rollback_cases`, `release_cases`: what each operation can
  do under `Accounting`. The exits for sums that fail to subtract do not occur in them.
* `accounting_of_calls`: `Accounting` after every history, and what each further call keeps.
-/

namespace Fabric

open Support Support.Checks

/-! ## Demand of an entry and of a table -/

namespace ResourceReservation

/-- What an entry adds to the sum of the entries with status `st`. -/
def demandAs (r : ResourceReservation) (st : ReservationStatus) : ResourceId → ℕ :=
  if r.status = st then r.demand.quantities else 0

@[simp] theorem demandAs_self (r : ResourceReservation) :
    r.demandAs r.status = r.demand.quantities := if_pos rfl

theorem demandAs_of_eq {r : ResourceReservation} {st : ReservationStatus} (h : r.status = st) :
    r.demandAs st = r.demand.quantities := if_pos h

theorem demandAs_of_ne {r : ResourceReservation} {st : ReservationStatus} (h : r.status ≠ st) :
    r.demandAs st = 0 := if_neg h

/-- An entry outside the live states has no demand in a live one. -/
theorem demandAs_of_dead {r : ResourceReservation} {st : ReservationStatus}
    (hr : r.status.isLive = false) (hst : st.isLive = true) : r.demandAs st = 0 := by
  refine demandAs_of_ne ?_
  rintro rfl
  simp [hr] at hst

end ResourceReservation

namespace ReservationManager

/-- The exact demand of the entries with status `st`. -/
def demandOf (m : ReservationManager) (st : ReservationStatus) : ResourceId → ℕ :=
  m.reservations.sum fun _ r => r.demandAs st

variable {m : ReservationManager} {id : ReservationId} {r r' : ResourceReservation}

theorem demandOf_insert_new (h : m.reservations.find? id = none) (r' : ResourceReservation)
    (st : ReservationStatus) :
    (m.reservations.insert id r').sum (fun _ r => r.demandAs st) =
      r'.demandAs st + m.demandOf st :=
  OrdMap.sum_insert_of_none _ _ h

theorem demandOf_insert (h : m.reservations.find? id = some r) (r' : ResourceReservation)
    (st : ReservationStatus) :
    (m.reservations.insert id r').sum (fun _ r => r.demandAs st) + r.demandAs st =
      m.demandOf st + r'.demandAs st :=
  OrdMap.sum_insert_of_some (fun _ (r : ResourceReservation) => r.demandAs st) r' h

/-- An entry is counted in the sum of its status. -/
theorem demand_le_demandOf (h : m.reservations.find? id = some r) :
    r.demand.quantities ≤ m.demandOf r.status := by
  -- Take the entry out of the sum by giving it another status.
  obtain ⟨st, hst⟩ : ∃ st, st ≠ r.status := by
    cases r.status
    case released => exact ⟨.expired, nofun⟩
    all_goals exact ⟨.released, nofun⟩
  have hsum := demandOf_insert h { r with status := st } r.status
  rw [ResourceReservation.demandAs_self,
    ResourceReservation.demandAs_of_ne hst, add_zero] at hsum
  exact fun i => (Nat.le_add_left _ _).trans_eq (congrFun hsum i)

/-! ## The invariant -/

/-- The cached sums are the exact sums of the table, and their total has not overflowed. -/
structure Accounting (m : ReservationManager) : Prop where
  reserved : m.reservedSum.quantities = m.demandOf .reserved
  used : m.usedSum.quantities = m.demandOf .committed
  bounded : ∀ i, m.usedSum.quantities i + m.reservedSum.quantities i < 2 ^ 64

namespace Accounting

theorem of_empty (total allowance : ResourceVector) (mode : OvercommitMode) (generation : UInt64) :
    Accounting
      { total, overcommitAllowance := allowance, overcommitMode := mode, generation } :=
  ⟨rfl, rfl, fun _ => by simp [ResourceVector.zero]⟩

theorem demand_le_reserved (hm : m.Accounting) (h : m.reservations.find? id = some r)
    (hr : r.status = .reserved) : r.demand.quantities ≤ m.reservedSum.quantities := by
  rw [hm.reserved, ← hr]
  exact demand_le_demandOf h

theorem demand_le_used (hm : m.Accounting) (h : m.reservations.find? id = some r)
    (hr : r.status = .committed) : r.demand.quantities ≤ m.usedSum.quantities := by
  rw [hm.used, ← hr]
  exact demand_le_demandOf h

/-- The parameters of the ceiling play no role in the accounting. -/
theorem configure (hm : m.Accounting) (total allowance : ResourceVector) (mode : OvercommitMode) :
    Accounting
      { m with total, overcommitAllowance := allowance, overcommitMode := mode } :=
  ⟨hm.reserved, hm.used, hm.bounded⟩

/-- Replace an entry while the sums move by the difference. -/
theorem replace (hm : m.Accounting) (h : m.reservations.find? id = some r)
    {r2 u2 : ResourceVector}
    (hres : r2.quantities + r.demandAs .reserved =
      m.reservedSum.quantities + r'.demandAs .reserved)
    (huse : u2.quantities + r.demandAs .committed =
      m.usedSum.quantities + r'.demandAs .committed)
    (hle : ∀ i, u2.quantities i + r2.quantities i ≤
      m.usedSum.quantities i + m.reservedSum.quantities i) :
    Accounting
      { m with
        reservedSum := r2
        usedSum := u2
        reservations := m.reservations.insert id r' } where
  reserved := by
    have hsum := demandOf_insert h r' .reserved
    rw [← hm.reserved, ← hres] at hsum
    exact (add_right_cancel hsum).symm
  used := by
    have hsum := demandOf_insert h r' .committed
    rw [← hm.used, ← huse] at hsum
    exact (add_right_cancel hsum).symm
  bounded i := (hle i).trans_lt (hm.bounded i)

/-- A provisional entry that leaves the live states takes its demand off `reservedSum`. -/
theorem free_reserved (hm : m.Accounting) (h : m.reservations.find? id = some r)
    (hr : r.status = .reserved) (hr' : r'.status.isLive = false) {r2 : ResourceVector}
    (hsub : m.reservedSum.trySub r.demand = some r2) :
    Accounting
      { m with reservedSum := r2, reservations := m.reservations.insert id r' } := by
  have hq := ResourceVector.trySub_eq_some_iff.mp hsub
  refine hm.replace h ?_ ?_ fun i => ?_
  · rw [ResourceReservation.demandAs_of_eq hr, ResourceReservation.demandAs_of_dead hr' rfl, hq,
      add_zero]
  · rw [ResourceReservation.demandAs_of_ne (by simp [hr]),
      ResourceReservation.demandAs_of_dead hr' rfl]
  · rw [hq]
    simp only [Pi.add_apply]
    omega

/-- A committed entry that leaves the live states takes its demand off `usedSum`. -/
theorem free_used (hm : m.Accounting) (h : m.reservations.find? id = some r)
    (hr : r.status = .committed) (hr' : r'.status.isLive = false) {u2 : ResourceVector}
    (hsub : m.usedSum.trySub r.demand = some u2) :
    Accounting { m with usedSum := u2, reservations := m.reservations.insert id r' } := by
  have hq := ResourceVector.trySub_eq_some_iff.mp hsub
  refine hm.replace h ?_ ?_ fun i => ?_
  · rw [ResourceReservation.demandAs_of_ne (by simp [hr]),
      ResourceReservation.demandAs_of_dead hr' rfl]
  · rw [ResourceReservation.demandAs_of_eq hr, ResourceReservation.demandAs_of_dead hr' rfl, hq,
      add_zero]
  · rw [hq]
    simp only [Pi.add_apply]
    omega

/-- A provisional entry that becomes committed moves its demand from one sum to the other. -/
theorem promote (hm : m.Accounting) (h : m.reservations.find? id = some r)
    (hr : r.status = .reserved) (ar : AdmissionRequestId) (gen : AdmissionGeneration)
    {r2 u2 : ResourceVector} (hsub : m.reservedSum.trySub r.demand = some r2)
    (hadd : m.usedSum.tryAdd r.demand = some u2) :
    Accounting
      { m with
        reservedSum := r2
        usedSum := u2
        reservations := m.reservations.insert id
          { r with
            status := .committed
            admissionRequestId := some ar
            admissionGeneration := some gen } } := by
  have hq := ResourceVector.trySub_eq_some_iff.mp hsub
  have hu := ResourceVector.tryAdd_eq_some_iff.mp hadd
  have hcom : r.status ≠ .committed := by simp [hr]
  refine hm.replace h ?_ ?_ fun i => ?_
  · rw [ResourceReservation.demandAs_of_eq hr, ← hq]
    exact (add_zero _).symm
  · rw [ResourceReservation.demandAs_of_ne hcom, add_zero, hu]
    rfl
  · rw [hq, hu]
    simp only [Pi.add_apply]
    omega

/-- An entry outside the live states may change without moving a sum. -/
theorem replace_settled (hm : m.Accounting) (h : m.reservations.find? id = some r)
    (hr : r.status.isLive = false) (hr' : r'.status.isLive = false) :
    Accounting { m with reservations := m.reservations.insert id r' } := by
  refine hm.replace h ?_ ?_ fun i => le_rfl
  · rw [ResourceReservation.demandAs_of_dead hr rfl, ResourceReservation.demandAs_of_dead hr' rfl]
  · rw [ResourceReservation.demandAs_of_dead hr rfl, ResourceReservation.demandAs_of_dead hr' rfl]

/-- A new provisional entry adds its demand to `reservedSum`. -/
theorem extend (hm : m.Accounting) (hnew : m.reservations.find? id = none)
    {demand next : ResourceVector} (hadd : m.reservedSum.tryAdd demand = some next)
    (hle : ∀ i, m.usedSum.quantities i + next.quantities i ≤ (m.dimCeiling i).toNat)
    (hr' : r'.status = .reserved) (hd : r'.demand = demand) (generation : UInt64) :
    Accounting
      { m with
        reservedSum := next
        generation
        reservations := m.reservations.insert id r' } where
  reserved := by
    have hsum := demandOf_insert_new hnew r' .reserved
    rw [ResourceReservation.demandAs_of_eq hr', hd, ← hm.reserved, add_comm] at hsum
    exact (ResourceVector.tryAdd_eq_some_iff.mp hadd).trans hsum.symm
  used := by
    have hsum := demandOf_insert_new hnew r' .committed
    rw [ResourceReservation.demandAs_of_ne (by simp [hr']), zero_add, ← hm.used] at hsum
    exact hsum.symm
  bounded i := (hle i).trans_lt (m.dimCeiling i).toNat_lt

/-- Under the accounting the demand of a provisional entry can be moved to `usedSum`. -/
theorem exists_promote (hm : m.Accounting) (h : m.reservations.find? id = some r)
    (hr : r.status = .reserved) :
    ∃ r2 u2, m.reservedSum.trySub r.demand = some r2 ∧ m.usedSum.tryAdd r.demand = some u2 := by
  have hle := hm.demand_le_reserved h hr
  obtain ⟨r2, hr2⟩ := ResourceVector.exists_trySub hle
  obtain ⟨u2, hu2⟩ := ResourceVector.exists_tryAdd (v := m.usedSum) (w := r.demand) fun i => by
    have hi : r.demand.quantities i ≤ m.reservedSum.quantities i := hle i
    have hb := hm.bounded i
    omega
  exact ⟨r2, u2, hr2, hu2⟩

end Accounting

/-! ## What each operation can do -/

/-- The entry that a successful `reserve` adds. -/
def provisional (m : ReservationManager) (now : TimePoint) (id : ReservationId)
    (owner : TenantId) (demand : ResourceVector) (ttl : Nanoseconds) : ResourceReservation :=
  { id, owner, demand, createdAt := now, expiresAt := now + ttl, status := .reserved,
    generation := m.nextGeneration }

/-- The checks of `reserve` pass exactly when the id is new, the demand is not zero, nothing
overflows and the ceiling is respected. -/
theorem reserveCheck_eq_ok_iff {demand next : ResourceVector} :
    m.reserveCheck id demand = .ok next ↔
      m.reservations.find? id = none ∧ demand.isZero = false ∧
        m.reservedSum.tryAdd demand = some next ∧
        ∀ i, m.usedSum.quantities i + next.quantities i ≤ (m.dimCeiling i).toNat := by
  simp only [reserveCheck, bind_eq_ok_iff, require_eq_ok_iff, orFail_eq_ok_iff,
    OrdMap.contains_eq_false_iff, exists_and_left, exists_const]
  refine and_congr_right fun _ => and_congr_right fun _ => ?_
  constructor
  · rintro ⟨next', hnext, total, htotal, hdim⟩
    have hq := ResourceVector.tryAdd_eq_some_iff.mp htotal
    split at hdim
    · cases hdim
    · rename_i hnone
      obtain rfl := Except.ok.inj hdim
      refine ⟨hnext, fun i => ?_⟩
      have hnot : ¬ total.get i > m.dimCeiling i := by
        simpa using List.find?_eq_none.mp hnone i (ResourceId.mem_all i)
      exact (congrFun hq i).symm.trans_le (UInt64.le_iff_toNat_le.mp (UInt64.not_lt.mp hnot))
  · rintro ⟨hnext, hle⟩
    obtain ⟨total, htotal⟩ := ResourceVector.exists_tryAdd (v := m.usedSum) (w := next)
      fun i => (hle i).trans_lt (m.dimCeiling i).toNat_lt
    have hq := ResourceVector.tryAdd_eq_some_iff.mp htotal
    have hnone : (ResourceId.all.find? fun dim => total.get dim > m.dimCeiling dim) = none := by
      refine List.find?_eq_none.mpr fun i _ => ?_
      simpa [UInt64.le_iff_toNat_le] using (congrFun hq i).trans_le (hle i)
    exact ⟨next, hnext, total, htotal, by rw [hnone]⟩

/-- Under the accounting, a reservation goes through exactly when its id is new, its demand is
not zero and the live demand with it stays inside the ceiling. -/
theorem exists_reserveCheck_iff (hm : m.Accounting) {demand : ResourceVector} :
    (∃ next, m.reserveCheck id demand = .ok next) ↔
      m.reservations.find? id = none ∧ demand.isZero = false ∧
        ∀ i, m.demandOf .reserved i + m.demandOf .committed i + demand.quantities i ≤
          (m.dimCeiling i).toNat := by
  have hsum : ∀ next, m.reservedSum.tryAdd demand = some next → ∀ i,
      m.usedSum.quantities i + next.quantities i =
        m.demandOf .reserved i + m.demandOf .committed i + demand.quantities i := by
    intro next hnext i
    have hq := congrFun (ResourceVector.tryAdd_eq_some_iff.mp hnext) i
    have hr := congrFun hm.reserved i
    have hu := congrFun hm.used i
    rw [Pi.add_apply] at hq
    omega
  simp only [reserveCheck_eq_ok_iff]
  constructor
  · rintro ⟨next, hnew, hpos, hnext, hle⟩
    exact ⟨hnew, hpos, fun i => hsum next hnext i ▸ hle i⟩
  · rintro ⟨hnew, hpos, hle⟩
    obtain ⟨next, hnext⟩ := ResourceVector.exists_tryAdd (v := m.reservedSum) (w := demand)
      fun i => by
        have hr : m.reservedSum.quantities i = m.demandOf .reserved i := congrFun hm.reserved i
        have hi := hle i
        have hc := (m.dimCeiling i).toNat_lt
        omega
    exact ⟨next, hnew, hpos, hnext, fun i => (hsum next hnext i).trans_le (hle i)⟩

/-- `reserve` fails and keeps the manager, or adds one provisional entry inside the ceiling. -/
theorem reserve_cases (m : ReservationManager) (now : TimePoint) (id : ReservationId)
    (owner : TenantId) (demand : ResourceVector) (ttl : Nanoseconds) :
    (∃ s, m.reserve now id owner demand ttl = (.error s, m)) ∨
    (m.reservations.find? id = none ∧ demand.isZero = false ∧
      ∃ next, m.reservedSum.tryAdd demand = some next ∧
        (∀ i, m.usedSum.quantities i + next.quantities i ≤ (m.dimCeiling i).toNat) ∧
        m.reserve now id owner demand ttl = (.ok id,
          { m with
            reservedSum := next
            generation := m.nextGeneration
            reservations :=
              m.reservations.insert id (m.provisional now id owner demand ttl) })) := by
  unfold reserve
  generalize hcheck : m.reserveCheck id demand = check
  cases check with
  | error s => exact .inl ⟨s, rfl⟩
  | ok next =>
    obtain ⟨hnew, hpos, hnext, hle⟩ := reserveCheck_eq_ok_iff.mp hcheck
    exact .inr ⟨hnew, hpos, next, hnext, hle, rfl⟩

variable {now : TimePoint} {ar : AdmissionRequestId} {gen : AdmissionGeneration}

/-- `commit` refuses an entry that is not provisional, expires one that is past its
lifetime, or promotes it. -/
theorem commit_cases (hm : m.Accounting) (now : TimePoint) (id : ReservationId)
    (ar : AdmissionRequestId) (gen : AdmissionGeneration) :
    (∃ s, m.commit now id ar gen = (s, m) ∧
      s.code ∈ [ErrorCode.staleReservation, .doubleReservation, .operationNotPermitted] ∧
      ∀ r, m.reservations.find? id = some r → r.status ≠ .reserved) ∨
    (∃ r r2, m.reservations.find? id = some r ∧ r.status = .reserved ∧ now > r.expiresAt ∧
      m.reservedSum.trySub r.demand = some r2 ∧
      m.commit now id ar gen =
        (.failure .reservationExpired "reservation expired before commit",
          { m with
            reservedSum := r2
            reservations := m.reservations.insert id { r with status := .expired } })) ∨
    (∃ r r2 u2, m.reservations.find? id = some r ∧ r.status = .reserved ∧ ¬ now > r.expiresAt ∧
      m.reservedSum.trySub r.demand = some r2 ∧ m.usedSum.tryAdd r.demand = some u2 ∧
      m.commit now id ar gen =
        (.success,
          { m with
            reservedSum := r2
            usedSum := u2
            reservations := m.reservations.insert id
              { r with
                status := .committed
                admissionRequestId := some ar
                admissionGeneration := some gen } })) := by
  unfold commit
  cases hfind : m.reservations.find? id with
  | none => exact .inl ⟨_, rfl, by decide, nofun⟩
  | some r =>
    simp only
    split_ifs with hcom hres hexp
    · exact .inl ⟨_, rfl, by decide, by simp [hcom]⟩
    · exact .inl ⟨_, rfl, by decide, by simpa using hres⟩
    · have hr : r.status = .reserved := not_not.mp hres
      obtain ⟨r2, hr2⟩ := ResourceVector.exists_trySub (hm.demand_le_reserved hfind hr)
      exact .inr (.inl ⟨r, r2, rfl, hr, hexp, hr2, by simp [expireUnsafe, hr2]⟩)
    · have hr : r.status = .reserved := not_not.mp hres
      obtain ⟨r2, u2, hr2, hu2⟩ := hm.exists_promote hfind hr
      exact .inr (.inr ⟨r, r2, u2, rfl, hr, hexp, hr2, hu2, by simp [hr2, hu2]⟩)

/-- `rollback` keeps the manager unless the entry is provisional. -/
theorem rollback_cases (hm : m.Accounting) (id : ReservationId) :
    (∃ s, m.rollback id = (s, m) ∧
      s.code ∈ [ErrorCode.ok, .staleReservation, .operationNotPermitted] ∧
      ∀ r, m.reservations.find? id = some r → r.status ≠ .reserved) ∨
    (∃ r r2, m.reservations.find? id = some r ∧ r.status = .reserved ∧
      m.reservedSum.trySub r.demand = some r2 ∧
      m.rollback id = (.success,
        { m with
          reservedSum := r2
          reservations := m.reservations.insert id { r with status := .rolledBack } })) := by
  unfold rollback
  cases hfind : m.reservations.find? id with
  | none => exact .inl ⟨_, rfl, by decide, nofun⟩
  | some r =>
    simp only
    split_ifs with hdone hres
    · refine .inl ⟨_, rfl, by decide, ?_⟩
      rintro _ ⟨⟩ hr
      simp [hr] at hdone
    · exact .inl ⟨_, rfl, by decide, by simpa using hres⟩
    · have hr : r.status = .reserved := not_not.mp hres
      obtain ⟨r2, hr2⟩ := ResourceVector.exists_trySub (hm.demand_le_reserved hfind hr)
      exact .inr ⟨r, r2, rfl, hr, hr2, by simp [hr2]⟩

/-- `release` fails on an unknown id only, keeps an entry that was given back before, and
frees the demand of a live one. -/
theorem release_cases (hm : m.Accounting) (id : ReservationId) :
    (m.reservations.find? id = none ∧
      m.release id = (.failure .staleReservation "unknown reservation id", m)) ∨
    (∃ r, m.reservations.find? id = some r ∧ (r.status = .released ∨ r.status = .rolledBack) ∧
      m.release id = (.success, m)) ∨
    (∃ r r2 u2, m.reservations.find? id = some r ∧
      (r.status = .reserved ∧ m.reservedSum.trySub r.demand = some r2 ∧ u2 = m.usedSum ∨
        r.status = .committed ∧ m.usedSum.trySub r.demand = some u2 ∧ r2 = m.reservedSum ∨
        r.status = .expired ∧ r2 = m.reservedSum ∧ u2 = m.usedSum) ∧
      m.release id = (.success,
        { m with
          reservedSum := r2
          usedSum := u2
          reservations := m.reservations.insert id { r with status := .released } })) := by
  unfold release
  cases hfind : m.reservations.find? id with
  | none => exact .inl ⟨rfl, rfl⟩
  | some r =>
    simp only
    cases hr : r.status with
    | released => exact .inr (.inl ⟨r, rfl, .inl hr, rfl⟩)
    | rolledBack => exact .inr (.inl ⟨r, rfl, .inr hr, rfl⟩)
    | expired => exact .inr (.inr ⟨r, _, _, rfl, .inr (.inr ⟨hr, rfl, rfl⟩), rfl⟩)
    | reserved =>
      obtain ⟨r2, hr2⟩ := ResourceVector.exists_trySub (hm.demand_le_reserved hfind hr)
      exact .inr (.inr ⟨r, r2, _, rfl, .inl ⟨hr, hr2, rfl⟩, by simp [hr2]⟩)
    | committed =>
      obtain ⟨u2, hu2⟩ := ResourceVector.exists_trySub (hm.demand_le_used hfind hr)
      exact .inr (.inr ⟨r, _, u2, rfl, .inr (.inl ⟨hr, hu2, rfl⟩), by simp [hu2]⟩)

/-! ## The sweep -/

end ReservationManager

/-- What a sweep makes of an entry. -/
def ResourceReservation.swept (now : TimePoint) (r : ResourceReservation) : ResourceReservation :=
  if r.status = .reserved ∧ now > r.expiresAt then { r with status := .expired } else r

namespace ReservationManager

variable {m : ReservationManager} {id : ReservationId} {r r' : ResourceReservation}

/-- `m'` differs from `m` only in its sums and its table, and holds no more. -/
structure Shrinks (m m' : ReservationManager) : Prop where
  total : m'.total = m.total
  allowance : m'.overcommitAllowance = m.overcommitAllowance
  mode : m'.overcommitMode = m.overcommitMode
  used : m'.usedSum.quantities ≤ m.usedSum.quantities
  reserved : m'.reservedSum.quantities ≤ m.reservedSum.quantities

theorem Shrinks.refl (m : ReservationManager) : m.Shrinks m := ⟨rfl, rfl, rfl, le_rfl, le_rfl⟩

theorem Shrinks.trans {m₁ m₂ m₃ : ReservationManager} (h : m₁.Shrinks m₂) (h' : m₂.Shrinks m₃) :
    m₁.Shrinks m₃ :=
  ⟨h'.total.trans h.total, h'.allowance.trans h.allowance, h'.mode.trans h.mode,
    h'.used.trans h.used, h'.reserved.trans h.reserved⟩

/-- One turn of the sweep acts on the entry under its key only. -/
theorem expireEntry_spec (hm : m.Accounting) (now : TimePoint) (id : ReservationId) :
    (expireEntry now m id).Accounting ∧ m.Shrinks (expireEntry now m id) ∧
      ∀ k, (expireEntry now m id).reservations.find? k =
        (m.reservations.find? k).map fun r => if k = id then r.swept now else r := by
  unfold expireEntry
  cases hfind : m.reservations.find? id with
  | none =>
    refine ⟨hm, .refl m, fun k => ?_⟩
    by_cases hk : k = id
    · simp [hk, hfind]
    · simp [hk]
  | some r =>
    simp only
    split_ifs with hexp
    · obtain ⟨r2, hr2⟩ := ResourceVector.exists_trySub (hm.demand_le_reserved hfind hexp.1)
      have hres : m.expireUnsafe id r = { m with
          reservedSum := r2
          reservations := m.reservations.insert id { r with status := .expired } } := by
        simp only [expireUnsafe, hr2]
      rw [hres]
      refine ⟨hm.free_reserved hfind hexp.1 rfl hr2,
        ⟨rfl, rfl, rfl, le_rfl, ResourceVector.trySub_le hr2⟩, fun k => ?_⟩
      by_cases hk : k = id
      · simp [hk, hfind, ResourceReservation.swept, hexp]
      · simp [hk]
    · refine ⟨hm, .refl m, fun k => ?_⟩
      by_cases hk : k = id
      · simp [hk, hfind, ResourceReservation.swept, hexp]
      · simp [hk]

theorem swept_swept (now : TimePoint) (r : ResourceReservation) :
    (r.swept now).swept now = r.swept now := by
  unfold ResourceReservation.swept
  split_ifs <;> simp_all

theorem foldl_expireEntry_spec (hm : m.Accounting) (now : TimePoint) (ks : List ReservationId) :
    (ks.foldl (expireEntry now) m).Accounting ∧ m.Shrinks (ks.foldl (expireEntry now) m) ∧
      ∀ k, (ks.foldl (expireEntry now) m).reservations.find? k =
        (m.reservations.find? k).map fun r => if k ∈ ks then r.swept now else r := by
  induction ks generalizing m with
  | nil => exact ⟨hm, .refl m, fun k => by simp⟩
  | cons id ks ih =>
    obtain ⟨hacc, hshrink, hfind⟩ := expireEntry_spec hm now id
    obtain ⟨hacc', hshrink', hfind'⟩ := ih hacc
    refine ⟨hacc', hshrink.trans hshrink', fun k => ?_⟩
    rw [List.foldl_cons, hfind', hfind, Option.map_map]
    congr 1
    funext r
    by_cases hk : k = id <;> by_cases hks : k ∈ ks <;> simp [hk, hks, swept_swept]

/-- The sweep expires exactly the provisional entries past their lifetime. -/
theorem expireStale_spec (hm : m.Accounting) (now : TimePoint) :
    (m.expireStale now).Accounting ∧ m.Shrinks (m.expireStale now) ∧
      (m.expireStale now).reservations =
        m.reservations.mapValues fun _ r => r.swept now := by
  obtain ⟨hacc, hshrink, hfind⟩ :=
    foldl_expireEntry_spec hm now (m.reservations.entries.map Prod.fst)
  refine ⟨hacc, hshrink, OrdMap.ext_find? fun k => ?_⟩
  rw [expireStale, hfind, OrdMap.find?_mapValues]
  cases hk : m.reservations.find? k with
  | none => rfl
  | some r =>
    have hmem : k ∈ m.reservations.entries.map Prod.fst :=
      List.mem_map.mpr ⟨(k, r), OrdMap.find?_eq_some_iff.mp hk, rfl⟩
    simp only [Option.map_some, hmem, if_true]

end ReservationManager

/-! ## Histories of calls -/

/-- The operations that change a `ReservationManager`. -/
inductive ManagerOp
  | reserve (id : ReservationId) (owner : TenantId) (demand : ResourceVector) (ttl : Nanoseconds)
  | commit (id : ReservationId) (ar : AdmissionRequestId) (gen : AdmissionGeneration)
  | rollback (id : ReservationId)
  | release (id : ReservationId)
  | expireStale
  | setTotal (total : ResourceVector)
  | setOvercommitMode (mode : OvercommitMode)
  | setOvercommitAllowance (allowance : ResourceVector)

/-- A call: the operation and the clock reading it gets. -/
structure ManagerCall where
  now : TimePoint
  op : ManagerOp

inductive ManagerReply
  | reserved (result : Except Status ReservationId)
  | status (s : Status)
  | done

/-- The error a call returned. -/
def ManagerReply.error? : ManagerReply → Option Status
  | .reserved (.error s) => some s
  | .status s => if s.isOk then none else some s
  | .reserved (.ok _) | .done => none

/-- The errors of an operation that report a cached sum out of step with the table. -/
def ManagerOp.internalErrors : ManagerOp → List ErrorCode
  | .commit .. => [.reservationRollbackError, .reservationOverflow]
  | .rollback _ => [.reservationRollbackError]
  | .release _ => [.reservationRollbackError, .doubleRelease]
  | _ => []

/-- The entries whose lifetime an operation looks at. -/
def ManagerOp.Examines : ManagerOp → ReservationId → Prop
  | .commit id .., k => k = id
  | .expireStale, _ => True
  | _, _ => False

namespace ReservationManager

/-- A call on a manager. -/
def call (m : ReservationManager) (c : ManagerCall) : ManagerReply × ReservationManager :=
  match c.op with
  | .reserve id owner demand ttl =>
    let (result, m') := m.reserve c.now id owner demand ttl
    (.reserved result, m')
  | .commit id ar gen =>
    let (s, m') := m.commit c.now id ar gen
    (.status s, m')
  | .rollback id =>
    let (s, m') := m.rollback id
    (.status s, m')
  | .release id =>
    let (s, m') := m.release id
    (.status s, m')
  | .expireStale => (.done, m.expireStale c.now)
  | .setTotal total => (.done, m.setTotal total)
  | .setOvercommitMode mode => (.done, m.setOvercommitMode mode)
  | .setOvercommitAllowance allowance => (.done, m.setOvercommitAllowance allowance)

/-- The manager as a machine that starts empty. -/
def machine : Machine ReservationManager ManagerCall ManagerReply := ⟨{}, call⟩

/-- Everything the manager holds in a dimension. -/
def held (m : ReservationManager) (i : ResourceId) : ℕ :=
  m.usedSum.quantities i + m.reservedSum.quantities i

/-- What a call may do to a manager whose accounting is right. -/
structure CallLaw (m : ReservationManager) (c : ManagerCall) : Prop where
  /-- The accounting stays right. -/
  accounting : (machine.next m c).Accounting
  /-- No exit for a sum out of step is taken. -/
  noInternalError : ∀ s, (machine.reply m c).error? = some s → s.code ∉ c.op.internalErrors
  /-- An entry that a commit or a sweep finds past its lifetime does expire. -/
  expires : ∀ id r, m.reservations.find? id = some r → r.status = .reserved →
    c.now > r.expiresAt → c.op.Examines id →
    (machine.next m c).reservations.find? id = some { r with status := .expired }
  /-- A successful `reserve` ends inside the ceiling. -/
  withinCeiling : ∀ id, machine.reply m c = .reserved (.ok id) →
    ∀ i, (machine.next m c).held i ≤ ((machine.next m c).dimCeiling i).toNat
  /-- Nothing but a successful `reserve` holds more than before. -/
  noIncrease : (∀ id, machine.reply m c ≠ .reserved (.ok id)) →
    ∀ i, (machine.next m c).held i ≤ m.held i
  /-- A failed call changes nothing, except that a late commit expires its entry. -/
  errorUnchanged : ∀ s, (machine.reply m c).error? = some s → s.code ≠ .reservationExpired →
    machine.next m c = m

variable {m m' : ReservationManager} {now : TimePoint} {id : ReservationId} {s : Status}

theorem call_reserve {owner : TenantId} {demand : ResourceVector} {ttl : Nanoseconds}
    {result : Except Status ReservationId}
    (h : m.reserve now id owner demand ttl = (result, m')) :
    m.call ⟨now, .reserve id owner demand ttl⟩ = (.reserved result, m') := by
  simp only [call, h]

theorem call_commit {ar : AdmissionRequestId} {gen : AdmissionGeneration}
    (h : m.commit now id ar gen = (s, m')) :
    m.call ⟨now, .commit id ar gen⟩ = (.status s, m') := by
  simp only [call, h]

theorem call_rollback (h : m.rollback id = (s, m')) :
    m.call ⟨now, .rollback id⟩ = (.status s, m') := by
  simp only [call, h]

theorem call_release (h : m.release id = (s, m')) :
    m.call ⟨now, .release id⟩ = (.status s, m') := by
  simp only [call, h]

/-- The law of a call that is not a successful `reserve`. -/
theorem CallLaw.of_noIncrease {c : ManagerCall} {reply : ManagerReply}
    (h : m.call c = (reply, m')) (hacc : m'.Accounting) (hheld : ∀ i, m'.held i ≤ m.held i)
    (hok : ∀ id, reply ≠ .reserved (.ok id))
    (herr : ∀ s, reply.error? = some s →
      s.code ∉ c.op.internalErrors ∧ (s.code ≠ .reservationExpired → m' = m))
    (hexp : ∀ id r, m.reservations.find? id = some r → r.status = .reserved →
      c.now > r.expiresAt → c.op.Examines id →
      m'.reservations.find? id = some { r with status := .expired }) : m.CallLaw c := by
  have hnext : machine.next m c = m' := congrArg Prod.snd h
  have hreply : machine.reply m c = reply := congrArg Prod.fst h
  constructor
  · rwa [hnext]
  · rw [hreply]
    exact fun s hs => (herr s hs).1
  · rwa [hnext]
  · rw [hreply]
    exact fun id hid => absurd hid (hok id)
  · rw [hnext]
    exact fun _ => hheld
  · rw [hreply, hnext]
    exact fun s hs => (herr s hs).2

theorem Shrinks.held_le {m' : ReservationManager} (h : m.Shrinks m') (i : ResourceId) :
    m'.held i ≤ m.held i := Nat.add_le_add (h.used i) (h.reserved i)

theorem callLaw_reserve (hm : m.Accounting) (now : TimePoint) (id : ReservationId)
    (owner : TenantId) (demand : ResourceVector) (ttl : Nanoseconds) :
    m.CallLaw ⟨now, .reserve id owner demand ttl⟩ := by
  rcases reserve_cases m now id owner demand ttl with ⟨s, h⟩ | ⟨hnew, -, next, hadd, hle, h⟩
  · exact .of_noIncrease (call_reserve h) hm
      (fun _ => le_rfl) nofun (fun _ _ => ⟨nofun, fun _ => rfl⟩) (fun _ _ _ _ _ h => h.elim)
  · set m' : ReservationManager :=
      { m with
        reservedSum := next
        generation := m.nextGeneration
        reservations := m.reservations.insert id (m.provisional now id owner demand ttl) }
    have hcall : m.call ⟨now, .reserve id owner demand ttl⟩ = (.reserved (.ok id), m') :=
      call_reserve h
    have hnext : machine.next m ⟨now, .reserve id owner demand ttl⟩ = m' :=
      congrArg Prod.snd hcall
    have hreply : machine.reply m ⟨now, .reserve id owner demand ttl⟩ = .reserved (.ok id) :=
      congrArg Prod.fst hcall
    constructor
    · rw [hnext]
      exact hm.extend hnew hadd hle rfl rfl m.nextGeneration
    · rw [hreply]
      exact nofun
    · exact fun _ _ _ _ _ h => h.elim
    · rw [hnext]
      exact fun _ _ => hle
    · exact fun hno => absurd hreply (hno id)
    · rw [hreply]
      exact nofun

theorem ManagerReply.error?_status {s s' : Status} :
    (ManagerReply.status s).error? = some s' ↔ s.isOk = false ∧ s = s' := by
  cases h : s.isOk <;> simp [ManagerReply.error?, h]

theorem callLaw_commit (hm : m.Accounting) (now : TimePoint) (id : ReservationId)
    (ar : AdmissionRequestId) (gen : AdmissionGeneration) :
    m.CallLaw ⟨now, .commit id ar gen⟩ := by
  rcases commit_cases hm now id ar gen with ⟨s, h, hcode, hnot⟩ |
    ⟨r, r2, hfind, hr, hlate, hsub, h⟩ | ⟨r, r2, u2, hfind, hr, hlate, hsub, hadd, h⟩
  · refine .of_noIncrease (call_commit h) hm (fun _ => le_rfl) nofun
      (fun s' hs' => ?_) ?_
    · obtain ⟨-, rfl⟩ := ManagerReply.error?_status.mp hs'
      refine ⟨fun hin => ?_, fun _ => rfl⟩
      rcases List.mem_cons.mp hin with hc | hc <;> simp_all
    · rintro _ r hr hres - rfl
      exact absurd hres (hnot r hr)
  · refine .of_noIncrease (call_commit h) (hm.free_reserved hfind hr rfl hsub)
      (fun i => Nat.add_le_add_left (ResourceVector.trySub_le hsub i) _) nofun
      (fun s' hs' => ?_) ?_
    · obtain ⟨-, rfl⟩ := ManagerReply.error?_status.mp hs'
      exact ⟨by simp [ManagerOp.internalErrors, Status.failure], fun hne => absurd rfl hne⟩
    · rintro _ r' hr' - - rfl
      obtain rfl := Option.some.inj (hfind.symm.trans hr')
      exact OrdMap.find?_insert_self _ _ _
  · have hq := ResourceVector.trySub_eq_some_iff.mp hsub
    have hu := ResourceVector.tryAdd_eq_some_iff.mp hadd
    refine .of_noIncrease (call_commit h) (hm.promote hfind hr ar gen hsub hadd)
      (fun i => ?_) nofun (fun s' hs' => ?_) ?_
    · simp only [held, hq, hu, Pi.add_apply]
      omega
    · exact absurd (ManagerReply.error?_status.mp hs').1 (by simp)
    · rintro _ r' hr' - hlate' rfl
      obtain rfl := Option.some.inj (hfind.symm.trans hr')
      exact absurd hlate' hlate

theorem callLaw_rollback (hm : m.Accounting) (now : TimePoint) (id : ReservationId) :
    m.CallLaw ⟨now, .rollback id⟩ := by
  rcases rollback_cases hm id with ⟨s, h, hcode, -⟩ | ⟨r, r2, hfind, hr, hsub, h⟩
  · refine .of_noIncrease (call_rollback h) hm (fun _ => le_rfl) nofun
      (fun s' hs' => ?_) (fun _ _ _ _ _ h => h.elim)
    obtain ⟨-, rfl⟩ := ManagerReply.error?_status.mp hs'
    refine ⟨fun hin => ?_, fun _ => rfl⟩
    rcases List.mem_cons.mp hin with hc | hc <;> simp_all
  · exact .of_noIncrease (call_rollback h) (hm.free_reserved hfind hr rfl hsub)
      (fun i => Nat.add_le_add_left (ResourceVector.trySub_le hsub i) _) nofun
      (fun s' hs' => absurd (ManagerReply.error?_status.mp hs').1 (by simp))
      (fun _ _ _ _ _ h => h.elim)

theorem callLaw_release (hm : m.Accounting) (now : TimePoint) (id : ReservationId) :
    m.CallLaw ⟨now, .release id⟩ := by
  rcases release_cases hm id with ⟨-, h⟩ | ⟨r, -, -, h⟩ | ⟨r, r2, u2, hfind, hcase, h⟩
  · refine .of_noIncrease (call_release h) hm (fun _ => le_rfl) nofun
      (fun s' hs' => ?_) (fun _ _ _ _ _ h => h.elim)
    obtain ⟨-, rfl⟩ := ManagerReply.error?_status.mp hs'
    exact ⟨by simp [ManagerOp.internalErrors, Status.failure], fun _ => rfl⟩
  · exact .of_noIncrease (call_release h) hm (fun _ => le_rfl) nofun
      (fun s' hs' => absurd (ManagerReply.error?_status.mp hs').1 (by simp))
      (fun _ _ _ _ _ h => h.elim)
  · refine .of_noIncrease (call_release h) ?_ (fun i => ?_) nofun
      (fun s' hs' => absurd (ManagerReply.error?_status.mp hs').1 (by simp))
      (fun _ _ _ _ _ h => h.elim)
    · rcases hcase with ⟨hr, hsub, rfl⟩ | ⟨hr, hsub, rfl⟩ | ⟨hr, rfl, rfl⟩
      · exact hm.free_reserved hfind hr rfl hsub
      · exact hm.free_used hfind hr rfl hsub
      · exact hm.replace_settled hfind (by simp [hr, ReservationStatus.isLive]) rfl
    · rcases hcase with ⟨hr, hsub, rfl⟩ | ⟨hr, hsub, rfl⟩ | ⟨hr, rfl, rfl⟩
      · exact Nat.add_le_add_left (ResourceVector.trySub_le hsub i) _
      · exact Nat.add_le_add_right (ResourceVector.trySub_le hsub i) _
      · exact le_rfl

theorem Accounting.commit (hm : m.Accounting) (now : TimePoint) (id : ReservationId)
    (ar : AdmissionRequestId) (gen : AdmissionGeneration) :
    (m.commit now id ar gen).2.Accounting := (callLaw_commit hm now id ar gen).accounting

theorem Accounting.rollback (hm : m.Accounting) (id : ReservationId) :
    (m.rollback id).2.Accounting := (callLaw_rollback hm 0 id).accounting

theorem Accounting.release (hm : m.Accounting) (id : ReservationId) :
    (m.release id).2.Accounting := (callLaw_release hm 0 id).accounting

theorem callLaw_expireStale (hm : m.Accounting) (now : TimePoint) :
    m.CallLaw ⟨now, .expireStale⟩ := by
  obtain ⟨hacc, hshrink, htable⟩ := expireStale_spec hm now
  refine .of_noIncrease rfl hacc hshrink.held_le nofun nofun fun id r hr hres hlate _ => ?_
  rw [htable, OrdMap.find?_mapValues, hr, Option.map_some, ResourceReservation.swept,
    if_pos ⟨hres, hlate⟩]

/-- Every call on a manager whose accounting is right follows the law. -/
theorem callLaw (hm : m.Accounting) (c : ManagerCall) : m.CallLaw c := by
  obtain ⟨now, op⟩ := c
  cases op with
  | reserve id owner demand ttl => exact callLaw_reserve hm now id owner demand ttl
  | commit id ar gen => exact callLaw_commit hm now id ar gen
  | rollback id => exact callLaw_rollback hm now id
  | release id => exact callLaw_release hm now id
  | expireStale => exact callLaw_expireStale hm now
  | setTotal total =>
    exact .of_noIncrease rfl (hm.configure total m.overcommitAllowance m.overcommitMode)
      (fun _ => le_rfl) nofun nofun (fun _ _ _ _ _ h => h.elim)
  | setOvercommitMode mode =>
    exact .of_noIncrease rfl (hm.configure m.total m.overcommitAllowance mode)
      (fun _ => le_rfl) nofun nofun (fun _ _ _ _ _ h => h.elim)
  | setOvercommitAllowance allowance =>
    exact .of_noIncrease rfl (hm.configure m.total allowance m.overcommitMode)
      (fun _ => le_rfl) nofun nofun (fun _ _ _ _ _ h => h.elim)

theorem accounting_after (h : List ManagerCall) : (machine.after h).Accounting :=
  Machine.invariant (P := Accounting) (Accounting.of_empty .zero .zero .none 1)
    (fun _ c hm => (callLaw hm c).accounting) h

/-- From an empty manager, after any calls, the sums are exact and the next call, whatever it
is, follows the law. -/
theorem accounting_of_calls (h : List ManagerCall) :
    (machine.after h).Accounting ∧ ∀ c, (machine.after h).CallLaw c :=
  ⟨accounting_after h, callLaw (accounting_after h)⟩

end ReservationManager

end Fabric
