import Fabric.Engine.Steps

/-!
# The link between requests and reservations

A record points at a reservation through its last decision. `Links` collects what holds of
these pointers in every reachable state, whatever the calls were: every record has a
decision, a decision that names a reservation names an entry of the table under a real
generation, no reservation is named twice, and a named entry that is committed belongs to an
admitted record.

* `Links.put_record`, `Links.put_entry`: when one record or one entry may change.
* `linked_next`, `linked_after`: every call keeps the links.
-/

namespace Fabric

open Support

variable {F : Type} [Double F]

/-- The lifecycles in which an operation leaves a record. -/
def RequestLifecycle.isSettled : RequestLifecycle → Bool
  | deferred | reserved | admitted | released | rejected | cancelled => true
  | unknown | proposed | evaluating | expired => false

/-- The request table of an engine. -/
abbrev Requests (F : Type) [Double F] := OrdMap AdmissionRequestId (RequestRecord F)

/-- The reservation table of an engine. -/
abbrev Reservations := OrdMap ReservationId ResourceReservation

/-- Record `record` of request `x` points at reservation `rid`. -/
structure Names (requests : Requests F) (x : AdmissionRequestId) (record : RequestRecord F)
    (rid : ReservationId) : Prop where
  find : requests.find? x = some record
  link : record.reservation? = some rid

/-- What always holds between the request table and the reservation table. -/
structure Links (requests : Requests F) (table : Reservations) : Prop where
  decided : ∀ x record, requests.find? x = some record → record.lastDecision.isSome
  settled : ∀ x record, requests.find? x = some record → record.lifecycle.isSettled = true
  present : ∀ x record rid, Names requests x record rid → ∃ r, table.find? rid = some r
  real : ∀ x record dec, requests.find? x = some record → record.lastDecision = some dec →
    (dec.admissionGeneration = ⟨0⟩ ↔ dec.reservationId = none)
  unique : ∀ x y record record' rid, Names requests x record rid →
    Names requests y record' rid → x = y
  committed : ∀ x record rid r, Names requests x record rid → table.find? rid = some r →
    r.status = .committed → record.lifecycle = .admitted ∧ r.admissionRequestId = some x
  keyed : ∀ rid r, table.find? rid = some r → r.id = rid

theorem AdmissionFabric.releaseRecord_lastDecision (now : TimePoint) (rid : ReservationId)
    (record : RequestRecord F) :
    (releaseRecord now rid record).lastDecision = record.lastDecision := by
  unfold releaseRecord
  split_ifs <;> rfl

namespace Links

variable {requests : Requests F} {table : Reservations} {x : AdmissionRequestId}
  {record record' : RequestRecord F} {rid : ReservationId} {r r' : ResourceReservation}

theorem empty : Links (.empty : Requests F) .empty where
  decided _ _ h := by cases h
  settled _ _ h := by cases h
  present _ _ _ h := by cases h.find
  real _ _ _ h := by cases h
  unique _ _ _ _ _ h := by cases h.find
  committed _ _ _ _ h := by cases h.find
  keyed _ _ h := by cases h

theorem names_insert {y : AdmissionRequestId} {record₁ : RequestRecord F} :
    Names (requests.insert x record') y record₁ rid ↔
      y = x ∧ record₁ = record' ∧ record'.reservation? = some rid ∨
        y ≠ x ∧ Names requests y record₁ rid := by
  constructor
  · rintro ⟨hfind, hlink⟩
    rw [OrdMap.find?_insert] at hfind
    split_ifs at hfind with hy
    · obtain rfl := Option.some.inj hfind
      exact .inl ⟨hy, rfl, hlink⟩
    · exact .inr ⟨hy, hfind, hlink⟩
  · rintro (⟨rfl, rfl, hlink⟩ | ⟨hy, hfind, hlink⟩)
    · exact ⟨OrdMap.find?_insert_self _ _ _, hlink⟩
    · exact ⟨by rw [OrdMap.find?_insert, if_neg hy, hfind], hlink⟩

/-- Put a record whose pointer, if it has one, is its own. -/
theorem put_record (h : Links requests table) {dec : AdmissionDecision F}
    (hdec : record'.lastDecision = some dec) (hsettled : record'.lifecycle.isSettled = true)
    (hreal : dec.admissionGeneration = ⟨0⟩ ↔ dec.reservationId = none)
    (hlink : ∀ rid, record'.reservation? = some rid → (∃ r, table.find? rid = some r) ∧
      ∀ y record, y ≠ x → ¬ Names requests y record rid)
    (hcom : ∀ rid r, record'.reservation? = some rid → table.find? rid = some r →
      r.status = .committed → record'.lifecycle = .admitted ∧ r.admissionRequestId = some x) :
    Links (requests.insert x record') table where
  decided y record hfind := by
    rw [OrdMap.find?_insert] at hfind
    split_ifs at hfind
    · obtain rfl := Option.some.inj hfind
      simp [hdec]
    · exact h.decided y record hfind
  settled y record hfind := by
    rw [OrdMap.find?_insert] at hfind
    split_ifs at hfind
    · obtain rfl := Option.some.inj hfind
      exact hsettled
    · exact h.settled y record hfind
  present y record rid hn := by
    rcases names_insert.mp hn with ⟨rfl, rfl, hl⟩ | ⟨-, hn⟩
    · exact (hlink rid hl).1
    · exact h.present y record rid hn
  real y record dec' hfind hdec' := by
    rw [OrdMap.find?_insert] at hfind
    split_ifs at hfind
    · obtain rfl := Option.some.inj hfind
      obtain rfl := Option.some.inj (hdec.symm.trans hdec')
      exact hreal
    · exact h.real y record dec' hfind hdec'
  unique y z record₁ record₂ rid hy hz := by
    rcases names_insert.mp hy with ⟨hyx, -, hl⟩ | ⟨hyx, hy⟩ <;>
      rcases names_insert.mp hz with ⟨hzx, -, hl'⟩ | ⟨hzx, hz⟩
    · exact hyx.trans hzx.symm
    · exact absurd hz ((hlink rid hl).2 z record₂ hzx)
    · exact absurd hy ((hlink rid hl').2 y record₁ hyx)
    · exact h.unique y z record₁ record₂ rid hy hz
  committed y record rid r hn hr hst := by
    rcases names_insert.mp hn with ⟨rfl, rfl, hl⟩ | ⟨-, hn⟩
    · exact hcom rid r hl hr hst
    · exact h.committed y record rid r hn hr hst
  keyed := h.keyed

/-- Move the lifecycle of a record and keep its decision. -/
theorem move_record (h : Links requests table) (hfind : requests.find? x = some record)
    (life : RequestLifecycle) (now : TimePoint) (hsettled : life.isSettled = true)
    (hcom : ∀ rid r, record.reservation? = some rid → table.find? rid = some r →
      r.status = .committed → life = .admitted) :
    Links (requests.insert x { record with lifecycle := life, updatedAt := now }) table := by
  obtain ⟨dec, hdec⟩ := Option.isSome_iff_exists.mp (h.decided x record hfind)
  refine h.put_record hdec hsettled (h.real x record dec hfind hdec) (fun rid hl => ?_)
    fun rid r hl hr hst => ?_
  · exact ⟨h.present x record rid ⟨hfind, hl⟩,
      fun y record' hy hn => hy (h.unique y x record' record rid hn ⟨hfind, hl⟩)⟩
  · exact ⟨hcom rid r hl hr hst, (h.committed x record rid r ⟨hfind, hl⟩ hr hst).2⟩

/-- Put an entry that is not committed, or whose record knows. -/
theorem put_entry (h : Links requests table) (hid : r'.id = rid)
    (hcom : r'.status = .committed → ∀ x record, Names requests x record rid →
      record.lifecycle = .admitted ∧ r'.admissionRequestId = some x) :
    Links requests (table.insert rid r') where
  decided := h.decided
  settled := h.settled
  present y record rid₁ hn := by
    obtain ⟨r, hr⟩ := h.present y record rid₁ hn
    rw [OrdMap.find?_insert]
    split_ifs
    · exact ⟨r', rfl⟩
    · exact ⟨r, hr⟩
  real := h.real
  unique := h.unique
  committed y record rid₁ r hn hr hst := by
    rw [OrdMap.find?_insert] at hr
    split_ifs at hr with hk
    · obtain rfl := Option.some.inj hr
      exact hcom hst y record (hk ▸ hn)
    · exact h.committed y record rid₁ r hn hr hst
  keyed rid₁ r hr := by
    rw [OrdMap.find?_insert] at hr
    split_ifs at hr with hk
    · obtain rfl := Option.some.inj hr
      exact hid.trans hk.symm
    · exact h.keyed rid₁ r hr

/-- Move an entry out of the live states. -/
theorem settle_entry (h : Links requests table) (hr : table.find? rid = some r)
    {st : ReservationStatus} (hst : st ≠ .committed) :
    Links requests (table.insert rid { r with status := st }) :=
  h.put_entry (h.keyed rid r hr) fun hc => absurd hc hst

/-- Mark the records of a released reservation. -/
theorem release_records (h : Links requests table) (now : TimePoint) (rid : ReservationId)
    (hnot : ∀ r, table.find? rid = some r → r.status ≠ .committed) :
    Links (requests.mapValues fun _ record => AdmissionFabric.releaseRecord now rid record)
      table := by
  have hdec := AdmissionFabric.releaseRecord_lastDecision now rid (F := F)
  have hback : ∀ y record₁, (requests.mapValues fun _ record =>
      AdmissionFabric.releaseRecord now rid record).find? y = some record₁ →
      ∃ record, requests.find? y = some record ∧
        record₁ = AdmissionFabric.releaseRecord now rid record := by
    intro y record₁ hfind
    rw [OrdMap.find?_mapValues] at hfind
    obtain ⟨record, hrecord, rfl⟩ := Option.map_eq_some_iff.mp hfind
    exact ⟨record, hrecord, rfl⟩
  have hnames : ∀ y record₁ rid₁, Names (requests.mapValues fun _ record =>
      AdmissionFabric.releaseRecord now rid record) y record₁ rid₁ →
      ∃ record, Names requests y record rid₁ ∧
        record₁ = AdmissionFabric.releaseRecord now rid record := by
    rintro y record₁ rid₁ ⟨hfind, hlink⟩
    obtain ⟨record, hrecord, rfl⟩ := hback y record₁ hfind
    exact ⟨record, ⟨hrecord, by rwa [RequestRecord.reservation?, hdec] at hlink⟩, rfl⟩
  constructor
  · intro y record₁ hfind
    obtain ⟨record, hrecord, rfl⟩ := hback y record₁ hfind
    rw [hdec]
    exact h.decided y record hrecord
  · intro y record₁ hfind
    obtain ⟨record, hrecord, rfl⟩ := hback y record₁ hfind
    unfold AdmissionFabric.releaseRecord
    split_ifs
    · rfl
    · exact h.settled y record hrecord
  · intro y record₁ rid₁ hn
    obtain ⟨record, hn, -⟩ := hnames y record₁ rid₁ hn
    exact h.present y record rid₁ hn
  · intro y record₁ dec hfind hlast
    obtain ⟨record, hrecord, rfl⟩ := hback y record₁ hfind
    exact h.real y record dec hrecord (by rwa [hdec] at hlast)
  · intro y z record₁ record₂ rid₁ hy hz
    obtain ⟨record, hy, -⟩ := hnames y record₁ rid₁ hy
    obtain ⟨record', hz, -⟩ := hnames z record₂ rid₁ hz
    exact h.unique y z record record' rid₁ hy hz
  · intro y record₁ rid₁ r hn hr hst
    obtain ⟨record, hold, rfl⟩ := hnames y record₁ rid₁ hn
    obtain ⟨hlife, hreq⟩ := h.committed y record rid₁ r hold hr hst
    refine ⟨?_, hreq⟩
    unfold AdmissionFabric.releaseRecord
    split_ifs with hrel
    · obtain rfl : rid₁ = rid := Option.some.inj (hold.link.symm.trans hrel.1)
      exact absurd hst (hnot r hr)
    · exact hlife
  · exact h.keyed

end Links

/-! ## The links over runs -/

theorem Refusal.Proper.isSettled {r : Refusal F} (h : r.Proper) : r.life.isSettled = true := by
  rcases h.outcome with ⟨hl, -⟩ | ⟨hl, -⟩ <;> rw [hl] <;> rfl

namespace AdmissionFabric

/-- What holds of every engine that calls have led to. -/
structure Linked (f : AdmissionFabric F) : Prop where
  links : Links f.requests f.table
  generation : f.admissionGeneration ≠ ⟨0⟩
  accounting : f.reservations.Accounting

variable {f : AdmissionFabric F} {c : EngineCall F} {reply : EngineReply F}
  {f' : AdmissionFabric F}

/-- An operation leaves every record in a settled lifecycle. -/
theorem settle_isSettled (h : Links f.requests f.table) {x : AdmissionRequestId}
    {base : RequestRecord F} (hbase : base.lifecycle = .proposed) (now : TimePoint)
    {life : RequestLifecycle} (hlife : life.isSettled = true) (dec : AdmissionDecision F) :
    (((f.requests.find? x).getD base).settle now life dec).lifecycle.isSettled = true := by
  cases hfind : f.requests.find? x with
  | none =>
    rw [Option.getD_none, RequestRecord.settle_lifecycle_of_new (.inl hbase), hlife]
  | some record =>
    have hrecord := h.settled x record hfind
    rw [Option.getD_some, RequestRecord.settle_lifecycle_of_old, hrecord]
    rintro (hp | he)
    · simp [hp, RequestLifecycle.isSettled] at hrecord
    · simp [he, RequestLifecycle.isSettled] at hrecord

theorem links_effect (h : f.Linked) (he : f.CallEffect c reply f') :
    Links f'.requests f'.table := by
  have hl := h.links
  cases he with
  | configured _ hkept => rwa [hkept.requests, hkept.table]
  | failed _ _ _ _ hkept => rwa [hkept.requests, hkept.table]
  | refused d r base _ _ _ hproper hbase hrequests htable hgen =>
    rw [hrequests, htable]
    have hnone : ∀ rid, ¬ (((f.requests.find? d.admissionRequestId).getD base).settle c.now
        r.life r.decision).reservation? = some rid := by
      simp [hproper.reservation]
    refine hl.put_record RequestRecord.settle_lastDecision
      (settle_isSettled hl hbase _ hproper.isSettled _) ?_ (fun rid hrid => absurd hrid (hnone rid))
      fun rid _ hrid => absurd hrid (hnone rid)
    exact iff_of_true hproper.generation hproper.reservation
  | admitted d a dec rid entry _ _ _ hrid hdec hnew hstatus hid _ hrequests htable _ =>
    rw [hrequests, htable]
    have hput : Links f.requests (f.table.insert rid entry) :=
      hl.put_entry hid fun hc => absurd (hstatus.symm.trans hc) (by decide)
    refine hput.put_record RequestRecord.settle_lastDecision
      (settle_isSettled hl rfl _ rfl _) ?_ (fun rid' hrid' => ?_) fun rid' r hrid' hr hst => ?_
    · rw [hdec, hrid]
      exact iff_of_false h.generation (by simp)
    · obtain rfl : rid = rid' := by simpa [hrid] using hrid'
      refine ⟨⟨entry, OrdMap.find?_insert_self _ _ _⟩, fun y record _ hn => ?_⟩
      obtain ⟨r, hr⟩ := hl.present y record rid hn
      rw [hnew] at hr
      cases hr
    · obtain rfl : rid = rid' := by simpa [hrid] using hrid'
      obtain rfl : entry = r := by simpa using hr
      exact absurd (hstatus.symm.trans hst) (by decide)
  | committed x g record dec rid r _ _ hfind hdec hg hrid hr hstatus htime hrequests htable _ =>
    rw [hrequests, htable]
    have hlink : record.reservation? = some rid := by simp [RequestRecord.reservation?, hdec, hrid]
    have hmove := hl.move_record hfind .admitted c.now rfl fun _ _ _ _ _ => rfl
    refine hmove.put_entry (hl.keyed rid r hr) fun _ y record₁ hn => ?_
    rcases Links.names_insert.mp hn with ⟨rfl, rfl, -⟩ | ⟨hy, hn⟩
    · exact ⟨rfl, rfl⟩
    · exact absurd (hl.unique y x record₁ record rid hn ⟨hfind, hlink⟩) hy
  | lapsed x g record dec rid r s _ _ _ _ _ _ _ hr _ _ hrequests htable _ =>
    rw [hrequests, htable]
    exact hl.settle_entry hr (by decide)
  | released rid r st _ _ hr hst hrequests htable _ =>
    rw [hrequests, htable]
    have hne : st ≠ .committed := by rcases hst with rfl | rfl <;> decide
    refine (hl.settle_entry hr hne).release_records c.now rid fun r' hr' => ?_
    obtain rfl : { r with status := st } = r' := by simpa using hr'
    exact hne
  | cancelled x record _ _ hfind hlife hrequests htable _ =>
    rw [hrequests, htable]
    refine hl.move_record hfind .cancelled c.now rfl fun rid r hrid hr hst => ?_
    obtain ⟨hadm, -⟩ := hl.committed x record rid r ⟨hfind, hrid⟩ hr hst
    rcases hlife with hopen | ⟨hres, -⟩
    · simp [hadm, RequestLifecycle.isOpen] at hopen
    · simp [hadm] at hres
  | rolledBack x record rid r _ _ hfind hlife hrid hr hstatus hrequests htable _ =>
    rw [hrequests, htable]
    refine Links.settle_entry (hl.move_record hfind .cancelled c.now rfl
      fun rid r hrid hr hst => ?_) hr (by decide)
    obtain ⟨hadm, -⟩ := hl.committed x record rid r ⟨hfind, hrid⟩ hr hst
    simp [hadm] at hlife

theorem next_ne_zero {g : AdmissionGeneration} (h : g ≠ ⟨0⟩) : g.next ≠ ⟨0⟩ := by
  unfold Id.next
  split_ifs with hmax
  · exact h
  · intro hz
    have hv : g.value + 1 = 0 := congrArg Id.value hz
    have hn : (g.value.toNat + 1) % 2 ^ 64 = 0 := congrArg UInt64.toNat hv
    have hlt := g.value.toNat_lt
    omega

/-- Every call moves the generation counter on by one or not at all. -/
theorem CallEffect.generation (he : f.CallEffect c reply f') :
    f'.admissionGeneration = f.admissionGeneration ∨
      f'.admissionGeneration = f.admissionGeneration.next := by
  cases he with
  | configured _ hkept => exact .inl hkept.generation
  | failed _ _ _ _ hkept => exact .inl hkept.generation
  | admitted _ _ _ _ _ _ _ _ _ _ _ _ _ _ _ _ hgen => exact .inr hgen
  | refused | committed | lapsed | released | cancelled | rolledBack => exact .inl (by assumption)

/-- Every call keeps the links. -/
theorem linked_next (h : f.Linked) (c : EngineCall F) : (f.call c).2.Linked where
  links := links_effect h (call_effect h.accounting c)
  generation := by
    rcases (call_effect h.accounting c).generation with hgen | hgen <;> rw [hgen]
    · exact h.generation
    · exact next_ne_zero h.generation
  accounting := accounting_next h.accounting c

theorem linked_after (h : List (EngineCall F)) : ((engine F).after h).Linked :=
  (engine F).invariant (P := Linked)
    ⟨Links.empty, by simp [engine], accounting_after []⟩ (fun _ c hf => linked_next hf c) h

end AdmissionFabric

end Fabric
