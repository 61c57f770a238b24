import Fabric.Engine.Links

/-!
# What becomes of an entry, a name and a grant

A call moves on one entry of the table, or adds one if it is an admission, or leaves the table as
it is (`CallEffect.table_cases`). So entries are never removed and their demand and lifetime never
change; a status only moves on (`CallEffect.entry_kept`). A record is never removed and its
lifecycle moves by the rules of `Moves` (`CallEffect.record_kept`). A name of an entry that is
already there is an old name (`CallEffect.names_back`): only the call that creates an entry makes a
record point at it. So a reservation is named by the request it was created for or by nobody
(`CreatedFor.names`).
-/

namespace Fabric

open Support

variable {F : Type} [Double F]

/-- What an entry may become: the claim stays, the status moves on. -/
structure ResourceReservation.Follows (r r' : ResourceReservation) : Prop where
  id : r'.id = r.id
  demand : r'.demand = r.demand
  expiresAt : r'.expiresAt = r.expiresAt
  status : r' = r ∨ r.status = .reserved ∧ r'.status = .committed ∨ r'.status.isLive = false

namespace ResourceReservation.Follows

variable {r r' : ResourceReservation}

theorem refl (r : ResourceReservation) : r.Follows r := ⟨rfl, rfl, rfl, .inl rfl⟩

/-- A dead entry stays dead. -/
theorem dead (h : r.Follows r') (hr : r.status.isLive = false) : r'.status.isLive = false := by
  rcases h.status with rfl | ⟨hres, -⟩ | hdead
  · exact hr
  · simp [hres, ReservationStatus.isLive] at hr
  · exact hdead

/-- A committed entry stays as it is or dies. -/
theorem committed (h : r.Follows r') (hr : r.status = .committed) :
    r' = r ∨ r'.status.isLive = false := by
  rcases h.status with rfl | ⟨hres, -⟩ | hdead
  · exact .inl rfl
  · cases hr.symm.trans hres
  · exact .inr hdead

end ResourceReservation.Follows

namespace AdmissionFabric

variable {f f' : AdmissionFabric F} {c : EngineCall F} {reply : EngineReply F}
  {x : AdmissionRequestId} {rid : ReservationId} {r : ResourceReservation}

/-- What a call does to the table: nothing, or one entry moves on, or an admission adds one. -/
theorem CallEffect.table_cases (he : f.CallEffect c reply f') :
    f'.table = f.table ∨
      (∃ rid r r', f.table.find? rid = some r ∧ r.Follows r' ∧ f'.table = f.table.insert rid r') ∨
      ∃ d, ∃ a : f.Admission c.now d, ∃ dec rid entry, c.op = .evaluate d ∧
        reply = .decision dec ∧ dec.reservationId = some rid ∧ f.table.find? rid = none ∧
        entry.demand = a.clearance.forecast.demand ∧ f'.table = f.table.insert rid entry := by
  have move : ∀ rid r r', f.table.find? rid = some r → f'.table = f.table.insert rid r' →
      r.Follows r' → ∃ rid r r', f.table.find? rid = some r ∧ r.Follows r' ∧
        f'.table = f.table.insert rid r' :=
    fun rid r r' hr htable hfollows => ⟨rid, r, r', hr, hfollows, htable⟩
  cases he with
  | configured _ hkept => exact .inl hkept.table
  | failed _ _ _ _ hkept => exact .inl hkept.table
  | refused _ _ _ _ _ _ _ _ _ htable => exact .inl htable
  | cancelled _ _ _ _ _ _ _ htable => exact .inl htable
  | admitted d a dec rid entry hop hreply _ hrid _ hnew _ _ hdemand _ htable =>
    exact .inr (.inr ⟨d, a, dec, rid, entry, hop, hreply, hrid, hnew, hdemand, htable⟩)
  | committed _ _ _ _ _ _ _ _ _ _ _ _ hr hstatus _ _ htable =>
    exact .inr (.inl (move _ _ _ hr htable ⟨rfl, rfl, rfl, .inr (.inl ⟨hstatus, rfl⟩)⟩))
  | lapsed _ _ _ _ _ _ _ _ _ _ _ _ _ _ hr _ _ _ htable =>
    exact .inr (.inl (move _ _ _ hr htable ⟨rfl, rfl, rfl, .inr (.inr rfl)⟩))
  | released _ _ _ _ _ hr hst _ htable =>
    refine .inr (.inl (move _ _ _ hr htable ⟨rfl, rfl, rfl, .inr (.inr ?_)⟩))
    rcases hst with rfl | rfl <;> rfl
  | rolledBack _ _ _ _ _ _ _ _ _ hr _ _ htable =>
    exact .inr (.inl (move _ _ _ hr htable ⟨rfl, rfl, rfl, .inr (.inr rfl)⟩))

theorem CallEffect.entry_kept (he : f.CallEffect c reply f') (hr : f.table.find? rid = some r) :
    ∃ r', f'.table.find? rid = some r' ∧ r.Follows r' := by
  rcases he.table_cases with htable | ⟨rid₁, r₁, r₁', hr₁, hfollows, htable⟩ |
    ⟨_, _, _, rid₁, _, -, -, -, hnew, -, htable⟩
  · exact ⟨r, by rw [htable, hr], .refl r⟩
  · rw [htable, OrdMap.find?_insert]
    split_ifs with hk
    · subst hk
      obtain rfl := Option.some.inj (hr.symm.trans hr₁)
      exact ⟨r₁', rfl, hfollows⟩
    · exact ⟨r, hr, .refl r⟩
  · rw [htable, OrdMap.find?_insert, if_neg]
    · exact ⟨r, hr, .refl r⟩
    · rintro rfl
      cases hnew.symm.trans hr

/-- Only an admission adds an entry. -/
theorem CallEffect.entry_new (he : f.CallEffect c reply f') {r' : ResourceReservation}
    (hnone : f.table.find? rid = none) (hr' : f'.table.find? rid = some r') :
    ∃ d, ∃ a : f.Admission c.now d, ∃ dec, c.op = .evaluate d ∧ reply = .decision dec ∧
      dec.reservationId = some rid ∧ r'.demand = a.clearance.forecast.demand := by
  rcases he.table_cases with htable | ⟨rid₁, r₁, r₁', hr₁, -, htable⟩ |
    ⟨d, a, dec, rid₁, entry, hop, hreply, hrid, -, hdemand, htable⟩
  · rw [htable, hnone] at hr'
    cases hr'
  · rw [htable, OrdMap.find?_insert] at hr'
    split_ifs at hr' with hk
    · subst hk
      cases hnone.symm.trans hr₁
    · cases hnone.symm.trans hr'
  · rw [htable, OrdMap.find?_insert] at hr'
    split_ifs at hr' with hk
    · subst hk
      obtain rfl := Option.some.inj hr'
      exact ⟨d, a, dec, hop, hreply, hrid, hdemand⟩
    · cases hnone.symm.trans hr'

/-- What is provisional after a call was so before. -/
theorem CallEffect.reserved_back (he : f.CallEffect c reply f') {r' : ResourceReservation}
    (hr : f.table.find? rid = some r)
    (hr' : f'.table.find? rid = some r') (hst : r'.status = .reserved) : r.status = .reserved := by
  obtain ⟨r₁, hr₁, hfollows⟩ := he.entry_kept hr
  obtain rfl := Option.some.inj (hr'.symm.trans hr₁)
  rcases hfollows.status with rfl | ⟨-, hcom⟩ | hdead
  · exact hst
  · cases hst.symm.trans hcom
  · simp [hst, ReservationStatus.isLive] at hdead

/-- The call is a commit that succeeds: in time, with the generation of the stored decision,
on a provisional entry. -/
structure Commits (f : AdmissionFabric F) (c : EngineCall F) (x : AdmissionRequestId)
    (record : RequestRecord F) (dec : AdmissionDecision F) (rid : ReservationId)
    (r : ResourceReservation) : Prop where
  op : c.op = .commit x dec.admissionGeneration
  find : f.requests.find? x = some record
  decision : record.lastDecision = some dec
  link : dec.reservationId = some rid
  entry : f.table.find? rid = some r
  status : r.status = .reserved
  time : ¬ c.now > r.expiresAt

theorem Commits.names {record : RequestRecord F} {dec : AdmissionDecision F}
    (h : f.Commits c x record dec rid r) : Names f.requests x record rid :=
  ⟨h.find, by simp [RequestRecord.reservation?, h.decision, h.link]⟩

/-- What such a commit answers, and what becomes of its record. -/
theorem Commits.effect {record : RequestRecord F} {dec : AdmissionDecision F} (hf : f.Linked)
    (h : f.Commits c x record dec rid r) :
    (f.call c).1 = .status .success ∧ (f.call c).2.requests = f.requests.insert x
      { record with lifecycle := .admitted, updatedAt := c.now } := by
  have he := call_effect hf.accounting c
  generalize (f.call c).1 = answer at he ⊢
  generalize (f.call c).2 = f' at he ⊢
  have hop := h.op
  cases he with
  | committed y g record₁ dec₁ rid₁ r₁ hop' hreply hfind _ _ _ _ _ _ hrequests =>
    obtain ⟨rfl, -⟩ : x = y ∧ dec.admissionGeneration = g := by simpa [hop'] using hop.symm
    obtain rfl := Option.some.inj (h.find.symm.trans hfind)
    exact ⟨hreply, hrequests⟩
  | lapsed y g record₁ dec₁ rid₁ r₁ s hop' _ _ hfind hdec _ hrid hr _ htime =>
    obtain ⟨rfl, -⟩ : x = y ∧ dec.admissionGeneration = g := by simpa [hop'] using hop.symm
    obtain rfl := Option.some.inj (h.find.symm.trans hfind)
    obtain rfl := Option.some.inj (h.decision.symm.trans hdec)
    obtain rfl := Option.some.inj (h.link.symm.trans hrid)
    obtain rfl := Option.some.inj (h.entry.symm.trans hr)
    exact absurd htime h.time
  | failed _ _ _ _ _ hcommit =>
    exact absurd h.status (hcommit x _ record dec rid r hop h.find h.decision rfl h.link h.entry)
  | configured hop' => simp [hop, EngineOp.IsConfiguration] at hop'
  | refused _ _ _ hop' => simp [hop] at hop'
  | admitted _ _ _ _ _ hop' => simp [hop] at hop'
  | released _ _ _ hop' => simp [hop] at hop'
  | cancelled _ _ hop' => simp [hop] at hop'
  | rolledBack _ _ _ _ hop' => simp [hop] at hop'

/-- An entry becomes committed by a commit only. -/
theorem CallEffect.committed_cases (he : f.CallEffect c reply f') {r' : ResourceReservation}
    (hr : f.table.find? rid = some r) (hst : r.status ≠ .committed)
    (hr' : f'.table.find? rid = some r') (hst' : r'.status = .committed) :
    ∃ y record dec, f.Commits c y record dec rid r := by
  have move : ∀ rid₁ r₁', f'.table = f.table.insert rid₁ r₁' → r₁'.status = .committed ∧
      rid = rid₁ ∨ r'.status = r.status := by
    intro rid₁ r₁' htable
    rw [htable, OrdMap.find?_insert] at hr'
    split_ifs at hr' with hk
    · obtain rfl := Option.some.inj hr'
      exact .inl ⟨hst', hk⟩
    · obtain rfl := Option.some.inj (hr.symm.trans hr')
      exact .inr rfl
  have same : f'.table = f.table → r' = r := fun h => Option.some.inj (hr'.symm.trans (h ▸ hr))
  have nope : r'.status ≠ r.status := fun h => hst (h ▸ hst')
  cases he with
  | configured _ hkept => exact absurd (congrArg _ (same hkept.table)) nope
  | failed _ _ _ _ hkept => exact absurd (congrArg _ (same hkept.table)) nope
  | refused _ _ _ _ _ _ _ _ _ htable => exact absurd (congrArg _ (same htable)) nope
  | cancelled _ _ _ _ _ _ _ htable => exact absurd (congrArg _ (same htable)) nope
  | admitted _ _ _ _ _ _ _ _ _ _ _ hstatus _ _ _ htable =>
    rcases move _ _ htable with ⟨h, -⟩ | h
    · cases hstatus.symm.trans h
    · exact absurd h nope
  | committed x g record dec rid₁ r₁ hop _ hfind hdec hg hrid hr₁ hstatus htime _ htable =>
    rcases move _ _ htable with ⟨-, rfl⟩ | h
    · obtain rfl := Option.some.inj (hr.symm.trans hr₁)
      exact ⟨x, record, dec, by rw [hop, hg], hfind, hdec, hrid, hr, hstatus, htime⟩
    · exact absurd h nope
  | lapsed _ _ _ _ _ _ _ _ _ _ _ _ _ _ _ _ _ _ htable =>
    rcases move _ _ htable with ⟨h, -⟩ | h
    · cases h
    · exact absurd h nope
  | released _ _ _ _ _ _ hst _ htable =>
    rcases move _ _ htable with ⟨h, -⟩ | h
    · rcases hst with rfl | rfl <;> cases h
    · exact absurd h nope
  | rolledBack _ _ _ _ _ _ _ _ _ _ _ _ htable =>
    rcases move _ _ htable with ⟨h, -⟩ | h
    · cases h
    · exact absurd h nope

/-- What a call may make of the lifecycle of a settled record. -/
inductive Moves (f : AdmissionFabric F) (c : EngineCall F) (x : AdmissionRequestId)
    (old new : RequestLifecycle) : Prop
  | stayed (h : new = old)
  | admitted {record dec rid r} (hcommits : f.Commits c x record dec rid r) (h : new = .admitted)
  | released (hold : old = .admitted ∨ old = .reserved) (h : new = .released)
  | cancelled (hold : old.isOpen = true ∨ old = .reserved) (h : new = .cancelled)

theorem lifecycle?_eq_some_iff {life : RequestLifecycle} : f.lifecycle? x = some life ↔
    ∃ record, f.requests.find? x = some record ∧ record.lifecycle = life := by
  simp [lifecycle?, request]

/-- A record stays in the table, and its lifecycle moves by the rules. -/
theorem CallEffect.record_kept (he : f.CallEffect c reply f') (hl : Links f.requests f.table)
    {record : RequestRecord F} (hfind : f.requests.find? x = some record) :
    ∃ record', f'.requests.find? x = some record' ∧
      f.Moves c x record.lifecycle record'.lifecycle := by
  have keep : f'.requests = f.requests → ∃ record', f'.requests.find? x = some record' ∧
      f.Moves c x record.lifecycle record'.lifecycle := fun h =>
    ⟨record, by rw [h, hfind], .stayed rfl⟩
  have put : ∀ y record₁, f'.requests = f.requests.insert y record₁ →
      (y = x → f.Moves c x record.lifecycle record₁.lifecycle) →
      ∃ record', f'.requests.find? x = some record' ∧
        f.Moves c x record.lifecycle record'.lifecycle := by
    intro y record₁ h hmoves
    rw [h, OrdMap.find?_insert]
    split_ifs with hx
    · exact ⟨record₁, rfl, hmoves hx.symm⟩
    · exact ⟨record, hfind, .stayed rfl⟩
  -- A settled record keeps its lifecycle in an evaluation.
  have evaluated : ∀ life dec base, ((((f.requests.find? x).getD base).settle c.now life
      dec).lifecycle : RequestLifecycle) = record.lifecycle := by
    intro life dec base
    have hsettled := hl.settled x record hfind
    rw [hfind, Option.getD_some, RequestRecord.settle_lifecycle_of_old]
    rintro (h | h) <;> simp [h, RequestLifecycle.isSettled] at hsettled
  cases he with
  | configured _ hkept => exact keep hkept.requests
  | failed _ _ _ _ hkept => exact keep hkept.requests
  | refused _ _ _ _ _ _ _ _ hrequests =>
    exact put _ _ hrequests fun hx => .stayed (hx ▸ evaluated _ _ _)
  | admitted _ _ _ _ _ _ _ _ _ _ _ _ _ _ hrequests =>
    exact put _ _ hrequests fun hx => .stayed (hx ▸ evaluated _ _ _)
  | committed y g record₁ dec rid r hop _ hfind₁ hdec hg hrid hr hstatus htime hrequests =>
    refine put _ _ hrequests fun hx => ?_
    subst hx
    exact .admitted ⟨by rw [hop, hg], hfind₁, hdec, hrid, hr, hstatus, htime⟩ rfl
  | lapsed _ _ _ _ _ _ _ _ _ _ _ _ _ _ _ _ _ hrequests => exact keep hrequests
  | released _ _ _ _ _ _ _ hrequests =>
    refine ⟨_, by rw [hrequests, OrdMap.find?_mapValues, hfind, Option.map_some], ?_⟩
    unfold releaseRecord
    split_ifs with hrel
    · exact .released hrel.2 rfl
    · exact .stayed rfl
  | cancelled y record₁ _ _ hfind₁ hlife hrequests =>
    refine put _ _ hrequests fun hx => .cancelled ?_ rfl
    subst hx
    obtain rfl := Option.some.inj (hfind.symm.trans hfind₁)
    exact hlife.imp id And.left
  | rolledBack y record₁ _ _ _ _ hfind₁ hlife _ _ _ hrequests =>
    refine put _ _ hrequests fun hx => .cancelled ?_ rfl
    subst hx
    obtain rfl := Option.some.inj (hfind.symm.trans hfind₁)
    exact .inr hlife

/-- A name of an entry that was there is an old name. -/
theorem CallEffect.names_back (he : f.CallEffect c reply f') {record' : RequestRecord F}
    (hr : f.table.find? rid = some r) (hn : Names f'.requests x record' rid) :
    ∃ record, Names f.requests x record rid := by
  have move : ∀ y record₁ record₁', f.requests.find? y = some record₁ →
      f'.requests = f.requests.insert y record₁' → record₁'.lastDecision = record₁.lastDecision →
      ∃ record, Names f.requests x record rid := by
    intro y record₁ record₁' hfind h hdec
    rw [h] at hn
    rcases Links.names_insert.mp hn with ⟨rfl, -, hlink⟩ | ⟨-, hn⟩
    · exact ⟨record₁, hfind, by rwa [RequestRecord.reservation?, hdec] at hlink⟩
    · exact ⟨record', hn⟩
  cases he with
  | configured _ hkept => exact ⟨record', hkept.requests ▸ hn⟩
  | failed _ _ _ _ hkept => exact ⟨record', hkept.requests ▸ hn⟩
  | refused d ref base _ _ _ hproper _ hrequests =>
    rw [hrequests] at hn
    rcases Links.names_insert.mp hn with ⟨-, -, hlink⟩ | ⟨-, hn⟩
    · simp [hproper.reservation] at hlink
    · exact ⟨record', hn⟩
  | admitted d a dec rid₁ entry _ _ _ hrid _ hnew _ _ _ hrequests =>
    rw [hrequests] at hn
    rcases Links.names_insert.mp hn with ⟨-, -, hlink⟩ | ⟨-, hn⟩
    · obtain rfl : rid₁ = rid := by simpa [hrid] using hlink
      cases hnew.symm.trans hr
    · exact ⟨record', hn⟩
  | committed _ _ _ _ _ _ _ _ hfind _ _ _ _ _ _ hrequests => exact move _ _ _ hfind hrequests rfl
  | lapsed _ _ _ _ _ _ _ _ _ _ _ _ _ _ _ _ _ hrequests => exact ⟨record', hrequests ▸ hn⟩
  | released _ _ _ _ _ _ _ hrequests =>
    have hfind := hn.find
    rw [hrequests, OrdMap.find?_mapValues] at hfind
    obtain ⟨record, hrecord, rfl⟩ := Option.map_eq_some_iff.mp hfind
    have hlink := hn.link
    rw [RequestRecord.reservation?, releaseRecord_lastDecision] at hlink
    exact ⟨record, hrecord, hlink⟩
  | cancelled _ _ _ _ hfind _ hrequests => exact move _ _ _ hfind hrequests rfl
  | rolledBack _ _ _ _ _ _ hfind _ _ _ _ hrequests => exact move _ _ _ hfind hrequests rfl

/-! ## Grants -/

/-- An evaluation that answers with a reservation or an admission is an admission: everything
it checks, answers and leaves. -/
theorem decides_cases (hf : f.Linked) {dec : AdmissionDecision F} (h : f.Decides c x dec) :
    (∃ d rid entry, c.op = .evaluate d ∧ d.admissionRequestId = x ∧ f.Admissible c.now d ∧
      dec.outcome = .admitted ∧ dec.reservationId = some rid ∧
      dec.admissionGeneration = f.admissionGeneration ∧ f.table.find? rid = none ∧
      entry.status = .reserved ∧ (f.call c).2.table = f.table.insert rid entry ∧
      (f.call c).2.requests = f.requests.insert x
        (((f.requests.find? x).getD (.fresh c.now d)).settle c.now .reserved dec) ∧
      (f.call c).2.admissionGeneration = f.admissionGeneration.next) ∨
    (∃ d life base, c.op = .evaluate d ∧ ¬ f.Admissible c.now d ∧ dec.outcome ≠ .admitted ∧
      dec.reservationId = none ∧ base.lifecycle = .proposed ∧ (f.call c).2.table = f.table ∧
      (f.call c).2.requests = f.requests.insert x
        (((f.requests.find? x).getD base).settle c.now life dec) ∧
      (f.call c).2.admissionGeneration = f.admissionGeneration) := by
  obtain ⟨d, hop, rfl, hreply⟩ := h
  have he := call_effect hf.accounting c
  rw [hreply] at he
  cases he with
  | admitted d' a dec' rid entry hop' hreply' hout hrid hdec hnew hstatus _ _ hreq htable hgen =>
    obtain rfl : d' = d := by simpa [hop] using hop'.symm
    obtain rfl : dec' = dec := by simpa using hreply'.symm
    exact .inl ⟨d', rid, entry, hop, rfl, ⟨a⟩, hout, hrid, hdec, hnew, hstatus, htable, hreq, hgen⟩
  | refused d' r base hop' hreply' hnot hproper hbase hreq htable hgen =>
    obtain rfl : d' = d := by simpa [hop] using hop'.symm
    obtain rfl : r.decision = dec := by simpa using hreply'.symm
    have hout : r.decision.outcome ≠ .admitted := by
      rcases hproper.outcome with ⟨-, h⟩ | ⟨-, h⟩ <;> simp [h]
    exact .inr ⟨d', r.life, base, hop, hnot, hout, hproper.reservation, hbase, htable, hreq, hgen⟩
  | configured hop' _ => simp [hop, EngineOp.IsConfiguration] at hop'
  | failed _ hop' => simp [hop, EngineOp.descriptor?] at hop'
  | committed _ _ _ _ _ _ hop' => simp [hop] at hop'
  | lapsed _ _ _ _ _ _ _ hop' => simp [hop] at hop'
  | released _ _ _ hop' => simp [hop] at hop'
  | cancelled _ _ hop' => simp [hop] at hop'
  | rolledBack _ _ _ _ hop' => simp [hop] at hop'

end AdmissionFabric

open AdmissionFabric in
/-- A created reservation is in the table, and only its request can name it. -/
theorem CreatedFor.names {h : List (EngineCall F)} {x : AdmissionRequestId} {rid : ReservationId}
    (hc : CreatedFor h x rid) :
    (∃ r, ((engine F).after h).table.find? rid = some r) ∧
      ∀ y record, Names ((engine F).after h).requests y record rid → y = x := by
  refine hc.since (P := fun f : AdmissionFabric F => (∃ r, f.table.find? rid = some r) ∧
    ∀ y record, Names f.requests y record rid → y = x) linked_after (fun f c hf hg => ?_)
    fun f c hf ⟨⟨r, hr⟩, huniq⟩ => ?_
  · obtain ⟨dec, hdec, hrid⟩ := hg
    rcases decides_cases hf hdec with
      ⟨d, rid', entry, -, -, -, -, hrid', -, hnew, -, htable, hrequests, -⟩ |
        ⟨_, _, _, -, -, -, hnone, -⟩
    · obtain rfl := Option.some.inj (hrid.symm.trans hrid')
      refine ⟨⟨entry, htable ▸ OrdMap.find?_insert_self _ _ _⟩, fun y record hn => ?_⟩
      change Names (f.call c).2.requests y record rid at hn
      rw [hrequests] at hn
      rcases Links.names_insert.mp hn with ⟨hy, -⟩ | ⟨-, hn⟩
      · exact hy
      · obtain ⟨r, hr⟩ := hf.links.present y record rid hn
        cases hnew.symm.trans hr
    · cases hnone.symm.trans hrid
  · have he := call_effect hf.accounting c
    obtain ⟨r', hr', -⟩ := he.entry_kept hr
    refine ⟨⟨r', hr'⟩, fun y record hn => ?_⟩
    obtain ⟨record', hn'⟩ := he.names_back hr hn
    exact huniq y record' hn'

end Fabric
