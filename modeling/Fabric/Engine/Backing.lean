import Fabric.Engine.Progress

/-!
# Records and the reservations that back them

The converse of ownership: a record that says `reserved` or `admitted` should name an entry
of the matching status. Two kinds of call break this: an evaluation of a request that is
already reserved or admitted, whose rejection takes the name away, and a commit that comes
after the lifetime of the reservation, which expires the entry and leaves the record.
`KeepsBacking` is the exact condition.
-/

namespace Fabric

open Support

variable {F : Type} [Double F]

namespace AdmissionFabric

/-- A record in lifecycle `reserved` or `admitted` names an entry that backs it. -/
structure Backs (f : AdmissionFabric F) (x : AdmissionRequestId) (record : RequestRecord F) :
    Prop where
  reserved : record.lifecycle = .reserved → ∃ rid r, record.reservation? = some rid ∧
    f.table.find? rid = some r ∧ r.status = .reserved
  admitted : record.lifecycle = .admitted → ∃ rid r, record.reservation? = some rid ∧
    f.table.find? rid = some r ∧ r.status = .committed ∧ r.admissionRequestId = some x

/-- Every reserved or admitted record is backed. -/
def Backed (f : AdmissionFabric F) : Prop :=
  ∀ x record, f.requests.find? x = some record → f.Backs x record

/-- The call is neither an evaluation of a reserved or admitted request nor a commit of a
reserved request that comes after the lifetime of its reservation. -/
structure KeepsBacking (f : AdmissionFabric F) (c : EngineCall F) : Prop where
  evaluate : ∀ d record, c.op = .evaluate d → f.requests.find? d.admissionRequestId = some record →
    record.lifecycle ≠ .reserved ∧ record.lifecycle ≠ .admitted
  commit : ∀ x g record dec rid r, c.op = .commit x g → f.requests.find? x = some record →
    record.lifecycle = .reserved → record.lastDecision = some dec →
    dec.admissionGeneration = g → dec.reservationId = some rid → f.table.find? rid = some r →
    ¬ c.now > r.expiresAt

variable {f f' : AdmissionFabric F} {c : EngineCall F} {reply : EngineReply F}
  {x : AdmissionRequestId} {record : RequestRecord F} {rid : ReservationId}

theorem backs_of_lifecycle (h : record.lifecycle ≠ .reserved ∧ record.lifecycle ≠ .admitted) :
    f.Backs x record :=
  ⟨fun hl => absurd hl h.1, fun hl => absurd hl h.2⟩

theorem keepsBacking_of_op (he : c.op.descriptor? = none) (hc : ∀ x g, c.op ≠ .commit x g) :
    f.KeepsBacking c where
  evaluate d _ hop := by simp [hop, EngineOp.descriptor?] at he
  commit x g _ _ _ _ hop := absurd hop (hc x g)

theorem keepsBacking_evaluate_iff {d : AdmissionDescriptor F} (hop : c.op = .evaluate d) :
    f.KeepsBacking c ↔ ∀ record, f.requests.find? d.admissionRequestId = some record →
      record.lifecycle ≠ .reserved ∧ record.lifecycle ≠ .admitted := by
  constructor
  · exact fun hk record hfind => hk.evaluate d record hop hfind
  · refine fun h => ⟨fun d' record hop' hfind => ?_, fun x g _ _ _ _ hop' => by simp [hop] at hop'⟩
    obtain rfl : d = d' := by simpa [hop] using hop'
    exact h record hfind

theorem keepsBacking_commit_iff {g : AdmissionGeneration} {dec : AdmissionDecision F}
    {r : ResourceReservation} (hop : c.op = .commit x g) (hfind : f.requests.find? x = some record)
    (hdec : record.lastDecision = some dec) (hg : dec.admissionGeneration = g)
    (hrid : dec.reservationId = some rid) (hr : f.table.find? rid = some r) :
    f.KeepsBacking c ↔ (record.lifecycle = .reserved → ¬ c.now > r.expiresAt) := by
  constructor
  · exact fun hk hlife => hk.commit x g record dec rid r hop hfind hlife hdec hg hrid hr
  · refine fun h => ⟨fun d _ hop' => by simp [hop] at hop', ?_⟩
    intro x' g' record' dec' rid' r' hop' hfind' hlife hdec' _ hrid' hr'
    obtain ⟨rfl, rfl⟩ : x = x' ∧ g = g' := by simpa [hop] using hop'
    obtain rfl := Option.some.inj (hfind.symm.trans hfind')
    obtain rfl := Option.some.inj (hdec.symm.trans hdec')
    obtain rfl := Option.some.inj (hrid.symm.trans hrid')
    obtain rfl := Option.some.inj (hr.symm.trans hr')
    exact h hlife

/-- A backed record stays backed when the entry it names stays. -/
theorem Backs.of_table (h : f.Backs x record)
    (hkeep : ∀ rid, record.reservation? = some rid → f'.table.find? rid = f.table.find? rid) :
    f'.Backs x record where
  reserved hl := by
    obtain ⟨rid, r, hlink, hr, hst⟩ := h.reserved hl
    exact ⟨rid, r, hlink, (hkeep rid hlink).trans hr, hst⟩
  admitted hl := by
    obtain ⟨rid, r, hlink, hr, hst⟩ := h.admitted hl
    exact ⟨rid, r, hlink, (hkeep rid hlink).trans hr, hst⟩

theorem Backed.of_kept (hb : f.Backed) (hkept : f.Kept f') : f'.Backed := by
  intro x record hfind
  exact (hb x record (hkept.requests ▸ hfind)).of_table fun _ _ => by rw [hkept.table]

/-- After a call that puts one record and touches at most the entry that this record names,
the other records are backed as before. -/
theorem Backed.put_record (hb : f.Backed) (hrequests : f'.requests = f.requests.insert x record)
    (hother : ∀ y record' rid, y ≠ x → Names f.requests y record' rid →
      f'.table.find? rid = f.table.find? rid) :
    f'.Backed ↔ f'.Backs x record := by
  constructor
  · intro hb'
    exact hb' x record (by rw [hrequests, OrdMap.find?_insert_self])
  · intro hself y record' hfind
    rw [hrequests, OrdMap.find?_insert] at hfind
    split_ifs at hfind with hy
    · obtain rfl := Option.some.inj hfind
      exact hy ▸ hself
    · exact (hb y record' hfind).of_table fun rid hlink =>
        hother y record' rid hy ⟨hfind, hlink⟩

/-- A record that names nothing is backed only outside the two lifecycles. -/
theorem backs_iff_of_none (h : record.reservation? = none) :
    f.Backs x record ↔ record.lifecycle ≠ .reserved ∧ record.lifecycle ≠ .admitted := by
  refine ⟨fun hb => ⟨fun hl => ?_, fun hl => ?_⟩, backs_of_lifecycle⟩
  · obtain ⟨rid, r, hlink, -⟩ := hb.reserved hl
    simp [h] at hlink
  · obtain ⟨rid, r, hlink, -⟩ := hb.admitted hl
    simp [h] at hlink

theorem backed_refused (hb : f.Backed) (hl : Links f.requests f.table)
    {d : AdmissionDescriptor F} {r : Refusal F} {base : RequestRecord F} (hop : c.op = .evaluate d)
    (hproper : r.Proper) (hbase : base.lifecycle = .proposed)
    (hrequests : f'.requests = f.requests.insert d.admissionRequestId
      (((f.requests.find? d.admissionRequestId).getD base).settle c.now r.life r.decision))
    (htable : f'.table = f.table) : f'.Backed ↔ f.KeepsBacking c := by
  rw [hb.put_record hrequests fun _ _ _ _ _ => by rw [htable],
    backs_iff_of_none (by simp [hproper.reservation]), keepsBacking_evaluate_iff hop]
  cases hfind : f.requests.find? d.admissionRequestId with
  | none =>
    refine iff_of_true ?_ (by simp)
    rw [Option.getD_none, RequestRecord.settle_lifecycle_of_new (.inl hbase)]
    rcases hproper.outcome with ⟨hlife, -⟩ | ⟨hlife, -⟩ <;> simp [hlife]
  | some record =>
    have hsettled := hl.settled _ record hfind
    rw [Option.getD_some, RequestRecord.settle_lifecycle_of_old (by
      rintro (h | h) <;> simp [h, RequestLifecycle.isSettled] at hsettled)]
    simp only [Option.some.injEq, forall_eq']

/-- When the entry a record names changes, the entries of the other records do not. -/
theorem other_entry (hl : Links f.requests f.table) (hn : Names f.requests x record rid)
    {r' : ResourceReservation} (htable : f'.table = f.table.insert rid r') :
    ∀ y record' rid', y ≠ x → Names f.requests y record' rid' →
      f'.table.find? rid' = f.table.find? rid' := by
  intro y record' rid' hy hn'
  rw [htable, OrdMap.find?_insert, if_neg]
  rintro rfl
  exact hy (hl.unique y x record' record rid' hn' hn)

/-- When an entry is new, the entries that the records name do not change. -/
theorem named_entry (hl : Links f.requests f.table) (hnew : f.table.find? rid = none)
    {entry : ResourceReservation} (htable : f'.table = f.table.insert rid entry) :
    ∀ y record' rid', Names f.requests y record' rid' →
      f'.table.find? rid' = f.table.find? rid' := by
  intro y record' rid' hn
  obtain ⟨r, hr⟩ := hl.present y record' rid' hn
  rw [htable, OrdMap.find?_insert, if_neg]
  rintro rfl
  cases hnew.symm.trans hr

/-- Settling as reserved makes no record admitted. -/
theorem settle_ne_admitted {now : TimePoint} {dec : AdmissionDecision F}
    (h : record.lifecycle ≠ .admitted) : (record.settle now .reserved dec).lifecycle ≠ .admitted := by
  by_cases hnew : record.lifecycle = .proposed ∨ record.lifecycle = .evaluating
  · rw [RequestRecord.settle_lifecycle_of_new hnew]
    exact nofun
  · rw [RequestRecord.settle_lifecycle_of_old hnew]
    exact h

theorem backed_effect (hf : f.Linked) (hb : f.Backed) (he : f.CallEffect c reply f') :
    f'.Backed ↔ f.KeepsBacking c := by
  have hl := hf.links
  cases he with
  | configured hop hkept =>
    exact iff_of_true (hb.of_kept hkept)
      (keepsBacking_of_op hop.descriptor? fun x g h => by simp [h, EngineOp.IsConfiguration] at hop)
  | failed s hop hreply hs hkept hcommit =>
    refine iff_of_true (hb.of_kept hkept) ⟨?_, ?_⟩
    · intro d record hop'
      simp [hop', EngineOp.descriptor?] at hop
    · intro x g record dec rid r hop' hfind hlife hdec hg hrid hr
      obtain ⟨rid', r', hlink, hr', hst⟩ := (hb x record hfind).reserved hlife
      obtain rfl : rid = rid' := by simpa [RequestRecord.reservation?, hdec, hrid] using hlink
      obtain rfl := Option.some.inj (hr.symm.trans hr')
      exact absurd hst (hcommit x g record dec rid r hop' hfind hdec hg hrid hr)
  | refused d r base hop _ _ hproper hbase hrequests htable _ =>
    exact backed_refused hb hl hop hproper hbase hrequests htable
  | admitted d a dec rid entry hop _ _ hrid _ hnew hstatus _ _ hrequests htable _ =>
    rw [hb.put_record hrequests fun y record rid' _ => named_entry hl hnew htable y record rid',
      keepsBacking_evaluate_iff hop]
    have hentry : f'.table.find? rid = some entry := by rw [htable, OrdMap.find?_insert_self]
    refine iff_of_true ?_ fun record hfind => RequestLifecycle.not_held_of_isOpen (a.isOpen record hfind)
    refine ⟨fun _ => ⟨rid, entry, by simp [hrid], hentry, hstatus⟩, fun hlife => ?_⟩
    refine absurd hlife (settle_ne_admitted ?_)
    cases hfind : f.requests.find? d.admissionRequestId with
    | none => simp [RequestRecord.fresh]
    | some record => exact (RequestLifecycle.not_held_of_isOpen (a.isOpen record hfind)).2
  | committed x g record dec rid r hop _ hfind hdec hg hrid hr hstatus htime hrequests htable _ =>
    have hlink : record.reservation? = some rid := by simp [RequestRecord.reservation?, hdec, hrid]
    rw [hb.put_record hrequests (other_entry hl ⟨hfind, hlink⟩ htable),
      keepsBacking_commit_iff hop hfind hdec hg hrid hr]
    have hentry := htable ▸ OrdMap.find?_insert_self f.table rid _
    exact iff_of_true ⟨(by cases ·), fun _ => ⟨rid, _, hlink, hentry, rfl, rfl⟩⟩ fun _ => htime
  | lapsed x g record dec rid r s hop _ _ hfind hdec hg hrid hr hstatus htime hrequests htable _ =>
    have hlink : record.reservation? = some rid := by simp [RequestRecord.reservation?, hdec, hrid]
    have hput : f'.requests = f.requests.insert x record := by
      rw [hrequests, OrdMap.insert_eq_self hfind]
    rw [hb.put_record hput (other_entry hl ⟨hfind, hlink⟩ htable),
      keepsBacking_commit_iff hop hfind hdec hg hrid hr]
    constructor
    · intro hself hlife
      obtain ⟨rid', r', hlink', hr', hst'⟩ := hself.reserved hlife
      obtain rfl := Option.some.inj (hlink.symm.trans hlink')
      rw [htable, OrdMap.find?_insert_self] at hr'
      obtain rfl := Option.some.inj hr'
      cases hst'
    · intro hk
      refine backs_of_lifecycle ⟨fun hlife => ?_, fun hlife => ?_⟩
      · exact hk hlife htime
      · obtain ⟨rid', r', hlink', hr', hst', -⟩ := (hb x record hfind).admitted hlife
        obtain rfl := Option.some.inj (hlink.symm.trans hlink')
        obtain rfl := Option.some.inj (hr.symm.trans hr')
        cases hstatus.symm.trans hst'
  | released rid r st hop _ hr hst hrequests htable _ =>
    refine iff_of_true (fun x record' hfind => ?_)
      (keepsBacking_of_op (by rw [hop]; rfl) (by simp [hop]))
    rw [hrequests, OrdMap.find?_mapValues] at hfind
    obtain ⟨record, hrecord, rfl⟩ := Option.map_eq_some_iff.mp hfind
    unfold releaseRecord
    split_ifs with hrel
    · exact backs_of_lifecycle (by simp)
    · by_cases hlive : record.lifecycle = .reserved ∨ record.lifecycle = .admitted
      · refine (hb x record hrecord).of_table fun rid' hlink => ?_
        rw [htable, OrdMap.find?_insert, if_neg]
        rintro rfl
        exact hrel ⟨hlink, hlive.symm⟩
      · exact backs_of_lifecycle (not_or.mp hlive)
  | cancelled x record hop _ hfind hlife hrequests htable _ =>
    rw [hb.put_record hrequests fun _ _ _ _ _ => by rw [htable]]
    exact iff_of_true (backs_of_lifecycle (by simp))
      (keepsBacking_of_op (by rw [hop]; rfl) (by simp [hop]))
  | rolledBack x record rid r hop _ hfind hlife hrid hr hstatus hrequests htable _ =>
    rw [hb.put_record hrequests (other_entry hl ⟨hfind, hrid⟩ htable)]
    exact iff_of_true (backs_of_lifecycle (by simp))
      (keepsBacking_of_op (by rw [hop]; rfl) (by simp [hop]))

/-- No phantom admission in any state of a history, exactly when all its calls keep the
backing. -/
theorem no_phantom_iff (h : List (EngineCall F)) :
    (engine F).Throughout Backed h ↔ (engine F).Guarded KeepsBacking h :=
  Machine.throughout_iff_guarded linked_after (fun _ _ hfind => by cases hfind)
    (fun f c hf hb => backed_effect hf hb (call_effect hf.accounting c)) h

/-- A commit after the lifetime of the reservation expires the entry and leaves the record
reserved. -/
theorem no_phantom_fails : ¬ (engine Binary64).Throughout Backed (Sample.opening ++
    [⟨0, .evaluate (Sample.descriptor 1)⟩, ⟨seconds 121, .commit ⟨1⟩ ⟨1⟩⟩]) := by
  intro hbacked
  have hb := hbacked.last
  generalize hf : (engine Binary64).after _ = f at hb
  have hlife : (f.requests.find? ⟨1⟩).map (·.lifecycle) = some .reserved := by
    subst hf
    decide +kernel
  have hstatus : ∀ e ∈ f.table.entries, e.2.status ≠ .reserved := by
    subst hf
    decide +kernel
  obtain ⟨record, hfind, hreserved⟩ := Option.map_eq_some_iff.mp hlife
  obtain ⟨rid, r, -, hr, hst⟩ := (hb ⟨1⟩ record hfind).reserved hreserved
  exact hstatus (rid, r) (OrdMap.find?_eq_some_iff.mp hr) hst

end AdmissionFabric

end Fabric
