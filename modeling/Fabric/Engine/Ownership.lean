import Fabric.Engine.Progress

/-!
# Live reservations and the records that own them

Every live reservation should be named by exactly one record, in the lifecycle that goes with
its status. The engine keeps this except for two kinds of evaluation: one that overwrites
the decision of a record whose reservation is live, and one that admits a deferred request,
whose lifecycle then stays `deferred`. `KeepsOwners` is the exact condition.

* `owned_effect`: what one call does to the property.
* `owned_iff_guarded`, `no_leak_iff`: whole runs.
-/

namespace Fabric

open Support

variable {F : Type} [Double F]

/-- The lifecycle of a record that holds an entry with this status. -/
def ReservationStatus.holder : ReservationStatus → Option RequestLifecycle
  | reserved => some .reserved
  | committed => some .admitted
  | released | expired | rolledBack => none

namespace ReservationStatus

variable {st : ReservationStatus} {life : RequestLifecycle}

theorem holder_eq_some_iff : st.holder = some life ↔
    st = .reserved ∧ life = .reserved ∨ st = .committed ∧ life = .admitted := by
  cases st <;> simp [holder, eq_comm]

theorem exists_holder_iff : (∃ life, st.holder = some life) ↔ st.isLive = true := by
  cases st <;> simp [holder, isLive]

end ReservationStatus

namespace AdmissionFabric

/-- Each live entry is named by exactly one record, in the lifecycle of its status. -/
def Owned (f : AdmissionFabric F) : Prop :=
  ∀ rid r life, f.table.find? rid = some r → r.status.holder = some life →
    ∃ x record, Names f.requests x record rid ∧ record.lifecycle = life ∧
      ∀ y record', Names f.requests y record' rid → y = x

/-- The call neither evaluates a request whose record names a live entry, nor admits a
request whose record is deferred. -/
def KeepsOwners (f : AdmissionFabric F) (c : EngineCall F) : Prop :=
  ∀ d record, c.op = .evaluate d → f.requests.find? d.admissionRequestId = some record →
    (∀ rid r, record.reservation? = some rid → f.table.find? rid = some r →
      r.status.isLive = false) ∧
    ¬ (record.lifecycle = .deferred ∧ f.Admissible c.now d)

variable {f f' : AdmissionFabric F} {c : EngineCall F} {reply : EngineReply F}

/-- Uniqueness comes with the links. -/
theorem owned_iff (h : Links f.requests f.table) :
    f.Owned ↔ ∀ rid r life, f.table.find? rid = some r → r.status.holder = some life →
      ∃ x record, Names f.requests x record rid ∧ record.lifecycle = life := by
  constructor
  · intro ho rid r life hr hlife
    obtain ⟨x, record, hn, hx, -⟩ := ho rid r life hr hlife
    exact ⟨x, record, hn, hx⟩
  · intro ho rid r life hr hlife
    obtain ⟨x, record, hn, hx⟩ := ho rid r life hr hlife
    exact ⟨x, record, hn, hx, fun y record' hy => h.unique y x record' record rid hy hn⟩

theorem keepsOwners_of_descriptor? (h : c.op.descriptor? = none) : f.KeepsOwners c := by
  intro d record hop
  rw [hop] at h
  cases h

theorem keepsOwners_evaluate_iff {d : AdmissionDescriptor F} (hop : c.op = .evaluate d) :
    f.KeepsOwners c ↔ ∀ record, f.requests.find? d.admissionRequestId = some record →
      (∀ rid r, record.reservation? = some rid → f.table.find? rid = some r →
        r.status.isLive = false) ∧
      ¬ (record.lifecycle = .deferred ∧ f.Admissible c.now d) := by
  refine ⟨fun hk record => hk d record hop, fun h d' record hop' => ?_⟩
  obtain rfl : d = d' := by simpa [hop] using hop'
  exact h record

/-- The record that holds a live entry. -/
theorem Owned.lifecycle (ho : f.Owned) {x : AdmissionRequestId} {record : RequestRecord F}
    {rid : ReservationId} {r : ResourceReservation} {life : RequestLifecycle}
    (hn : Names f.requests x record rid) (hr : f.table.find? rid = some r)
    (hlife : r.status.holder = some life) : record.lifecycle = life := by
  obtain ⟨y, record', hn', hlife', huniq⟩ := ho rid r life hr hlife
  obtain rfl := huniq x record hn
  obtain rfl := Option.some.inj (hn'.find.symm.trans hn.find)
  exact hlife'

/-- When a call leaves the live entries as they were, or lets them die, each of them needs
only its old record. -/
theorem Owned.of_frame (ho : f.Owned) (hl' : Links f'.requests f'.table)
    (hentry : ∀ rid r' life, f'.table.find? rid = some r' → r'.status.holder = some life →
      ∃ r, f.table.find? rid = some r ∧ r.status.holder = some life)
    (hrecord : ∀ rid r' x record, f'.table.find? rid = some r' → r'.status.isLive = true →
      Names f.requests x record rid → f'.requests.find? x = some record) : f'.Owned := by
  refine (owned_iff hl').mpr fun rid r' life hr' hlife => ?_
  obtain ⟨r, hr, hst⟩ := hentry rid r' life hr' hlife
  obtain ⟨x, record, hn, hx, -⟩ := ho rid r life hr hst
  exact ⟨x, record, ⟨hrecord rid r' x record hr' (ReservationStatus.exists_holder_iff.mp ⟨life, hlife⟩) hn, hn.link⟩,
    hx⟩

/-- A call that takes the pointer of one record away keeps the property exactly when that
record named no live entry. -/
theorem owned_of_unlink (ho : f.Owned) (hl : Links f.requests f.table)
    (hl' : Links f'.requests f'.table) {x : AdmissionRequestId} {record' : RequestRecord F}
    (hrequests : f'.requests = f.requests.insert x record') (hnone : record'.reservation? = none)
    (htable : f'.table = f.table) :
    f'.Owned ↔ ∀ record rid r, f.requests.find? x = some record →
      record.reservation? = some rid → f.table.find? rid = some r → r.status.isLive = false := by
  have hnames : ∀ y record rid, Names f'.requests y record rid →
      y ≠ x ∧ Names f.requests y record rid := by
    intro y record rid hn
    rw [hrequests] at hn
    rcases Links.names_insert.mp hn with ⟨-, -, hlink⟩ | h
    · simp [hnone] at hlink
    · exact h
  constructor
  · intro ho' record rid r hfind hlink hr
    by_contra hlive
    obtain ⟨life, hlife⟩ := ReservationStatus.exists_holder_iff.mpr (Bool.eq_true_of_not_eq_false hlive)
    obtain ⟨y, record₁, hn, -, -⟩ := ho' rid r life (htable ▸ hr) hlife
    obtain ⟨hyx, hn⟩ := hnames y record₁ rid hn
    exact hyx (hl.unique y x record₁ record rid hn ⟨hfind, hlink⟩)
  · intro hdead
    refine ho.of_frame hl' (fun rid r life hr hlife => ⟨r, htable ▸ hr, hlife⟩)
      fun rid r y record hr hlive hn => ?_
    rw [htable] at hr
    have hyx : y ≠ x := by
      rintro rfl
      simp [hdead record rid r hn.find hn.link hr] at hlive
    rw [hrequests, OrdMap.find?_insert, if_neg hyx, hn.find]

/-- When an entry dies, every other live entry needs its old record. -/
theorem Owned.of_dead (ho : f.Owned) (hl' : Links f'.requests f'.table) {rid : ReservationId}
    {entry : ResourceReservation} (htable : f'.table = f.table.insert rid entry)
    (hdead : entry.status.isLive = false)
    (hrecord : ∀ rid' x record, rid' ≠ rid → Names f.requests x record rid' →
      f'.requests.find? x = some record) : f'.Owned := by
  have hother : ∀ rid' r', f'.table.find? rid' = some r' → r'.status.isLive = true →
      rid' ≠ rid ∧ f.table.find? rid' = some r' := by
    intro rid' r' hr' hlive
    rw [htable, OrdMap.find?_insert] at hr'
    split_ifs at hr' with hk
    · obtain rfl := Option.some.inj hr'
      simp [hdead] at hlive
    · exact ⟨hk, hr'⟩
  refine ho.of_frame hl' (fun rid' r' life hr' hlife => ?_) fun rid' r' x record hr' hlive hn => ?_
  · have hlive := ReservationStatus.exists_holder_iff.mp ⟨life, hlife⟩
    exact ⟨r', (hother rid' r' hr' hlive).2, hlife⟩
  · exact hrecord rid' x record (hother rid' r' hr' hlive).1 hn

/-- When an entry is put in place with its holder, every other live entry keeps its old record. -/
theorem Owned.of_put (ho : f.Owned) (hl' : Links f'.requests f'.table) {x : AdmissionRequestId}
    {record : RequestRecord F} {rid : ReservationId} {entry : ResourceReservation}
    (hrequests : f'.requests = f.requests.insert x record)
    (htable : f'.table = f.table.insert rid entry) (hlink : record.reservation? = some rid)
    (hholder : entry.status.holder = some record.lifecycle)
    (hold : ∀ record₀ rid', Names f.requests x record₀ rid' → rid' = rid) : f'.Owned := by
  refine (owned_iff hl').mpr fun rid' r' life hr' hlife => ?_
  rw [htable, OrdMap.find?_insert] at hr'
  split_ifs at hr' with hk
  · subst hk
    obtain rfl := Option.some.inj hr'
    refine ⟨x, record, ⟨?_, hlink⟩, Option.some.inj (hholder.symm.trans hlife)⟩
    rw [hrequests, OrdMap.find?_insert_self]
  · obtain ⟨y, record', hn, hy, -⟩ := ho rid' r' life hr' hlife
    have hyx : y ≠ x := by
      rintro rfl
      exact hk (hold record' rid' hn)
    refine ⟨y, record', ⟨?_, hn.link⟩, hy⟩
    rw [hrequests, OrdMap.find?_insert, if_neg hyx, hn.find]

/-- What a call does to the property. -/
theorem owned_effect (hf : f.Linked) (hf' : f'.Linked) (ho : f.Owned)
    (he : f.CallEffect c reply f') : f'.Owned ↔ f.KeepsOwners c := by
  have hl := hf.links
  have hl' := hf'.links
  cases he with
  | configured hop hkept =>
    refine iff_of_true ?_ (keepsOwners_of_descriptor? hop.descriptor?)
    rwa [Owned, hkept.requests, hkept.table]
  | failed _ hop _ _ hkept =>
    refine iff_of_true ?_ (keepsOwners_of_descriptor? hop)
    rwa [Owned, hkept.requests, hkept.table]
  | refused d r base hop _ hnot hproper _ hrequests htable _ =>
    rw [owned_of_unlink ho hl hl' hrequests (by simp [hproper.reservation]) htable,
      keepsOwners_evaluate_iff hop]
    constructor
    · exact fun hdead record hfind => ⟨fun rid r => hdead record rid r hfind, fun h => hnot h.2⟩
    · exact fun hk record rid r hfind => (hk record hfind).1 rid r
  | admitted d a dec rid entry hop _ _ hrid _ hnew hstatus _ _ hrequests htable _ =>
    rw [keepsOwners_evaluate_iff hop]
    cases hfind : f.requests.find? d.admissionRequestId with
    | none =>
      refine iff_of_true ?_ (by simp)
      rw [hfind, Option.getD_none] at hrequests
      refine ho.of_put hl' hrequests htable (by simp [hrid]) ?_ fun record rid' hn => ?_
      · rw [RequestRecord.settle_lifecycle_of_new (.inl rfl), hstatus]
        rfl
      · cases hn.find.symm.trans hfind
    | some record =>
      -- The lifecycle of an open record was `deferred` and stays so.
      have hopen := a.isOpen record hfind
      have hdeferred : record.lifecycle = .deferred := by
        have hsettled := hl.settled _ record hfind
        revert hopen hsettled
        cases record.lifecycle <;> simp [RequestLifecycle.isOpen, RequestLifecycle.isSettled]
      refine iff_of_false (fun ho' => ?_) fun hk => (hk record rfl).2 ⟨hdeferred, ⟨a⟩⟩
      have hn : Names f'.requests d.admissionRequestId (record.settle c.now .reserved dec) rid := by
        refine ⟨?_, by simp [hrid]⟩
        rw [hrequests, hfind, Option.getD_some, OrdMap.find?_insert_self]
      have hr : f'.table.find? rid = some entry := by rw [htable, OrdMap.find?_insert_self]
      have hlife := ho'.lifecycle hn hr (by rw [hstatus]; rfl)
      rw [RequestRecord.settle_lifecycle_of_old (by simp [hdeferred]), hdeferred] at hlife
      cases hlife
  | committed x g record dec rid r hop _ hfind hdec _ hrid hr hstatus _ hrequests htable _ =>
    refine iff_of_true ?_ (keepsOwners_of_descriptor? (by rw [hop]; rfl))
    have hlink : record.reservation? = some rid := by simp [RequestRecord.reservation?, hdec, hrid]
    refine ho.of_put hl' hrequests htable hlink rfl fun record₀ rid' hn => ?_
    obtain rfl := Option.some.inj (hfind.symm.trans hn.find)
    exact Option.some.inj (hn.link.symm.trans hlink)
  | lapsed x g record dec rid r s hop _ _ _ _ _ _ hr _ _ hrequests htable _ =>
    refine iff_of_true ?_ (keepsOwners_of_descriptor? (by rw [hop]; rfl))
    exact ho.of_dead hl' htable rfl fun rid' y record' _ hn => by rw [hrequests, hn.find]
  | released rid r st hop _ hr hst hrequests htable _ =>
    refine iff_of_true ?_ (keepsOwners_of_descriptor? (by rw [hop]; rfl))
    have hdead : st.isLive = false := by rcases hst with rfl | rfl <;> rfl
    refine ho.of_dead hl' htable hdead fun rid' y record' hne hn => ?_
    have hkeep : releaseRecord c.now rid record' = record' := by
      rw [releaseRecord, if_neg]
      rintro ⟨hlink, -⟩
      exact hne (Option.some.inj (hn.link.symm.trans hlink))
    rw [hrequests, OrdMap.find?_mapValues, hn.find, Option.map_some, hkeep]
  | cancelled x record hop _ hfind hlife hrequests htable _ =>
    refine iff_of_true ?_ (keepsOwners_of_descriptor? (by rw [hop]; rfl))
    refine ho.of_frame hl' (fun rid r life hr hlife => ⟨r, htable ▸ hr, hlife⟩)
      fun rid r y record' hr hlive hn => ?_
    rw [htable] at hr
    have hyx : y ≠ x := by
      rintro rfl
      obtain rfl := Option.some.inj (hfind.symm.trans hn.find)
      obtain ⟨life, hst⟩ := ReservationStatus.exists_holder_iff.mpr hlive
      have hrecord := ho.lifecycle hn hr hst
      rcases ReservationStatus.holder_eq_some_iff.mp hst with ⟨hres, rfl⟩ | ⟨-, rfl⟩
      · rcases hlife with hopen | ⟨-, hnot⟩
        · simp [hrecord, RequestLifecycle.isOpen] at hopen
        · exact hnot rid r hn.link hr hres
      · rcases hlife with hopen | ⟨hlife, -⟩
        · simp [hrecord, RequestLifecycle.isOpen] at hopen
        · simp [hrecord] at hlife
    rw [hrequests, OrdMap.find?_insert, if_neg hyx, hn.find]
  | rolledBack x record rid r hop _ hfind hlife hrid hr hstatus hrequests htable _ =>
    refine iff_of_true ?_ (keepsOwners_of_descriptor? (by rw [hop]; rfl))
    refine ho.of_dead hl' htable rfl fun rid' y record' hne hn => ?_
    have hyx : y ≠ x := by
      rintro rfl
      obtain rfl := Option.some.inj (hfind.symm.trans hn.find)
      exact hne (Option.some.inj (hn.link.symm.trans hrid))
    rw [hrequests, OrdMap.find?_insert, if_neg hyx, hn.find]

/-- Every live entry is owned in every state of a history, and a successful cancel leaves no
live entry that was created for its request. -/
structure NoLeak (h : List (EngineCall F)) : Prop where
  owned : (engine F).Throughout Owned h
  cancelled : ∀ pre now x post s, h = pre ++ ⟨now, .cancel x⟩ :: post →
    (engine F).reply ((engine F).after pre) ⟨now, .cancel x⟩ = .status s → s.isOk = true →
    ∀ rid r, CreatedFor pre x rid →
      ((engine F).after (pre ++ [⟨now, .cancel x⟩])).table.find? rid = some r →
      r.status.isLive = false

theorem owned_iff_guarded (h : List (EngineCall F)) :
    (engine F).Throughout Owned h ↔ (engine F).Guarded KeepsOwners h :=
  Machine.throughout_iff_guarded linked_after (fun _ _ _ hr => by cases hr)
    (fun f c hf ho => owned_effect hf (linked_next hf c) ho (call_effect hf.accounting c)) h

/-- A successful cancel leaves the record cancelled. -/
theorem cancel_lifecycle (hf : f.Linked) {now : TimePoint} {x : AdmissionRequestId} {s : Status}
    (hreply : (f.call ⟨now, .cancel x⟩).1 = .status s) (hs : s.isOk = true) :
    ∃ record, (f.call ⟨now, .cancel x⟩).2.requests.find? x = some record ∧
      record.lifecycle = .cancelled := by
  have he := call_effect hf.accounting ⟨now, .cancel x⟩
  generalize hc : (⟨now, .cancel x⟩ : EngineCall F) = c at he hreply
  generalize (f.call c).2 = f' at he
  cases he with
  | cancelled y record hop _ _ _ hrequests =>
    obtain rfl : y = x := by simpa [← hc] using hop.symm
    exact ⟨_, by rw [hrequests, OrdMap.find?_insert_self], rfl⟩
  | rolledBack y record _ _ hop _ _ _ _ _ _ hrequests =>
    obtain rfl : y = x := by simpa [← hc] using hop.symm
    exact ⟨_, by rw [hrequests, OrdMap.find?_insert_self], rfl⟩
  | failed s' _ hr hs' =>
    obtain rfl : s = s' := by simpa [hreply] using hr
    simp [hs] at hs'
  | configured hop => simp [← hc, EngineOp.IsConfiguration] at hop
  | refused _ _ _ hop => simp [← hc] at hop
  | admitted _ _ _ _ _ hop => simp [← hc] at hop
  | committed _ _ _ _ _ _ hop => simp [← hc] at hop
  | lapsed _ _ _ _ _ _ _ hop => simp [← hc] at hop
  | released _ _ _ hop => simp [← hc] at hop

/-- Nothing leaks in a history exactly when all its calls keep the owners. -/
theorem no_leak_iff (h : List (EngineCall F)) :
    NoLeak h ↔ (engine F).Guarded KeepsOwners h := by
  refine ⟨fun hleak => (owned_iff_guarded h).mp hleak.owned, fun hg => ?_⟩
  refine ⟨(owned_iff_guarded h).mpr hg, ?_⟩
  rintro pre now x post s rfl hreply hs rid r hcreated hr
  -- A live entry would be owned by `x`, which is cancelled.
  have ho : ((engine F).after (pre ++ [⟨now, .cancel x⟩])).Owned :=
    ((owned_iff_guarded _).mpr hg) _ post (by simp)
  obtain ⟨record, hfind, hlife⟩ := cancel_lifecycle (linked_after pre) hreply hs
  by_contra hlive
  obtain ⟨life, hst⟩ := ReservationStatus.exists_holder_iff.mpr (Bool.eq_true_of_not_eq_false hlive)
  obtain ⟨y, record', hn, hlife', -⟩ := ho rid r life hr hst
  have hcreated' : CreatedFor (pre ++ [⟨now, .cancel x⟩]) x rid :=
    Machine.happened_snoc.mpr (.inl hcreated)
  obtain rfl := hcreated'.names.2 y record' hn
  have hfind' : ((engine F).after (pre ++ [⟨now, .cancel y⟩])).requests.find? y = some record := by
    rwa [Machine.after_snoc]
  obtain rfl := Option.some.inj (hfind'.symm.trans hn.find)
  rcases ReservationStatus.holder_eq_some_iff.mp hst with ⟨-, rfl⟩ | ⟨-, rfl⟩ <;>
    simp [hlife] at hlife'

/-- The duplicate guard answers a resubmission with a rejection that overwrites the decision
of the reserved record: its reservation stays live and nobody names it. -/
theorem no_leak_fails : ¬ NoLeak (Sample.opening ++
    [⟨0, .evaluate (Sample.descriptor 1)⟩, ⟨0, .evaluate (Sample.descriptor 1)⟩]) := by
  intro hleak
  have ho := hleak.owned.last
  generalize hf : (engine Binary64).after _ = f at ho
  have hstatus : (f.table.find? ⟨1⟩).map (·.status) = some .reserved := by
    subst hf
    decide +kernel
  have hnone : ∀ e ∈ f.requests.entries, e.2.reservation? ≠ some ⟨1⟩ := by
    subst hf
    decide +kernel
  obtain ⟨r, hr, hst⟩ := Option.map_eq_some_iff.mp hstatus
  obtain ⟨x, record, hn, -⟩ := ho ⟨1⟩ r .reserved hr (by rw [hst]; rfl)
  exact hnone (x, record) (OrdMap.find?_eq_some_iff.mp hn.find) hn.link

end AdmissionFabric

end Fabric
