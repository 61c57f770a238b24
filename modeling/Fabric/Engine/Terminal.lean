import Fabric.Engine.Progress

/-!
# Terminal lifecycles

A record that is released, rejected, expired or cancelled should stay so. Evaluations, releases
and cancels keep it; only a commit writes the lifecycle without looking at it, so a terminal
record comes back exactly when it still names a provisional entry and the commit is in time
(`absorbing_iff`). Such a record arises when a deferred request that was admitted is
cancelled: `cancel_request` rolls a reservation back for reserved records only
(`revives_none_of_cancels_clean`).
-/

namespace Fabric

open Support

variable {F : Type} [Double F]

namespace AdmissionFabric

/-- No commit of a terminal request succeeds. -/
def RevivesNone (f : AdmissionFabric F) (c : EngineCall F) : Prop :=
  ∀ x record dec rid r, f.Commits c x record dec rid r → record.lifecycle.isTerminal = false

/-- No cancel finds an open record that names a provisional entry. -/
def CancelsClean (f : AdmissionFabric F) (c : EngineCall F) : Prop :=
  ∀ x record rid r, c.op = .cancel x → Names f.requests x record rid →
    record.lifecycle.isOpen = true → f.table.find? rid = some r → r.status ≠ .reserved

/-- Once a request is terminal, a call neither changes its lifecycle, nor gives it a
reservation, nor commits one that was created for it. -/
structure Absorbing (h : List (EngineCall F)) : Prop where
  stays : ∀ pre c post x life, h = pre ++ c :: post →
    ((engine F).after pre).lifecycle? x = some life → life.isTerminal = true →
    ((engine F).after (pre ++ [c])).lifecycle? x = some life
  grants : ∀ pre c post x life rid, h = pre ++ c :: post →
    ((engine F).after pre).lifecycle? x = some life → life.isTerminal = true →
    ¬ ((engine F).after pre).Grants c x rid
  commits : ∀ pre c post x life rid r r', h = pre ++ c :: post →
    ((engine F).after pre).lifecycle? x = some life → life.isTerminal = true →
    CreatedFor pre x rid → ((engine F).after pre).table.find? rid = some r →
    ((engine F).after (pre ++ [c])).table.find? rid = some r' →
    r'.status = .committed → r.status = .committed

variable {f f' : AdmissionFabric F} {c : EngineCall F} {reply : EngineReply F}
  {x : AdmissionRequestId} {life : RequestLifecycle}

/-- A terminal record stays so unless it is revived. -/
theorem lifecycle?_kept (hf : f.Linked) (hc : f.RevivesNone c) (h : f.lifecycle? x = some life)
    (hterm : life.isTerminal = true) : (f.call c).2.lifecycle? x = some life := by
  obtain ⟨record, hfind, rfl⟩ := lifecycle?_eq_some_iff.mp h
  obtain ⟨record', hfind', hmoves⟩ := (call_effect hf.accounting c).record_kept hf.links hfind
  refine lifecycle?_eq_some_iff.mpr ⟨record', hfind', ?_⟩
  cases hmoves with
  | stayed hlife => exact hlife
  | @admitted record₁ dec rid r hcommits _ =>
    obtain rfl := Option.some.inj (hfind.symm.trans hcommits.find)
    simp [hc x record dec rid r hcommits] at hterm
  | released hold _ => rcases hold with hold | hold <;> simp [hold, RequestLifecycle.isTerminal] at hterm
  | cancelled hold _ =>
    rcases hold with hold | hold
    · revert hold hterm
      cases record.lifecycle <;> simp [RequestLifecycle.isOpen, RequestLifecycle.isTerminal]
    · simp [hold, RequestLifecycle.isTerminal] at hterm

theorem not_grants_of_terminal (hf : f.Linked) (h : f.lifecycle? x = some life)
    (hterm : life.isTerminal = true) (rid : ReservationId) : ¬ f.Grants c x rid := by
  rintro ⟨dec, hdec, hrid⟩
  obtain ⟨record, hfind, rfl⟩ := lifecycle?_eq_some_iff.mp h
  rcases decides_cases hf hdec with ⟨d, _, _, -, rfl, ⟨a⟩, -⟩ | ⟨_, _, _, -, -, -, hnone, -⟩
  · have hopen := a.isOpen record hfind
    revert hopen hterm
    cases record.lifecycle <;> simp [RequestLifecycle.isOpen, RequestLifecycle.isTerminal]
  · cases hnone.symm.trans hrid

/-- A commit that would revive its request does so. -/
theorem Commits.lifecycle? {record : RequestRecord F} {dec : AdmissionDecision F}
    {rid : ReservationId} {r : ResourceReservation} (hf : f.Linked)
    (h : f.Commits c x record dec rid r) : (f.call c).2.lifecycle? x = some .admitted :=
  lifecycle?_eq_some_iff.mpr ⟨_, by rw [(h.effect hf).2, OrdMap.find?_insert_self], rfl⟩

/-- A history keeps its terminal requests terminal exactly when no commit revives one. -/
theorem absorbing_iff_guarded (h : List (EngineCall F)) :
    Absorbing h ↔ (engine F).Guarded RevivesNone h := by
  constructor
  · rintro habs pre c post hh x record dec rid r hcommits
    by_contra hterm
    have hlife : ((engine F).after pre).lifecycle? x = some record.lifecycle :=
      lifecycle?_eq_some_iff.mpr ⟨record, hcommits.find, rfl⟩
    have hstay := habs.stays pre c post x _ hh hlife (Bool.eq_true_of_not_eq_false hterm)
    rw [Machine.after_snoc] at hstay
    have hadm := (hcommits.lifecycle? (linked_after pre)).symm.trans hstay
    simp [← Option.some.inj hadm, RequestLifecycle.isTerminal] at hterm
  · intro hg
    refine ⟨?_, ?_, ?_⟩
    · intro pre c post x life hh hlife hterm
      rw [Machine.after_snoc]
      exact lifecycle?_kept (linked_after pre) (hg pre c post hh) hlife hterm
    · intro pre c post x life rid _ hlife hterm
      exact not_grants_of_terminal (linked_after pre) hlife hterm rid
    · intro pre c post x life rid r r' hh hlife hterm hcreated hr hr' hst'
      by_contra hst
      rw [Machine.after_snoc] at hr'
      obtain ⟨y, record, dec, hcommits⟩ :=
        (call_effect (linked_after pre).accounting c).committed_cases hr hst hr' hst'
      obtain rfl := hcreated.names.2 y record hcommits.names
      obtain ⟨record', hfind, rfl⟩ := lifecycle?_eq_some_iff.mp hlife
      obtain rfl := Option.some.inj (hfind.symm.trans hcommits.find)
      simp [hg pre c post hh y record' dec rid r hcommits] at hterm

/-! ## Where revivals come from -/

/-- A terminal record names no provisional entry. -/
def TerminalDead (f : AdmissionFabric F) : Prop :=
  ∀ x record rid r, Names f.requests x record rid → record.lifecycle.isTerminal = true →
    f.table.find? rid = some r → r.status ≠ .reserved

/-- Records that a call leaves alone stay dead when terminal; one record is put anew. -/
theorem TerminalDead.put_record (ht : f.TerminalDead) (hl : Links f.requests f.table)
    (he : f.CallEffect c reply f') {record' : RequestRecord F}
    (hrequests : f'.requests = f.requests.insert x record')
    (hself : ∀ rid r, record'.reservation? = some rid → record'.lifecycle.isTerminal = true →
      f'.table.find? rid = some r → r.status ≠ .reserved) : f'.TerminalDead := by
  intro y record rid r' hn hterm hr' hst
  rw [hrequests] at hn
  rcases Links.names_insert.mp hn with ⟨-, rfl, hlink⟩ | ⟨-, hn⟩
  · exact hself rid r' hlink hterm hr' hst
  · obtain ⟨r, hr⟩ := hl.present y record rid hn
    exact ht y record rid r hn hterm hr (he.reserved_back hr hr' hst)

theorem terminalDead_effect (hf : f.Linked) (ht : f.TerminalDead) (hc : f.CancelsClean c)
    (he : f.CallEffect c reply f') : f'.TerminalDead := by
  have hl := hf.links
  have hcases := he
  cases he with
  | configured _ hkept => rwa [TerminalDead, hkept.requests, hkept.table]
  | failed _ _ _ _ hkept => rwa [TerminalDead, hkept.requests, hkept.table]
  | refused d r base _ _ _ hproper _ hrequests =>
    refine ht.put_record hl hcases hrequests fun rid _ hlink => ?_
    simp [hproper.reservation] at hlink
  | admitted d a dec rid entry _ _ _ _ _ _ _ _ _ hrequests =>
    refine ht.put_record hl hcases hrequests fun _ _ _ hterm => ?_
    -- The record was open before, or is new and `reserved` now.
    cases hfind : f.requests.find? d.admissionRequestId with
    | none =>
      rw [hfind, Option.getD_none, RequestRecord.settle_lifecycle_of_new (.inl rfl)] at hterm
      simp [RequestLifecycle.isTerminal] at hterm
    | some record =>
      have hopen := a.isOpen record hfind
      rw [hfind, Option.getD_some] at hterm
      unfold RequestRecord.settle at hterm
      split_ifs at hterm
      · simp [RequestLifecycle.isTerminal] at hterm
      · revert hopen hterm
        cases record.lifecycle <;> simp [RequestLifecycle.isOpen, RequestLifecycle.isTerminal]
  | committed x g record dec rid r _ _ _ _ _ _ _ _ _ hrequests =>
    refine ht.put_record hl hcases hrequests fun _ _ _ hterm => ?_
    simp [RequestLifecycle.isTerminal] at hterm
  | lapsed x g record _ _ _ _ _ _ _ hfind _ _ _ _ _ _ hrequests =>
    refine ht.put_record hl hcases (hrequests.trans (OrdMap.insert_eq_self hfind).symm)
      fun rid r' hlink hterm hr' hst => ?_
    obtain ⟨r, hr⟩ := hl.present x record rid ⟨hfind, hlink⟩
    exact ht x record rid r ⟨hfind, hlink⟩ hterm hr (hcases.reserved_back hr hr' hst)
  | released rid r st _ _ hr hst hrequests htable =>
    intro y record' rid' r' hn hterm hr' hst'
    obtain ⟨hfind, hlink⟩ := hn
    rw [hrequests, OrdMap.find?_mapValues] at hfind
    obtain ⟨record, hrecord, rfl⟩ := Option.map_eq_some_iff.mp hfind
    rw [RequestRecord.reservation?, releaseRecord_lastDecision] at hlink
    obtain ⟨r₀, hr₀⟩ := hl.present y record rid' ⟨hrecord, hlink⟩
    unfold releaseRecord at hterm
    split_ifs at hterm with hrel
    · obtain rfl : rid' = rid := Option.some.inj (hlink.symm.trans hrel.1)
      rw [htable, OrdMap.find?_insert_self] at hr'
      obtain rfl := Option.some.inj hr'
      rcases hst with rfl | rfl <;> cases hst'
    · exact ht y record rid' r₀ ⟨hrecord, hlink⟩ hterm hr₀ (hcases.reserved_back hr₀ hr' hst')
  | cancelled x record hop _ hfind hlife hrequests htable =>
    refine ht.put_record hl hcases hrequests fun rid r hlink _ hr => ?_
    rw [htable] at hr
    rcases hlife with hopen | ⟨-, hnot⟩
    · exact hc x record rid r hop ⟨hfind, hlink⟩ hopen hr
    · exact hnot rid r hlink hr
  | rolledBack x record rid r _ _ hfind _ hrid hr _ hrequests htable =>
    refine ht.put_record hl hcases hrequests fun rid' r' hlink _ hr' => ?_
    obtain rfl : rid = rid' := Option.some.inj (hrid.symm.trans hlink)
    rw [htable, OrdMap.find?_insert_self] at hr'
    obtain rfl := Option.some.inj hr'
    simp

/-- Without such cancels no terminal request is ever revived. -/
theorem revives_none_of_cancels_clean {h : List (EngineCall F)}
    (hg : (engine F).Guarded CancelsClean h) : (engine F).Guarded RevivesNone h := by
  rintro pre c post rfl x record dec rid r hcommits
  have ht : ((engine F).after pre).TerminalDead :=
    Machine.invariant_of_guarded linked_after (fun _ _ _ _ hn => by cases hn.find)
      (fun f c hf hc ht => terminalDead_effect hf ht hc (call_effect hf.accounting c))
      hg.prefix
  by_contra hterm
  exact ht x record rid r hcommits.names (Bool.eq_true_of_not_eq_false hterm) hcommits.entry
    hcommits.status

/-- Terminal lifecycles absorb exactly when no terminal request is committed, and they do
whenever no cancel leaves a provisional entry behind. -/
theorem absorbing_iff (h : List (EngineCall F)) :
    (Absorbing h ↔ (engine F).Guarded RevivesNone h) ∧
      ((engine F).Guarded CancelsClean h → Absorbing h) :=
  ⟨absorbing_iff_guarded h,
    fun hg => (absorbing_iff_guarded h).mpr (revives_none_of_cancels_clean hg)⟩

/-- A request is deferred, admitted on the next try, cancelled, and then committed. -/
theorem absorbing_fails : ¬ Absorbing
    [⟨0, .installPolicy Sample.policy⟩, ⟨0, .evaluate (Sample.descriptor 1)⟩,
      ⟨0, .setSnapshot (Sample.snapshot 2000000000)⟩, ⟨0, .evaluate (Sample.descriptor 1)⟩,
      ⟨0, .cancel ⟨1⟩⟩, ⟨0, .commit ⟨1⟩ ⟨1⟩⟩] := by
  intro habs
  have hstay := habs.stays [⟨0, .installPolicy Sample.policy⟩,
    ⟨0, .evaluate (Sample.descriptor 1)⟩, ⟨0, .setSnapshot (Sample.snapshot 2000000000)⟩,
    ⟨0, .evaluate (Sample.descriptor 1)⟩, ⟨0, .cancel ⟨1⟩⟩] ⟨0, .commit ⟨1⟩ ⟨1⟩⟩ [] ⟨1⟩ .cancelled
    rfl (by decide +kernel) rfl
  revert hstay
  decide +kernel

end AdmissionFabric

end Fabric
