import Fabric.Engine.Progress

/-!
# The authority of a commit

The decision stored in a record is the answer to the last evaluation of its request
(`decided_of_record`). While the generation counter has not reached its largest value, every
admission gets a generation of its own (`issued_lt`, `issued_unique`), so a commit with a
generation stands for one admission, and the entry it commits can never be committed again.
-/

namespace Fabric

open Support

variable {F : Type} [Double F]

/-- The reply is a decision that admits. -/
def EngineReply.isAdmission (r : EngineReply F) : Bool := r.decision?.any AdmissionDecision.isAdmit

/-- How many evaluations of a history admitted. -/
def admissionCount (h : List (EngineCall F)) : Nat :=
  ((engine F).replies (engine F).init h).countP EngineReply.isAdmission

namespace AdmissionFabric

/-- The call answers with a successful status. -/
def Succeeds (f : AdmissionFabric F) (c : EngineCall F) : Prop :=
  ∃ s, (f.call c).1 = .status s ∧ s.isOk = true

/-- The call issues generation `g` for reservation `rid` of request `x`. -/
def Issues (f : AdmissionFabric F) (c : EngineCall F) (g : AdmissionGeneration)
    (x : AdmissionRequestId) (rid : ReservationId) : Prop :=
  ∃ dec, f.Decides c x dec ∧ dec.admissionGeneration = g ∧ dec.reservationId = some rid

/-- Generations increase from admission to admission, a successful commit stands for the last
evaluation of its request, and no generation is committed twice. -/
structure CommitAuthority (h : List (EngineCall F)) : Prop where
  increasing : ∀ pre c mid c' post x x' dec dec', h = pre ++ c :: mid ++ c' :: post →
    ((engine F).after pre).Decides c x dec → dec.outcome = .admitted →
    ((engine F).after (pre ++ c :: mid)).Decides c' x' dec' → dec'.outcome = .admitted →
    dec.admissionGeneration < dec'.admissionGeneration
  granted : ∀ pre now x g post, h = pre ++ ⟨now, .commit x g⟩ :: post →
    ((engine F).after pre).Succeeds ⟨now, .commit x g⟩ →
    ∃ pre₁ c mid dec rid r, pre = pre₁ ++ c :: mid ∧
      ((engine F).after pre₁).Decides c x dec ∧ dec.outcome = .admitted ∧
      dec.admissionGeneration = g ∧
      (∀ c' ∈ mid, ∀ d, c'.op = .evaluate d → d.admissionRequestId ≠ x) ∧
      dec.reservationId = some rid ∧ ((engine F).after pre).table.find? rid = some r ∧
      r.status = .reserved ∧ now ≤ r.expiresAt
  once : ∀ pre now x mid now' x' g post,
    h = pre ++ ⟨now, .commit x g⟩ :: mid ++ ⟨now', .commit x' g⟩ :: post →
    ((engine F).after pre).Succeeds ⟨now, .commit x g⟩ →
    ¬ ((engine F).after (pre ++ ⟨now, .commit x g⟩ :: mid)).Succeeds ⟨now', .commit x' g⟩

variable {f f' : AdmissionFabric F} {c : EngineCall F} {reply : EngineReply F}
  {x : AdmissionRequestId} {g : AdmissionGeneration} {rid : ReservationId}

/-! ## The stored decision -/

/-- A call that does not evaluate the request keeps its stored decision. -/
theorem CallEffect.decision_kept (he : f.CallEffect c reply f')
    (hop : ∀ d, c.op = .evaluate d → d.admissionRequestId ≠ x) {record' : RequestRecord F}
    (hfind : f'.requests.find? x = some record') :
    ∃ record, f.requests.find? x = some record ∧ record'.lastDecision = record.lastDecision := by
  have put : ∀ y record₁ record₁', f.requests.find? y = some record₁ →
      f'.requests = f.requests.insert y record₁' → record₁'.lastDecision = record₁.lastDecision →
      ∃ record, f.requests.find? x = some record ∧
        record'.lastDecision = record.lastDecision := by
    intro y record₁ record₁' hold h hdec
    rw [h, OrdMap.find?_insert] at hfind
    split_ifs at hfind with hx
    · obtain rfl := Option.some.inj hfind
      exact ⟨record₁, hx ▸ hold, hdec⟩
    · exact ⟨record', hfind, rfl⟩
  have other : ∀ d record₁', c.op = .evaluate d →
      f'.requests = f.requests.insert d.admissionRequestId record₁' →
      ∃ record, f.requests.find? x = some record ∧
        record'.lastDecision = record.lastDecision := by
    intro d record₁' hd h
    rw [h, OrdMap.find?_insert, if_neg (Ne.symm (hop d hd))] at hfind
    exact ⟨record', hfind, rfl⟩
  cases he with
  | configured _ hkept => exact ⟨record', hkept.requests ▸ hfind, rfl⟩
  | failed _ _ _ _ hkept => exact ⟨record', hkept.requests ▸ hfind, rfl⟩
  | refused d _ _ hd _ _ _ _ hrequests => exact other d _ hd hrequests
  | admitted d _ _ _ _ hd _ _ _ _ _ _ _ _ hrequests => exact other d _ hd hrequests
  | committed _ _ _ _ _ _ _ _ hold _ _ _ _ _ _ hrequests => exact put _ _ _ hold hrequests rfl
  | lapsed _ _ _ _ _ _ _ _ _ _ _ _ _ _ _ _ _ hrequests => exact ⟨record', hrequests ▸ hfind, rfl⟩
  | released _ _ _ _ _ _ _ hrequests =>
    rw [hrequests, OrdMap.find?_mapValues] at hfind
    obtain ⟨record, hrecord, rfl⟩ := Option.map_eq_some_iff.mp hfind
    exact ⟨record, hrecord, releaseRecord_lastDecision _ _ _⟩
  | cancelled _ _ _ _ hold _ hrequests => exact put _ _ _ hold hrequests rfl
  | rolledBack _ _ _ _ _ _ hold _ _ _ _ hrequests => exact put _ _ _ hold hrequests rfl

/-- The stored decision answers the last evaluation of the request. -/
theorem decided_of_record (h : List (EngineCall F)) {record : RequestRecord F}
    {dec : AdmissionDecision F} (hfind : ((engine F).after h).requests.find? x = some record)
    (hdec : record.lastDecision = some dec) :
    ∃ pre c mid, h = pre ++ c :: mid ∧ ((engine F).after pre).Decides c x dec ∧
      ∀ c' ∈ mid, ∀ d, c'.op = .evaluate d → d.admissionRequestId ≠ x := by
  induction h using List.reverseRecOn generalizing record with
  | nil => cases hfind
  | append_singleton h c ih =>
    have hf := linked_after h
    rw [Machine.after_snoc] at hfind
    change (((engine F).after h).call c).2.requests.find? x = some record at hfind
    have he := call_effect hf.accounting c
    by_cases hop : ∀ d, c.op = .evaluate d → d.admissionRequestId ≠ x
    · obtain ⟨record₀, hfind₀, hlast⟩ := he.decision_kept hop hfind
      obtain ⟨pre, c₁, mid, rfl, hdecides, hmid⟩ := ih hfind₀ (hlast ▸ hdec)
      refine ⟨pre, c₁, mid ++ [c], by simp, hdecides, fun c' hc' => ?_⟩
      rcases List.mem_append.mp hc' with hc' | hc'
      · exact hmid c' hc'
      · obtain rfl := List.mem_singleton.mp hc'
        exact hop
    · push Not at hop
      obtain ⟨d, hd, hx⟩ := hop
      -- The last call evaluates the request, and its answer is what is stored.
      obtain ⟨dec', hreply⟩ : ∃ dec', (((engine F).after h).call c).1 = .decision dec' := by
        obtain ⟨now, op⟩ := c
        obtain rfl := hd
        exact ⟨_, rfl⟩
      have hdecides : ((engine F).after h).Decides c x dec' := ⟨d, hd, hx, hreply⟩
      refine ⟨h, c, [], rfl, ?_, by simp⟩
      have hlast : record.lastDecision = some dec' := by
        rcases decides_cases hf hdecides with
          ⟨_, _, _, -, -, -, -, -, -, -, -, -, hrequests, -⟩ | ⟨_, _, _, -, -, -, -, -, -, hrequests, -⟩ <;>
        · rw [hrequests, OrdMap.find?_insert_self] at hfind
          obtain rfl := Option.some.inj hfind
          exact RequestRecord.settle_lastDecision
      rwa [Option.some.inj (hdec.symm.trans hlast)]

/-! ## Generations -/

theorem admissionCount_snoc (h : List (EngineCall F)) (c : EngineCall F) :
    admissionCount (h ++ [c]) = admissionCount h +
      if (((engine F).after h).call c).1.isAdmission then 1 else 0 := by
  rw [admissionCount, Machine.replies_snoc, List.countP_append, List.countP_singleton]
  rfl

theorem admissionCount_le (h h' : List (EngineCall F)) :
    admissionCount h ≤ admissionCount (h ++ h') := by
  induction h' using List.reverseRecOn with
  | nil => simp
  | append_singleton h' c ih =>
    rw [← List.append_assoc, admissionCount_snoc]
    exact ih.trans (Nat.le_add_right _ _)

theorem decision?_of_configuration (h : c.op.IsConfiguration) :
    (f.call c).1.decision? = none := by
  obtain ⟨now, op⟩ := c
  cases op <;> first | rfl | exact absurd h id

/-- An admission moves the counter, every other call keeps it. -/
theorem generation_next (hf : f.Linked) (c : EngineCall F) :
    (f.call c).2.admissionGeneration =
      if (f.call c).1.isAdmission then f.admissionGeneration.next else f.admissionGeneration := by
  have he := call_effect hf.accounting c
  have hconf := decision?_of_configuration (f := f) (c := c)
  generalize (f.call c).1 = reply at he hconf ⊢
  generalize (f.call c).2 = f' at he ⊢
  cases he with
  | configured hop hkept => simp [hkept.generation, EngineReply.isAdmission, hconf hop]
  | failed _ _ hreply _ hkept => simp [hreply, hkept.generation, EngineReply.isAdmission, EngineReply.decision?]
  | refused _ r _ _ hreply _ hproper _ _ _ hgen =>
    simp [hreply, hgen, EngineReply.isAdmission, EngineReply.decision?, hproper.not_admit]
  | admitted _ _ dec _ _ _ hreply hout _ _ _ _ _ _ _ _ hgen =>
    simp [hreply, hgen, EngineReply.isAdmission, EngineReply.decision?, AdmissionDecision.isAdmit, hout]
  | committed _ _ _ _ _ _ _ hreply _ _ _ _ _ _ _ _ _ hgen =>
    simp [hreply, hgen, EngineReply.isAdmission, EngineReply.decision?]
  | lapsed _ _ _ _ _ _ _ _ hreply _ _ _ _ _ _ _ _ _ _ hgen =>
    simp [hreply, hgen, EngineReply.isAdmission, EngineReply.decision?]
  | released _ _ _ _ hreply _ _ _ _ hgen =>
    simp [hreply, hgen, EngineReply.isAdmission, EngineReply.decision?]
  | cancelled _ _ _ hreply _ _ _ _ hgen =>
    simp [hreply, hgen, EngineReply.isAdmission, EngineReply.decision?]
  | rolledBack _ _ _ _ _ hreply _ _ _ _ _ _ _ hgen =>
    simp [hreply, hgen, EngineReply.isAdmission, EngineReply.decision?]

theorem toNat_next {g : AdmissionGeneration} (h : g.value.toNat < 2 ^ 64 - 1) :
    g.next.value.toNat = g.value.toNat + 1 := by
  unfold Id.next
  rw [if_neg (by omega)]
  show (g.value.toNat + 1) % 2 ^ 64 = g.value.toNat + 1
  omega

/-- The counter counts the admissions until it reaches its largest value. -/
theorem toNat_generation (h : List (EngineCall F)) (hcount : admissionCount h < 2 ^ 64 - 1) :
    ((engine F).after h).admissionGeneration.value.toNat = admissionCount h + 1 := by
  induction h using List.reverseRecOn with
  | nil => rfl
  | append_singleton h c ih =>
    have hle := admissionCount_le h [c]
    have hgen := ih (by omega)
    rw [Machine.after_snoc]
    change (((engine F).after h).call c).2.admissionGeneration.value.toNat = _
    rw [generation_next (linked_after h), admissionCount_snoc]
    rw [admissionCount_snoc] at hcount
    split_ifs at hcount ⊢
    · rw [toNat_next (by omega), hgen]
    · rw [hgen]

/-- What a call issues is the current generation, for a reservation that is new. -/
theorem Issues.eq (hf : f.Linked) (h : f.Issues c g x rid) :
    g = f.admissionGeneration ∧ (f.call c).1.isAdmission = true := by
  obtain ⟨dec, hdec, rfl, hrid⟩ := h
  have hreply := hdec
  obtain ⟨_, _, _, hreply⟩ := hreply
  rcases decides_cases hf hdec with ⟨_, _, _, -, -, -, hout, -, hgen, -⟩ | ⟨_, _, _, -, -, -, hnone, -⟩
  · refine ⟨hgen, ?_⟩
    rw [hreply]
    simp [EngineReply.isAdmission, EngineReply.decision?, AdmissionDecision.isAdmit, hout]
  · cases hnone.symm.trans hrid

/-- An issued generation is below the counter from then on. -/
theorem issued_lt {h : List (EngineCall F)} (hcount : admissionCount h < 2 ^ 64 - 1)
    (hissued : (engine F).Happened (fun f c => f.Issues c g x rid) h) :
    g.value.toNat < ((engine F).after h).admissionGeneration.value.toNat := by
  rw [toNat_generation h hcount]
  induction h using List.reverseRecOn with
  | nil => exact absurd hissued Machine.not_happened_nil
  | append_singleton h c ih =>
    have hle := admissionCount_le h [c]
    rcases Machine.happened_snoc.mp hissued with hissued | hissued
    · have := ih (by omega) hissued
      omega
    · obtain ⟨rfl, hadm⟩ := hissued.eq (linked_after h)
      rw [toNat_generation h (by omega), admissionCount_snoc, hadm]
      simp

/-- A generation is issued once, for one reservation of one request. -/
theorem issued_unique {h : List (EngineCall F)} (hcount : admissionCount h < 2 ^ 64 - 1)
    {x' : AdmissionRequestId} {rid' : ReservationId}
    (hissued : (engine F).Happened (fun f c => f.Issues c g x rid) h)
    (hissued' : (engine F).Happened (fun f c => f.Issues c g x' rid') h) :
    x = x' ∧ rid = rid' := by
  induction h using List.reverseRecOn with
  | nil => exact absurd hissued Machine.not_happened_nil
  | append_singleton h c ih =>
    have hpre : admissionCount h < 2 ^ 64 - 1 := (admissionCount_le h [c]).trans_lt hcount
    rcases Machine.happened_snoc.mp hissued with hold | hnew <;>
      rcases Machine.happened_snoc.mp hissued' with hold' | hnew'
    · exact ih hpre hold hold'
    · obtain ⟨rfl, -⟩ := hnew'.eq (linked_after h)
      exact absurd (issued_lt hpre hold) (lt_irrefl _)
    · obtain ⟨rfl, -⟩ := hnew.eq (linked_after h)
      exact absurd (issued_lt hpre hold') (lt_irrefl _)
    · obtain ⟨dec, ⟨d, hop, hx, hreply⟩, -, hrid⟩ := hnew
      obtain ⟨dec', ⟨d', hop', hx', hreply'⟩, -, hrid'⟩ := hnew'
      obtain rfl : d = d' := by simpa [hop] using hop'
      obtain rfl : dec = dec' := by simpa [hreply] using hreply'
      exact ⟨hx.symm.trans hx', Option.some.inj (hrid.symm.trans hrid')⟩

/-! ## Commits -/

/-- A successful commit finds a provisional entry in time and leaves it committed. -/
theorem commits_of_succeeds (hf : f.Linked) (hop : c.op = .commit x g) (h : f.Succeeds c) :
    ∃ record dec rid r r', f.Commits c x record dec rid r ∧ dec.admissionGeneration = g ∧
      (f.call c).2.table.find? rid = some r' ∧ r'.status ≠ .reserved := by
  obtain ⟨s, hreply, hs⟩ := h
  have he := call_effect hf.accounting c
  rw [hreply] at he
  generalize (f.call c).2 = f' at he ⊢
  cases he with
  | committed y g' record dec rid r hop' _ hfind hdec hg hrid hr hstatus htime _ htable =>
    obtain ⟨rfl, rfl⟩ : y = x ∧ g' = g := by simpa [hop] using hop'.symm
    have hentry := htable ▸ OrdMap.find?_insert_self f.table rid _
    refine ⟨record, dec, rid, r, _, ⟨?_, hfind, hdec, hrid, hr, hstatus, htime⟩, hg, hentry, ?_⟩
    · rw [hop, hg]
    · simp
  | lapsed _ _ _ _ _ _ s' _ hreply' hs' =>
    obtain rfl : s = s' := by simpa using hreply'
    simp [hs] at hs'
  | failed s' _ hreply' hs' =>
    obtain rfl : s = s' := by simpa using hreply'
    simp [hs] at hs'
  | configured hop' => simp [hop, EngineOp.IsConfiguration] at hop'
  | refused _ _ _ hop' => simp [hop] at hop'
  | admitted _ _ _ _ _ hop' => simp [hop] at hop'
  | released _ _ _ hop' => simp [hop] at hop'
  | cancelled _ _ hop' => simp [hop] at hop'
  | rolledBack _ _ _ _ hop' => simp [hop] at hop'

/-- A commit succeeds exactly when it reaches a provisional entry in time, with the generation of
the stored decision. -/
theorem succeeds_iff_commits (hf : f.Linked) (hop : c.op = .commit x g) :
    f.Succeeds c ↔ ∃ record dec rid r, f.Commits c x record dec rid r := by
  constructor
  · intro h
    obtain ⟨record, dec, rid, r, -, hcommits, -⟩ := commits_of_succeeds hf hop h
    exact ⟨record, dec, rid, r, hcommits⟩
  · rintro ⟨record, dec, rid, r, hcommits⟩
    exact ⟨.success, (hcommits.effect hf).1, rfl⟩

/-- The admission that a successful commit stands for. -/
theorem granted_of_succeeds {pre : List (EngineCall F)} (hop : c.op = .commit x g)
    (h : ((engine F).after pre).Succeeds c) :
    ∃ pre₁ c₁ mid dec rid r r', pre = pre₁ ++ c₁ :: mid ∧
      ((engine F).after pre₁).Decides c₁ x dec ∧ dec.outcome = .admitted ∧
      dec.admissionGeneration = g ∧
      (∀ c' ∈ mid, ∀ d, c'.op = .evaluate d → d.admissionRequestId ≠ x) ∧
      dec.reservationId = some rid ∧ ((engine F).after pre).table.find? rid = some r ∧
      r.status = .reserved ∧ c.now ≤ r.expiresAt ∧
      ((engine F).after (pre ++ [c])).table.find? rid = some r' ∧ r'.status ≠ .reserved := by
  obtain ⟨record, dec, rid, r, r', hcommits, hg, hr', hst'⟩ :=
    commits_of_succeeds (linked_after pre) hop h
  obtain ⟨pre₁, c₁, mid, rfl, hdecides, hmid⟩ :=
    decided_of_record pre hcommits.find hcommits.decision
  have hout : dec.outcome = .admitted := by
    rcases decides_cases (linked_after pre₁) hdecides with
      ⟨_, _, _, -, -, -, hout, -⟩ | ⟨_, _, _, -, -, -, hnone, -⟩
    · exact hout
    · cases hnone.symm.trans hcommits.link
  refine ⟨pre₁, c₁, mid, dec, rid, r, r', rfl, hdecides, hout, hg, hmid, hcommits.link,
    hcommits.entry, hcommits.status, Int64.not_lt.mp hcommits.time, ?_, hst'⟩
  rw [Machine.after_snoc]
  exact hr'

/-- The authority of commits, in every history that does not use up the generations. -/
theorem commit_authority (h : List (EngineCall F)) (hcount : admissionCount h < 2 ^ 64 - 1) :
    CommitAuthority h := by
  refine ⟨?_, ?_, ?_⟩
  · rintro pre c mid c' post x x' dec dec' rfl hdec hout hdec' hout'
    have hpre : admissionCount (pre ++ c :: mid) < 2 ^ 64 - 1 :=
      (admissionCount_le _ _).trans_lt hcount
    rcases decides_cases (linked_after pre) hdec with
      ⟨_, rid, _, -, -, -, -, hrid, -⟩ | ⟨_, _, _, -, -, hnot, -⟩
    · rcases decides_cases (linked_after _) hdec' with
        ⟨_, _, _, -, -, -, -, -, hgen', -⟩ | ⟨_, _, _, -, -, hnot, -⟩
      · rw [hgen']
        exact issued_lt hpre ⟨pre, c, mid, rfl, dec, hdec, rfl, hrid⟩
      · exact absurd hout' hnot
    · exact absurd hout hnot
  · rintro pre now x g post rfl hs
    obtain ⟨pre₁, c, mid, dec, rid, r, r', hpre, hdec, hout, hg, hmid, hrid, hr, hst, htime, -⟩ :=
      granted_of_succeeds rfl hs
    exact ⟨pre₁, c, mid, dec, rid, r, hpre, hdec, hout, hg, hmid, hrid, hr, hst, htime⟩
  · rintro pre now x mid now' x' g post rfl hs hs'
    have hcount' : admissionCount (pre ++ ⟨now, .commit x g⟩ :: mid) < 2 ^ 64 - 1 :=
      (admissionCount_le _ _).trans_lt hcount
    obtain ⟨pre₁, c₁, mid₁, dec, rid, r, r', hpre₁, hdec, -, hg, -, hrid, -, -, -, hr', hst'⟩ :=
      granted_of_succeeds rfl hs
    obtain ⟨pre₂, c₂, mid₂, dec₂, rid₂, r₂, _, hpre₂, hdec₂, -, hg₂, -, hrid₂, hr₂, hst₂, -⟩ :=
      granted_of_succeeds rfl hs'
    -- Both commits stand for the one admission that issued `g`.
    obtain ⟨rfl, rfl⟩ : x = x' ∧ rid = rid₂ := by
      refine issued_unique hcount' ⟨pre₁, c₁, mid₁ ++ ⟨now, .commit x g⟩ :: mid, ?_, dec, hdec, hg, hrid⟩
        ⟨pre₂, c₂, mid₂, hpre₂, dec₂, hdec₂, hg₂, hrid₂⟩
      simp [hpre₁]
    -- After the first commit its entry is never provisional again.
    have hgone : ∃ r, ((engine F).after (pre ++ [⟨now, .commit x g⟩] ++ mid)).table.find? rid = some r ∧
        r.status ≠ .reserved := by
      refine Machine.persists (P := fun f : AdmissionFabric F =>
        ∃ r, f.table.find? rid = some r ∧ r.status ≠ .reserved) linked_after ?_ ⟨r', hr', hst'⟩ mid
      rintro f c hf ⟨r, hr, hst⟩
      have he := call_effect hf.accounting c
      obtain ⟨r₁, hr₁, -⟩ := he.entry_kept hr
      exact ⟨r₁, hr₁, fun h => hst (he.reserved_back hr hr₁ h)⟩
    obtain ⟨r₃, hr₃, hst₃⟩ := hgone
    rw [List.append_assoc, List.singleton_append] at hr₃
    obtain rfl := Option.some.inj (hr₂.symm.trans hr₃)
    exact hst₃ hst₂

theorem commit_authority_sample : CommitAuthority (Sample.opening ++
    [⟨0, .evaluate (Sample.descriptor 1)⟩, ⟨0, .commit ⟨1⟩ ⟨1⟩⟩, ⟨0, .evaluate (Sample.descriptor 2)⟩]) :=
  commit_authority _ (by decide +kernel)

end AdmissionFabric

end Fabric
