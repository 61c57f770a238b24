import Fabric.Engine.Progress

/-!
# At most one admission per request

The duplicate guard rejects a request whose record has left the open lifecycles. An admission
moves a new record to `reserved`, and then no call ever opens it again (`closed_next`). But
an admission of a deferred request leaves the lifecycle `deferred`, so the guard lets the
next evaluation through. Apart from these, at most one evaluation admits
(`one_admission_of_guarded`).
-/

namespace Fabric

open Support

variable {F : Type} [Double F]

namespace AdmissionFabric

/-- The call does not admit a request whose record is deferred. -/
def AdmitsNoDeferred (f : AdmissionFabric F) (c : EngineCall F) : Prop :=
  ∀ d record, c.op = .evaluate d → f.requests.find? d.admissionRequestId = some record →
    ¬ (record.lifecycle = .deferred ∧ f.Admissible c.now d)

/-- The request has a record that the duplicate guard stops. -/
def Closed (f : AdmissionFabric F) (x : AdmissionRequestId) : Prop :=
  ∃ record, f.requests.find? x = some record ∧ record.lifecycle.isOpen = false

/-- At most one evaluation of a request admits: every later one rejects and reserves nothing. -/
structure OneAdmission (h : List (EngineCall F)) : Prop where
  once : ∀ pre c mid c' post x, h = pre ++ c :: mid ++ c' :: post →
    ((engine F).after pre).Admits c x → ¬ ((engine F).after (pre ++ c :: mid)).Admits c' x
  later : ∀ pre c post x dec, h = pre ++ c :: post →
    (engine F).Happened (fun f c => f.Admits c x) pre →
    ((engine F).after pre).Decides c x dec → dec.outcome = .reject ∧
      ((engine F).after (pre ++ [c])).table = ((engine F).after pre).table

variable {f : AdmissionFabric F} {c : EngineCall F} {x : AdmissionRequestId}

theorem admitsNoDeferred_of_lifecycle? (h : ∀ d, c.op.descriptor? = some d →
    f.lifecycle? d.admissionRequestId ≠ some .deferred) : f.AdmitsNoDeferred c := by
  rintro d record hop hfind ⟨hdeferred, -⟩
  exact h d (by rw [hop]; rfl) (by rw [lifecycle?, request, hfind, Option.map_some, hdeferred])

theorem closed_next (hf : f.Linked) (h : f.Closed x) : (f.call c).2.Closed x := by
  obtain ⟨record, hfind, hclosed⟩ := h
  obtain ⟨record', hfind', hmoves⟩ := (call_effect hf.accounting c).record_kept hf.links hfind
  refine ⟨record', hfind', ?_⟩
  cases hmoves with
  | stayed hlife => rw [hlife, hclosed]
  | admitted _ hlife => rw [hlife]; rfl
  | released _ hlife => rw [hlife]; rfl
  | cancelled _ hlife => rw [hlife]; rfl

/-- An admission of a request that is not deferred closes its record. -/
theorem closed_of_admits (hf : f.Linked) (hc : f.AdmitsNoDeferred c) (h : f.Admits c x) :
    (f.call c).2.Closed x := by
  obtain ⟨dec, hdec, hout⟩ := h
  rcases decides_cases hf hdec with
    ⟨d, rid, entry, hop, hx, hadm, -, -, -, -, -, -, hrequests, -⟩ | ⟨_, _, _, -, -, hnot, -⟩
  · subst hx
    have hnew : f.requests.find? d.admissionRequestId = none := by
      refine Option.eq_none_iff_forall_ne_some.mpr fun record hfind => ?_
      have hopen := hadm.some.isOpen record hfind
      have hsettled := hf.links.settled _ record hfind
      refine hc d record hop hfind ⟨?_, hadm⟩
      revert hopen hsettled
      cases record.lifecycle <;> simp [RequestLifecycle.isOpen, RequestLifecycle.isSettled]
    refine ⟨_, by rw [hrequests, OrdMap.find?_insert_self], ?_⟩
    rw [hnew, Option.getD_none, RequestRecord.settle_lifecycle_of_new (.inl rfl)]
    rfl
  · exact absurd hout hnot

/-- An evaluation of a closed request rejects and reserves nothing. -/
theorem reject_of_closed (h : f.Closed x) {dec : AdmissionDecision F} (hdec : f.Decides c x dec) :
    dec.outcome = .reject ∧ (f.call c).2.table = f.table := by
  obtain ⟨now, op⟩ := c
  obtain ⟨d, rfl, rfl, hreply⟩ := hdec
  obtain ⟨record, hfind, hclosed⟩ := h
  obtain ⟨r, metrics, hproper, hlife, heq⟩ := evaluate_of_closed now hfind hclosed
  have hd : r.decision = dec := by simpa [call, heq] using hreply
  refine ⟨?_, by simp [call, heq]⟩
  rcases hproper.outcome with ⟨-, hout⟩ | ⟨hdeferred, -⟩
  · rw [← hd, hout]
  · simp [hlife] at hdeferred

/-- At most one admission, in every history without an admission of a deferred request. -/
theorem one_admission_of_guarded (h : List (EngineCall F))
    (hg : (engine F).Guarded AdmitsNoDeferred h) : OneAdmission h := by
  have hclosed : ∀ pre post x, h = pre ++ post → (engine F).Happened (fun f c => f.Admits c x) pre →
      ((engine F).after pre).Closed x := by
    rintro pre post x rfl hadm
    exact hadm.since_of_guarded linked_after (fun f c hf hc ha => closed_of_admits hf hc ha)
      (fun f c hf _ hx => closed_next hf hx) hg.prefix
  have hlater : ∀ pre c post x dec, h = pre ++ c :: post →
      (engine F).Happened (fun f c => f.Admits c x) pre →
      ((engine F).after pre).Decides c x dec → dec.outcome = .reject ∧
        ((engine F).after (pre ++ [c])).table = ((engine F).after pre).table := by
    intro pre c post x dec hh hadm hdec
    rw [Machine.after_snoc]
    exact reject_of_closed (hclosed pre _ x hh hadm) hdec
  refine ⟨fun pre c mid c' post x hh hfirst ⟨dec, hdec, hout⟩ => ?_, hlater⟩
  have hadm : (engine F).Happened (fun f c => f.Admits c x) (pre ++ c :: mid) :=
    ⟨pre, c, mid, rfl, hfirst⟩
  obtain ⟨hrej, -⟩ := hlater _ c' post x dec hh hadm hdec
  simp [hrej] at hout

theorem one_admission_of_guarded_duplicate : OneAdmission (Sample.opening ++
    [⟨0, .evaluate (Sample.descriptor 1)⟩, ⟨0, .evaluate (Sample.descriptor 1)⟩]) := by
  refine one_admission_of_guarded _ (Machine.guarded_iff_guardedFrom.mpr
    ⟨admitsNoDeferred_of_lifecycle? fun d h => ?_, admitsNoDeferred_of_lifecycle? fun d h => ?_,
      admitsNoDeferred_of_lifecycle? fun d h => ?_, admitsNoDeferred_of_lifecycle? fun d h => ?_,
      trivial⟩)
  · cases h
  · cases h
  · obtain rfl := Option.some.inj h
    decide +kernel
  · obtain rfl := Option.some.inj h
    decide +kernel

/-- A request that is deferred for want of a snapshot and admitted once there is one is
admitted again. -/
theorem one_admission_fails : ¬ OneAdmission
    [⟨0, .installPolicy Sample.policy⟩, ⟨0, .evaluate (Sample.descriptor 1)⟩,
      ⟨0, .setSnapshot (Sample.snapshot 2000000000)⟩, ⟨0, .evaluate (Sample.descriptor 1)⟩,
      ⟨0, .evaluate (Sample.descriptor 1)⟩] := by
  intro hone
  refine hone.once [⟨0, .installPolicy Sample.policy⟩, ⟨0, .evaluate (Sample.descriptor 1)⟩,
      ⟨0, .setSnapshot (Sample.snapshot 2000000000)⟩] ⟨0, .evaluate (Sample.descriptor 1)⟩ []
    ⟨0, .evaluate (Sample.descriptor 1)⟩ [] ⟨1⟩ rfl (admits_of_reply rfl rfl ?_)
    (admits_of_reply rfl rfl ?_)
  · decide +kernel
  · decide +kernel

end AdmissionFabric

end Fabric
