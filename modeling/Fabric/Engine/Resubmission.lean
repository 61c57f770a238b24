import Fabric.Engine.Progress

/-!
# What a rejected resubmission does to the admission it duplicates

An evaluation of a reserved or admitted request is rejected by the duplicate guard or the
validation, and the rejection is stored in the record of the live request. `Twin` relates two
engines that agree on the reservations and on the lifecycle of a request whose stored
decisions name nothing; commits, cancels and releases cannot tell them apart. When the stored
decision did name a reservation, the commit with its generation can.
-/

namespace Fabric

open Support

variable {F : Type} [Double F]

/-- The calls that concern an admission of `x`: its commits and cancels, and releases. -/
def EngineCall.Concerns (x : AdmissionRequestId) (c : EngineCall F) : Prop :=
  match c.op with
  | .commit y _ => y = x
  | .cancel y => y = x
  | .release _ => True
  | _ => False

/-- The stored decision names nothing. -/
def RequestRecord.Blank (record : RequestRecord F) : Prop :=
  ∃ dec, record.lastDecision = some dec ∧ dec.admissionGeneration = ⟨0⟩ ∧ dec.reservationId = none

namespace AdmissionFabric

/-- After the evaluation, the calls that concern the request answer the same and lead to the
same lifecycle and reservations as without it. -/
def Undisturbed (f : AdmissionFabric F) (now : TimePoint) (d : AdmissionDescriptor F) : Prop :=
  ∀ cs : List (EngineCall F), (∀ c ∈ cs, c.Concerns d.admissionRequestId) →
    (engine F).replies (f.evaluate now d).2 cs = (engine F).replies f cs ∧
    ((engine F).run (f.evaluate now d).2 cs).lifecycle? d.admissionRequestId =
      ((engine F).run f cs).lifecycle? d.admissionRequestId ∧
    ((engine F).run (f.evaluate now d).2 cs).table = ((engine F).run f cs).table

/-- Same reservations, and the request has the same lifecycle and names nothing in both. -/
structure Twin (x : AdmissionRequestId) (s t : AdmissionFabric F) : Prop where
  reservations : t.reservations = s.reservations
  records : ∃ rs rt, s.requests.find? x = some rs ∧ t.requests.find? x = some rt ∧
    rt.lifecycle = rs.lifecycle ∧ rs.Blank ∧ rt.Blank

variable {f s t : AdmissionFabric F} {x : AdmissionRequestId} {record : RequestRecord F}
  {now : TimePoint}

theorem Blank.reservation? (h : record.Blank) : record.reservation? = none := by
  obtain ⟨dec, hdec, -, hnone⟩ := h
  simp [RequestRecord.reservation?, hdec, hnone]

theorem commit_blank (hfind : f.requests.find? x = some record) (h : record.Blank)
    (g : AdmissionGeneration) :
    f.commitAdmission now x g = (if (⟨0⟩ : AdmissionGeneration) ≠ g then
      .failure .staleAdmissionGeneration "stale admission generation"
      else .failure .admissionWithoutReservation "decision has no reservation", f) := by
  obtain ⟨dec, hdec, hgen, hnone⟩ := h
  unfold commitAdmission
  simp only [hfind, hdec, hgen]
  split_ifs
  · rfl
  · simp only [hnone]

/-- A cancel of a request that names nothing only looks at the lifecycle. -/
theorem cancel_blank (hfind : f.requests.find? x = some record) (h : record.Blank) :
    f.cancelRequest now x =
      if record.lifecycle.isOpen ∨ record.lifecycle = .reserved then
        (.success,
          { f with
            requests := f.requests.insert x
              { record with lifecycle := .cancelled, updatedAt := now } })
      else if record.lifecycle = .admitted then
        (.failure .operationNotPermitted "admitted request must be released, not cancelled", f)
      else (.failure .operationNotPermitted "terminal request cannot mutate", f) := by
  have hnone := Blank.reservation? h
  unfold cancelRequest
  simp only [hfind]
  cases hlife : record.lifecycle <;> simp [RequestLifecycle.isOpen, hnone]

theorem Twin.lifecycle? (h : Twin x s t) : t.lifecycle? x = s.lifecycle? x := by
  obtain ⟨rs, rt, hs, ht, hlife, -⟩ := h.records
  simp [AdmissionFabric.lifecycle?, request, hs, ht, hlife]

/-- The calls that concern the request keep twins and answer them alike. -/
theorem Twin.call {c : EngineCall F} (hc : c.Concerns x) (h : Twin x s t) :
    (engine F).reply s c = (engine F).reply t c ∧
      Twin x ((engine F).next s c) ((engine F).next t c) := by
  obtain ⟨now, op⟩ := c
  obtain ⟨rs, rt, hs, ht, hlife, hbs, hbt⟩ := h.records
  show (s.call ⟨now, op⟩).1 = (t.call ⟨now, op⟩).1 ∧
    Twin x (s.call ⟨now, op⟩).2 (t.call ⟨now, op⟩).2
  cases op with
  | commit y g =>
    obtain rfl : y = x := hc
    simp only [AdmissionFabric.call, commit_blank hs hbs, commit_blank ht hbt]
    exact ⟨trivial, h⟩
  | cancel y =>
    obtain rfl : y = x := hc
    simp only [AdmissionFabric.call, cancel_blank hs hbs, cancel_blank ht hbt, hlife]
    split_ifs
    · refine ⟨rfl, h.reservations, _, _, OrdMap.find?_insert_self _ _ _,
        OrdMap.find?_insert_self _ _ _, ?_, ?_, ?_⟩
      · rfl
      · exact hbs
      · exact hbt
    · exact ⟨rfl, h⟩
    · exact ⟨rfl, h⟩
  | release rid =>
    have hkeep : ∀ record : RequestRecord F, record.Blank →
        releaseRecord now rid record = record := by
      intro record hb
      rw [releaseRecord, if_neg]
      rintro ⟨hlink, -⟩
      simp [Blank.reservation? hb] at hlink
    simp only [AdmissionFabric.call, releaseReservation, h.reservations]
    split_ifs
    · exact ⟨rfl, rfl, rs, rt, hs, ht, hlife, hbs, hbt⟩
    · refine ⟨rfl, rfl, rs, rt, ?_, ?_, hlife, hbs, hbt⟩
      · rw [OrdMap.find?_mapValues, hs, Option.map_some, hkeep rs hbs]
      · rw [OrdMap.find?_mapValues, ht, Option.map_some, hkeep rt hbt]
  | _ => exact absurd hc id

/-- A commit that reaches the reservation is not refused for its generation. -/
theorem commit_not_stale (hf : f.Linked) (now : TimePoint) {dec : AdmissionDecision F} {rid : ReservationId}
    (hfind : f.requests.find? x = some record) (hdec : record.lastDecision = some dec)
    (hrid : dec.reservationId = some rid) :
    (f.commitAdmission now x dec.admissionGeneration).1.code ≠ .staleAdmissionGeneration := by
  unfold commitAdmission
  simp only [hfind, hdec, hrid, ne_eq, not_true_eq_false, if_false]
  rcases ReservationManager.commit_cases hf.accounting now rid x dec.admissionGeneration with
    ⟨s, h, hcode, -⟩ | ⟨r, r2, -, -, -, -, h⟩ | ⟨r, r2, u2, -, -, -, -, -, h⟩
  · rw [h]
    have hne : s.code ≠ .staleAdmissionGeneration := by
      intro hs
      simp [hs] at hcode
    simp only
    split_ifs
    · exact hne
    · exact (by decide : ErrorCode.ok ≠ .staleAdmissionGeneration)
  · rw [h]
    exact (by decide : ErrorCode.reservationExpired ≠ .staleAdmissionGeneration)
  · rw [h]
    exact (by decide : ErrorCode.ok ≠ .staleAdmissionGeneration)

/-- An evaluation of a reserved or admitted request rejects; it leaves the admission
undisturbed exactly when the stored decision names no reservation. -/
theorem undisturbed_iff (h : List (EngineCall F)) (now : TimePoint) (d : AdmissionDescriptor F)
    (hlife : ((engine F).after h).lifecycle? d.admissionRequestId = some .reserved ∨
      ((engine F).after h).lifecycle? d.admissionRequestId = some .admitted) :
    (((engine F).after h).evaluate now d).1.outcome = .reject ∧
      (((engine F).after h).Undisturbed now d ↔
        ((engine F).after h).reservation? d.admissionRequestId = none) := by
  have hf := linked_after h
  generalize (engine F).after h = f at hf hlife ⊢
  obtain ⟨record, hfind, hclosed, hnew⟩ : ∃ record,
      f.requests.find? d.admissionRequestId = some record ∧ record.lifecycle.isOpen = false ∧
        ¬ (record.lifecycle = .proposed ∨ record.lifecycle = .evaluating) := by
    rcases hlife with hlife | hlife <;>
    · obtain ⟨record, hfind, hl⟩ := lifecycle?_eq_some_iff.mp hlife
      exact ⟨record, hfind, by rw [hl]; rfl, by simp [hl]⟩
  obtain ⟨r, metrics, hproper, hrej, heq⟩ := evaluate_of_closed now hfind hclosed
  obtain ⟨dec, hdec⟩ := Option.isSome_iff_exists.mp (hf.links.decided _ record hfind)
  have hout : (f.evaluate now d).1.outcome = .reject := by
    rw [heq]
    rcases hproper.outcome with ⟨-, hout⟩ | ⟨hdeferred, -⟩
    · exact hout
    · simp [hrej] at hdeferred
  have hfind' : (f.evaluate now d).2.requests.find? d.admissionRequestId =
      some (record.settle now .rejected r.decision) := by
    rw [heq]
    exact OrdMap.find?_insert_self _ _ _
  have hblank : (record.settle now .rejected r.decision).Blank :=
    ⟨r.decision, RequestRecord.settle_lastDecision, hproper.generation, hproper.reservation⟩
  refine ⟨hout, fun hund => ?_, fun hnone => ?_⟩
  · -- The commit with the stored generation tells the two engines apart.
    by_contra hsome
    obtain ⟨rid, hrid⟩ : ∃ rid, dec.reservationId = some rid := by
      refine Option.ne_none_iff_exists'.mp fun h => hsome ?_
      simp [AdmissionFabric.reservation?, request, hfind, RequestRecord.reservation?, hdec, h]
    have hgen : dec.admissionGeneration ≠ ⟨0⟩ := fun h => by
      simp [(hf.links.real _ record dec hfind hdec).mp h] at hrid
    obtain ⟨hreplies, -⟩ :=
      hund [⟨now, .commit d.admissionRequestId dec.admissionGeneration⟩] (by simp [EngineCall.Concerns])
    have hreply : EngineReply.status (F := F) ((f.evaluate now d).2.commitAdmission now d.admissionRequestId
          dec.admissionGeneration).1 =
        .status (f.commitAdmission now d.admissionRequestId dec.admissionGeneration).1 :=
      List.head_eq_of_cons_eq hreplies
    rw [commit_blank hfind' hblank, if_pos hgen.symm] at hreply
    refine commit_not_stale hf now hfind hdec hrid ?_
    rw [← EngineReply.status.inj hreply]
    rfl
  · have hold : record.Blank := by
      have hnone' : dec.reservationId = none := by
        simpa [AdmissionFabric.reservation?, request, hfind, RequestRecord.reservation?, hdec] using hnone
      exact ⟨dec, hdec, (hf.links.real _ record dec hfind hdec).mpr hnone', hnone'⟩
    have htwin : Twin d.admissionRequestId (f.evaluate now d).2 f := by
      refine ⟨by rw [heq], _, record, hfind', hfind, ?_, hblank, hold⟩
      rw [RequestRecord.settle_lifecycle_of_old hnew]
    intro cs hcs
    obtain ⟨hreplies, htwin'⟩ :=
      Machine.replies_eq_of_simulation (fun s t c hc ht => Twin.call hc ht) htwin hcs
    exact ⟨hreplies, htwin'.lifecycle?.symm, congrArg ReservationManager.reservations htwin'.reservations.symm⟩

theorem undisturbed_iff_duplicate :
    (((engine Binary64).after (Sample.opening ++ [⟨0, .evaluate (Sample.descriptor 1)⟩])).evaluate 0
      (Sample.descriptor 1)).1.outcome = .reject ∧
    (((engine Binary64).after (Sample.opening ++ [⟨0, .evaluate (Sample.descriptor 1)⟩])).Undisturbed 0
      (Sample.descriptor 1) ↔
    ((engine Binary64).after (Sample.opening ++ [⟨0, .evaluate (Sample.descriptor 1)⟩])).reservation?
      ⟨1⟩ = none) :=
  undisturbed_iff _ 0 (Sample.descriptor 1) (.inl (by decide +kernel))

/-- The duplicate of a reserved request is rejected, and then the commit of the request is
refused as stale. -/
theorem resubmission_disturbs :
    ((engine Binary64).after (Sample.opening ++ [⟨0, .evaluate (Sample.descriptor 1)⟩])).lifecycle?
      ⟨1⟩ = some .reserved ∧
    (((engine Binary64).after (Sample.opening ++ [⟨0, .evaluate (Sample.descriptor 1)⟩])).evaluate 0
      (Sample.descriptor 1)).1.outcome = .reject ∧
    ¬ ((engine Binary64).after (Sample.opening ++ [⟨0, .evaluate (Sample.descriptor 1)⟩])).Undisturbed 0
      (Sample.descriptor 1) := by
  refine ⟨by decide +kernel, by decide +kernel, fun hund => ?_⟩
  obtain ⟨hreplies, -⟩ := hund [⟨0, .commit ⟨1⟩ ⟨1⟩⟩] (by simp [EngineCall.Concerns, Sample.descriptor])
  have hcodes := congrArg (List.map fun r : EngineReply Binary64 => r.status?.map (·.code)) hreplies
  revert hcodes
  decide +kernel

end AdmissionFabric

end Fabric
