import Fabric.Prediction.Footprint
import Fabric.Prediction.History
import Fabric.Support.Prefix

/-!
# Which profile a request resolves to

A request that omits part of its key resolves to the profile with the least key of its model and
revision, whatever else it declares. It resolves to a profile that agrees with all it declares
exactly when that one does, or the one that is filed under its own key (`resolution_agrees_iff`).
-/

namespace Fabric

open Support

variable {F : Type} [Double F]

/-! ## Keys -/

theorem toNat_le_of_digit {n : ℕ} {c : Char} (h : c ∈ Nat.toDigits 10 n) : c.toNat ≤ 57 := by
  have hdigit := Nat.isDigit_of_mem_toDigits (by decide) (by decide) h
  simp only [Char.isDigit, Bool.and_eq_true, decide_eq_true_eq] at hdigit
  exact UInt32.le_iff_toNat_le.mp hdigit.2

theorem toNat_byte {c : Char} (h : c.toNat ≤ 57) : c.toNat.toUInt8.toNat = c.toNat := by
  rw [Nat.toUInt8, UInt8.toNat_ofNat']
  omega

/-- No byte of a decimal is the separator. -/
theorem ne_separator_of_mem {n : ℕ} {b : UInt8} (h : b ∈ toDecimal n) : b ≠ 59 := by
  obtain ⟨c, hc, rfl⟩ := List.mem_map.mp h
  have hle := toNat_le_of_digit hc
  intro heq
  have hbyte := toNat_byte hle
  rw [heq] at hbyte
  have h59 : (59 : UInt8).toNat = 59 := rfl
  omega

theorem toDecimal_injective : Function.Injective toDecimal := by
  have hback : ∀ n, (toDecimal n).map (fun b => Char.ofNat b.toNat) = Nat.toDigits 10 n := by
    intro n
    rw [toDecimal, List.map_map]
    refine (List.map_congr_left fun c hc => ?_).trans (List.map_id _)
    show Char.ofNat c.toNat.toUInt8.toNat = c
    rw [toNat_byte (toNat_le_of_digit hc), Char.ofNat_toNat]
  intro n m h
  have hdigits := (hback n).symm.trans ((congrArg _ h).trans (hback m))
  rw [← Nat.ofDigitChars_ten_toDigits (n := n), hdigits, Nat.ofDigitChars_ten_toDigits]

/-- A decimal and the separator behind it determine the number and the rest. -/
theorem toDecimal_append_inj {n m : ℕ} {x y : ByteString}
    (h : toDecimal n ++ 59 :: x = toDecimal m ++ 59 :: y) : n = m ∧ x = y := by
  obtain ⟨hdec, hrest⟩ := append_cons_inj (p := fun b => b ≠ 59) (fun b hb => ne_separator_of_mem hb)
    (fun b hb => ne_separator_of_mem hb) (by simp) (by simp) h
  exact ⟨toDecimal_injective hdec, hrest⟩

/-- A key is the prefix of its model and revision, and the rest. -/
theorem profileKey_eq (model : ModelId) (revision : ModelRevision)
    (backend dtype quantization : ByteString) :
    profileKey model revision backend dtype quantization = modelRevPrefix model revision ++
      (ascii "be=" ++ backend ++ ascii ";dt=" ++ dtype ++ ascii ";q=" ++ quantization) := by
  have hsplit : ascii ";be=" = ascii ";" ++ ascii "be=" := rfl
  simp only [profileKey, modelRevPrefix, hsplit, List.append_assoc]

/-- A prefix names its model and its revision. -/
theorem modelRevPrefix_append_inj {m m' : ModelId} {r r' : ModelRevision} {x y : ByteString}
    (h : modelRevPrefix m r ++ x = modelRevPrefix m' r' ++ y) : m = m' ∧ r = r' := by
  have hrev : ascii ";rev=" = 59 :: ascii "rev=" := rfl
  have hend : ascii ";" = [59] := rfl
  simp only [modelRevPrefix, hrev, hend, List.append_assoc, List.cons_append,
    List.nil_append] at h
  obtain ⟨hm, h⟩ := toDecimal_append_inj (List.append_cancel_left h)
  obtain ⟨hr, -⟩ := toDecimal_append_inj (List.append_cancel_left h)
  exact ⟨Id.value_injective hm, Id.value_injective hr⟩

theorem modelRevPrefix_prefix_key_iff {m : ModelId} {r : ModelRevision} {p : PredictionProfile F} :
    modelRevPrefix m r <+: p.key ↔ p.modelId = m ∧ p.revision = r := by
  rw [PredictionProfile.key, profileKey_eq]
  constructor
  · rintro ⟨rest, hrest⟩
    obtain ⟨rfl, rfl⟩ := modelRevPrefix_append_inj hrest
    exact ⟨rfl, rfl⟩
  · rintro ⟨rfl, rfl⟩
    exact List.prefix_append _ _

/-! ## Resolution -/

/-- The profile is for the model and the revision of the request, and has what it declares. -/
structure PredictionProfile.Agrees (p : PredictionProfile F) (d : AdmissionDescriptor F) :
    Prop where
  model : p.modelId = d.modelId
  revision : p.revision = d.modelRevision
  backend : d.backend ≠ [] → p.backend = d.backend
  dtype : d.dtype ≠ [] → p.dtype = d.dtype
  quantization : d.quantization ≠ [] → p.quantization = d.quantization

namespace WorkloadPredictor

variable {w : WorkloadPredictor F} {d : AdmissionDescriptor F} {p : PredictionProfile F}

def Registered (w : WorkloadPredictor F) (p : PredictionProfile F) : Prop :=
  ∃ key, w.profs.find? key = some p

/-- When some registered profile agrees with the request, it resolves to one that does, and to the
key of that profile. -/
def ResolutionAgrees (w : WorkloadPredictor F) (d : AdmissionDescriptor F) : Prop :=
  (∃ p, w.Registered p ∧ p.Agrees d) →
    ∃ p, w.profileForDescriptor d = some p ∧ p.Agrees d ∧ w.descriptorKey d = p.key

/-- The profile with the least key among those for the model and the revision of the request. -/
structure First (w : WorkloadPredictor F) (d : AdmissionDescriptor F) (p : PredictionProfile F) :
    Prop where
  registered : w.Registered p
  model : p.modelId = d.modelId
  revision : p.revision = d.modelRevision
  least : ∀ p', w.Registered p' → p'.modelId = d.modelId → p'.revision = d.modelRevision →
    p.key ≤ p'.key

/-- When some registered profile agrees with the request, the one that is filed under its key does,
or, without such a profile, the first one. -/
def FirstAgrees (w : WorkloadPredictor F) (d : AdmissionDescriptor F) : Prop :=
  (∃ p, w.Registered p ∧ p.Agrees d) →
    (∀ p, w.profs.find? d.key = some p → p.Agrees d) ∧
      (w.profs.find? d.key = none → ∀ p, w.First d p → p.Agrees d)

theorem Keyed.mem_iff (hw : w.Keyed) {key : ByteString} :
    (key, p) ∈ w.profs.entries ↔ w.Registered p ∧ key = p.key := by
  rw [← OrdMap.find?_eq_some_iff]
  constructor
  · exact fun h => ⟨⟨key, h⟩, (hw key p h).symm⟩
  · rintro ⟨⟨key', h⟩, rfl⟩
    rw [hw key' p h]
    exact h

theorem byPrefix_eq_some_iff {pre : ByteString} {e : ByteString × PredictionProfile F} :
    w.byPrefix pre = some e ↔ w.profs.lowerBound pre = some e ∧ pre <+: e.1 := by
  unfold byPrefix
  cases w.profs.lowerBound pre with
  | none => simp
  | some first =>
    simp only
    split_ifs with hpre
    · rw [List.isPrefixOf_iff_prefix] at hpre
      exact ⟨fun h => ⟨h, Option.some.inj h ▸ hpre⟩, And.left⟩
    · rw [List.isPrefixOf_iff_prefix] at hpre
      exact iff_of_false nofun fun h => hpre (Option.some.inj h.1 ▸ h.2)

/-- The prefix of a model and a revision finds the first of their profiles. -/
theorem Keyed.byPrefix_iff (hw : w.Keyed) {key : ByteString} :
    w.byPrefix (modelRevPrefix d.modelId d.modelRevision) = some (key, p) ↔
      w.First d p ∧ key = p.key := by
  rw [byPrefix_eq_some_iff, OrdMap.lowerBound_prefix_iff, hw.mem_iff]
  constructor
  · rintro ⟨⟨hreg, rfl⟩, hpre, hleast⟩
    obtain ⟨hmodel, hrevision⟩ := modelRevPrefix_prefix_key_iff.mp hpre
    refine ⟨⟨hreg, hmodel, hrevision, fun p' hreg' hmodel' hrevision' => ?_⟩, rfl⟩
    exact hleast (p'.key, p') (hw.mem_iff.mpr ⟨hreg', rfl⟩)
      (modelRevPrefix_prefix_key_iff.mpr ⟨hmodel', hrevision'⟩)
  · rintro ⟨hfirst, rfl⟩
    refine ⟨⟨hfirst.registered, rfl⟩,
      modelRevPrefix_prefix_key_iff.mpr ⟨hfirst.model, hfirst.revision⟩, ?_⟩
    rintro ⟨key', p'⟩ hmem hpre
    obtain ⟨hreg', rfl⟩ := hw.mem_iff.mp hmem
    obtain ⟨hmodel', hrevision'⟩ := modelRevPrefix_prefix_key_iff.mp hpre
    exact hfirst.least p' hreg' hmodel' hrevision'

/-- A request resolves to the profile under its key, or else to the first one. -/
theorem Keyed.profileForDescriptor_iff (hw : w.Keyed) : w.profileForDescriptor d = some p ↔
    w.profs.find? d.key = some p ∨ w.profs.find? d.key = none ∧ w.First d p := by
  unfold profileForDescriptor
  cases hfind : w.profs.find? d.key with
  | some p' => simp
  | none =>
    simp only [reduceCtorEq, false_or, true_and]
    rw [Option.map_eq_some_iff]
    constructor
    · rintro ⟨⟨key, p'⟩, hpre, rfl⟩
      exact (hw.byPrefix_iff.mp hpre).1
    · exact fun hfirst => ⟨(p.key, p), hw.byPrefix_iff.mpr ⟨hfirst, rfl⟩, rfl⟩

/-- The key that a request resolves to is that of its profile. -/
theorem Keyed.descriptorKey_eq (hw : w.Keyed) (h : w.profileForDescriptor d = some p) :
    w.descriptorKey d = p.key := by
  unfold descriptorKey resolveKey
  rcases hw.profileForDescriptor_iff.mp h with hfind | ⟨hnone, hfirst⟩
  · rw [if_pos (OrdMap.contains_iff.mpr ⟨p, hfind⟩)]
    exact (hw _ p hfind).symm
  · rw [if_neg (by rw [OrdMap.contains_eq_false_iff.mpr hnone]; exact Bool.false_ne_true),
      hw.byPrefix_iff.mpr ⟨hfirst, rfl⟩]

/-- When some profile is registered for the model and the revision, there is a first one. -/
theorem Keyed.exists_first (hw : w.Keyed) (hreg : w.Registered p) (hmodel : p.modelId = d.modelId)
    (hrevision : p.revision = d.modelRevision) : ∃ first, w.First d first := by
  obtain ⟨⟨key, first⟩, hbound⟩ := OrdMap.exists_lowerBound_prefix (hw.mem_iff.mpr ⟨hreg, rfl⟩)
    (modelRevPrefix_prefix_key_iff.mpr ⟨hmodel, hrevision⟩)
  exact ⟨first, (hw.byPrefix_iff.mp (byPrefix_eq_some_iff.mpr hbound)).1⟩

/-- In a reachable predictor a request resolves to a profile that agrees with it exactly when the
one under its key, or else the first one, agrees. -/
theorem resolution_agrees_iff (h : List (PredictorCall F)) (d : AdmissionDescriptor F) :
    ((machine F).after h).ResolutionAgrees d ↔ ((machine F).after h).FirstAgrees d := by
  have hw := keyed_after h
  generalize (machine F).after h = w at hw ⊢
  constructor
  · intro hres hsome
    obtain ⟨p, hprof, hagrees, -⟩ := hres hsome
    refine ⟨fun q hq => ?_, fun hnone q hq => ?_⟩
    · have hprof' := hw.profileForDescriptor_iff.mpr (.inl hq)
      rwa [← Option.some.inj (hprof.symm.trans hprof')]
    · have hprof' := hw.profileForDescriptor_iff.mpr (.inr ⟨hnone, hq⟩)
      rwa [← Option.some.inj (hprof.symm.trans hprof')]
  · intro hfirst hsome
    obtain ⟨hexact, hprefix⟩ := hfirst hsome
    obtain ⟨p, hprof, hagrees⟩ : ∃ p, w.profileForDescriptor d = some p ∧ p.Agrees d := by
      cases hfind : w.profs.find? d.key with
      | some p => exact ⟨p, hw.profileForDescriptor_iff.mpr (.inl hfind), hexact p hfind⟩
      | none =>
        obtain ⟨q, hreg, hq⟩ := hsome
        obtain ⟨p, hp⟩ := hw.exists_first hreg hq.model hq.revision
        exact ⟨p, hw.profileForDescriptor_iff.mpr (.inr ⟨hfind, hp⟩), hprefix hfind p hp⟩
    exact ⟨p, hprof, hagrees, hw.descriptorKey_eq hprof⟩

end WorkloadPredictor

namespace Sample

/-- A profile of model 1 on a backend. -/
def onBackend (backend : String) : PredictionProfile Binary64 :=
  { modelId := ⟨1⟩, revision := ⟨1⟩, backend := ascii backend, dtype := ascii "fp16" }

/-- A request for a backend that leaves the data type open. -/
def undecided : AdmissionDescriptor Binary64 :=
  { work 1000 10 0 with backend := ascii "cuda" }

end Sample

namespace WorkloadPredictor

/-- With a profile on each of two backends, a valid request for the second one resolves to the
first. -/
theorem resolution_agrees_fails : Sample.undecided.validate.isOk = true ∧
    ¬ ((machine Binary64).after [.registerProfile (Sample.onBackend "cpu"),
      .registerProfile (Sample.onBackend "cuda")]).ResolutionAgrees Sample.undecided := by
  refine ⟨by decide +kernel, fun h => ?_⟩
  obtain ⟨p, hprof, hagrees, -⟩ := h
    ⟨{ Sample.onBackend "cuda" with generation := 3 }, ⟨(Sample.onBackend "cuda").key, rfl⟩,
      rfl, rfl, fun _ => rfl, fun hne => absurd rfl hne, fun hne => absurd rfl hne⟩
  have hcpu : (((machine Binary64).after [.registerProfile (Sample.onBackend "cpu"),
      .registerProfile (Sample.onBackend "cuda")]).profileForDescriptor Sample.undecided).map
        (·.backend) = some (ascii "cpu") := by
    decide +kernel
  rw [hprof, Option.map_some] at hcpu
  have hcuda : ascii "cpu" = ascii "cuda" :=
    (Option.some.inj hcpu).symm.trans (hagrees.backend (by decide))
  revert hcuda
  decide

end WorkloadPredictor

end Fabric
