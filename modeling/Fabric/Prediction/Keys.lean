import Fabric.Prediction.Resolution
import Fabric.Support.Separator

/-!
# Keys of workloads

The key of a profile, a request or an observation joins its model, its revision and three strings
of the client by separators. A combination of these has a key of its own exactly when no string
holds a separator that stands beside it (`key_separates_iff`). The model and the revision can always
be read back, since no decimal holds a separator.
-/

namespace Fabric

open Support

variable {F : Type} [Double F]

/-- What a key is made of. -/
@[ext]
structure Combination where
  modelId : ModelId
  revision : ModelRevision
  backend : ByteString
  dtype : ByteString
  quantization : ByteString
  deriving DecidableEq

def PredictionProfile.combination (p : PredictionProfile F) : Combination :=
  ⟨p.modelId, p.revision, p.backend, p.dtype, p.quantization⟩

def AdmissionDescriptor.combination (d : AdmissionDescriptor F) : Combination :=
  ⟨d.modelId, d.modelRevision, d.backend, d.dtype, d.quantization⟩

def Observation.combination (o : Observation) : Combination :=
  ⟨o.modelId, o.modelRevision, o.backend, o.dtype, o.quantization⟩

namespace Combination

def key (c : Combination) : ByteString :=
  profileKey c.modelId c.revision c.backend c.dtype c.quantization

/-- No string holds a separator that stands beside it in the key. -/
structure SeparatorFree (c : Combination) : Prop where
  backend : ¬ ascii ";dt=" <:+: c.backend
  dtype : ¬ ascii ";dt=" <:+: c.dtype ∧ ¬ ascii ";q=" <:+: c.dtype
  quantization : ¬ ascii ";q=" <:+: c.quantization

theorem key_eq (c : Combination) : c.key = modelRevPrefix c.modelId c.revision ++ (ascii "be=" ++
    Separator.join₃ (ascii ";dt=") (ascii ";q=") c.backend c.dtype c.quantization) := by
  rw [key, profileKey_eq, Separator.join₃]
  simp only [List.append_assoc]

/-- A combination that shares its key with no other. -/
theorem key_unique_iff (c : Combination) :
    (∀ c' : Combination, c'.key = c.key → c' = c) ↔ c.SeparatorFree := by
  have hunique := Separator.join₃_unique_iff (by decide : 59 ∉ ascii "dt=")
    (by decide : 59 ∉ ascii "q=") (fun u v h => by cases h) c.backend c.dtype c.quantization
  have hfree : c.SeparatorFree ↔ (¬ ascii ";dt=" <:+: c.backend) ∧
      ((¬ ascii ";dt=" <:+: c.dtype) ∧ ¬ ascii ";q=" <:+: c.dtype) ∧
        ¬ ascii ";q=" <:+: c.quantization :=
    ⟨fun h => ⟨h.backend, h.dtype, h.quantization⟩, fun h => ⟨h.1, h.2.1, h.2.2⟩⟩
  rw [hfree]
  refine Iff.trans ?_ hunique
  constructor
  · intro h x y z hjoin
    have hc := h ⟨c.modelId, c.revision, x, y, z⟩ (by
      rw [key_eq, key_eq]
      exact congrArg _ (congrArg _ hjoin))
    rw [← hc]
    exact ⟨rfl, rfl, rfl⟩
  · intro h c' hkey
    rw [key_eq, key_eq] at hkey
    obtain ⟨hmodel, hrevision⟩ := modelRevPrefix_append_inj hkey
    rw [hmodel, hrevision] at hkey
    obtain ⟨hbackend, hdtype, hquantization⟩ :=
      h _ _ _ (List.append_cancel_left (List.append_cancel_left hkey))
    exact Combination.ext hmodel hrevision hbackend hdtype hquantization

/-- The key of a combination keeps it apart from every other one: as keys, when a profile is
registered, when a request or an observation meets a profile under its exact key, and in the
search by model and revision. -/
structure KeySeparates (F : Type) [Double F] (c : Combination) : Prop where
  distinct : ∀ c' : Combination, c' ≠ c → c'.key ≠ c.key
  registers : ∀ (h : List (PredictorCall F)) (prof : PredictionProfile F), prof.combination = c →
    ∀ key p, ((WorkloadPredictor.machine F).after h).profs.find? key = some p →
      p.combination ≠ c →
      (((WorkloadPredictor.machine F).after h).registerProfile prof).2.profs.find? key = some p
  requests : ∀ (h : List (PredictorCall F)) (d : AdmissionDescriptor F), d.combination = c →
    ∀ p, ((WorkloadPredictor.machine F).after h).profs.find? d.key = some p → p.combination = c
  observes : ∀ (h : List (PredictorCall F)) (obs : Observation), obs.combination = c →
    ∀ p, ((WorkloadPredictor.machine F).after h).profs.find? obs.key = some p → p.combination = c
  search : ∀ m r, modelRevPrefix m r <+: c.key → m = c.modelId ∧ r = c.revision

/-- In a reachable predictor, the profile under the key of a combination of its own is of that
combination. -/
theorem SeparatorFree.combination_eq {c : Combination} (hc : c.SeparatorFree)
    (h : List (PredictorCall F)) {p : PredictionProfile F}
    (hp : ((WorkloadPredictor.machine F).after h).profs.find? c.key = some p) :
    p.combination = c :=
  (key_unique_iff c).mpr hc p.combination (WorkloadPredictor.keyed_after h _ _ hp)

/-- The key of a combination keeps it apart from every other one exactly when no string holds a
separator that stands beside it. -/
theorem key_separates_iff (F : Type) [Double F] (c : Combination) :
    KeySeparates F c ↔ c.SeparatorFree := by
  constructor
  · intro h
    refine (key_unique_iff c).mp fun c' hkey => ?_
    by_contra hne
    exact h.distinct c' hne hkey
  · intro hc
    refine ⟨fun c' hne hkey => hne ((key_unique_iff c).mpr hc c' hkey), ?_, ?_, ?_, ?_⟩
    · rintro h prof rfl key p hp hne
      unfold WorkloadPredictor.registerProfile
      simp only
      split_ifs with hfull
      · exact hp
      · rw [OrdMap.find?_insert, if_neg]
        · exact hp
        · rintro rfl
          exact hne (hc.combination_eq h hp)
    · rintro h d rfl p hp
      exact hc.combination_eq h hp
    · rintro h obs rfl p hp
      exact hc.combination_eq h hp
    · intro m r hpre
      obtain ⟨rest, hrest⟩ := hpre
      rw [key_eq] at hrest
      exact modelRevPrefix_append_inj hrest

end Combination

namespace Sample

/-- A profile of model 1 on a backend with a data type. -/
def typed (backend dtype : String) : PredictionProfile Binary64 :=
  { modelId := ⟨1⟩, revision := ⟨1⟩, backend := ascii backend, dtype := ascii dtype }

end Sample

/-- Two profiles of different combinations, with a separator in the data type of the first and in
the backend of the second: the second registration overwrites the first profile. -/
theorem Combination.key_separates_fails :
    ¬ Combination.KeySeparates Binary64 (Sample.typed "cuda;dt=fp16" "fp32").combination ∧
      ((WorkloadPredictor.machine Binary64).after
        [.registerProfile (Sample.typed "cuda" "fp16;dt=fp32"),
          .registerProfile (Sample.typed "cuda;dt=fp16" "fp32")]).profs.size = 1 := by
  refine ⟨fun h => ?_, by decide +kernel⟩
  exact h.distinct (Sample.typed "cuda" "fp16;dt=fp32").combination (by decide) (by decide)

end Fabric
