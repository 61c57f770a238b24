import Fabric.Prediction.Predictor
import Fabric.Support.Machine

/-!
# The history of a predictor

The predictor under every sequence of registrations and observations. A registration changes the
profiles, a valid observation what was learned for the key that it resolves to
(`find?_learn_observe`). In every reachable predictor a profile is filed under its key
(`keyed_after`), and the learned states have every property that observations establish and keep
(`learned_after`).
-/

namespace Fabric

open Support

variable {F : Type} [Double F]

/-- The calls that change a predictor. -/
inductive PredictorCall (F : Type) [Double F]
  | registerProfile (prof : PredictionProfile F)
  | observe (obs : Observation)

namespace WorkloadPredictor

/-- A call; an observation has no answer. -/
def call (w : WorkloadPredictor F) : PredictorCall F → Option Bool × WorkloadPredictor F
  | .registerProfile prof =>
    let (accepted, w) := w.registerProfile prof
    (some accepted, w)
  | .observe obs => (none, w.observe obs)

/-- The predictor as a machine that starts without profiles. -/
def machine (F : Type) [Double F] :
    Machine (WorkloadPredictor F) (PredictorCall F) (Option Bool) := ⟨{}, call⟩

/-- The key whose learned state an observation goes to. -/
def observedKey (w : WorkloadPredictor F) (obs : Observation) : ByteString :=
  w.resolveKey obs.key (modelRevPrefix obs.modelId obs.modelRevision)

/-- The predictor after a list of observations. -/
def observeAll (w : WorkloadPredictor F) (obs : List Observation) : WorkloadPredictor F :=
  obs.foldl observe w

variable {w : WorkloadPredictor F} {d : AdmissionDescriptor F} {obs : Observation}

/-! ## What an observation changes -/

@[simp] theorem profs_observe (w : WorkloadPredictor F) (obs : Observation) :
    (w.observe obs).profs = w.profs := by
  unfold observe
  split_ifs <;> rfl

@[simp] theorem profs_observeAll (w : WorkloadPredictor F) (obs : List Observation) :
    (w.observeAll obs).profs = w.profs := by
  induction obs generalizing w with
  | nil => rfl
  | cons o obs ih => exact (ih (w.observe o)).trans (profs_observe w o)

/-- Which profile a request is predicted by depends on the profiles alone. -/
theorem usableProfile_congr {w' : WorkloadPredictor F} (h : w'.profs = w.profs)
    (d : AdmissionDescriptor F) : w'.usableProfile d = w.usableProfile d := by
  rw [usableProfile, usableProfile, profileForDescriptor, profileForDescriptor, byPrefix, byPrefix, h]

theorem resolveKey_congr {w' : WorkloadPredictor F} (h : w'.profs = w.profs)
    (candidate pre : ByteString) : w'.resolveKey candidate pre = w.resolveKey candidate pre := by
  rw [resolveKey, resolveKey, byPrefix, byPrefix, h]

/-- A valid observation changes what was learned for the key it resolves to, and nothing else. -/
theorem find?_learn_observe (hvalid : obs.validate.isOk = true) (key : ByteString) :
    (w.observe obs).learn.find? key =
      if key = w.observedKey obs then
        some (w.learnFrom key ((w.learn.find? key).getD {}) obs)
      else w.learn.find? key := by
  unfold observe
  rw [if_neg (by simp [hvalid])]
  show (w.learn.insert (w.observedKey obs) _).find? key = _
  rw [OrdMap.find?_insert]
  split_ifs with h
  · rw [h]
    rfl
  · rfl

/-- The last peak is that of the last completed observation. -/
theorem lastPeakVram_learnFrom (w : WorkloadPredictor F) (key : ByteString) (st : LearnedState F)
    (obs : Observation) : (w.learnFrom key st obs).lastPeakVram =
      if obs.kind = .completed then obs.peakVram else st.lastPeakVram := by
  unfold learnFrom
  simp only
  by_cases hkind : obs.kind = .completed
  · rw [if_neg (not_not.mpr hkind), if_pos hkind]
    cases w.profs.find? key with
    | none => rfl
    | some prof =>
      simp only
      split_ifs <;> rfl
  · rw [if_pos hkind, if_neg hkind]

theorem count_learnFrom (w : WorkloadPredictor F) (key : ByteString) (st : LearnedState F)
    (obs : Observation) : (w.learnFrom key st obs).count =
      if st.count ≥ kMaxSamplesPerKey then kMaxSamplesPerKey else st.count + 1 := by
  unfold learnFrom
  simp only
  by_cases hkind : obs.kind = .completed
  · rw [if_neg (not_not.mpr hkind)]
    cases w.profs.find? key with
    | none => rfl
    | some prof =>
      simp only
      split_ifs <;> rfl
  · rw [if_pos hkind]

/-- What was learned has been counted. -/
theorem count_learnFrom_ne_zero (w : WorkloadPredictor F) (key : ByteString) (st : LearnedState F)
    (obs : Observation) : (w.learnFrom key st obs).count ≠ 0 := by
  rw [count_learnFrom]
  split_ifs with hfull
  · decide
  · have hlt : st.count.toNat < 4096 := UInt32.lt_iff_toNat_lt.mp (UInt32.not_le.mp hfull)
    intro hzero
    have hnext := congrArg UInt32.toNat hzero
    rw [UInt32.toNat_add] at hnext
    simp only [UInt32.toNat_one, UInt32.toNat_zero] at hnext
    omega

/-! ## Reachable predictors -/

/-- Every profile is filed under its key. -/
def Keyed (w : WorkloadPredictor F) : Prop := ∀ key p, w.profs.find? key = some p → p.key = key

theorem keyed_registerProfile (hw : w.Keyed) (prof : PredictionProfile F) :
    (w.registerProfile prof).2.Keyed := by
  unfold registerProfile
  simp only
  split_ifs with hfull
  · exact hw
  · intro key p hp
    rw [OrdMap.find?_insert] at hp
    split_ifs at hp with hkey
    · cases hp
      exact hkey.symm
    · exact hw key p hp

theorem Keyed.pairwise (hw : w.Keyed) :
    (w.profs.entries.map Prod.snd).Pairwise fun p q => p.key < q.key :=
  w.profs.pairwise_values fun e he => hw e.1 e.2 (OrdMap.find?_eq_some_iff.mpr he)

theorem keyed_observe (hw : w.Keyed) (obs : Observation) : (w.observe obs).Keyed := by
  unfold observe
  split_ifs
  · exact hw
  · exact hw

theorem keyed_observeAll (hw : w.Keyed) (obs : List Observation) : (w.observeAll obs).Keyed := by
  intro key p hp
  rw [profs_observeAll] at hp
  exact hw key p hp

theorem keyed_after (h : List (PredictorCall F)) : ((machine F).after h).Keyed := by
  refine (machine F).invariant nofun (fun w c hw => ?_) h
  cases c with
  | registerProfile prof => exact keyed_registerProfile hw prof
  | observe obs => exact keyed_observe hw obs

/-- Every learned state has a property that may depend on its key. -/
def Learned (Q : ByteString → LearnedState F → Prop) (w : WorkloadPredictor F) : Prop :=
  ∀ key st, w.learn.find? key = some st → Q key st

/-- Valid observations establish the property from a fresh state and keep it. -/
def Taught (Q : ByteString → LearnedState F → Prop) : Prop :=
  ∀ (w : WorkloadPredictor F) (obs : Observation) (st : LearnedState F),
    obs.validate.isOk = true → (st = {} ∨ Q (w.observedKey obs) st) →
    Q (w.observedKey obs) (w.learnFrom (w.observedKey obs) st obs)

variable {Q : ByteString → LearnedState F → Prop}

theorem learned_observe (hQ : Taught Q) (hw : w.Learned Q) (obs : Observation) :
    (w.observe obs).Learned Q := by
  cases hvalid : obs.validate.isOk with
  | false =>
    rw [observe, if_pos hvalid]
    exact hw
  | true =>
    intro key st hst
    rw [find?_learn_observe hvalid] at hst
    split_ifs at hst with hkey
    · obtain rfl := Option.some.inj hst
      rw [hkey]
      refine hQ w obs _ hvalid ?_
      cases hfind : w.learn.find? (w.observedKey obs) with
      | none => exact .inl rfl
      | some st => exact .inr (hw _ st hfind)
    · exact hw key st hst

theorem learned_observeAll (hQ : Taught Q) (hw : w.Learned Q) (obs : List Observation) :
    (w.observeAll obs).Learned Q := by
  induction obs generalizing w with
  | nil => exact hw
  | cons o obs ih => exact ih (learned_observe hQ hw o)

theorem learned_after (hQ : Taught Q) (h : List (PredictorCall F)) :
    ((machine F).after h).Learned Q := by
  refine (machine F).invariant nofun (fun w c hw => ?_) h
  cases c with
  | registerProfile prof =>
    show (w.registerProfile prof).2.Learned Q
    unfold registerProfile
    simp only
    split_ifs <;> exact hw
  | observe obs => exact learned_observe hQ hw obs

/-- A valid completed observation reports a peak of at most `2 ^ 48` bytes. -/
theorem peakVram_le (hvalid : obs.validate.isOk = true) (hkind : obs.kind = .completed) :
    obs.peakVram.toNat ≤ 2 ^ 48 := by
  have hchecks := (firstFailure_isOk_iff (by decide)).mp hvalid
  simp only [Observation.checks, List.forall_mem_cons] at hchecks
  obtain ⟨-, -, -, -, -, hpeak, -⟩ := hchecks
  have hlimit : ((1 : UInt64) <<< 48).toNat = 2 ^ 48 := by decide
  rw [← hlimit]
  exact UInt64.le_iff_toNat_le.mp (UInt64.not_lt.mp fun hlt =>
    of_decide_eq_false hpeak ⟨hkind, .inl hlt⟩)

/-- A learned peak that a valid observation may report. -/
def PeakBounded (_ : ByteString) (st : LearnedState F) : Prop := st.lastPeakVram.toNat ≤ 2 ^ 48

theorem taught_peakBounded : Taught (PeakBounded (F := F)) := by
  intro w obs st hvalid hst
  rw [PeakBounded, lastPeakVram_learnFrom]
  split_ifs with hkind
  · exact peakVram_le hvalid hkind
  · rcases hst with rfl | hst
    · exact Nat.zero_le _
    · exact hst

end WorkloadPredictor

end Fabric
