import Fabric.Prediction.History
import Fabric.Support.KeySet

/-!
# The tables of the predictor

Registrations keep the profile table within its bound, and a key is marked as seen exactly when its
profile is in the table (`marked_after`). A refused registration leaves nothing behind but an
unmarked key, which no later call tells apart (`alike_run`).

The other two tables grow by one entry for each new key: the seen table has as many entries as
there are keys that were offered for registration, and the learned table as there are keys that
valid observations resolved to (`keySet_seen_after`, `keySet_learn_after`). So they stay within a
number exactly when the calls name no more keys (`tables_kept_iff`).
-/

namespace Fabric

open Support

variable {F : Type} [Double F]

namespace WorkloadPredictor

variable {w w' : WorkloadPredictor F} {prof : PredictionProfile F}

/-! ## Profiles and marks -/

/-- A key is marked as seen exactly when its profile is in the table. -/
def Marked (w : WorkloadPredictor F) : Prop :=
  ∀ key, w.seen.find? key = some true ↔ ∃ p, w.profs.find? key = some p

/-- A registration is refused when the key is not marked and the table is full. -/
theorem registerProfile_cases (w : WorkloadPredictor F) (prof : PredictionProfile F) :
    w.seen.find? prof.key ≠ some true ∧ w.profs.size ≥ kMaxProfiles ∧
        w.registerProfile prof = (false, { w with seen := w.seen.insert prof.key false }) ∨
      (w.seen.find? prof.key = some true ∨ w.profs.size < kMaxProfiles) ∧
        w.registerProfile prof = (true, { w with
          seen := w.seen.insert prof.key true
          generation := w.nextGeneration
          profs := w.profs.insert prof.key { prof with generation := w.nextGeneration } }) := by
  have hknown : (w.seen.find? prof.key).getD false = false ↔ w.seen.find? prof.key ≠ some true := by
    cases w.seen.find? prof.key with
    | none => simp
    | some b => simp
  unfold registerProfile
  simp only [hknown]
  split_ifs with hfull
  · exact .inl ⟨hfull.1, hfull.2, rfl⟩
  · rw [not_and_or, not_not, not_le] at hfull
    exact .inr ⟨hfull, rfl⟩

theorem marked_registerProfile (hw : w.Marked) (prof : PredictionProfile F) :
    (w.registerProfile prof).2.Marked := by
  intro key
  rcases w.registerProfile_cases prof with ⟨hmark, -, heq⟩ | ⟨-, heq⟩
  · rw [heq]
    show (w.seen.insert prof.key false).find? key = some true ↔ _
    rw [OrdMap.find?_insert]
    split_ifs with hkey
    · subst hkey
      exact iff_of_false nofun (mt (hw prof.key).mpr hmark)
    · exact hw key
  · rw [heq]
    show (w.seen.insert prof.key true).find? key = some true ↔
      ∃ p, (w.profs.insert prof.key _).find? key = some p
    rw [OrdMap.find?_insert, OrdMap.find?_insert]
    split_ifs with hkey
    · exact iff_of_true rfl ⟨_, rfl⟩
    · exact hw key

theorem size_profs_registerProfile (hw : w.Marked) (hsize : w.profs.size ≤ kMaxProfiles)
    (prof : PredictionProfile F) : (w.registerProfile prof).2.profs.size ≤ kMaxProfiles := by
  rcases w.registerProfile_cases prof with ⟨-, -, heq⟩ | ⟨hmark | hroom, heq⟩
  · rw [heq]
    exact hsize
  · obtain ⟨p, hp⟩ := (hw prof.key).mp hmark
    rw [heq]
    exact (OrdMap.size_insert_of_some _ hp).trans_le hsize
  · rw [heq]
    exact (OrdMap.length_put_le _ _ _).trans hroom

theorem seen_observe (w : WorkloadPredictor F) (obs : Observation) :
    (w.observe obs).seen = w.seen := by
  unfold observe
  split_ifs <;> rfl

theorem marked_after (h : List (PredictorCall F)) :
    ((machine F).after h).Marked ∧ ((machine F).after h).profs.size ≤ kMaxProfiles := by
  refine (machine F).invariant (P := fun w => w.Marked ∧ w.profs.size ≤ kMaxProfiles) ?_ ?_ h
  · exact ⟨fun key => iff_of_false nofun nofun, Nat.zero_le _⟩
  · rintro w c ⟨hmarked, hsize⟩
    cases c with
    | registerProfile prof =>
      exact ⟨marked_registerProfile hmarked prof, size_profs_registerProfile hmarked hsize prof⟩
    | observe obs =>
      have hprofs := profs_observe w obs
      have hseen := seen_observe w obs
      refine ⟨fun key => ?_, ?_⟩
      · show (w.observe obs).seen.find? key = some true ↔ ∃ p, (w.observe obs).profs.find? key = _
        rw [hseen, hprofs]
        exact hmarked key
      · show (w.observe obs).profs.size ≤ _
        rw [hprofs]
        exact hsize

/-! ## Refused registrations -/

/-- The predictors say the same about every request. -/
def SamePredictions (w w' : WorkloadPredictor F) : Prop :=
  ∀ d, w.predictMemory d = w'.predictMemory d ∧ w.predictDuration d = w'.predictDuration d ∧
    w.predictDemand d = w'.predictDemand d

/-- The predictors differ in unmarked keys only. -/
structure Alike (w w' : WorkloadPredictor F) : Prop where
  rest : w' = { w with seen := w'.seen }
  seen : ∀ key, (w.seen.find? key).getD false = (w'.seen.find? key).getD false

theorem Alike.predictions (h : w.Alike w') : w.SamePredictions w' := by
  intro d
  rw [h.rest]
  exact ⟨rfl, rfl, rfl⟩

theorem alike_refused (hrefused : (w.registerProfile prof).1 = false) :
    w.Alike (w.registerProfile prof).2 := by
  rcases w.registerProfile_cases prof with ⟨hmark, -, heq⟩ | ⟨-, heq⟩
  · rw [heq]
    refine ⟨rfl, fun key => ?_⟩
    show _ = ((w.seen.insert prof.key false).find? key).getD false
    rw [OrdMap.find?_insert]
    split_ifs with hkey
    · subst hkey
      cases hfind : w.seen.find? prof.key with
      | none => rfl
      | some b => cases b with
        | false => rfl
        | true => exact absurd hfind hmark
    · rfl
  · rw [heq] at hrefused
    cases hrefused

/-- A call on predictors that differ in unmarked keys has one answer and leaves such predictors. -/
theorem alike_call (h : w.Alike w') (c : PredictorCall F) :
    (w.call c).1 = (w'.call c).1 ∧ (w.call c).2.Alike (w'.call c).2 := by
  obtain ⟨seen, hrest⟩ : ∃ seen, w' = { w with seen } := ⟨_, h.rest⟩
  subst hrest
  have hseen : ∀ key, (w.seen.find? key).getD false = (seen.find? key).getD false := h.seen
  cases c with
  | registerProfile prof =>
    have hinsert (b : Bool) : ∀ key, ((w.seen.insert prof.key b).find? key).getD false =
        ((seen.insert prof.key b).find? key).getD false := by
      intro key
      rw [OrdMap.find?_insert, OrdMap.find?_insert]
      split_ifs
      · rfl
      · exact hseen key
    simp only [call, registerProfile, hseen prof.key]
    split_ifs
    · exact ⟨rfl, rfl, hinsert false⟩
    · exact ⟨rfl, rfl, hinsert true⟩
  | observe obs =>
    refine ⟨rfl, ?_⟩
    simp only [call, observe]
    split_ifs
    · exact ⟨rfl, hseen⟩
    · exact ⟨rfl, hseen⟩

theorem alike_run (h : w.Alike w') (calls : List (PredictorCall F)) :
    ((machine F).run w calls).Alike ((machine F).run w' calls) :=
  ((machine F).replies_eq_of_simulation (A := fun _ => True)
    (fun _ _ c _ h => alike_call h c) h fun _ _ => trivial).2

/-! ## How the tables grow -/

/-- The keys of the profiles that the calls offer for registration. -/
def registeredKeys (h : List (PredictorCall F)) : List ByteString :=
  h.filterMap fun
    | .registerProfile prof => some prof.key
    | .observe _ => none

/-- The key that a valid observation is credited to. -/
def creditedKey (w : WorkloadPredictor F) : PredictorCall F → Option ByteString
  | .registerProfile _ => none
  | .observe obs => if obs.validate.isOk then some (w.observedKey obs) else none

/-- The keys that the valid observations among the calls are credited to. -/
def learnedKeys (h : List (PredictorCall F)) : List ByteString :=
  (machine F).log creditedKey (machine F).init h

theorem keySet_seen_after (h : List (PredictorCall F)) :
    ((machine F).after h).seen.keySet = (registeredKeys h).toFinset := by
  ext key
  rw [List.mem_toFinset]
  induction h using List.reverseRecOn with
  | nil => exact Iff.rfl
  | append_singleton h c ih =>
    rw [Machine.after_snoc, registeredKeys, List.filterMap_append, List.mem_append,
      ← registeredKeys, ← ih]
    generalize (machine F).after h = w
    cases c with
    | registerProfile prof =>
      show key ∈ (w.registerProfile prof).2.seen.keySet ↔ _ ∨ key ∈ [prof.key]
      rw [List.mem_singleton]
      rcases w.registerProfile_cases prof with ⟨-, -, heq⟩ | ⟨-, heq⟩
      · rw [heq]
        exact OrdMap.mem_keySet_insert
      · rw [heq]
        exact OrdMap.mem_keySet_insert
    | observe obs =>
      show key ∈ (w.observe obs).seen.keySet ↔ _ ∨ key ∈ []
      rw [seen_observe]
      simp

theorem keySet_learn_after (h : List (PredictorCall F)) :
    ((machine F).after h).learn.keySet = (learnedKeys h).toFinset := by
  ext key
  rw [List.mem_toFinset]
  induction h using List.reverseRecOn with
  | nil => exact Iff.rfl
  | append_singleton h c ih =>
    rw [Machine.after_snoc, learnedKeys, Machine.log_snoc, List.mem_append, ← learnedKeys, ← ih,
      ← Machine.after]
    generalize (machine F).after h = w
    cases c with
    | registerProfile prof =>
      show key ∈ (w.registerProfile prof).2.learn.keySet ↔ _ ∨ key ∈ []
      rcases w.registerProfile_cases prof with ⟨-, -, heq⟩ | ⟨-, heq⟩
      · rw [heq]
        simp
      · rw [heq]
        simp
    | observe obs =>
      show key ∈ (w.observe obs).learn.keySet ↔ _ ∨
        key ∈ (if obs.validate.isOk then some (w.observedKey obs) else none).toList
      unfold observe
      cases obs.validate.isOk with
      | false => simp
      | true =>
        refine OrdMap.mem_keySet_insert.trans (or_congr_right ?_)
        exact List.mem_singleton.symm

/-! ## The bounds -/

/-- The profile table is bounded and agrees with the marks, a registered profile can be replaced,
a refused registration changes no later prediction, and the other tables have at most `n`
entries. -/
structure TablesKept (n : ℕ) (w : WorkloadPredictor F) : Prop where
  profiles : w.profs.size ≤ kMaxProfiles
  marked : w.Marked
  replaces : ∀ prof p, w.profs.find? prof.key = some p → (w.registerProfile prof).1 = true ∧
    (w.registerProfile prof).2.profs.find? prof.key =
      some { prof with generation := w.nextGeneration }
  refused : ∀ prof, (w.registerProfile prof).1 = false → ∀ calls,
    SamePredictions ((machine F).run w calls)
      ((machine F).run (w.registerProfile prof).2 calls)
  seen : w.seen.size ≤ n
  learn : w.learn.size ≤ n

theorem Marked.replaces (hw : w.Marked) {p : PredictionProfile F}
    (hp : w.profs.find? prof.key = some p) : (w.registerProfile prof).1 = true ∧
      (w.registerProfile prof).2.profs.find? prof.key =
        some { prof with generation := w.nextGeneration } := by
  rcases w.registerProfile_cases prof with ⟨hmark, -⟩ | ⟨-, heq⟩
  · exact absurd ((hw prof.key).mpr ⟨p, hp⟩) hmark
  · rw [heq]
    exact ⟨rfl, OrdMap.find?_insert_self _ _ _⟩

/-- After any calls, the tables of the predictor are kept within a number exactly when the calls
offer no more keys for registration, and their valid observations are credited to no more. -/
theorem tables_kept_iff (h : List (PredictorCall F)) (n : ℕ) :
    TablesKept n ((machine F).after h) ↔
      (registeredKeys h).toFinset.card ≤ n ∧ (learnedKeys h).toFinset.card ≤ n := by
  obtain ⟨hmarked, hsize⟩ := marked_after h
  rw [← keySet_seen_after, ← keySet_learn_after, OrdMap.card_keySet, OrdMap.card_keySet]
  constructor
  · exact fun hkept => ⟨hkept.seen, hkept.learn⟩
  · rintro ⟨hseen, hlearn⟩
    exact
      { profiles := hsize
        marked := hmarked
        replaces := fun _ _ hp => hmarked.replaces hp
        refused := fun _ hrefused calls => (alike_run (alike_refused hrefused) calls).predictions
        seen := hseen
        learn := hlearn }

/-- Without profiles, every valid observation is credited to its own key. -/
theorem log_creditedKey_of_empty {observations : List Observation} (hw : w.profs = .empty)
    (hvalid : ∀ obs ∈ observations, obs.validate.isOk = true) :
    (machine F).log creditedKey w (observations.map .observe) = observations.map Observation.key := by
  induction observations generalizing w with
  | nil => rfl
  | cons obs observations ih =>
    have hcredited : w.creditedKey (.observe obs) = some obs.key := by
      rw [creditedKey, if_pos (hvalid obs List.mem_cons_self), observedKey, resolveKey, byPrefix, hw]
      rfl
    have hnext : ((machine F).next w (.observe obs)).profs = .empty := (profs_observe w obs).trans hw
    rw [List.map_cons, Machine.log, hcredited, ih hnext fun o ho => hvalid o (List.mem_cons_of_mem _ ho)]
    rfl

end WorkloadPredictor

namespace Sample

/-- An observation on a backend with a name of `n + 1` bytes. -/
def onNamed (n : ℕ) : Observation :=
  { id := ⟨1⟩, modelId := ⟨1⟩, modelRevision := ⟨1⟩, backend := List.replicate (n + 1) 97 }

end Sample

namespace WorkloadPredictor

/-- No number bounds the tables: one more valid observation than it allows, each on a backend of
its own, goes over it. -/
theorem tables_kept_fails :
    ¬ ∃ n, ∀ h, TablesKept n ((machine Binary64).after h) := by
  rintro ⟨n, h⟩
  let observations := (List.range (n + 1)).map Sample.onNamed
  have hvalid : ∀ obs ∈ observations, obs.validate.isOk = true := by
    intro obs hobs
    obtain ⟨i, -, rfl⟩ := List.mem_map.mp hobs
    rfl
  have hinjective : Function.Injective (Observation.key ∘ Sample.onNamed) := by
    intro i j hij
    have hlen := congrArg List.length hij
    simpa [Observation.key, profileKey, Sample.onNamed] using hlen
  have hkeys : (learnedKeys (F := Binary64) (observations.map .observe)).toFinset.card = n + 1 := by
    rw [learnedKeys, log_creditedKey_of_empty rfl hvalid, List.map_map,
      List.toFinset_card_of_nodup (List.nodup_range.map hinjective), List.length_map,
      List.length_range]
  have hbound := (h (observations.map .observe)).learn
  rw [← OrdMap.card_keySet, keySet_learn_after, hkeys] at hbound
  exact Nat.not_succ_le_self n hbound

end WorkloadPredictor

end Fabric
