import Fabric.Policy.Engine
import Fabric.Support.Machine

/-!
# The history of policies

The policy engine under every sequence of `install` and `install_at_generation`. A call obeys
`HistoryLaw` when it keeps every installed policy, a success becomes the latest policy, and a
successful `install` creates a generation above all others. `install` takes its number from a
counter that `install_at_generation` does not move, so the law holds exactly for the calls that
come in order (`history_law_iff`), and a sequence keeps its history exactly when all its calls
do (`immutable_iff`).
-/

namespace Fabric

open Support

variable {F : Type} [Double F]

/-- The calls that install a policy. -/
inductive PolicyCall (F : Type) [Double F]
  | install (p : AdmissionPolicy F)
  | installAtGeneration (p : AdmissionPolicy F) (gen : PolicyGeneration)

namespace PolicyEngine

def call (e : PolicyEngine F) : PolicyCall F → Status × PolicyEngine F
  | .install p => e.install p
  | .installAtGeneration p gen => e.installAtGeneration p gen

/-- The policy engine as a machine that starts empty. -/
def machine (F : Type) [Double F] : Machine (PolicyEngine F) (PolicyCall F) Status := ⟨{}, call⟩

/-- What a call must keep, create and make the latest policy. -/
structure HistoryLaw (e : PolicyEngine F) (c : PolicyCall F) : Prop where
  keeps : ∀ g p, e.byGeneration g = some p → (e.call c).2.byGeneration g = some p
  fails : (e.call c).1.isOk = false → (e.call c).2.latest = e.latest
  creates : ∀ p, c = .install p → (e.call c).1.isOk = true →
    ∃ gen, e.byGeneration gen = none ∧ (∀ g q, e.byGeneration g = some q → g < gen) ∧
      (e.call c).2.byGeneration gen = some { p with generation := gen } ∧
      (e.call c).2.latest = some { p with generation := gen }
  recovers : ∀ p gen, c = .installAtGeneration p gen → (e.call c).1.isOk = true →
    e.byGeneration gen = none ∧
      (e.call c).2.byGeneration gen = some { p with generation := gen } ∧
      (e.call c).2.latest = some { p with generation := gen }

/-- Whether a call is about to succeed: the policy is valid, and its number is free or the
history has room. -/
def Accepts (e : PolicyEngine F) : PolicyCall F → Prop
  | .install p => p.validate.isOk = true ∧
      ¬ (e.policies.size ≥ kMaxGenerations ∧ e.policies.contains ⟨e.counter⟩ = false)
  | .installAtGeneration p gen => p.validate.isOk = true ∧ e.byGeneration gen = none

/-- A call that is about to succeed comes in order: `install` finds the counter above every
generation, and a recovered generation is not below the latest one. -/
def InOrder (e : PolicyEngine F) (c : PolicyCall F) : Prop :=
  e.Accepts c → match c with
    | .install _ => ∀ g q, e.byGeneration g = some q → g < ⟨e.counter⟩
    | .installAtGeneration _ gen => e.latestGeneration ≤ gen

/-- No installed policy ever changes, and every call obeys the law. -/
structure Immutable (h : List (PolicyCall F)) : Prop where
  keeps : ∀ pre mid post g p, h = pre ++ mid ++ post →
    ((machine F).after pre).byGeneration g = some p →
    ((machine F).after (pre ++ mid)).byGeneration g = some p
  law : (machine F).Guarded HistoryLaw h

variable {e : PolicyEngine F} {p : AdmissionPolicy F} {gen : PolicyGeneration}

/-! ## What the calls do -/

/-- An `install` fails and keeps the policies, or puts the policy under the counter. -/
theorem install_cases (e : PolicyEngine F) (p : AdmissionPolicy F) :
    ((e.install p).1.isOk = false ∧ ¬ e.Accepts (.install p) ∧
      (e.install p).2.policies = e.policies ∧
      (e.install p).2.latestGeneration = e.latestGeneration) ∨
    ((e.install p).1.isOk = true ∧ e.Accepts (.install p) ∧
      (e.install p).2.latestGeneration = ⟨e.counter⟩ ∧
      ∀ g, (e.install p).2.byGeneration g =
        if g = ⟨e.counter⟩ then some { p with generation := ⟨e.counter⟩ }
        else e.byGeneration g) := by
  unfold install Accepts
  generalize (if e.counter = maxU64 then 1 else e.counter + 1) = moved
  simp only
  split_ifs with hvalid hfull
  · exact .inl ⟨hvalid, fun h => by simp [h.1] at hvalid, rfl, rfl⟩
  · exact .inl ⟨rfl, fun h => h.2 hfull, rfl, rfl⟩
  · refine .inr ⟨rfl, ⟨by simpa using hvalid, hfull⟩, rfl, fun g => ?_⟩
    have hfree : (e.policies.erase ⟨e.counter⟩).find? ⟨e.counter⟩ = none := by
      rw [OrdMap.find?_erase, if_pos rfl]
    simp only [byGeneration, OrdMap.emplace_of_none _ hfree, OrdMap.find?_insert,
      OrdMap.find?_erase]
    split_ifs <;> rfl

/-- An `install_at_generation` fails and changes nothing, or adds the policy. -/
theorem installAtGeneration_cases (e : PolicyEngine F) (p : AdmissionPolicy F)
    (gen : PolicyGeneration) :
    ((e.installAtGeneration p gen).1.isOk = false ∧ ¬ e.Accepts (.installAtGeneration p gen) ∧
      (e.installAtGeneration p gen).2 = e) ∨
    ((e.installAtGeneration p gen).1.isOk = true ∧ e.Accepts (.installAtGeneration p gen) ∧
      (e.installAtGeneration p gen).2.latestGeneration =
        (if e.latestGeneration ≤ gen then gen else e.latestGeneration) ∧
      ∀ g, (e.installAtGeneration p gen).2.byGeneration g =
        if g = gen then some { p with generation := gen } else e.byGeneration g) := by
  unfold installAtGeneration Accepts
  simp only
  by_cases hvalid : p.validate.isOk = false
  · rw [if_pos hvalid]
    exact .inl ⟨hvalid, fun h => by simp [h.1] at hvalid, rfl⟩
  rw [if_neg hvalid]
  by_cases hpresent : e.policies.contains gen = true
  · rw [if_pos hpresent]
    refine .inl ⟨rfl, fun h => ?_, rfl⟩
    rw [OrdMap.contains_eq_false_iff.mpr h.2] at hpresent
    cases hpresent
  · rw [if_neg hpresent]
    have hfree : e.policies.find? gen = none :=
      OrdMap.contains_eq_false_iff.mp (by simpa using hpresent)
    refine .inr ⟨rfl, ⟨by simpa using hvalid, hfree⟩, rfl, fun g => ?_⟩
    simp only [byGeneration, OrdMap.emplace_of_none _ hfree, OrdMap.find?_insert]

/-! ## Policies carry their number -/

/-- Every installed policy carries the generation it is filed under. -/
def Numbered (e : PolicyEngine F) : Prop := ∀ g q, e.byGeneration g = some q → q.generation = g

theorem numbered_of_update {e' : PolicyEngine F} (he : e.Numbered)
    (hby : ∀ g, e'.byGeneration g =
      if g = gen then some { p with generation := gen } else e.byGeneration g) : e'.Numbered := by
  intro g q hq
  rw [hby] at hq
  split_ifs at hq with hg
  · obtain rfl := Option.some.inj hq
    exact hg.symm
  · exact he g q hq

theorem numbered_call (he : e.Numbered) (c : PolicyCall F) : (e.call c).2.Numbered := by
  cases c with
  | install p =>
    rcases install_cases e p with ⟨-, -, hkeep, -⟩ | ⟨-, -, -, hby⟩
    · intro g q hq
      have hq' : (e.install p).2.policies.find? g = some q := hq
      rw [hkeep] at hq'
      exact he g q hq'
    · exact numbered_of_update he hby
  | installAtGeneration p gen =>
    rcases installAtGeneration_cases e p gen with ⟨-, -, hkeep⟩ | ⟨-, -, -, hby⟩
    · rw [call, hkeep]
      exact he
    · exact numbered_of_update he hby

theorem numbered_after (h : List (PolicyCall F)) : ((machine F).after h).Numbered :=
  (machine F).invariant (P := Numbered) (fun _ _ hq => by cases hq)
    (fun _ c he => numbered_call he c) h

/-! ## The law -/

/-- A call that keeps the policies and the latest number, and fails, obeys the law. -/
theorem HistoryLaw.of_failure {c : PolicyCall F} (hfail : (e.call c).1.isOk = false)
    (hpolicies : (e.call c).2.policies = e.policies)
    (hlatest : (e.call c).2.latestGeneration = e.latestGeneration) : e.HistoryLaw c where
  keeps g q hq := by
    rw [byGeneration, hpolicies]
    exact hq
  fails _ := by
    rw [latest, hpolicies, hlatest]
    rfl
  creates p _ hok := by
    rw [hfail] at hok
    cases hok
  recovers p gen _ hok := by
    rw [hfail] at hok
    cases hok

theorem history_law_install (e : PolicyEngine F) (p : AdmissionPolicy F) :
    e.HistoryLaw (.install p) ↔ e.InOrder (.install p) := by
  rcases install_cases e p with ⟨hfail, hnot, hpolicies, hlatest⟩ | ⟨hok, hacc, hlatest, hby⟩
  · exact iff_of_true (.of_failure hfail hpolicies hlatest) fun h => absurd h hnot
  have hlast : (e.install p).2.latest = some { p with generation := ⟨e.counter⟩ } := by
    show (e.install p).2.byGeneration (e.install p).2.latestGeneration = _
    rw [hlatest, hby, if_pos rfl]
  constructor
  · intro hlaw _
    obtain ⟨gen, -, habove, -, hgen⟩ := hlaw.creates p rfl hok
    -- The created generation is the latest one, which is the counter.
    have heq := Option.some.inj (hlast.symm.trans hgen)
    obtain rfl : ⟨e.counter⟩ = gen := congrArg AdmissionPolicy.generation heq
    exact habove
  · intro horder
    have habove := horder hacc
    have hfree : e.byGeneration ⟨e.counter⟩ = none :=
      Option.eq_none_iff_forall_ne_some.mpr fun q hq => lt_irrefl _ (habove _ q hq)
    refine ⟨fun g q hq => ?_, fun hfail => ?_, fun p' hp _ => ?_, fun _ _ hc => by cases hc⟩
    · have hg : g ≠ ⟨e.counter⟩ := by
        intro hg
        rw [hg, hfree] at hq
        cases hq
      rw [call, hby, if_neg hg]
      exact hq
    · cases hok.symm.trans hfail
    · obtain rfl : p = p' := by simpa using hp
      refine ⟨⟨e.counter⟩, hfree, habove, ?_, hlast⟩
      rw [call, hby, if_pos rfl]

theorem history_law_installAtGeneration (he : e.Numbered) (p : AdmissionPolicy F)
    (gen : PolicyGeneration) :
    e.HistoryLaw (.installAtGeneration p gen) ↔ e.InOrder (.installAtGeneration p gen) := by
  rcases installAtGeneration_cases e p gen with ⟨hfail, hnot, hkeep⟩ | ⟨hok, hacc, hlatest, hby⟩
  · have hpolicies : (e.call (.installAtGeneration p gen)).2 = e := hkeep
    exact iff_of_true (.of_failure hfail (by rw [hpolicies]) (by rw [hpolicies]))
      fun h => absurd h hnot
  have hlast : (e.installAtGeneration p gen).2.latest =
      if e.latestGeneration ≤ gen then some { p with generation := gen } else e.latest := by
    show (e.installAtGeneration p gen).2.byGeneration
      (e.installAtGeneration p gen).2.latestGeneration = _
    rw [hlatest, hby]
    by_cases hle : e.latestGeneration ≤ gen
    · rw [if_pos hle, if_pos hle, if_pos rfl]
    · have hne : e.latestGeneration ≠ gen := fun h => hle h.le
      rw [if_neg hle, if_neg hle, if_neg hne]
      rfl
  constructor
  · intro hlaw _
    show e.latestGeneration ≤ gen
    by_contra hle
    -- The latest policy carries its own number, which is not the recovered one.
    obtain ⟨-, -, hgen⟩ := hlaw.recovers p gen rfl hok
    rw [call, hlast, if_neg hle] at hgen
    exact hle (he _ _ hgen).symm.le
  · intro horder
    have hle : e.latestGeneration ≤ gen := horder hacc
    rw [if_pos hle] at hlast
    refine ⟨fun g q hq => ?_, fun hfail => ?_, fun _ hc => (by cases hc), fun p' gen' hc _ => ?_⟩
    · have hg : g ≠ gen := by
        intro hg
        rw [hg, hacc.2] at hq
        cases hq
      rw [call, hby, if_neg hg]
      exact hq
    · cases hok.symm.trans hfail
    · obtain ⟨rfl, rfl⟩ : p = p' ∧ gen = gen' := by simpa using hc
      refine ⟨hacc.2, ?_, hlast⟩
      rw [call, hby, if_pos rfl]

theorem history_law_iff (he : e.Numbered) (c : PolicyCall F) :
    e.HistoryLaw c ↔ e.InOrder c := by
  cases c with
  | install p => exact history_law_install e p
  | installAtGeneration p gen => exact history_law_installAtGeneration he p gen

/-- The history is immutable exactly when every call that succeeds comes in order. -/
theorem immutable_iff (h : List (PolicyCall F)) :
    Immutable h ↔ (machine F).Guarded InOrder h := by
  have hlaw : (machine F).Guarded HistoryLaw h ↔ (machine F).Guarded InOrder h :=
    forall₄_congr fun pre c _ _ => history_law_iff (numbered_after pre) c
  rw [← hlaw]
  refine ⟨Immutable.law, fun hg => ⟨?_, hg⟩⟩
  intro pre mid post g p hh hp
  induction mid using List.reverseRecOn generalizing post with
  | nil => simpa using hp
  | append_singleton mid c ih =>
    have hmid := ih (c :: post) (by simp [hh])
    rw [← List.append_assoc, Machine.after_snoc]
    exact (hg (pre ++ mid) c post (by simp [hh])).keeps g p hmid

/-- A recovery brings back generation 1, and the first installation after it replaces it. -/
theorem immutable_fails : ¬ Immutable (F := Binary64)
    [.installAtGeneration { name := ascii "saved" } ⟨1⟩, .install { name := ascii "new" }] := by
  intro himm
  have hsaved : (((machine Binary64).after
      [.installAtGeneration { name := ascii "saved" } ⟨1⟩]).byGeneration ⟨1⟩).map (·.name) =
        some (ascii "saved") := by decide +kernel
  have hnew : (((machine Binary64).after [.installAtGeneration { name := ascii "saved" } ⟨1⟩,
      .install { name := ascii "new" }]).byGeneration ⟨1⟩).map (·.name) =
        some (ascii "new") := by decide +kernel
  obtain ⟨p, hp, hname⟩ := Option.map_eq_some_iff.mp hsaved
  have hkept := himm.keeps [.installAtGeneration { name := ascii "saved" } ⟨1⟩]
    [.install { name := ascii "new" }] [] ⟨1⟩ p rfl hp
  have hold := congrArg (Option.map AdmissionPolicy.name) hkept
  have hsame : some (ascii "new") = some (ascii "saved") :=
    hnew.symm.trans (hold.trans (congrArg some hname))
  revert hsame
  decide

end PolicyEngine

end Fabric
