import Fabric.Persistence.Contents
import Fabric.Persistence.Install
import Fabric.Persistence.Recovery

/-!
# Saving what was recovered

Restoring puts the saved policies and profiles through the same operations that install and register
new ones. Registering numbers the profiles anew, in the order of their keys, and at the end the
overcommit settings are those of the policy with the highest generation. So the recovered engine is
saved as the same bytes exactly when the profiles already have these numbers and the settings are
already those (`resaves_iff`).
-/

namespace Fabric

open Support Support.ByteReader ByteReader

variable {F : Type} [DoubleBits F]

/-! ## Bytes and contents -/

def SavedRequest.encode (q : SavedRequest F) : ByteString :=
  [ByteWriter.ident q.id, ByteWriter.u8 q.lifecycle.toByte, encodeDescriptor q.descriptor,
    ByteWriter.opt encodeDecision q.lastDecision].flatten

/-- The bytes of a saved state. -/
def SavedState.encode (s : SavedState F) : ByteString :=
  [ByteWriter.count s.policies.length, s.policies.flatMap encodePolicy,
    ByteWriter.count s.profiles.length, s.profiles.flatMap encodePredictionProfile,
    ByteWriter.count s.reservations.list.length, s.reservations.list.flatMap encodeReservation,
    ByteWriter.resourceVector s.reservations.reserved,
    ByteWriter.resourceVector s.reservations.used, ByteWriter.enum s.reservations.mode,
    ByteWriter.resourceVector s.reservations.allowance,
    ByteWriter.count s.requests.length, s.requests.flatMap SavedRequest.encode,
    encodeQuota s.rest.quota, ByteWriter.ident s.rest.admissionGeneration,
    ByteWriter.u64 s.rest.reservationCounter, ByteWriter.opt encodeSnapshot s.rest.snapshot].flatten

namespace AdmissionFabric

variable {f g : AdmissionFabric F} {now : TimePoint} {cfg : PersistenceConfig}

/-- What is not written of a decision makes no difference. -/
theorem saveRequest_eq : saveRequest (F := F) = fun e => (savedRequest e).encode := by
  funext e
  rw [saveRequest, SavedRequest.encode, savedRequest]
  cases e.2.lastDecision <;> rfl

theorem saveState_eq (f : AdmissionFabric F) : f.saveState = f.contents.encode := by
  have hsnapshot : ByteWriter.opt encodeSnapshot (if f.hasSnapshot then some f.snapshot else none) =
      ByteWriter.flag f.hasSnapshot ++ if f.hasSnapshot then encodeSnapshot f.snapshot else [] := by
    cases f.hasSnapshot <;> rfl
  simp only [saveState, savePolicies, saveProfiles, saveReservations, saveRequests, saveRest,
    SavedState.encode, hsnapshot, saveRequest_eq, contents, savedReservations,
    ReservationManager.saved, List.flatMap_map, List.length_map, OrdMap.size, List.flatten_cons,
    List.flatten_nil, List.append_assoc, List.append_nil]

/-- Engines that can be read back are saved as the same payload when they have the same contents. -/
theorem buildPayload_eq_iff (hread : Decodes decodeState f.saveState f.contents)
    (hbytes : f.savedSize < 2 ^ 32) (cfg : PersistenceConfig) :
    g.buildPayload cfg = f.buildPayload cfg ↔ g.contents = f.contents := by
  constructor
  · intro heq
    obtain ⟨trailer, hlen, hf⟩ := exists_frame cfg.magic cfg.version f.saveState
    obtain ⟨trailer', hlen', hg⟩ := exists_frame cfg.magic cfg.version g.saveState
    rw [buildPayload, buildPayload, hf, hg] at heq
    obtain ⟨hbytes', -⟩ := List.append_inj' heq (hlen'.trans hlen.symm)
    have hcounted : g.Counted := by
      apply counted_of_savedSize
      rw [← length_saveState, hbytes', length_saveState]
      exact hbytes
    have hread' : Decodes decodeState g.saveState g.contents := by
      apply (settles_state hcounted).decodes
      by_contra hnot
      refine (settles_state hcounted).fails hnot [] ?_
      rw [hbytes']
      exact hread.succeeds []
    rw [hbytes'] at hread'
    exact (hread'.unique hread (rfl : f.saveState ++ [] = f.saveState ++ [])).1
  · intro heq
    rw [buildPayload, buildPayload, saveState_eq, saveState_eq, heq]

/-- A payload that is accepted was short enough, and its contents were installed. -/
theorem install_of_accepts {f₀ : AdmissionFabric F}
    (hok : (f₀.applyPayload now (f.buildPayload cfg) cfg).1.isOk = true) :
    f.savedSize < 2 ^ 32 ∧ Decodes decodeState f.saveState f.contents ∧
      f₀.install now f.contents = some (f₀.applyPayload now (f.buildPayload cfg) cfg).2 := by
  obtain ⟨saved, ⟨body, hparse, hread⟩, hinstall⟩ := accepts_iff.mp ⟨hok, rfl⟩
  rw [buildPayload, parseFrame_frame, length_saveState] at hparse
  split_ifs at hparse with hbytes
  cases hparse
  have hsettles := settles_state (counted_of_savedSize hbytes)
  have hreadable : f.Readable := by
    by_contra hnot
    exact hsettles.fails hnot [] (hread.succeeds [])
  obtain ⟨rfl, -⟩ := hread.unique (hsettles.decodes hreadable)
    (rfl : f.saveState ++ [] = f.saveState ++ [])
  exact ⟨hbytes, hread, hinstall⟩

end AdmissionFabric

/-! ## Policies -/

namespace PolicyEngine

variable {e e' : PolicyEngine F} {ps : List (AdmissionPolicy F)}

/-- The last of a list of policies, or else `gen`. -/
def lastGeneration (gen : PolicyGeneration) (ps : List (AdmissionPolicy F)) : PolicyGeneration :=
  (ps.getLast?).elim gen AdmissionPolicy.generation

theorem addAll_eq (h : ps.foldlM addSaved e = some e')
    (hsorted : ps.Pairwise fun p q => p.generation < q.generation)
    (hlatest : ∀ p ∈ ps, e.latestGeneration ≤ p.generation) :
    e'.policies = ps.foldl (fun m p => m.insert p.generation p) e.policies ∧
      e'.latestGeneration = lastGeneration e.latestGeneration ps := by
  induction ps generalizing e with
  | nil =>
    cases h
    exact ⟨rfl, rfl⟩
  | cons p ps ih =>
    obtain ⟨hp, hsorted⟩ := List.pairwise_cons.mp hsorted
    rw [List.foldlM_cons] at h
    obtain ⟨e₁, he₁, hrest⟩ := Option.bind_eq_some_iff.mp h
    obtain ⟨-, rfl⟩ := addSaved_eq_some_iff.mp he₁
    have hge : p.generation.value ≥ e.latestGeneration.value :=
      UInt64.le_iff_toNat_le.mpr (hlatest p List.mem_cons_self)
    obtain ⟨hpolicies, hgeneration⟩ := ih hrest hsorted fun q hq => by
      rw [if_pos hge]
      exact (hp q hq).le
    refine ⟨hpolicies, hgeneration.trans ?_⟩
    rw [if_pos hge, lastGeneration, lastGeneration, List.getLast?_cons]
    cases ps.getLast? <;> rfl

/-- The policy with the highest generation. -/
def highest (e : PolicyEngine F) : Option (AdmissionPolicy F) :=
  (e.policies.entries.map Prod.snd).getLast?

/-- Policies that are installed again are the same, and the latest is the highest. -/
theorem addAll_entries (hnumbered : e.Numbered)
    (h : (e.policies.entries.map Prod.snd).foldlM addSaved ({} : PolicyEngine F) = some e') :
    e'.policies = e.policies ∧ e'.latest = e.highest := by
  have hkey : ∀ a ∈ e.policies.entries, a.2.generation = a.1 :=
    fun a ha => hnumbered a.1 a.2 (OrdMap.find?_eq_some_iff.mpr ha)
  have hsorted := e.policies.pairwise_values hkey
  obtain ⟨hpolicies, hlatest⟩ := addAll_eq h hsorted fun _ _ => UInt64.zero_le
  have hback : e'.policies = e.policies := by
    have hinsert : ∀ (m : OrdMap PolicyGeneration (AdmissionPolicy F)), ∀ a ∈ e.policies.entries,
        m.insert a.2.generation a.2 = m.insert a.1 a.2 := fun m a ha => by rw [hkey a ha]
    rw [hpolicies, List.foldl_map, List.foldl_ext _ _ _ hinsert]
    exact OrdMap.ofEntries_entries e.policies
  refine ⟨hback, ?_⟩
  rw [latest, hback, hlatest, highest, lastGeneration, List.getLast?_map]
  cases hlast : e.policies.entries.getLast? with
  | none =>
    rw [OrdMap.find?, List.getLast?_eq_none_iff.mp hlast]
    rfl
  | some a =>
    have hmem := List.mem_of_getLast? hlast
    have hkeyed : (a.2.generation, a.2) ∈ e.policies.entries := by
      rw [hkey a hmem]
      exact hmem
    exact OrdMap.find?_eq_some_iff.mpr hkeyed

end PolicyEngine

/-! ## Profiles -/

namespace WorkloadPredictor

/-- The profile that is registered after `i` others. -/
def numbered (i : ℕ) (p : PredictionProfile F) : PredictionProfile F :=
  { p with generation := UInt64.ofNat (i + 2) }

/-- Profiles that are registered in the order of their keys, in a fresh predictor. -/
theorem registerAll_eq {ps : List (PredictionProfile F)}
    (hsorted : ps.Pairwise fun p q => p.key < q.key) (hlen : ps.length ≤ kMaxProfiles) :
    let w := ps.foldl (fun w p => (w.registerProfile p).2) ({} : WorkloadPredictor F)
    w.profs.entries = ps.mapIdx (fun i p => (p.key, numbered i p)) ∧
      w.generation = UInt64.ofNat (ps.length + 1) := by
  have hmax : kMaxProfiles = 256 := rfl
  induction ps using List.reverseRecOn with
  | nil => exact ⟨rfl, rfl⟩
  | append_singleton ps p ih =>
    obtain ⟨hps, -, hlast⟩ := List.pairwise_append.mp hsorted
    rw [List.length_append, List.length_singleton] at hlen
    obtain ⟨hentries, hgeneration⟩ := ih hps (by omega)
    rw [List.foldl_append]
    generalize ps.foldl (fun w p => (w.registerProfile p).2) ({} : WorkloadPredictor F) = w at *
    have hsize : w.profs.size = ps.length := by rw [OrdMap.size, hentries, List.length_mapIdx]
    have hroom : ¬ ((w.seen.find? p.key).getD false = false ∧ w.profs.size ≥ kMaxProfiles) := by
      omega
    have hnext : w.nextGeneration = UInt64.ofNat (ps.length + 2) := by
      rw [nextGeneration, hgeneration, if_neg]
      · exact (UInt64.ofNat_add _ 1).symm
      · intro heq
        have hnat := congrArg UInt64.toNat heq
        have hword : UInt64.size = 2 ^ 64 := rfl
        have hmaxNat : maxU64.toNat = 2 ^ 64 - 1 := rfl
        rw [UInt64.toNat_ofNat_of_lt' (by omega)] at hnat
        omega
    have hbelow : ∀ e ∈ w.profs.entries, e.1 < p.key := by
      rw [hentries]
      intro e he
      obtain ⟨i, hi, rfl⟩ := List.mem_mapIdx.mp he
      exact hlast _ (List.getElem_mem hi) p List.mem_cons_self
    simp only [List.foldl_cons, List.foldl_nil, registerProfile, if_neg hroom, hnext]
    refine ⟨?_, by rw [List.length_append, List.length_singleton]⟩
    rw [OrdMap.entries_insert_of_last _ hbelow, hentries, List.mapIdx_concat, numbered]

/-- Numbering profiles anew makes no difference when they have these numbers. -/
theorem mapIdx_numbered_eq_iff (ps : List (PredictionProfile F)) :
    ps.mapIdx numbered = ps ↔
      ps.map PredictionProfile.generation =
        (List.range ps.length).map fun i => UInt64.ofNat (i + 2) := by
  constructor
  · intro heq
    rw [← heq]
    apply List.ext_getElem
    · simp
    · intro i h₁ h₂
      simp [numbered]
  · intro heq
    apply List.ext_getElem
    · simp
    · intro i h₁ h₂
      have hnumber : ps[i].generation = UInt64.ofNat (i + 2) := by
        have hget := congrArg (fun l => l[i]?) heq
        simpa [h₂] using hget
      rw [List.getElem_mapIdx, numbered, ← hnumber]

end WorkloadPredictor

namespace AdmissionFabric

variable {f g : AdmissionFabric F} {now : TimePoint} {cfg : PersistenceConfig}

theorem keyed_after (h : List (EngineCall F)) : ((engine F).after h).predictor.Keyed := by
  obtain ⟨calls, hcalls⟩ := exists_predictor_history h
  rw [hcalls]
  exact WorkloadPredictor.keyed_after calls

/-! ## The engine -/

/-- Requests that are read back are those that were saved, without what is not written. -/
theorem restored_requests {requests : Requests F}
    (h : (f.requests.entries.map savedRequest).foldlM (addSavedRequest now) .empty = some requests) :
    requests = f.requests.mapValues (restoredRecord now) := by
  apply OrdMap.ext_find?
  intro x
  apply Option.ext
  intro record
  rw [find?_addRequests h, OrdMap.find?_mapValues, Option.map_eq_some_iff]
  constructor
  · rintro ⟨_, hq, rfl, rfl⟩
    obtain ⟨e, he, rfl⟩ := List.mem_map.mp hq
    exact ⟨e.2, OrdMap.find?_eq_some_iff.mpr he, rfl⟩
  · rintro ⟨record, hrecord, rfl⟩
    exact ⟨_, List.mem_map_of_mem (OrdMap.find?_eq_some_iff.mp hrecord), rfl, rfl⟩

/-- Restoring a request does not change what is saved of it. -/
theorem saved_restored (requests : Requests F) (now : TimePoint) :
    (requests.mapValues (restoredRecord now)).entries.map savedRequest =
      requests.entries.map savedRequest := by
  rw [OrdMap.mapValues, List.map_map]
  apply List.map_congr_left
  intro e he
  simp only [Function.comp_apply, savedRequest, restoredRecord, Option.map_map]
  rfl

/-- The contents of the recovered engine. -/
theorem contents_installed (hstored : f.Stored) (hlinked : f.Linked) (hkeyed : f.predictor.Keyed)
    (h : ({} : AdmissionFabric F).install now f.contents = some g) :
    g.contents = { f.contents with
      profiles := f.contents.profiles.mapIdx WorkloadPredictor.numbered
      reservations := { savedReservations f.reservations with
        mode := f.policy.highest.elim f.reservations.overcommitMode AdmissionPolicy.overcommit
        allowance := f.policy.highest.elim f.reservations.overcommitAllowance
          AdmissionPolicy.boundAllowance } } := by
  obtain ⟨policy, m, requests, hpolicy, htable, hrequests, rfl⟩ := install_eq_some_iff.mp h
  obtain ⟨hpolicies, hlatest⟩ := PolicyEngine.addAll_entries hstored.policy.numbered hpolicy
  obtain ⟨-, rfl⟩ := ReservationManager.addSaved_eq_some_iff.mp htable
  obtain rfl := restored_requests hrequests
  have hsorted : f.contents.profiles.Pairwise fun p q => p.key < q.key := hkeyed.pairwise
  have hfew : f.contents.profiles.length ≤ WorkloadPredictor.kMaxProfiles := by
    rw [contents, List.length_map]
    exact hstored.predictor.bounded
  have hnumbered := (WorkloadPredictor.registerAll_eq hsorted hfew).1
  have hlist := congrArg (fun table => table.entries.map Prod.snd)
    (ReservationManager.rebuilt hlinked.links.keyed)
  obtain ⟨total, heq⟩ := withSaved_eq ({} : AdmissionFabric F) policy { ({} : AdmissionFabric F).reservations with
      reservations := f.contents.reservations.list.foldl (fun table r => table.emplace r.id r) .empty
      reservedSum := f.contents.reservations.reserved
      usedSum := f.contents.reservations.used
      overcommitMode := f.contents.reservations.mode
      overcommitAllowance := f.contents.reservations.allowance }
    (f.requests.mapValues (restoredRecord now)) f.contents
  have hsnapshot : (if f.contents.rest.snapshot.isSome then
      some (f.contents.rest.snapshot.getD {}) else none) = f.contents.rest.snapshot := by
    cases f.contents.rest.snapshot <;> rfl
  rw [heq, hlatest]
  show SavedState.mk _ _ _ _ _ = SavedState.mk _ _ _ _ _
  rw [SavedState.mk.injEq]
  refine ⟨?_, ?_, ?_, ?_, ?_⟩
  · exact congrArg (fun m => m.entries.map Prod.snd) hpolicies
  · show List.map Prod.snd (OrdMap.entries _) = _
    rw [hnumbered]
    exact List.ext_getElem (by simp) fun i _ _ => by simp
  · show SavedReservations.mk _ _ _ _ _ = SavedReservations.mk _ _ _ _ _
    rw [SavedReservations.mk.injEq]
    exact ⟨hlist, rfl, rfl, rfl, rfl⟩
  · exact saved_restored f.requests now
  · rw [hsnapshot]

/-- Saving the recovered engine again gives the same payload. -/
def Resaves (f : AdmissionFabric F) (cfg : PersistenceConfig) (now : TimePoint) : Prop :=
  (({} : AdmissionFabric F).applyPayload now (f.buildPayload cfg) cfg).2.buildPayload cfg =
    f.buildPayload cfg

/-- The profiles are numbered from 2 on in the order of their keys, and the overcommit settings are
those of the policy with the highest generation. -/
structure Replayable (f : AdmissionFabric F) : Prop where
  profiles : f.contents.profiles.map PredictionProfile.generation =
    (List.range f.contents.profiles.length).map fun i => UInt64.ofNat (i + 2)
  overcommit : ∀ p, f.policy.highest = some p →
    f.reservations.overcommitMode = p.overcommit ∧
      f.reservations.overcommitAllowance = p.boundAllowance

/-- What the replay changes stays the same exactly when it does not change it. -/
theorem replayed_eq_iff (f : AdmissionFabric F) :
    { f.contents with
      profiles := f.contents.profiles.mapIdx WorkloadPredictor.numbered
      reservations := { savedReservations f.reservations with
        mode := f.policy.highest.elim f.reservations.overcommitMode AdmissionPolicy.overcommit
        allowance := f.policy.highest.elim f.reservations.overcommitAllowance
          AdmissionPolicy.boundAllowance } } = f.contents ↔ f.Replayable := by
  have hsettings : ({ savedReservations f.reservations with
      mode := f.policy.highest.elim f.reservations.overcommitMode AdmissionPolicy.overcommit
      allowance := f.policy.highest.elim f.reservations.overcommitAllowance
        AdmissionPolicy.boundAllowance } : SavedReservations) = savedReservations f.reservations ↔
      ∀ p, f.policy.highest = some p → f.reservations.overcommitMode = p.overcommit ∧
        f.reservations.overcommitAllowance = p.boundAllowance := by
    show SavedReservations.mk _ _ _ _ _ = SavedReservations.mk _ _ _ _ _ ↔ _
    rw [SavedReservations.mk.injEq]
    cases f.policy.highest with
    | none => exact iff_of_true ⟨rfl, rfl, rfl, rfl, rfl⟩ nofun
    | some p =>
      constructor
      · rintro ⟨-, -, -, hmode, hallowance⟩ q hq
        obtain rfl := Option.some.inj hq
        exact ⟨hmode.symm, hallowance.symm⟩
      · intro h
        exact ⟨rfl, rfl, rfl, (h p rfl).1.symm, (h p rfl).2.symm⟩
  have hprofiles := WorkloadPredictor.mapIdx_numbered_eq_iff f.contents.profiles
  constructor
  · intro heq
    exact ⟨hprofiles.mp (congrArg SavedState.profiles heq),
      hsettings.mp (congrArg SavedState.reservations heq)⟩
  · intro h
    rw [hprofiles.mpr h.profiles, hsettings.mpr h.overcommit]
    rfl

/-- A reachable engine whose payload is accepted is saved as the same payload after recovery exactly
when it can be replayed. -/
theorem resaves_iff (h : List (EngineCall F)) (cfg : PersistenceConfig) (now : TimePoint)
    (hok : (({} : AdmissionFabric F).applyPayload now
      (((engine F).after h).buildPayload cfg) cfg).1.isOk = true) :
    ((engine F).after h).Resaves cfg now ↔ ((engine F).after h).Replayable := by
  obtain ⟨hbytes, hread, hinstall⟩ := install_of_accepts hok
  rw [Resaves, buildPayload_eq_iff hread hbytes, contents_installed (stored_after h)
    (linked_after h) (keyed_after h) hinstall]
  exact replayed_eq_iff _

theorem replayable_admitted : ((engine Binary64).after Sample.admitted).Replayable := by
  have hsettings : ((engine Binary64).after Sample.admitted).policy.highest.map
      (fun p => (p.overcommit, p.boundAllowance)) =
        some (((engine Binary64).after Sample.admitted).reservations.overcommitMode,
          ((engine Binary64).after Sample.admitted).reservations.overcommitAllowance) := by
    decide +kernel
  constructor
  · decide +kernel
  · intro p hp
    rw [hp, Option.map_some] at hsettings
    obtain ⟨hmode, hallowance⟩ := Prod.mk.inj (Option.some.inj hsettings)
    exact ⟨hmode.symm, hallowance.symm⟩

/-- An admitted request with its policy is saved as the same payload again. -/
theorem resaves_iff_admitted : ((engine Binary64).after Sample.admitted).Resaves {} 0 :=
  (resaves_iff Sample.admitted {} 0 (recovers_of_recoverable (stored_after _) (linked_after _)
    (by decide +kernel) recoverable_admitted {} 0).1).mpr replayable_admitted

end AdmissionFabric

/-- One profile, registered twice. -/
def Sample.reregistered : List (EngineCall Binary64) :=
  [⟨0, .registerProfile {}⟩, ⟨0, .registerProfile {}⟩]

namespace AdmissionFabric

/-- A profile that was registered twice has generation 3, and generation 2 after recovery. -/
theorem resaves_fails :
    (({} : AdmissionFabric Binary64).applyPayload 0
      (((engine Binary64).after Sample.reregistered).buildPayload {}) {}).1.isOk = true ∧
    ¬ ((engine Binary64).after Sample.reregistered).Resaves {} 0 := by
  have hrec : ((engine Binary64).after Sample.reregistered).Recoverable :=
    ⟨live_of_all (by decide +kernel), by decide +kernel, by decide +kernel, by decide +kernel⟩
  have hok := (recovers_of_recoverable (stored_after _) (linked_after _) (by decide +kernel) hrec
    {} 0).1
  refine ⟨hok, fun hsame => ?_⟩
  obtain ⟨hbytes, hread, hinstall⟩ := install_of_accepts hok
  rw [Resaves, buildPayload_eq_iff hread hbytes, contents_installed (stored_after _)
    (linked_after _) (keyed_after _) hinstall] at hsame
  have hgenerations := ((replayed_eq_iff _).mp hsame).profiles
  revert hgenerations
  decide +kernel

end AdmissionFabric

end Fabric
