import Fabric.Codec.Checksum
import Fabric.Persistence.Recovery
import Mathlib.Logic.Function.Basic

/-!
# State files

`StateStore::save` writes the payload of an engine to a temporary file and renames it to the state
file at the end, and `load` restores an engine from the state file. The process can end between any
two steps of a save, and while the payload is being written; other threads call the engine
meanwhile. Whatever happens, the state file holds the whole payload of the engine as the last
successful save found it (`state_file_after`), and loading it after a restart is handing over that
payload (`loads_last_saved`).
-/

namespace Fabric

open Support AdmissionFabric

variable {F : Type} [DoubleBits F]

/-! ## The state store -/

/-- The files of a file system, by path. -/
abbrev Files := String → Option ByteString

/-- `PersistenceConfig`. -/
structure StateFile extends PersistenceConfig where
  path : String

def StateFile.tempPath (s : StateFile) : String := s.path ++ ".tmp"

/-- The steps of `save` at which it waits for the system. -/
inductive SaveStep where
  | openTemp
  | write
  | close
  | replace
  deriving DecidableEq

/-- A `save` in progress: the payload it has built, and its next step. -/
structure Saving where
  payload : ByteString
  next : SaveStep := .openTemp

/-- `save` builds the payload first. -/
def Saving.start (s : StateFile) (f : AdmissionFabric F) : Saving :=
  { payload := f.buildPayload s.toPersistenceConfig }

/-- What the system does for a `save`. -/
inductive SystemEvent where
  /-- The step is carried out. -/
  | done
  /-- It fails. What it leaves of the temporary file was written before. -/
  | fails
  /-- So many bytes of the payload are in the temporary file so far. -/
  | wrote (n : ℕ)

/-- How `save` goes on: it waits for its next step, or returns. -/
inductive SaveResult where
  | waits (v : Saving)
  | returns (s : Status)

/-- A step of `save`. -/
def Saving.step (s : StateFile) (v : Saving) (files : Files) : SystemEvent → SaveResult × Files
  | .done =>
    match v.next with
    | .openTemp => (.waits { v with next := .write }, Function.update files s.tempPath (some []))
    | .write =>
      (.waits { v with next := .close }, Function.update files s.tempPath (some v.payload))
    | .close => (.waits { v with next := .replace }, files)
    | .replace =>
      match files s.tempPath with
      | some bytes => (.returns .success,
          Function.update (Function.update files s.path (some bytes)) s.tempPath none)
      | none => (.returns (.failure .persistenceIoError "atomic rename failed"), files)
  | .fails =>
    match v.next with
    | .openTemp => (.returns (.failure .persistenceIoError "cannot open temp file"), files)
    | .write => (.returns (.failure .persistenceIoError "write failed"), files)
    | .close => (.returns (.failure .persistenceIoError "close failed"), files)
    | .replace => (.returns (.failure .persistenceIoError "atomic rename failed"), files)
  | .wrote n =>
    if v.next = .write then
      (.waits v, Function.update files s.tempPath (some (v.payload.take n)))
    else (.waits v, files)

/-- `load_payload`. -/
def loadPayload (s : StateFile) (files : Files) : Except Status ByteString :=
  match files s.path with
  | none => .error (.failure .persistenceIoError "cannot open state file")
  | some bytes =>
    if bytes = [] then .error (.failure .persistenceTruncated "empty state file")
    else match ByteReader.parseFrame s.magic s.version bytes with
      | .error err => .error (.failure .persistenceChecksumMismatch err)
      | .ok _ => .ok bytes

/-- `load`. -/
def AdmissionFabric.load (f : AdmissionFabric F) (now : TimePoint) (s : StateFile)
    (files : Files) : Status × AdmissionFabric F :=
  match loadPayload s files with
  | .error e => (e, f)
  | .ok bytes => f.applyPayload now bytes s.toPersistenceConfig

/-! ## A process with a state store -/

/-- An engine, the save that is in progress, and the files. -/
structure Host (F : Type) [DoubleBits F] where
  engine : AdmissionFabric F := {}
  saving : Option Saving := none
  files : Files

/-- What happens to the process. -/
inductive HostEvent (F : Type) [DoubleBits F] where
  /-- A thread calls the engine. -/
  | call (c : EngineCall F)
  /-- `save` is called, unless it is in progress. -/
  | save
  /-- The system does something for the save in progress. -/
  | system (e : SystemEvent)
  /-- `load` is called. -/
  | load (now : TimePoint)
  /-- The process ends, and another one starts. -/
  | restart

/-- One event, and what the store returns. -/
def Host.step (s : StateFile) (h : Host F) : HostEvent F → Option Status × Host F
  | .call c => (none, { h with engine := (h.engine.call c).2 })
  | .save =>
    match h.saving with
    | some _ => (none, h)
    | none => (none, { h with saving := some (.start s h.engine) })
  | .system e =>
    match h.saving with
    | none => (none, h)
    | some v =>
      let r := v.step s h.files e
      match r.1 with
      | .waits v => (none, { h with saving := some v, files := r.2 })
      | .returns status => (some status, { h with saving := none, files := r.2 })
  | .load now =>
    let r := h.engine.load now s h.files
    (some r.1, { h with engine := r.2 })
  | .restart => (none, { files := h.files })

def host (F : Type) [DoubleBits F] (s : StateFile) (files : Files) :
    Machine (Host F) (HostEvent F) (Option Status) :=
  ⟨{ files }, Host.step s⟩

/-! ## What one event does -/

theorem StateFile.tempPath_ne (s : StateFile) : s.tempPath ≠ s.path := by
  intro h
  have hlen := congrArg String.length h
  rw [tempPath, String.length_append] at hlen
  simp at hlen

namespace Saving

variable {s : StateFile} {v v' : Saving} {files files' : Files} {e : SystemEvent} {status : Status}

/-- Once it is written, the temporary file holds the payload. -/
def Written (s : StateFile) (v : Saving) (files : Files) : Prop :=
  v.next = .close ∨ v.next = .replace → files s.tempPath = some v.payload

/-- While a save goes on, the state file stays as it is. -/
theorem step_waits (hv : v.Written s files) (h : v.step s files e = (.waits v', files')) :
    v'.payload = v.payload ∧ v'.Written s files' ∧ files' s.path = files s.path := by
  have hne : s.path ≠ s.tempPath := s.tempPath_ne.symm
  cases e with
  | done =>
    rw [step] at h
    cases hnext : v.next with
    | openTemp =>
      rw [hnext] at h
      cases h
      exact ⟨rfl, fun h => by simp at h, Function.update_of_ne hne _ _⟩
    | write =>
      rw [hnext] at h
      cases h
      exact ⟨rfl, fun _ => Function.update_self .., Function.update_of_ne hne _ _⟩
    | close =>
      rw [hnext] at h
      cases h
      exact ⟨rfl, fun _ => hv (.inl hnext), rfl⟩
    | replace =>
      rw [hnext] at h
      cases htemp : files s.tempPath <;> simp [htemp] at h
  | fails =>
    rw [step] at h
    cases hnext : v.next <;> simp [hnext] at h
  | wrote n =>
    rw [step] at h
    split_ifs at h with hnext
    · cases h
      refine ⟨rfl, fun h => ?_, Function.update_of_ne hne _ _⟩
      simp [hnext] at h
    · cases h
      exact ⟨rfl, hv, rfl⟩

/-- A save that succeeds puts its payload in the state file, and one that fails leaves it. -/
theorem step_returns (hv : v.Written s files) (h : v.step s files e = (.returns status, files')) :
    (status = .success ∧ files' s.path = some v.payload) ∨
      (status ≠ .success ∧ files' s.path = files s.path) := by
  have hne : s.path ≠ s.tempPath := s.tempPath_ne.symm
  have hfailure : ∀ message : String, Status.failure .persistenceIoError message ≠ .success := by
    intro message hsame
    cases congrArg Status.code hsame
  cases e with
  | done =>
    rw [step] at h
    cases hnext : v.next with
    | openTemp => simp [hnext] at h
    | write => simp [hnext] at h
    | close => simp [hnext] at h
    | replace =>
      rw [hnext] at h
      simp only [hv (.inr hnext)] at h
      cases h
      refine .inl ⟨rfl, ?_⟩
      rw [Function.update_of_ne hne, Function.update_self]
  | fails =>
    rw [step] at h
    cases hnext : v.next <;>
      · simp only [hnext] at h
        cases h
        exact .inr ⟨hfailure _, rfl⟩
  | wrote n =>
    rw [step] at h
    split_ifs at h <;> cases h

end Saving

namespace Host

variable {s : StateFile} {h : Host F} {e : HostEvent F}

/-- The save in progress has written what it must have. -/
def Written (s : StateFile) (h : Host F) : Prop := ∀ v, h.saving = some v → v.Written s h.files

/-- The event ends a save with success. -/
def Saves (s : StateFile) (h : Host F) (e : HostEvent F) : Prop :=
  (∃ e', e = .system e') ∧ (h.step s e).1 = some .success

/-- Only the last step of a save succeeds. -/
theorem Saves.next (hsaves : h.Saves s e) : h.saving.map Saving.next = some .replace := by
  obtain ⟨⟨e, rfl⟩, hreply⟩ := hsaves
  rw [step] at hreply
  cases hsaving : h.saving with
  | none => simp [hsaving] at hreply
  | some v =>
    rw [hsaving] at hreply
    rcases v with ⟨payload, next⟩
    cases e <;> cases next <;> simp_all [Saving.step, Status.failure, Status.success]

/-- What an event does to the save in progress and to the state file. -/
inductive Turn (s : StateFile) (h : Host F) (e : HostEvent F) (h' : Host F) : Prop where
  | begins (call : e = .save) (idle : h.saving = none)
      (saving : h'.saving = some (.start s h.engine))
      (file : h'.files s.path = h.files s.path)
  | waits (v v' : Saving) (before : h.saving = some v) (saving : h'.saving = some v')
      (payload : v'.payload = v.payload) (file : h'.files s.path = h.files s.path)
      (fails : ¬ h.Saves s e)
  | stops (saving : h'.saving = none) (file : h'.files s.path = h.files s.path)
      (fails : ¬ h.Saves s e)
  | saves (v : Saving) (before : h.saving = some v) (saving : h'.saving = none)
      (file : h'.files s.path = some v.payload) (succeeds : h.Saves s e)

/-- An event that is none of the system goes on with the save or stops it. -/
theorem turn_of_kept {h' : Host F} (he : ∀ e', e ≠ .system e') (hfiles : h'.files = h.files)
    (hsaving : h'.saving = h.saving ∨ h'.saving = none) : h.Turn s e h' := by
  have hfails : ¬ h.Saves s e := fun hsaves => he _ hsaves.1.choose_spec
  have hfile : h'.files s.path = h.files s.path := by rw [hfiles]
  cases hv : h'.saving with
  | none => exact .stops hv hfile hfails
  | some v =>
    rcases hsaving with hsame | hnone
    · exact .waits v v (hsame.symm.trans hv) hv rfl hfile hfails
    · rw [hnone] at hv
      cases hv

theorem turn_step (hh : h.Written s) (e : HostEvent F) :
    h.Turn s e (h.step s e).2 ∧ (h.step s e).2.Written s := by
  cases e with
  | call c => exact ⟨turn_of_kept (fun _ h => by cases h) rfl (.inl rfl), hh⟩
  | load now => exact ⟨turn_of_kept (fun _ h => by cases h) rfl (.inl rfl), hh⟩
  | restart => exact ⟨turn_of_kept (fun _ h => by cases h) rfl (.inr rfl), fun _ h => by cases h⟩
  | save =>
    cases hsaving : h.saving with
    | some v =>
      have hstep : h.step s .save = (none, h) := by rw [step, hsaving]
      rw [hstep]
      exact ⟨turn_of_kept (fun _ h => by cases h) rfl (.inl rfl), hh⟩
    | none =>
      have hstep : h.step s .save = (none, { h with saving := some (.start s h.engine) }) := by
        rw [step, hsaving]
      rw [hstep]
      refine ⟨.begins rfl hsaving rfl rfl, fun v hv => ?_⟩
      cases hv
      exact fun hnext => by simp [Saving.start] at hnext
  | system e =>
    cases hsaving : h.saving with
    | none =>
      have hstep : h.step s (.system e) = (none, h) := by rw [step, hsaving]
      rw [hstep]
      refine ⟨.stops hsaving rfl fun hsaves => ?_, hh⟩
      have hreply := hsaves.2
      rw [hstep] at hreply
      cases hreply
    | some v =>
      rcases hr : v.step s h.files e with ⟨result, files⟩
      cases result with
      | waits v' =>
        have hstep : h.step s (.system e) = (none, { h with saving := some v', files }) := by
          rw [step, hsaving]
          simp only [hr]
        obtain ⟨hpayload, hwritten, hfile⟩ := Saving.step_waits (hh v hsaving) hr
        rw [hstep]
        refine ⟨.waits v v' hsaving rfl hpayload hfile fun hsaves => ?_, fun v hv => ?_⟩
        · have hreply := hsaves.2
          rw [hstep] at hreply
          cases hreply
        · cases hv
          exact hwritten
      | returns status =>
        have hstep : h.step s (.system e) = (some status, { h with saving := none, files }) := by
          rw [step, hsaving]
          simp only [hr]
        rw [hstep]
        refine ⟨?_, fun _ h => by cases h⟩
        rcases Saving.step_returns (hh v hsaving) hr with ⟨rfl, hfile⟩ | ⟨hfailed, hfile⟩
        · exact .saves v hsaving rfl hfile ⟨⟨e, rfl⟩, by rw [hstep]⟩
        · refine .stops rfl hfile fun hsaves => ?_
          have hreply := hsaves.2
          rw [hstep] at hreply
          exact hfailed (Option.some.inj hreply)

end Host

/-- No file is touched but the state file and the temporary one. -/
theorem Saving.other_files {s : StateFile} (v : Saving) (files : Files) (e : SystemEvent)
    {p : String} (hp : p ≠ s.path) (htemp : p ≠ s.tempPath) :
    (v.step s files e).2 p = files p := by
  cases e with
  | done =>
    rw [step]
    cases hnext : v.next with
    | openTemp => exact Function.update_of_ne htemp _ _
    | write => exact Function.update_of_ne htemp _ _
    | close => rfl
    | replace =>
      cases files s.tempPath with
      | none => rfl
      | some bytes =>
        exact (Function.update_of_ne htemp _ _).trans (Function.update_of_ne hp _ _)
  | fails =>
    rw [step]
    cases v.next <;> rfl
  | wrote n =>
    rw [step]
    split_ifs
    · exact Function.update_of_ne htemp _ _
    · rfl

theorem Host.other_files {s : StateFile} {h : Host F} {e : HostEvent F} {p : String}
    (hp : p ≠ s.path) (htemp : p ≠ s.tempPath) : (h.step s e).2.files p = h.files p := by
  cases e with
  | call c => rfl
  | load now => rfl
  | restart => rfl
  | save =>
    rw [step]
    cases h.saving <;> rfl
  | system e =>
    rw [step]
    cases h.saving with
    | none => rfl
    | some v =>
      have hfiles := v.other_files h.files e hp htemp
      rcases hr : v.step s h.files e with ⟨result, files⟩
      rw [hr] at hfiles
      cases result <;>
        · simp only [hr]
          exact hfiles

/-! ## Whole runs -/

section Runs

variable (s : StateFile) (files₀ : Files)

/-- The save in progress has found the engine `f`. -/
def SaveBegun (is : List (HostEvent F)) (f : AdmissionFabric F) : Prop :=
  ∃ pre mid, is = pre ++ .save :: mid ∧ ((host F s files₀).after pre).saving = none ∧
    ((host F s files₀).after pre).engine = f ∧
    ∀ a b, mid = a ++ b → ((host F s files₀).after (pre ++ .save :: a)).saving.isSome = true

/-- The last successful save has found the engine `f`. -/
def LastSaved (is : List (HostEvent F)) (f : AdmissionFabric F) : Prop :=
  ∃ pre e post, is = pre ++ e :: post ∧ SaveBegun s files₀ pre f ∧
    ((host F s files₀).after pre).Saves s e ∧
    ∀ a i b, post = a ++ i :: b → ¬ ((host F s files₀).after (pre ++ e :: a)).Saves s i

variable {s files₀} {is : List (HostEvent F)} {e : HostEvent F} {f : AdmissionFabric F}

theorem written_after (is : List (HostEvent F)) : ((host F s files₀).after is).Written s :=
  Machine.invariant (M := host F s files₀) (P := Host.Written s) (fun _ h => by cases h)
    (fun _ i hh => (Host.turn_step hh i).2) is

theorem turn_after (is : List (HostEvent F)) (e : HostEvent F) :
    ((host F s files₀).after is).Turn s e ((host F s files₀).after (is ++ [e])) := by
  rw [Machine.after_snoc]
  exact (Host.turn_step (written_after is) e).1

theorem SaveBegun.snoc (h : SaveBegun s files₀ is f)
    (hnext : ((host F s files₀).after (is ++ [e])).saving.isSome = true) :
    SaveBegun s files₀ (is ++ [e]) f := by
  obtain ⟨pre, mid, rfl, hidle, hf, hrun⟩ := h
  refine ⟨pre, mid ++ [e], by simp, hidle, hf, fun a b hab => ?_⟩
  rcases List.eq_nil_or_concat b with rfl | ⟨b, j, rfl⟩
  · rw [List.append_nil] at hab
    rw [← hab, ← List.cons_append, ← List.append_assoc]
    exact hnext
  · rw [List.concat_eq_append, ← List.append_assoc] at hab
    exact hrun a b (List.append_inj' hab rfl).1

/-- A save that is in progress holds the payload of the engine that it has found. -/
theorem exists_begun (is : List (HostEvent F)) {v : Saving}
    (hv : ((host F s files₀).after is).saving = some v) : ∃ f, SaveBegun s files₀ is f := by
  induction is using List.reverseRecOn generalizing v with
  | nil => cases hv
  | append_singleton is e ih =>
    cases turn_after is e with
    | begins call idle saving _ =>
      subst call
      refine ⟨_, is, [], rfl, idle, rfl, fun a b hab => ?_⟩
      obtain ⟨rfl, rfl⟩ := List.append_eq_nil_iff.mp hab.symm
      rw [saving]
      rfl
    | waits w _ before _ _ _ _ =>
      obtain ⟨f, hf⟩ := ih before
      exact ⟨f, hf.snoc (by rw [hv]; rfl)⟩
    | stops saving _ _ =>
      rw [saving] at hv
      cases hv
    | saves _ _ saving _ _ =>
      rw [saving] at hv
      cases hv

theorem SaveBegun.payload (h : SaveBegun s files₀ is f) :
    ∃ v, ((host F s files₀).after is).saving = some v ∧
      v.payload = f.buildPayload s.toPersistenceConfig := by
  obtain ⟨pre, mid, rfl, hidle, rfl, hrun⟩ := h
  induction mid using List.reverseRecOn with
  | nil =>
    cases turn_after pre .save with
    | begins _ _ saving _ => exact ⟨_, saving, rfl⟩
    | waits _ _ before _ _ _ _ =>
      rw [hidle] at before
      cases before
    | stops saving _ _ =>
      have hsome := hrun [] [] rfl
      rw [saving] at hsome
      cases hsome
    | saves _ before _ _ _ =>
      rw [hidle] at before
      cases before
  | append_singleton mid e ih =>
    obtain ⟨v, hv, hpayload⟩ := ih fun a b hab => hrun a (b ++ [e]) (by rw [hab, List.append_assoc])
    have hsome := hrun (mid ++ [e]) [] (by simp)
    rw [← List.cons_append, ← List.append_assoc] at hsome ⊢
    cases turn_after (pre ++ .save :: mid) e with
    | begins _ idle _ _ =>
      rw [idle] at hv
      cases hv
    | waits _ v' before saving payload _ _ =>
      obtain rfl := Option.some.inj (hv.symm.trans before)
      exact ⟨v', saving, payload.trans hpayload⟩
    | stops saving _ _ =>
      rw [saving] at hsome
      cases hsome
    | saves _ _ saving _ _ =>
      rw [saving] at hsome
      cases hsome

/-- Only a save that succeeds changes the state file. -/
theorem file_kept (h : ¬ ((host F s files₀).after is).Saves s e) :
    ((host F s files₀).after (is ++ [e])).files s.path =
      ((host F s files₀).after is).files s.path := by
  cases turn_after is e with
  | begins _ _ _ file => exact file
  | waits _ _ _ _ _ file _ => exact file
  | stops _ file _ => exact file
  | saves _ _ _ _ succeeds => exact absurd succeeds h

theorem LastSaved.file (h : LastSaved s files₀ is f) :
    ((host F s files₀).after is).files s.path = some (f.buildPayload s.toPersistenceConfig) := by
  obtain ⟨pre, e, post, rfl, hbegun, hsaves, hlast⟩ := h
  induction post using List.reverseRecOn with
  | nil =>
    obtain ⟨v, hv, hpayload⟩ := hbegun.payload
    cases turn_after pre e with
    | begins _ idle _ _ =>
      rw [idle] at hv
      cases hv
    | waits _ _ _ _ _ _ fails => exact absurd hsaves fails
    | stops _ _ fails => exact absurd hsaves fails
    | saves w before _ file _ =>
      obtain rfl := Option.some.inj (hv.symm.trans before)
      rw [file, hpayload]
  | append_singleton post i ih =>
    have hkept := ih fun a j b hab => hlast a j (b ++ [i]) (by rw [hab]; simp)
    rw [← List.cons_append, ← List.append_assoc, file_kept (hlast post i [] rfl)]
    exact hkept

theorem LastSaved.snoc (h : LastSaved s files₀ is f)
    (hnot : ¬ ((host F s files₀).after is).Saves s e) : LastSaved s files₀ (is ++ [e]) f := by
  obtain ⟨pre, j, post, rfl, hbegun, hsaves, hlast⟩ := h
  refine ⟨pre, j, post ++ [e], by simp, hbegun, hsaves, fun a i b hab => ?_⟩
  rcases List.eq_nil_or_concat b with rfl | ⟨b, k, rfl⟩
  · obtain ⟨rfl, hi⟩ := List.append_inj' hab rfl
    obtain rfl : e = i := by simpa using hi
    exact hnot
  · rw [List.concat_eq_append, ← List.cons_append, ← List.append_assoc] at hab
    exact hlast a i b (List.append_inj' hab rfl).1

end Runs

/-! ## The state file -/

section Store

variable (s : StateFile) (files₀ : Files)

/-- The state file holds the payload of the engine as the last successful save found it. Before
the first one it is as it was found. No file but these two is touched. -/
theorem state_file_after (is : List (HostEvent F)) :
    (((host F s files₀).after is).files s.path = files₀ s.path ∧
        ¬ (host F s files₀).Happened (Host.Saves s) is ∨
      ∃ f, LastSaved s files₀ is f ∧
        ((host F s files₀).after is).files s.path = some (f.buildPayload s.toPersistenceConfig)) ∧
    ∀ p, p ≠ s.path → p ≠ s.tempPath → ((host F s files₀).after is).files p = files₀ p := by
  constructor
  · have hlast : ¬ (host F s files₀).Happened (Host.Saves s) is ∧
        ((host F s files₀).after is).files s.path = files₀ s.path ∨
          ∃ f, LastSaved s files₀ is f := by
      induction is using List.reverseRecOn with
      | nil => exact .inl ⟨Machine.not_happened_nil, rfl⟩
      | append_singleton is e ih =>
        by_cases hsaves : ((host F s files₀).after is).Saves s e
        · cases turn_after is e with
          | begins call _ _ _ =>
            obtain ⟨e', he'⟩ := hsaves.1
            rw [call] at he'
            cases he'
          | waits _ _ _ _ _ _ fails => exact absurd hsaves fails
          | stops _ _ fails => exact absurd hsaves fails
          | saves v before _ _ _ =>
            obtain ⟨f, hf⟩ := exists_begun is before
            exact .inr ⟨f, is, e, [], rfl, hf, hsaves, fun a i b hab => by simp at hab⟩
        · rcases ih with ⟨hnever, hfile⟩ | ⟨f, hf⟩
          · refine .inl ⟨?_, (file_kept hsaves).trans hfile⟩
            rw [Machine.happened_snoc]
            exact not_or.mpr ⟨hnever, hsaves⟩
          · exact .inr ⟨f, hf.snoc hsaves⟩
    rcases hlast with ⟨hnever, hfile⟩ | ⟨f, hf⟩
    · exact .inl ⟨hfile, hnever⟩
    · exact .inr ⟨f, hf, hf.file⟩
  · intro p hp htemp
    refine Machine.invariant (M := host F s files₀) (P := fun h => h.files p = files₀ p) rfl
      (fun h e hh => (Host.other_files hp htemp).trans hh) is

end Store

/-! ## Loading -/

/-- A file that is not empty is loaded as its bytes are applied. -/
theorem AdmissionFabric.load_of_file (f : AdmissionFabric F) (now : TimePoint) {s : StateFile}
    {files : Files} {bytes : ByteString} (hfile : files s.path = some bytes) (hne : bytes ≠ []) :
    f.load now s files = f.applyPayload now bytes s.toPersistenceConfig := by
  rw [load, loadPayload, hfile]
  simp only [if_neg hne]
  cases hparse : ByteReader.parseFrame s.magic s.version bytes with
  | error err =>
    rw [applyPayload, hparse]
  | ok body => rfl

theorem AdmissionFabric.buildPayload_ne_nil (f : AdmissionFabric F) (cfg : PersistenceConfig) :
    f.buildPayload cfg ≠ [] := by
  intro hnil
  have hlen := congrArg List.length hnil
  rw [buildPayload, length_frame, List.length_nil] at hlen
  omega

/-- A new process that loads a payload applies it to its new engine. -/
theorem Host.load_new {s : StateFile} {files : Files} {f : AdmissionFabric F} (now : TimePoint)
    (hfile : files s.path = some (f.buildPayload s.toPersistenceConfig)) :
    Host.step s ({ files } : Host F) (.load now) =
      (some (({} : AdmissionFabric F).applyPayload now (f.buildPayload s.toPersistenceConfig)
          s.toPersistenceConfig).1,
        { engine := (({} : AdmissionFabric F).applyPayload now
            (f.buildPayload s.toPersistenceConfig) s.toPersistenceConfig).2
          files }) := by
  rw [Host.step, AdmissionFabric.load_of_file {} now hfile (f.buildPayload_ne_nil _)]

section Loads

variable (s : StateFile) (files₀ : Files)

variable {s files₀} in
theorem after_restart (is : List (HostEvent F)) : (host F s files₀).after (is ++ [.restart]) =
    { files := ((host F s files₀).after is).files } := Machine.after_snoc _ _ _

variable {s files₀} in
theorem after_restart_load {is : List (HostEvent F)} {f : AdmissionFabric F}
    (hfile : ((host F s files₀).after is).files s.path =
      some (f.buildPayload s.toPersistenceConfig)) (now : TimePoint) :
    (host F s files₀).reply ((host F s files₀).after (is ++ [.restart])) (.load now) =
        some (({} : AdmissionFabric F).applyPayload now (f.buildPayload s.toPersistenceConfig)
          s.toPersistenceConfig).1 ∧
      ((host F s files₀).after (is ++ [.restart, .load now])).engine =
        (({} : AdmissionFabric F).applyPayload now (f.buildPayload s.toPersistenceConfig)
          s.toPersistenceConfig).2 := by
  have hload := Host.load_new now hfile
  have hnext : (host F s files₀).after (is ++ [.restart, .load now]) =
      (host F s files₀).next ((host F s files₀).after (is ++ [.restart])) (.load now) := by
    rw [← Machine.after_snoc, List.append_assoc]
    rfl
  rw [hnext, after_restart]
  exact ⟨congrArg Prod.fst hload, congrArg (fun r => r.2.engine) hload⟩

/-- Loading after a restart, wherever the process has ended, is handing over the payload of the
engine as the last successful save found it. -/
theorem loads_last_saved (is : List (HostEvent F)) (f : AdmissionFabric F)
    (h : LastSaved s files₀ is f) (now : TimePoint) :
    (host F s files₀).reply ((host F s files₀).after (is ++ [.restart])) (.load now) =
        some (({} : AdmissionFabric F).applyPayload now (f.buildPayload s.toPersistenceConfig)
          s.toPersistenceConfig).1 ∧
      ((host F s files₀).after (is ++ [.restart, .load now])).engine =
        (({} : AdmissionFabric F).applyPayload now (f.buildPayload s.toPersistenceConfig)
          s.toPersistenceConfig).2 :=
  after_restart_load h.file now

/-- Calls reach the engine. -/
theorem after_calls (h : List (EngineCall F)) : (host F s files₀).after (h.map HostEvent.call) =
    { engine := (engine F).after h, files := files₀ } := by
  induction h using List.reverseRecOn with
  | nil => rfl
  | append_singleton h c ih =>
    rw [List.map_append, List.map_singleton, Machine.after_snoc, Machine.after_snoc, ih]
    rfl

/-- A save that nothing stops succeeds. -/
theorem lastSaved_of_done (is : List (HostEvent F))
    (hidle : ((host F s files₀).after is).saving = none) :
    LastSaved s files₀ (is ++ .save :: List.replicate 4 (.system .done))
      ((host F s files₀).after is).engine := by
  have hsave : (host F s files₀).after (is ++ [.save]) = { (host F s files₀).after is with
      saving := some (.start s ((host F s files₀).after is).engine) } := by
    rw [Machine.after_snoc]
    show (Host.step s _ .save).2 = _
    rw [Host.step, hidle]
  have hmove : ∀ js, (host F s files₀).after (is ++ .save :: js) =
      (host F s files₀).run ((host F s files₀).after (is ++ [.save])) js := by
    intro js
    rw [← Machine.after_append, List.append_assoc]
    rfl
  refine ⟨is ++ .save :: List.replicate 3 (.system .done), .system .done, [], by simp,
    ⟨is, _, rfl, hidle, rfl, fun a b hab => ?_⟩, ⟨⟨_, rfl⟩, ?_⟩, fun a i b hab => by simp at hab⟩
  · obtain ⟨n, hn, rfl⟩ : ∃ n ≤ 3, a = List.replicate n (.system .done) := by
      have hlen := congrArg List.length hab
      rw [List.length_replicate, List.length_append] at hlen
      exact ⟨a.length, by omega, List.eq_replicate_iff.mpr ⟨rfl, fun e he =>
        List.eq_of_mem_replicate (hab ▸ List.mem_append_left b he)⟩⟩
    rw [hmove, hsave]
    obtain rfl | rfl | rfl | rfl : n = 0 ∨ n = 1 ∨ n = 2 ∨ n = 3 := by omega
    · rfl
    · rfl
    · rfl
    · rfl
  · have hlast : (host F s files₀).after (is ++ .save :: List.replicate 3 (.system .done)) =
        { (host F s files₀).after is with
          saving := some
            { Saving.start s ((host F s files₀).after is).engine with next := .replace }
          files := Function.update
            (Function.update ((host F s files₀).after is).files s.tempPath (some [])) s.tempPath
            (some (Saving.start s ((host F s files₀).after is).engine).payload) } := by
      rw [hmove, hsave]
      rfl
    rw [hlast]
    simp [Host.step, Saving.step]

variable {s files₀} in
/-- A save that comes no further than writing changes nothing. -/
theorem LastSaved.of_interrupted {is : List (HostEvent F)} {f : AdmissionFabric F}
    (h : LastSaved s files₀ is f) (hidle : ((host F s files₀).after is).saving = none) (n : ℕ) :
    LastSaved s files₀ (is ++ [.save] ++ [.system .done] ++ [.system (.wrote n)]) f := by
  have hbegun : (host F s files₀).after (is ++ [.save]) = { (host F s files₀).after is with
      saving := some (.start s ((host F s files₀).after is).engine) } := by
    rw [Machine.after_snoc]
    show (Host.step s _ .save).2 = _
    rw [Host.step, hidle]
  have hopened : ((host F s files₀).after (is ++ [.save] ++ [.system .done])).saving.map
      Saving.next = some .write := by
    rw [Machine.after_snoc, hbegun]
    rfl
  refine ((h.snoc fun hsaves => ?_).snoc fun hsaves => ?_).snoc fun hsaves => ?_
  · have hnext := hsaves.next
    rw [hidle] at hnext
    cases hnext
  · have hnext := hsaves.next
    rw [hbegun] at hnext
    cases hnext
  · have hnext := hsaves.next
    rw [hopened] at hnext
    cases hnext

end Loads

namespace Sample

/-- Nothing has been saved in this file. -/
def stateFile : StateFile := { path := "state" }

/-- A request is admitted and the engine is saved. -/
def saved : List (HostEvent Binary64) :=
  admitted.map HostEvent.call ++ .save :: List.replicate 4 (.system .done)

/-- The process ends while it is saved again. -/
def savedOnce : List (HostEvent Binary64) :=
  saved ++ [.save] ++ [.system .done] ++ [.system (.wrote 5)]

theorem lastSaved_savedOnce : LastSaved stateFile (fun _ => none) savedOnce
    ((engine Binary64).after admitted) := by
  have hengine : ((host Binary64 stateFile fun _ => none).after
      (admitted.map HostEvent.call)).engine = (engine Binary64).after admitted := by
    rw [after_calls]
  have hidle : ((host Binary64 stateFile fun _ => none).after saved).saving = none := by
    rw [saved, Machine.after_append, after_calls]
    rfl
  have hfirst : LastSaved stateFile (fun _ => none) saved ((engine Binary64).after admitted) := by
    have hdone := lastSaved_of_done stateFile (fun _ => none) (admitted.map HostEvent.call)
      (congrArg Host.saving (after_calls _ _ _))
    rw [hengine] at hdone
    exact hdone
  rw [savedOnce]
  exact hfirst.of_interrupted hidle 5

theorem applies_admitted : (({} : AdmissionFabric Binary64).applyPayload 0
    (((engine Binary64).after admitted).buildPayload {}) {}).1 = .success := by
  obtain ⟨g, hloads, -⟩ := loads_state (stored_after admitted) (linked_after _)
    (by decide +kernel) recoverable_admitted 0
  rw [applyPayload_of_loads _ _ recoverable_admitted.bytes hloads]

end Sample

theorem loads_last_saved_once :
    (host Binary64 Sample.stateFile fun _ => none).reply
      ((host Binary64 Sample.stateFile fun _ => none).after (Sample.savedOnce ++ [.restart]))
      (.load 0) = some .success :=
  (loads_last_saved _ _ _ _ Sample.lastSaved_savedOnce 0).1.trans
    (congrArg some Sample.applies_admitted)

end Fabric
