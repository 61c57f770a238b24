import Fabric.Coordinator.Placement
import Fabric.Engine.Stamp

/-!
# Evaluations of several clients at once

`run` serves every connection on a thread of its own, and the handler of an evaluation takes
three steps: it chooses a snapshot, sets it on the engine, and evaluates. Nothing keeps the
handlers of other clients out between these steps, so an evaluation reads whatever snapshot was
set last: it uses the one that was chosen for it exactly when the two agree
(`uses_chosen_iff`). A handler that runs alone is the one step of the coordinator
(`handled_alone`).
-/

namespace Fabric

open Support

variable {F : Type} [Double F]

/-- The total that the capacity check of an evaluation is made against. -/
def AdmissionFabric.checkedTotal (f : AdmissionFabric F) : ResourceVector := f.reservations.total

namespace Coordinator

/-! ## The steps of a handler -/

/-- A handler under way: what it evaluates, what `choose_snapshot` returned, and whether that is
set on the engine. -/
structure EvaluateHandler (F : Type) where
  descriptor : AdmissionDescriptor F
  choice : Option ConnId
  isSet : Bool := false

/-- A coordinator and the handlers under way, each under the connection of its client. -/
structure Handling (F : Type) [Double F] where
  coordinator : Coordinator F
  running : OrdMap ConnId (EvaluateHandler F) := .empty

/-- A step of the handler of a client. -/
inductive HandlerStep (F : Type)
  | choose (client : ConnId) (d : AdmissionDescriptor F)
  | set (client : ConnId) (now : TimePoint)
  | evaluate (client : ConnId) (now : TimePoint)

/-- The snapshot that a choice points at, or the one that stands in for no choice. -/
def snapshotAt (c : Coordinator F) (now : TimePoint) (choice : Option ConnId) :
    ResourceSnapshot :=
  ((choice.bind c.contexts.find?).map AgentConn.snapshot).getD (c.emptySnapshot now)

/-- A step of a handler; the last one answers the client. -/
def handlerStep (s : Handling F) : HandlerStep F → Option (AdmissionDecision F) × Handling F
  | .choose client d =>
    if s.running.contains client then (none, s)
    else
      (none, { s with
        running := s.running.insert client
          { descriptor := d, choice := s.coordinator.chooseSnapshot d } })
  | .set client now =>
    match s.running.find? client with
    | none => (none, s)
    | some hd =>
      if hd.isSet then (none, s)
      else
        (none,
          { coordinator := { s.coordinator with
              engine := s.coordinator.engine.setSnapshot (s.coordinator.snapshotAt now hd.choice) }
            running := s.running.insert client { hd with isSet := true } })
  | .evaluate client now =>
    match s.running.find? client with
    | none => (none, s)
    | some hd =>
      if hd.isSet then
        let (dec, engine) := s.coordinator.engine.evaluate now hd.descriptor
        (some dec,
          { coordinator := { s.coordinator with engine }, running := s.running.erase client })
      else (none, s)

/-- The handlers of the clients of a coordinator, in any order of their steps. -/
def handling (c : Coordinator F) :
    Machine (Handling F) (HandlerStep F) (Option (AdmissionDecision F)) :=
  ⟨{ coordinator := c }, handlerStep⟩

variable {c : Coordinator F} {s : Handling F} {e : HandlerStep F} {client : ConnId}
  {now : TimePoint} {hd : EvaluateHandler F} {snap : ResourceSnapshot}

theorem handlerStep_choose (hnew : s.running.find? client = none) (d : AdmissionDescriptor F) :
    handlerStep s (.choose client d) = (none, { s with
      running := s.running.insert client
        { descriptor := d, choice := s.coordinator.chooseSnapshot d } }) := by
  simp [handlerStep, hnew]

theorem handlerStep_set (hfind : s.running.find? client = some hd) (hset : hd.isSet = false) :
    handlerStep s (.set client now) = (none,
      { coordinator := { s.coordinator with
          engine := s.coordinator.engine.setSnapshot (s.coordinator.snapshotAt now hd.choice) }
        running := s.running.insert client { hd with isSet := true } }) := by
  simp [handlerStep, hfind, hset]

theorem handlerStep_evaluate (now : TimePoint) (hfind : s.running.find? client = some hd)
    (hset : hd.isSet = true) :
    handlerStep s (.evaluate client now) =
      (some (s.coordinator.engine.evaluate now hd.descriptor).1,
        { coordinator := { s.coordinator with
            engine := (s.coordinator.engine.evaluate now hd.descriptor).2 }
          running := s.running.erase client }) := by
  simp [handlerStep, hfind, hset]

/-- A handler whose steps follow each other does what the coordinator does in one. -/
theorem handled_alone (hnew : s.running.find? client = none) (d : AdmissionDescriptor F) :
    ((handling c).run s [.choose client d, .set client now, .evaluate client now]).coordinator =
      (s.coordinator.step (.client now (.evaluate d))).2 := by
  simp only [Machine.run_cons, Machine.run_nil, Machine.next, handling]
  rw [handlerStep_choose hnew, handlerStep_set (OrdMap.find?_insert_self _ _ _) rfl,
    handlerStep_evaluate now (OrdMap.find?_insert_self _ _ _) rfl]
  rfl

/-! ## What was set last -/

/-- The step sets `snap` on the engine. -/
def Sets (s : Handling F) (e : HandlerStep F) (snap : ResourceSnapshot) : Prop :=
  ∃ client now hd, e = .set client now ∧ s.running.find? client = some hd ∧ hd.isSet = false ∧
    snap = s.coordinator.snapshotAt now hd.choice

/-- What a step can do. -/
inductive HandlerEffect (s : Handling F) (e : HandlerStep F) (s' : Handling F) : Prop
  /-- The handler cannot take this step. -/
  | idle (hs : s' = s)
  /-- A handler starts. -/
  | chose (client : ConnId) (d : AdmissionDescriptor F)
      (hcoordinator : s'.coordinator = s.coordinator)
      (hrunning : s'.running = s.running.insert client
        { descriptor := d, choice := s.coordinator.chooseSnapshot d })
  /-- A handler sets the snapshot that was chosen for it. -/
  | set (client : ConnId) (hd : EvaluateHandler F) (snap : ResourceSnapshot) (hsets : Sets s e snap)
      (hcoordinator : s'.coordinator =
        { s.coordinator with engine := s.coordinator.engine.setSnapshot snap })
      (hrunning : s'.running = s.running.insert client { hd with isSet := true })
  /-- A handler evaluates, and ends. -/
  | evaluated (client : ConnId) (now : TimePoint) (d : AdmissionDescriptor F)
      (hcoordinator : s'.coordinator =
        { s.coordinator with engine := (s.coordinator.engine.evaluate now d).2 })
      (hrunning : s'.running = s.running.erase client)

theorem handler_effect (s : Handling F) (e : HandlerStep F) :
    HandlerEffect s e (handlerStep s e).2 := by
  cases e with
  | choose client d =>
    by_cases hbusy : s.running.contains client = true
    · exact .idle (by simp [handlerStep, hbusy])
    · exact .chose client d (by simp [handlerStep, hbusy]) (by simp [handlerStep, hbusy])
  | set client now =>
    cases hfind : s.running.find? client with
    | none => exact .idle (by simp [handlerStep, hfind])
    | some hd =>
      by_cases hset : hd.isSet = true
      · exact .idle (by simp [handlerStep, hfind, hset])
      · rw [Bool.not_eq_true] at hset
        rw [handlerStep_set hfind hset]
        exact .set client hd _ ⟨client, now, hd, rfl, hfind, hset, rfl⟩ rfl rfl
  | evaluate client now =>
    cases hfind : s.running.find? client with
    | none => exact .idle (by simp [handlerStep, hfind])
    | some hd =>
      by_cases hset : hd.isSet = true
      · rw [handlerStep_evaluate now hfind hset]
        exact .evaluated client now hd.descriptor rfl rfl
      · exact .idle (by simp [handlerStep, hfind, hset])

/-- The engine has the snapshot that was set last, and its total. -/
theorem engine_of_latest {steps : List (HandlerStep F)} (h : (handling c).Latest Sets snap steps) :
    ((handling c).after steps).coordinator.engine.snapshot = snap ∧
      ((handling c).after steps).coordinator.engine.checkedTotal = snap.total := by
  refine h.since (Q := fun snap s => s.coordinator.engine.snapshot = snap ∧
    s.coordinator.engine.checkedTotal = snap.total) ?_ ?_
  · rintro s _ ⟨client, now, hd, rfl, hfind, hset, rfl⟩
    show (handlerStep s (.set client now)).2.coordinator.engine.snapshot = _ ∧
      (handlerStep s (.set client now)).2.coordinator.engine.checkedTotal = _
    rw [handlerStep_set hfind hset]
    exact ⟨rfl, rfl⟩
  · intro s e hnot hq
    show (handlerStep s e).2.coordinator.engine.snapshot = _ ∧
      (handlerStep s e).2.coordinator.engine.checkedTotal = _
    cases handler_effect s e with
    | idle hs => exact hs.symm ▸ hq
    | chose _ _ hcoordinator _ => exact hcoordinator.symm ▸ hq
    | set _ _ _ hsets _ _ => exact absurd hsets (hnot _)
    | evaluated _ now d hcoordinator _ =>
      have hkept := AdmissionFabric.settings_evaluate s.coordinator.engine now d
      rw [hcoordinator]
      exact ⟨hkept.snapshot.trans hq.1, hkept.total.trans hq.2⟩

/-- A handler that has set its snapshot is not the first to set one. -/
theorem exists_latest (steps : List (HandlerStep F))
    (hfind : ((handling c).after steps).running.find? client = some hd) (hset : hd.isSet = true) :
    ∃ snap, (handling c).Latest Sets snap steps := by
  induction steps using List.reverseRecOn generalizing client hd with
  | nil => cases hfind
  | append_singleton steps e ih =>
    by_cases hsets : ∃ snap, Sets ((handling c).after steps) e snap
    · obtain ⟨snap, hsets⟩ := hsets
      exact ⟨snap, Machine.latest_snoc.mpr (.inl hsets)⟩
    · have hnot := not_exists.mp hsets
      have hold : ∃ client hd, ((handling c).after steps).running.find? client = some hd ∧
          hd.isSet = true := by
        rw [Machine.after_snoc] at hfind
        change (handlerStep ((handling c).after steps) e).2.running.find? client = some hd at hfind
        cases handler_effect ((handling c).after steps) e with
        | idle hs => exact ⟨client, hd, hs ▸ hfind, hset⟩
        | chose client' d _ hrunning =>
          rw [hrunning, OrdMap.find?_insert] at hfind
          split_ifs at hfind
          · obtain rfl := Option.some.inj hfind
            cases hset
          · exact ⟨client, hd, hfind, hset⟩
        | set _ _ snap hsets _ _ => exact absurd hsets (hnot snap)
        | evaluated client' _ _ _ hrunning =>
          rw [hrunning, OrdMap.find?_erase] at hfind
          split_ifs at hfind
          exact ⟨client, hd, hfind, hset⟩
      obtain ⟨client, hd, hfind, hset⟩ := hold
      obtain ⟨snap, hlatest⟩ := ih hfind hset
      exact ⟨snap, Machine.latest_snoc.mpr (.inr ⟨hlatest, hnot⟩)⟩

/-! ## The snapshot of a decision -/

/-- Every decision has the generation of the snapshot that was chosen for it, and its demand was
checked against the total of that snapshot. -/
def UsesChosen (c : Coordinator F) (steps : List (HandlerStep F)) : Prop :=
  ∀ pre client now post hd dec, steps = pre ++ .evaluate client now :: post →
    ((handling c).after pre).running.find? client = some hd →
    (handlerStep ((handling c).after pre) (.evaluate client now)).1 = some dec →
    dec.snapshotGeneration = (c.snapshotAt now hd.choice).generation ∧
      ((handling c).after pre).coordinator.engine.checkedTotal =
        (c.snapshotAt now hd.choice).total

/-- Whenever a handler evaluates, the snapshot that was set last, by whichever handler, has the
generation and the total of the one that was chosen. -/
def LastSetAgrees (c : Coordinator F) (steps : List (HandlerStep F)) : Prop :=
  ∀ pre client now post hd snap, steps = pre ++ .evaluate client now :: post →
    ((handling c).after pre).running.find? client = some hd → hd.isSet = true →
    (handling c).Latest Sets snap pre →
    snap.generation = (c.snapshotAt now hd.choice).generation ∧
      snap.total = (c.snapshotAt now hd.choice).total

/-- Every decision uses the snapshot that was chosen for it, exactly when what was set last
agrees with what was chosen. -/
theorem uses_chosen_iff (c : Coordinator F) (steps : List (HandlerStep F)) :
    UsesChosen c steps ↔ LastSetAgrees c steps := by
  constructor
  · intro huses pre client now post hd snap hsteps hfind hset hlatest
    obtain ⟨hsnapshot, htotal⟩ := engine_of_latest hlatest
    have hreply := congrArg Prod.fst (handlerStep_evaluate now hfind hset)
    obtain ⟨hgen, hchecked⟩ := huses pre client now post hd _ hsteps hfind hreply
    rw [(AdmissionFabric.evaluate_stamped _ now hd.descriptor).snapshot, hsnapshot] at hgen
    exact ⟨hgen, htotal.symm.trans hchecked⟩
  · intro hagrees pre client now post hd dec hsteps hfind hreply
    have hset : hd.isSet = true := by
      by_contra hset
      simp [handlerStep, hfind, hset] at hreply
    rw [handlerStep_evaluate now hfind hset] at hreply
    obtain rfl := Option.some.inj hreply
    obtain ⟨snap, hlatest⟩ := exists_latest pre hfind hset
    obtain ⟨hsnapshot, htotal⟩ := engine_of_latest hlatest
    obtain ⟨hgen, hagree⟩ := hagrees pre client now post hd snap hsteps hfind hset hlatest
    rw [(AdmissionFabric.evaluate_stamped _ now hd.descriptor).snapshot, hsnapshot]
    exact ⟨hgen, htotal.trans hagree⟩

/-- A site with a second agent that has the backend `b` and less memory. -/
def Sample.pair : List (CoordinatorEvent Binary64) :=
  Sample.served ++ [.register 1 ⟨2⟩ ⟨200⟩,
    .agent 1 (.capacityUpdate 1 { Sample.snapshot 1000000000 with
      generation := ⟨7⟩, agentId := ⟨2⟩, bootId := ⟨200⟩
      capabilities := Capabilities.add {} (Capabilities.backend (ascii "b")) })]

/-- Two clients choose different agents and set their snapshots one after the other: the first
is answered on the snapshot of the second. -/
theorem uses_chosen_fails : ¬ UsesChosen ((coordinator Binary64).after Sample.pair)
    [.choose 10 (Sample.descriptor 1), .choose 11 { Sample.descriptor 2 with backend := ascii "b" },
      .set 10 0, .set 11 0, .evaluate 10 0] := by
  intro huses
  have hfirst : (((handling ((coordinator Binary64).after Sample.pair)).after
      [.choose 10 (Sample.descriptor 1),
        .choose 11 { Sample.descriptor 2 with backend := ascii "b" }, .set 10 0,
        .set 11 0]).running.find? 10).map (fun hd => (hd.choice, hd.isSet)) =
      some (some 0, true) := by decide +kernel
  obtain ⟨hd, hfind, hhd⟩ := Option.map_eq_some_iff.mp hfirst
  obtain ⟨hchoice, hset⟩ := Prod.mk.inj hhd
  obtain ⟨hgen, -⟩ := huses
    [.choose 10 (Sample.descriptor 1), .choose 11 { Sample.descriptor 2 with backend := ascii "b" },
      .set 10 0, .set 11 0] 10 0 [] hd _ rfl hfind
    (congrArg Prod.fst (handlerStep_evaluate 0 hfind hset))
  rw [(AdmissionFabric.evaluate_stamped _ 0 hd.descriptor).snapshot, hchoice] at hgen
  revert hgen
  decide +kernel

end Coordinator

end Fabric
