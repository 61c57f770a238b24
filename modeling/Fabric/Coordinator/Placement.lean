import Fabric.Coordinator.Capacity
import Fabric.Engine.Gates
import Mathlib.Data.List.MinMax

/-!
# Where a request is placed

`choose_snapshot` walks the agents in the order of their ids and keeps the one with the most
free accelerator memory (`chooseSnapshot_eq_some`). It asks whether an agent is alive and has the
capabilities, not whether it has reported anything or is healthy: an admission is backed by a
live, healthy, reporting agent exactly when no request that passes all checks is placed on
another (`backed_iff`).
-/

namespace Fabric

open Support

/-- A maximum that is the first of its kind in an ordered list stands before all its equals. -/
theorem argmax_first {α β : Type} [LinearOrder β] [DecidableEq α] {r : α → α → Prop}
    {f : α → β} {l : List α} {m a : α} (hl : l.Pairwise r) (hm : m ∈ l.argmax f) (ha : a ∈ l)
    (hle : f m ≤ f a) : a = m ∨ r m a := by
  obtain ⟨hmem, -, hfirst⟩ := List.mem_argmax_iff.mp hm
  rcases (hfirst a ha hle).lt_or_eq with hidx | hidx
  · have hrel := List.pairwise_iff_getElem.mp hl _ _ (List.idxOf_lt_length_of_mem hmem)
      (List.idxOf_lt_length_of_mem ha) hidx
    rw [List.getElem_idxOf, List.getElem_idxOf] at hrel
    exact .inr hrel
  · exact .inl ((List.idxOf_inj hmem).mp hidx).symm

variable {F : Type} [Double F]

namespace Coordinator

variable {c c' : Coordinator F} {e : CoordinatorEvent F} {d : AdmissionDescriptor F}
  {now : TimePoint} {conn : ConnId} {ctx : AgentConn} {snap : ResourceSnapshot}

/-! ## The choice -/

/-- The free memory of the agent of a map entry, when it may be chosen. -/
def candidate (c : Coordinator F) (d : AdmissionDescriptor F) (entry : AgentId × ConnId) :
    Option UInt64 :=
  (c.contexts.find? entry.2).bind (free? d)

/-- One turn of the loop in `choose_snapshot`. -/
def chooseTurn (c : Coordinator F) (d : AdmissionDescriptor F) (best : Option (ConnId × UInt64))
    (entry : AgentId × ConnId) : Option (ConnId × UInt64) :=
  match c.candidate d entry with
  | none => best
  | some free => better best entry.2 free

theorem chooseSnapshot_eq : c.chooseSnapshot d =
    (c.agents.entries.foldl (c.chooseTurn d) none).map Prod.fst := rfl

omit [Double F] in
theorem free?_eq_some_iff {a : AgentConn} {free : UInt64} : free? d a = some free ↔
    a.alive = true ∧ a.snapshot.capabilities.containsAll (required d) = true ∧
      a.snapshot.headroom.get .acceleratorMemory = free := by
  unfold free?
  split_ifs with halive hcap
  · simp [halive]
  · simp [hcap]
  · simp [halive, hcap]

/-- The entries that may be chosen, with their free memory, in the order of the ids. -/
def candidates (c : Coordinator F) (d : AdmissionDescriptor F) :
    List ((AgentId × ConnId) × UInt64) :=
  c.agents.entries.filterMap fun entry => (c.candidate d entry).map fun free => (entry, free)

/-- A turn of the loop on a candidate is a step of the running maximum. -/
theorem better_eq_argAux (best : Option ((AgentId × ConnId) × UInt64))
    (k : (AgentId × ConnId) × UInt64) :
    better (best.map fun k => (k.1.2, k.2)) k.1.2 k.2 =
      (List.argAux (fun b c => c.2.toNat < b.2.toNat) best k).map fun k => (k.1.2, k.2) := by
  cases best with
  | none => rfl
  | some b =>
    simp only [better, List.argAux, Option.map_some, gt_iff_lt, UInt64.lt_iff_toNat_lt]
    split_ifs <;> rfl

/-- The choice is the first candidate with the most free memory. -/
theorem chooseSnapshot_eq_argmax : c.chooseSnapshot d =
    ((c.candidates d).argmax fun k => k.2.toNat).map fun k => k.1.2 := by
  have hfold : ∀ (l : List (AgentId × ConnId)) (best : Option ((AgentId × ConnId) × UInt64)),
      l.foldl (c.chooseTurn d) (best.map fun k => (k.1.2, k.2)) =
        ((l.filterMap fun entry => (c.candidate d entry).map fun free => (entry, free)).foldl
          (List.argAux fun b c => c.2.toNat < b.2.toNat) best).map fun k => (k.1.2, k.2) := by
    intro l
    induction l with
    | nil => exact fun _ => rfl
    | cons entry l ih =>
      intro best
      rw [List.foldl_cons, chooseTurn, List.filterMap_cons]
      cases c.candidate d entry with
      | none => exact ih best
      | some free =>
        rw [Option.map_some]
        simp only
        rw [better_eq_argAux best (entry, free), ih, List.foldl_cons]
  rw [chooseSnapshot_eq, ← Option.map_none fun k : (AgentId × ConnId) × UInt64 => (k.1.2, k.2),
    hfold, Option.map_map]
  rfl

theorem mem_candidates_iff {id : AgentId} {free : UInt64} :
    ((id, conn), free) ∈ c.candidates d ↔ c.agents.find? id = some conn ∧
      ∃ a, c.contexts.find? conn = some a ∧ free? d a = some free := by
  rw [candidates, List.mem_filterMap, OrdMap.find?_eq_some_iff]
  constructor
  · rintro ⟨entry, hmem, hcand⟩
    obtain ⟨free', hfree, heq⟩ := Option.map_eq_some_iff.mp hcand
    obtain ⟨rfl, rfl⟩ := Prod.mk.inj heq
    exact ⟨hmem, Option.bind_eq_some_iff.mp hfree⟩
  · rintro ⟨hmem, hfree⟩
    exact ⟨(id, conn), hmem, Option.map_eq_some_iff.mpr
      ⟨free, Option.bind_eq_some_iff.mpr hfree, rfl⟩⟩

/-- The candidates stand in the order of their ids. -/
theorem candidates_sorted (c : Coordinator F) (d : AdmissionDescriptor F) :
    (c.candidates d).Pairwise fun k l => k.1.1 < l.1.1 := by
  rw [candidates, List.pairwise_filterMap]
  refine c.agents.sorted.imp fun hlt k hk l hl => ?_
  obtain ⟨_, -, rfl⟩ := Option.map_eq_some_iff.mp hk
  obtain ⟨_, -, rfl⟩ := Option.map_eq_some_iff.mp hl
  exact hlt

/-- The registration that `choose_snapshot` prefers to all others: no live agent with the required
capabilities has more free memory, and none with a smaller id has as much. -/
structure Leads (c : Coordinator F) (d : AdmissionDescriptor F) (id : AgentId) (conn : ConnId)
    (a : AgentConn) : Prop where
  registered : c.agents.find? id = some conn
  context : c.contexts.find? conn = some a
  alive : a.alive = true
  capable : a.snapshot.capabilities.containsAll (required d) = true
  first : ∀ id' b, c.current id' = some b → b.alive = true →
    b.snapshot.capabilities.containsAll (required d) = true →
    b.snapshot.headroom.get .acceleratorMemory ≤ a.snapshot.headroom.get .acceleratorMemory ∧
      (id' < id → b.snapshot.headroom.get .acceleratorMemory <
        a.snapshot.headroom.get .acceleratorMemory)

/-- What is chosen leads. -/
theorem leads_of_chosen (h : c.chooseSnapshot d = some conn) : ∃ id a, c.Leads d id conn a := by
  rw [chooseSnapshot_eq_argmax, Option.map_eq_some_iff] at h
  obtain ⟨⟨⟨id, conn⟩, free⟩, hmax, rfl⟩ := h
  obtain ⟨hmem, hbest, -⟩ := List.mem_argmax_iff.mp hmax
  obtain ⟨hid, a, ha, hfree⟩ := mem_candidates_iff.mp hmem
  obtain ⟨halive, hcap, rfl⟩ := free?_eq_some_iff.mp hfree
  refine ⟨id, a, hid, ha, halive, hcap, fun id' b hb hblive hbcap => ?_⟩
  obtain ⟨conn', hid', hb⟩ := current_eq_some_iff.mp hb
  have hmem' := mem_candidates_iff.mpr ⟨hid', b, hb, free?_eq_some_iff.mpr ⟨hblive, hbcap, rfl⟩⟩
  refine ⟨UInt64.le_iff_toNat_le.mpr (hbest _ hmem'), fun hlt => ?_⟩
  by_contra hmore
  -- An earlier candidate with as much free memory would have been kept.
  rcases argmax_first (c.candidates_sorted d) hmax hmem'
    (UInt64.le_iff_toNat_le.mp (UInt64.not_lt.mp hmore)) with heq | hback
  · obtain rfl : id' = id := congrArg (fun k => k.1.1) heq
    exact lt_irrefl _ hlt
  · exact lt_asymm hlt hback

theorem Leads.unique {id id' : AgentId} {conn conn' : ConnId} {a a' : AgentConn}
    (h : c.Leads d id conn a) (h' : c.Leads d id' conn' a') : conn = conn' := by
  have hle := h.first id' a' (current_eq_some_iff.mpr ⟨conn', h'.registered, h'.context⟩) h'.alive
    h'.capable
  have hge := h'.first id a (current_eq_some_iff.mpr ⟨conn, h.registered, h.context⟩) h.alive
    h.capable
  rcases lt_trichotomy id id' with hlt | rfl | hlt
  · exact absurd (hge.2 hlt) (UInt64.not_lt.mpr hle.1)
  · exact Option.some.inj (h.registered.symm.trans h'.registered)
  · exact absurd (hle.2 hlt) (UInt64.not_lt.mpr hge.1)

/-- When a live agent has the required capabilities, one is chosen. -/
theorem exists_chosen {id : AgentId} {a : AgentConn} (ha : c.current id = some a)
    (halive : a.alive = true) (hcap : a.snapshot.capabilities.containsAll (required d) = true) :
    ∃ conn, c.chooseSnapshot d = some conn := by
  obtain ⟨conn, hid, ha⟩ := current_eq_some_iff.mp ha
  have hmem := mem_candidates_iff.mpr ⟨hid, a, ha, free?_eq_some_iff.mpr ⟨halive, hcap, rfl⟩⟩
  cases hmax : (c.candidates d).argmax fun k => k.2.toNat with
  | none =>
    rw [List.argmax_eq_none.mp hmax] at hmem
    cases hmem
  | some k => exact ⟨k.1.2, by rw [chooseSnapshot_eq_argmax, hmax, Option.map_some]⟩

theorem chooseSnapshot_eq_some_iff : c.chooseSnapshot d = some conn ↔
    ∃ id a, c.Leads d id conn a := by
  constructor
  · exact leads_of_chosen
  · rintro ⟨id, a, h⟩
    obtain ⟨conn', hchosen⟩ := exists_chosen
      (current_eq_some_iff.mpr ⟨conn, h.registered, h.context⟩) h.alive h.capable
    obtain ⟨id', a', h'⟩ := leads_of_chosen hchosen
    rw [hchosen, h.unique h']

/-- What is chosen is the current registration of a live agent with the capabilities, and no
other such agent has more free memory. -/
theorem chooseSnapshot_eq_some (h : c.chooseSnapshot d = some conn) :
    ∃ id a, c.agents.find? id = some conn ∧ c.contexts.find? conn = some a ∧ a.alive = true ∧
      a.snapshot.capabilities.containsAll (required d) = true ∧
      ∀ id' b, c.current id' = some b → b.alive = true →
        b.snapshot.capabilities.containsAll (required d) = true →
        b.snapshot.headroom.get .acceleratorMemory ≤ a.snapshot.headroom.get .acceleratorMemory := by
  obtain ⟨id, a, h⟩ := leads_of_chosen h
  exact ⟨id, a, h.registered, h.context, h.alive, h.capable,
    fun id' b hb halive hcap => (h.first id' b hb halive hcap).1⟩

/-- What is chosen is the current registration of its agent. -/
theorem chosen_current (hc : c.WellFormed) (h : c.chooseSnapshot d = some conn)
    (hctx : c.contexts.find? conn = some ctx) :
    c.agents.find? ctx.id = some conn ∧ c.current ctx.id = some ctx ∧ ctx.alive = true := by
  obtain ⟨id, a, hid, ha, halive, -⟩ := chooseSnapshot_eq_some h
  obtain rfl := Option.some.inj (ha.symm.trans hctx)
  obtain ⟨b, hb, hbid⟩ := hc.mapped id conn hid
  obtain rfl := Option.some.inj (ha.symm.trans hb)
  rw [hbid]
  exact ⟨hid, current_eq_some_iff.mpr ⟨conn, hid, ha⟩, halive⟩

/-! ## Evaluating a client request -/

theorem snapshotFor_of_chosen (h : c.chooseSnapshot d = some conn)
    (hctx : c.contexts.find? conn = some ctx) : c.snapshotFor now d = ctx.snapshot := by
  rw [snapshotFor, chosen, h, Option.bind_some, hctx]
  rfl

/-- Without a chosen agent nothing is admitted: all dimensions are unavailable. -/
theorem not_admissible_of_none (h : c.chooseSnapshot d = none) :
    ¬ (c.engine.setSnapshot (c.snapshotFor now d)).Admissible now d := by
  rintro ⟨a⟩
  obtain ⟨record, htrans, -⟩ := AdmissionFabric.transition_evaluating
    (c.engine.setSnapshot (c.snapshotFor now d)).countEvaluation now d
  have hpass := (AdmissionFabric.gates_passes a.gates).snapshot
  rw [AdmissionFabric.prepared_eq _ htrans] at hpass
  obtain ⟨-, havail⟩ := hpass
  have hempty : c.snapshotFor now d = c.emptySnapshot now := by
    rw [snapshotFor, chosen, h]
    rfl
  have hsnap : (c.snapshotFor now d).hasUnavailableDimension = false := havail
  rw [hempty] at hsnap
  revert hsnap
  simp [ResourceSnapshot.hasUnavailableDimension, emptySnapshot, ResourceId.all]

theorem step_evaluate (c : Coordinator F) (now : TimePoint) (d : AdmissionDescriptor F) :
    c.step (.client now (.evaluate d)) =
      (.decision ((c.engine.setSnapshot (c.snapshotFor now d)).evaluate now d).1,
        { c with engine := ((c.engine.setSnapshot (c.snapshotFor now d)).evaluate now d).2 }) := rfl

/-- A request is admitted exactly when an agent is chosen and every check passes on its
snapshot. -/
theorem admits_client_iff :
    ((c.engine.setSnapshot (c.snapshotFor now d)).evaluate now d).1.outcome = .admitted ↔
      ∃ conn ctx, c.chooseSnapshot d = some conn ∧ c.contexts.find? conn = some ctx ∧
        (c.engine.setSnapshot ctx.snapshot).Admissible now d := by
  rw [AdmissionFabric.admits_iff]
  constructor
  · intro hadm
    cases hchoice : c.chooseSnapshot d with
    | none => exact absurd hadm (not_admissible_of_none hchoice)
    | some conn =>
      obtain ⟨id, ctx, -, hctx, -⟩ := chooseSnapshot_eq_some hchoice
      rw [snapshotFor_of_chosen hchoice hctx] at hadm
      exact ⟨conn, ctx, rfl, hctx, hadm⟩
  · rintro ⟨conn, ctx, hchoice, hctx, hadm⟩
    rw [snapshotFor_of_chosen hchoice hctx]
    exact hadm

/-! ## Backed admissions -/

/-- The connection has had an update accepted. -/
def Reported (conn : ConnId) (h : List (CoordinatorEvent F)) : Prop :=
  (coordinator F).Happened (fun c e => ∃ snap, AcceptsOn conn snap c e) h

/-- The snapshot that `d` is evaluated against was accepted from an agent that is alive and
marked it healthy. -/
def Backed (h : List (CoordinatorEvent F)) (d : AdmissionDescriptor F) : Prop :=
  ∃ conn ctx, ((coordinator F).after h).chooseSnapshot d = some conn ∧
    ((coordinator F).after h).contexts.find? conn = some ctx ∧
    ((coordinator F).after h).current ctx.id = some ctx ∧ ctx.alive = true ∧
    ctx.snapshot.healthy = true ∧ (coordinator F).Happened (AcceptsOn conn ctx.snapshot) h

/-- Every admission is backed. -/
def BackedAdmissions (h : List (CoordinatorEvent F)) : Prop :=
  ∀ pre now d post dec, h = pre ++ .client now (.evaluate d) :: post →
    (((coordinator F).after pre).step (.client now (.evaluate d))).1 = .decision dec →
    dec.outcome = .admitted → Backed pre d

/-- No request that passes all checks is placed on an agent that has not reported on its
connection, or reported itself unhealthy. -/
def PlacedOnReporting (h : List (CoordinatorEvent F)) : Prop :=
  ∀ pre now d post conn ctx, h = pre ++ .client now (.evaluate d) :: post →
    ((coordinator F).after pre).chooseSnapshot d = some conn →
    ((coordinator F).after pre).contexts.find? conn = some ctx →
    (((coordinator F).after pre).engine.setSnapshot ctx.snapshot).Admissible now d →
    Reported conn pre ∧ ctx.snapshot.healthy = true

/-- The context of a connection that has reported holds an accepted snapshot. -/
theorem accepted_of_reported {h : List (CoordinatorEvent F)} (hr : Reported conn h) :
    ∃ ctx, ((coordinator F).after h).contexts.find? conn = some ctx ∧
      (coordinator F).Happened (AcceptsOn conn ctx.snapshot) h := by
  induction h using List.reverseRecOn with
  | nil => exact absurd hr Machine.not_happened_nil
  | append_singleton h e ih =>
    have hc := wellFormed_after h
    rw [Machine.after_snoc]
    show ∃ ctx, (((coordinator F).after h).step e).2.contexts.find? conn = some ctx ∧ _
    by_cases hnow : ∃ snap, AcceptsOn conn snap ((coordinator F).after h) e
    · obtain ⟨snap, haccepts⟩ := hnow
      obtain ⟨ctx, -, -, -, -, hcontexts⟩ := accept_effect haccepts
      refine ⟨_, by rw [hcontexts, OrdMap.find?_insert_self], ?_⟩
      exact Machine.happened_snoc.mpr (.inr haccepts)
    · obtain ⟨ctx, hctx, hhap⟩ := ih ((Machine.happened_snoc.mp hr).resolve_right hnow)
      have hold := Machine.happened_snoc (i := e).mpr (.inl hhap)
      cases agent_effect hc e with
      | quiet _ hkept _ => exact ⟨ctx, by rw [hkept.contexts, hctx], hold⟩
      | closed _ _ _ _ _ _ _ hcontexts _ _ => exact ⟨ctx, by rw [hcontexts, hctx], hold⟩
      | registered conn' id boot _ _ hnew _ _ hcontexts _ _ =>
        have hne : conn ≠ conn' := by
          rintro rfl
          cases hnew.symm.trans hctx
        exact ⟨ctx, by rw [hcontexts, OrdMap.find?_insert, if_neg hne, hctx], hold⟩
      | accepted conn' ctx' epochVal snap he _ _ hreply _ hcontexts _ _ =>
        have hne : conn ≠ conn' := by
          rintro rfl
          exact hnow ⟨snap, ⟨epochVal, he⟩, hreply⟩
        exact ⟨ctx, by rw [hcontexts, OrdMap.find?_insert, if_neg hne, hctx], hold⟩
      | fenced conn' ctx' cur a _ _ _ _ ha _ _ hcontexts _ _ =>
        rw [hcontexts, OrdMap.find?_insert]
        split_ifs with hk
        · obtain rfl := Option.some.inj ((hk ▸ hctx).symm.trans ha)
          exact ⟨_, rfl, hold⟩
        · exact ⟨ctx, hctx, hold⟩

/-- Every admission is backed by a live, healthy, reporting agent, exactly when no request that
passes all checks is placed on another. -/
theorem backed_iff (h : List (CoordinatorEvent F)) :
    BackedAdmissions h ↔ PlacedOnReporting h := by
  constructor
  · intro hback pre now d post conn ctx hh hchoice hctx hadm
    have hout := admits_client_iff.mpr ⟨conn, ctx, hchoice, hctx, hadm⟩
    obtain ⟨conn', ctx', hchoice', hctx', -, -, hhealthy, hhap⟩ :=
      hback pre now d post _ hh rfl hout
    obtain rfl := Option.some.inj (hchoice.symm.trans hchoice')
    obtain rfl := Option.some.inj (hctx.symm.trans hctx')
    obtain ⟨pre₁, e, post₁, rfl, haccepts⟩ := hhap
    exact ⟨⟨pre₁, e, post₁, rfl, _, haccepts⟩, hhealthy⟩
  · intro hplaced pre now d post dec hh hreply hout
    have hc := wellFormed_after (F := F) pre
    rw [step_evaluate] at hreply
    obtain rfl := CoordinatorReply.decision.inj hreply
    obtain ⟨conn, ctx, hchoice, hctx, hadm⟩ := admits_client_iff.mp hout
    obtain ⟨hrep, hhealthy⟩ := hplaced pre now d post conn ctx hh hchoice hctx hadm
    obtain ⟨-, hcurrent, halive⟩ := chosen_current hc hchoice hctx
    obtain ⟨ctx', hctx', hhap⟩ := accepted_of_reported hrep
    obtain rfl := Option.some.inj (hctx.symm.trans hctx')
    exact ⟨conn, ctx, hchoice, hctx, hcurrent, halive, hhealthy, hhap⟩

/-- An agent registers, reports nothing, and a request is admitted on its blank snapshot under a
policy that accepts stale ones. -/
theorem backed_fails : ¬ BackedAdmissions
    [.host 0 (.installPolicy { Sample.policy with acceptStaleSnapshot := true }),
      .register 0 ⟨1⟩ ⟨100⟩,
      .client 1700000000000000000 (.evaluate (Sample.descriptor 1))] := by
  intro hback
  have hout : (((((coordinator Binary64).after
      [.host 0 (.installPolicy { Sample.policy with acceptStaleSnapshot := true }),
        .register 0 ⟨1⟩ ⟨100⟩]).engine.setSnapshot (((coordinator Binary64).after
      [.host 0 (.installPolicy { Sample.policy with acceptStaleSnapshot := true }),
        .register 0 ⟨1⟩ ⟨100⟩]).snapshotFor 1700000000000000000 (Sample.descriptor 1))).evaluate
          1700000000000000000 (Sample.descriptor 1)).1).outcome = .admitted := by
    decide +kernel
  obtain ⟨conn, ctx, -, -, -, -, -, hhap⟩ := hback
    [.host 0 (.installPolicy { Sample.policy with acceptStaleSnapshot := true }),
      .register 0 ⟨1⟩ ⟨100⟩] 1700000000000000000 (Sample.descriptor 1) [] _ rfl
    (congrArg Prod.fst (step_evaluate _ _ _)) hout
  -- Neither event of the prefix is a capacity update.
  obtain ⟨pre, e, post, hsplit, ⟨epochVal, rfl⟩, -⟩ := hhap
  have hmem : CoordinatorEvent.agent conn (.capacityUpdate epochVal ctx.snapshot) ∈
      ([.host 0 (.installPolicy { Sample.policy with acceptStaleSnapshot := true }),
        .register 0 ⟨1⟩ ⟨100⟩] : List (CoordinatorEvent Binary64)) := by
    rw [hsplit]
    simp
  simp at hmem

end Coordinator

end Fabric
