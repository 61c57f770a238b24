import Fabric.Coordinator.Steps

/-!
# The reports of a connection

`takenOn` lists the snapshots that the coordinator has taken over on a connection, oldest first.
The context of a connection always holds the last of them, with its generation
(`reflects_after`).
-/

namespace Fabric

open Support

variable {F : Type} [Double F]

namespace Coordinator

/-- The snapshot that the coordinator takes over on a connection, if it does. -/
def takes (conn : ConnId) (c : Coordinator F) (e : CoordinatorEvent F) : Option ResourceSnapshot :=
  match e, (c.step e).1 with
  | .agent k (.capacityUpdate _ snap), .capacityAccepted _ => if k = conn then some snap else none
  | _, _ => none

/-- The context of the connection holds the last of the snapshots. -/
structure Reflects (c : Coordinator F) (conn : ConnId) (l : List ResourceSnapshot) : Prop where
  unknown : c.contexts.find? conn = none → l = []
  last : ∀ a, c.contexts.find? conn = some a →
    a.snapshot = l.getLast?.getD {} ∧ a.capacityGeneration = a.snapshot.generation.value

variable {c c' : Coordinator F} {conn : ConnId} {e : CoordinatorEvent F} {l : List ResourceSnapshot}

theorem takes_of_reply (h : ∀ gen, (c.step e).1 ≠ .capacityAccepted gen) : c.takes conn e = none := by
  unfold takes
  split
  · exact absurd (by assumption) (h _)
  · rfl

/-- What is answered with an acceptance is an update under the current epoch, taken over on its
connection. -/
theorem accepted_takes (hc : c.WellFormed) {gen : ResourceSnapshotGeneration}
    (h : (c.step e).1 = .capacityAccepted gen) : ∃ k snap,
      e = .agent k (.capacityUpdate c.epoch.value snap) ∧
        ∀ conn, c.takes conn e = if k = conn then some snap else none := by
  cases agent_effect hc e with
  | quiet hreply _ _ =>
    rw [h] at hreply
    exact hreply.elim
  | accepted k ctx epochVal snap he _ hrefusal hreply _ _ _ _ =>
    have hepoch : epochVal = c.epoch.value := by
      unfold capacityRefusal at hrefusal
      split_ifs at hrefusal with hne
      exact not_not.mp hne
    subst he hepoch
    refine ⟨k, snap, rfl, fun conn => ?_⟩
    unfold takes
    rw [hreply]
  | registered _ _ _ _ hreply | fenced _ _ _ _ _ _ hreply | closed _ _ _ _ hreply =>
    rw [h] at hreply
    cases hreply

theorem Reflects.of_context (hr : c.Reflects conn l) (h : ∀ a', c'.contexts.find? conn = some a' →
    ∃ a, c.contexts.find? conn = some a ∧ a'.snapshot = a.snapshot ∧
      a'.capacityGeneration = a.capacityGeneration)
    (hnone : c'.contexts.find? conn = none → c.contexts.find? conn = none) :
    c'.Reflects conn l := by
  refine ⟨fun h' => hr.unknown (hnone h'), fun a' ha' => ?_⟩
  obtain ⟨a, ha, hsnap, hgen⟩ := h a' ha'
  obtain ⟨hlast, hvalue⟩ := hr.last a ha
  rw [hsnap, hgen]
  exact ⟨hlast, hvalue⟩

theorem Reflects.same (hr : c.Reflects conn l) (h : c'.contexts = c.contexts) :
    c'.Reflects conn l := by
  refine hr.of_context (fun a' ha' => ⟨a', h ▸ ha', rfl, rfl⟩) fun hnone => ?_
  rwa [h] at hnone

/-- What an event takes over is added, and nothing else is lost or gained. -/
theorem reflects_step (hc : c.WellFormed) (hr : c.Reflects conn l) (e : CoordinatorEvent F) :
    (c.step e).2.Reflects conn (l ++ (c.takes conn e).toList) := by
  have hkept : (∀ gen, (c.step e).1 ≠ .capacityAccepted gen) →
      l ++ (c.takes conn e).toList = l := by
    intro hreply
    rw [takes_of_reply hreply, Option.toList_none, List.append_nil]
  cases agent_effect hc e with
  | quiet hreply hsame _ =>
    rw [hkept fun gen h => by rw [h] at hreply; exact hreply]
    exact hr.same hsame.contexts
  | closed _ _ _ _ hreply _ _ hcontexts _ _ =>
    rw [hkept fun gen h => by rw [hreply] at h; cases h]
    exact hr.same hcontexts
  | registered k _ _ _ hreply hnew _ _ hcontexts _ _ =>
    rw [hkept fun gen h => by rw [hreply] at h; cases h]
    constructor
    · rw [hcontexts, OrdMap.find?_insert]
      split_ifs
      · exact fun h => by cases h
      · exact hr.unknown
    · intro a ha
      rw [hcontexts, OrdMap.find?_insert] at ha
      split_ifs at ha with hk
      · obtain rfl := Option.some.inj ha
        rw [hr.unknown (hk ▸ hnew)]
        exact ⟨rfl, rfl⟩
      · exact hr.last a ha
  | fenced _ _ cur b _ _ hreply _ hb _ _ hcontexts _ _ =>
    rw [hkept fun gen h => by rw [hreply] at h; cases h]
    refine hr.of_context (fun a' ha' => ?_) fun hnone => ?_
    · rw [hcontexts, OrdMap.find?_insert] at ha'
      split_ifs at ha' with hk
      · obtain rfl := Option.some.inj ha'
        exact ⟨b, hk ▸ hb, rfl, rfl⟩
      · exact ⟨a', ha', rfl, rfl⟩
    · rw [hcontexts, OrdMap.find?_insert] at hnone
      split_ifs at hnone
      exact hnone
  | accepted k ctx epochVal snap he hserves _ hreply _ hcontexts _ _ =>
    have htakes : c.takes conn e = if k = conn then some snap else none := by
      subst he
      unfold takes
      rw [hreply]
    rw [htakes]
    by_cases hk : k = conn
    · rw [if_pos hk, Option.toList_some]
      subst hk
      constructor
      · rw [hcontexts, OrdMap.find?_insert_self]
        exact fun h => by cases h
      · intro a ha
        rw [hcontexts, OrdMap.find?_insert_self] at ha
        obtain rfl := Option.some.inj ha
        rw [List.getLast?_append, List.getLast?_singleton]
        exact ⟨rfl, rfl⟩
    · rw [if_neg hk, Option.toList_none, List.append_nil]
      have hother : (c.step e).2.contexts.find? conn = c.contexts.find? conn := by
        rw [hcontexts, OrdMap.find?_insert, if_neg fun h => hk h.symm]
      refine hr.of_context (fun a' ha' => ⟨a', hother ▸ ha', rfl, rfl⟩) fun hnone => ?_
      rwa [hother] at hnone

end Coordinator

/-- The snapshots taken over on a connection, oldest first. -/
def takenOn (conn : ConnId) (h : List (CoordinatorEvent F)) : List ResourceSnapshot :=
  (coordinator F).log (Coordinator.takes conn) {} h

theorem takenOn_snoc (conn : ConnId) (h : List (CoordinatorEvent F)) (e : CoordinatorEvent F) :
    takenOn conn (h ++ [e]) =
      takenOn conn h ++ (((coordinator F).after h).takes conn e).toList := Machine.log_snoc

/-- In every run, the context of a connection holds the last snapshot taken over on it. -/
theorem reflects_after (conn : ConnId) (h : List (CoordinatorEvent F)) :
    ((coordinator F).after h).Reflects conn (takenOn conn h) := by
  induction h using List.reverseRecOn with
  | nil => exact ⟨fun _ => rfl, fun _ ha => by cases ha⟩
  | append_singleton h e ih =>
    rw [Machine.after_snoc, takenOn_snoc]
    exact Coordinator.reflects_step (Coordinator.wellFormed_after h) ih e

end Fabric
