import Fabric.Coordinator.Fencing

/-!
# Capacity updates

A capacity update is accepted or refused on the context of the connection it arrives on: that
context knows the last generation accepted on this connection, and zero while there is none.
What is placed on an agent is decided on the context in the map.

* `increasing_iff`: the accepted generations of an agent and a boot identity increase exactly
  when no update slips past a marker that has forgotten them. One registration for each identity
  and no generation zero is enough (`markerHolds_of_single`).
* `acknowledged_iff`: what is acknowledged is considered for placement exactly when it arrives on
  the connection of a live current registration, or repeats what that one holds.
-/

namespace Fabric

open Support

variable {F : Type} [Double F]

namespace Coordinator

variable {c c' : Coordinator F} {e : CoordinatorEvent F} {id : AgentId} {boot : AgentBootId}
  {conn : ConnId} {ctx : AgentConn} {snap : ResourceSnapshot} {epochVal : UInt64}

/-- The event is a capacity update on `conn` that is accepted. -/
def AcceptsOn (conn : ConnId) (snap : ResourceSnapshot) (c : Coordinator F)
    (e : CoordinatorEvent F) : Prop :=
  (∃ epochVal, e = .agent conn (.capacityUpdate epochVal snap)) ∧
    (c.step e).1 = .capacityAccepted snap.generation

/-- The event is an accepted capacity update of `id` under `boot` with generation `gen`. -/
def Accepts (id : AgentId) (boot : AgentBootId) (gen : ResourceSnapshotGeneration)
    (c : Coordinator F) (e : CoordinatorEvent F) : Prop :=
  ∃ conn snap, AcceptsOn conn snap c e ∧ snap.agentId = id ∧ snap.bootId = boot ∧
    snap.generation = gen

theorem capacityRefusal_eq_none_iff : c.capacityRefusal ctx epochVal snap = none ↔
    epochVal = c.epoch.value ∧ (snap.bootId = ctx.boot ∧ snap.agentId = ctx.id) ∧
      ¬ (ctx.capacityGeneration ≠ 0 ∧ snap.generation.value ≤ ctx.capacityGeneration) := by
  unfold capacityRefusal
  split_ifs with hepoch hid hgen
  · exact iff_of_false (by simp) fun h => hepoch h.1
  · exact iff_of_false (by simp) fun h => by tauto
  · exact iff_of_false (by simp) fun h => h.2.2 hgen
  · refine iff_of_true rfl ⟨not_not.mp hepoch, ?_, hgen⟩
    tauto

/-- An update is accepted exactly when its connection is served and nothing refuses it. -/
theorem acceptsOn_iff : AcceptsOn conn snap c e ↔ ∃ epochVal ctx,
    e = .agent conn (.capacityUpdate epochVal snap) ∧ c.Serves conn ctx ∧
      c.capacityRefusal ctx epochVal snap = none := by
  constructor
  · rintro ⟨⟨epochVal, rfl⟩, hreply⟩
    by_cases hserved : ∃ ctx, c.Serves conn ctx
    · obtain ⟨ctx, hserves⟩ := hserved
      refine ⟨epochVal, ctx, rfl, hserves, ?_⟩
      cases hrefusal : c.capacityRefusal ctx epochVal snap with
      | none => rfl
      | some s =>
        rw [step_agent hserves, handleAgent] at hreply
        simp [hrefusal] at hreply
    · rw [(step_unserved (not_exists.mp hserved) _).1] at hreply
      cases hreply
  · rintro ⟨epochVal, ctx, rfl, hserves, hrefusal⟩
    refine ⟨⟨epochVal, rfl⟩, ?_⟩
    rw [step_agent hserves, handleAgent]
    simp [hrefusal]

/-- What an accepted update leaves behind. -/
theorem accept_effect (h : AcceptsOn conn snap c e) : ∃ ctx, c.Serves conn ctx ∧
    snap.agentId = ctx.id ∧ snap.bootId = ctx.boot ∧ (c.step e).2.agents = c.agents ∧
      (c.step e).2.contexts = c.contexts.insert conn
        { ctx with snapshot := snap, capacityGeneration := snap.generation.value } := by
  obtain ⟨epochVal, ctx, rfl, hserves, hrefusal⟩ := acceptsOn_iff.mp h
  obtain ⟨-, ⟨hboot, hid⟩, -⟩ := capacityRefusal_eq_none_iff.mp hrefusal
  refine ⟨ctx, hserves, hid, hboot, ?_⟩
  rw [step_agent hserves, handleAgent]
  simp [hrefusal]

/-! ## No rollback -/

/-- The generations accepted for an agent and a boot identity increase strictly. -/
def Increasing (h : List (CoordinatorEvent F)) : Prop :=
  ∀ pre e post id boot g g', h = pre ++ e :: post →
    (coordinator F).Happened (Accepts id boot g) pre →
    Accepts id boot g' ((coordinator F).after pre) e → g < g'

/-- No update with the current epoch and identity gets past the marker of its connection with a
generation that is not above those accepted before. -/
def MarkerHolds (h : List (CoordinatorEvent F)) : Prop :=
  ∀ pre conn epochVal snap post ctx, h = pre ++ .agent conn (.capacityUpdate epochVal snap) :: post →
    ((coordinator F).after pre).Serves conn ctx →
    epochVal = ((coordinator F).after pre).epoch.value →
    snap.bootId = ctx.boot → snap.agentId = ctx.id →
    ∀ g, (coordinator F).Happened (Accepts ctx.id ctx.boot g) pre → g < snap.generation ∨
      (ctx.capacityGeneration ≠ 0 ∧ snap.generation.value ≤ ctx.capacityGeneration)

/-- No snapshot is rolled back, exactly when the markers hold. -/
theorem increasing_iff (h : List (CoordinatorEvent F)) : Increasing h ↔ MarkerHolds h := by
  constructor
  · intro hinc pre conn epochVal snap post ctx hh hserves hepoch hboot hid g hg
    by_contra hnot
    obtain ⟨hlt, hmarker⟩ := not_or.mp hnot
    have hrefusal := capacityRefusal_eq_none_iff.mpr ⟨hepoch, ⟨hboot, hid⟩, hmarker⟩
    have haccepts := acceptsOn_iff.mpr ⟨epochVal, ctx, rfl, hserves, hrefusal⟩
    exact hlt (hinc pre _ post ctx.id ctx.boot g snap.generation hh hg
      ⟨conn, snap, haccepts, hid, hboot, rfl⟩)
  · intro hmarkers pre e post id boot g g' hh hg haccepts
    obtain ⟨conn, snap, haccepts, rfl, rfl, rfl⟩ := haccepts
    obtain ⟨epochVal, ctx, rfl, hserves, hrefusal⟩ := acceptsOn_iff.mp haccepts
    obtain ⟨hepoch, ⟨hboot, hid⟩, hmarker⟩ := capacityRefusal_eq_none_iff.mp hrefusal
    rw [hid, hboot] at hg
    exact (hmarkers pre conn epochVal snap post ctx hh hserves hepoch hboot hid g hg).resolve_right
      hmarker

/-- An agent reports generation 5, registers again under the same identity, and reports
generation 3. -/
theorem increasing_fails : ¬ Increasing (F := Binary64)
    [.register 0 ⟨1⟩ ⟨100⟩,
      .agent 0 (.capacityUpdate 1 { agentId := ⟨1⟩, bootId := ⟨100⟩, generation := ⟨5⟩ }),
      .register 1 ⟨1⟩ ⟨100⟩,
      .agent 1 (.capacityUpdate 1 { agentId := ⟨1⟩, bootId := ⟨100⟩, generation := ⟨3⟩ })] := by
  intro hinc
  have hlt := hinc
    [.register 0 ⟨1⟩ ⟨100⟩,
      .agent 0 (.capacityUpdate 1 { agentId := ⟨1⟩, bootId := ⟨100⟩, generation := ⟨5⟩ }),
      .register 1 ⟨1⟩ ⟨100⟩]
    (.agent 1 (.capacityUpdate 1 { agentId := ⟨1⟩, bootId := ⟨100⟩, generation := ⟨3⟩ })) []
    ⟨1⟩ ⟨100⟩ ⟨5⟩ ⟨3⟩ rfl
    ⟨[.register 0 ⟨1⟩ ⟨100⟩],
      .agent 0 (.capacityUpdate 1 { agentId := ⟨1⟩, bootId := ⟨100⟩, generation := ⟨5⟩ }), _, rfl,
      0, _, ⟨⟨1, rfl⟩, rfl⟩, rfl, rfl, rfl⟩
    ⟨1, _, ⟨⟨1, rfl⟩, rfl⟩, rfl, rfl, rfl⟩
  revert hlt
  decide

/-! ## One registration for each identity -/

/-- No boot identity registers twice, and no update carries the generation that also marks the
absence of one. -/
def Single (c : Coordinator F) : CoordinatorEvent F → Prop
  | .register _ id boot => ∀ k a, c.contexts.find? k = some a → ¬ (a.id = id ∧ a.boot = boot)
  | .agent _ (.capacityUpdate _ snap) => snap.generation.value ≠ 0
  | _ => True

/-- A boot identity has one context. -/
def OneContext (c : Coordinator F) : Prop :=
  ∀ k k' a a', c.contexts.find? k = some a → c.contexts.find? k' = some a' → a.id = a'.id →
    a.boot = a'.boot → k = k'

/-- The contexts of an identity remember a generation. -/
def Remembers (id : AgentId) (boot : AgentBootId) (gen : ResourceSnapshotGeneration)
    (c : Coordinator F) : Prop :=
  ∀ k a, c.contexts.find? k = some a → a.id = id → a.boot = boot →
    a.capacityGeneration ≠ 0 ∧ gen.value ≤ a.capacityGeneration

theorem oneContext_replace (hone : c.OneContext) {a a' : AgentConn}
    (ha : c.contexts.find? conn = some a) (hcontexts : c'.contexts = c.contexts.insert conn a')
    (hid : a'.id = a.id) (hboot : a'.boot = a.boot) : c'.OneContext := by
  have hback : ∀ k b, c'.contexts.find? k = some b →
      ∃ b', c.contexts.find? k = some b' ∧ b'.id = b.id ∧ b'.boot = b.boot := by
    intro k b hb
    rw [hcontexts, OrdMap.find?_insert] at hb
    split_ifs at hb with hk
    · obtain rfl := Option.some.inj hb
      exact ⟨a, hk ▸ ha, hid.symm, hboot.symm⟩
    · exact ⟨b, hb, rfl, rfl⟩
  intro k k' b b' hb hb' hids hboots
  obtain ⟨d, hd, hdid, hdboot⟩ := hback k b hb
  obtain ⟨d', hd', hdid', hdboot'⟩ := hback k' b' hb'
  exact hone k k' d d' hd hd' (hdid.trans (hids.trans hdid'.symm))
    (hdboot.trans (hboots.trans hdboot'.symm))

theorem oneContext_step (hc : c.WellFormed) (hone : c.OneContext) (hsingle : c.Single e) :
    (c.step e).2.OneContext := by
  cases agent_effect hc e with
  | quiet _ hkept _ =>
    rw [OneContext, hkept.contexts]
    exact hone
  | closed _ _ _ _ _ _ _ hcontexts _ _ =>
    rw [OneContext, hcontexts]
    exact hone
  | accepted conn ctx _ _ _ hserves _ _ _ hcontexts _ _ =>
    exact oneContext_replace hone hserves.context hcontexts rfl rfl
  | fenced conn ctx cur a _ _ _ _ ha _ _ hcontexts _ _ =>
    exact oneContext_replace hone ha hcontexts rfl rfl
  | registered conn id boot he _ hnew _ _ hcontexts _ _ =>
    subst he
    intro k k' a a' ha ha' hid hboot
    rw [hcontexts, OrdMap.find?_insert] at ha ha'
    split_ifs at ha ha' with hk hk' hk'
    · rw [hk, hk']
    · obtain rfl := Option.some.inj ha
      exact absurd ⟨hid.symm, hboot.symm⟩ (hsingle k' a' ha')
    · obtain rfl := Option.some.inj ha'
      exact absurd ⟨hid, hboot⟩ (hsingle k a ha)
    · exact hone k k' a a' ha ha' hid hboot

/-- An accepted update is remembered. -/
theorem remembers_accept (hone : c.OneContext) (hsingle : c.Single e)
    {gen : ResourceSnapshotGeneration} (h : Accepts id boot gen c e) :
    Remembers id boot gen (c.step e).2 := by
  obtain ⟨conn, snap, haccepts, rfl, rfl, rfl⟩ := h
  obtain ⟨ctx, hserves, hid, hboot, -, hcontexts⟩ := accept_effect haccepts
  obtain ⟨⟨epochVal, rfl⟩, -⟩ := haccepts
  intro k a ha haid haboot
  rw [hcontexts, OrdMap.find?_insert] at ha
  split_ifs at ha with hk
  · obtain rfl := Option.some.inj ha
    exact ⟨hsingle, UInt64.le_refl _⟩
  · exact absurd (hone k conn a ctx ha hserves.context (haid.trans hid) (haboot.trans hboot)) hk

theorem remembers_step (hc : c.WellFormed) (hsingle : c.Single e) {gen : ResourceSnapshotGeneration}
    (hseen : ∃ k a, c.contexts.find? k = some a ∧ a.id = id ∧ a.boot = boot)
    (h : Remembers id boot gen c) : Remembers id boot gen (c.step e).2 := by
  cases agent_effect hc e with
  | quiet _ hkept _ =>
    rw [Remembers, hkept.contexts]
    exact h
  | closed _ _ _ _ _ _ _ hcontexts _ _ =>
    rw [Remembers, hcontexts]
    exact h
  | registered conn id' boot' he _ _ _ _ hcontexts _ _ =>
    subst he
    intro k a ha haid haboot
    rw [hcontexts, OrdMap.find?_insert] at ha
    split_ifs at ha with hk
    · obtain rfl := Option.some.inj ha
      obtain ⟨k', b, hb, hbid, hbboot⟩ := hseen
      exact absurd ⟨hbid.trans haid.symm, hbboot.trans haboot.symm⟩ (hsingle k' b hb)
    · exact h k a ha haid haboot
  | accepted conn ctx epochVal snap he hserves hrefusal _ _ hcontexts _ _ =>
    subst he
    intro k a ha haid haboot
    rw [hcontexts, OrdMap.find?_insert] at ha
    split_ifs at ha with hk
    · obtain rfl := Option.some.inj ha
      obtain ⟨hne, hle⟩ := h conn ctx hserves.context haid haboot
      obtain ⟨-, -, hmarker⟩ := capacityRefusal_eq_none_iff.mp hrefusal
      have hlt : ¬ snap.generation.value ≤ ctx.capacityGeneration := fun hle' =>
        hmarker ⟨hne, hle'⟩
      exact ⟨hsingle, UInt64.le_trans hle (UInt64.le_of_lt (UInt64.not_le.mp hlt))⟩
    · exact h k a ha haid haboot
  | fenced conn ctx cur a _ _ _ _ ha _ _ hcontexts _ _ =>
    intro k b hb hbid hbboot
    rw [hcontexts, OrdMap.find?_insert] at hb
    split_ifs at hb with hk
    · obtain rfl := Option.some.inj hb
      exact h cur a ha hbid hbboot
    · exact h k b hb hbid hbboot

/-- With one registration for each identity and no generation zero, every accepted generation is
remembered to the end of the run. -/
theorem remembers_of_single {h : List (CoordinatorEvent F)}
    (hs : (coordinator F).Guarded Single h) : ((coordinator F).after h).OneContext ∧
      ∀ id boot g, (coordinator F).Happened (Accepts id boot g) h →
        (∃ k a, ((coordinator F).after h).contexts.find? k = some a ∧ a.id = id ∧ a.boot = boot) ∧
          Remembers id boot g ((coordinator F).after h) := by
  induction h using List.reverseRecOn with
  | nil =>
    refine ⟨fun k _ a _ ha => ?_, fun _ _ _ hg => absurd hg Machine.not_happened_nil⟩
    cases ha
  | append_singleton h e ih =>
    obtain ⟨hbefore, hsingle⟩ := Machine.guarded_snoc.mp hs
    obtain ⟨hone, hrem⟩ := ih hbefore
    have hc := wellFormed_after h
    rw [Machine.after_snoc]
    refine ⟨oneContext_step hc hone hsingle, fun id boot g hg => ?_⟩
    rcases Machine.happened_snoc.mp hg with hg | hnow
    · obtain ⟨⟨k, a, ha, hid, hboot⟩, hmem⟩ := hrem id boot g hg
      obtain ⟨a', ha', hid', hboot'⟩ := context_kept hc e ha
      exact ⟨⟨k, a', ha', hid'.trans hid, hboot'.trans hboot⟩,
        remembers_step hc hsingle ⟨k, a, ha, hid, hboot⟩ hmem⟩
    · refine ⟨?_, remembers_accept hone hsingle hnow⟩
      obtain ⟨conn, snap, haccepts, rfl, rfl, rfl⟩ := hnow
      obtain ⟨ctx, hserves, hid, hboot, -, -⟩ := accept_effect haccepts
      obtain ⟨a', ha', hid', hboot'⟩ := context_kept hc e hserves.context
      exact ⟨conn, a', ha', hid'.trans hid.symm, hboot'.trans hboot.symm⟩

/-- One registration for each identity and no generation zero rule out a rollback. -/
theorem markerHolds_of_single {h : List (CoordinatorEvent F)}
    (hs : (coordinator F).Guarded Single h) : MarkerHolds h := by
  intro pre conn epochVal snap post ctx hh hserves hepoch hboot hid g hg
  rw [hh] at hs
  obtain ⟨-, hrem⟩ := remembers_of_single hs.prefix
  obtain ⟨hne, hle⟩ := (hrem ctx.id ctx.boot g hg).2 conn ctx hserves.context rfl rfl
  by_cases hmarker : snap.generation.value ≤ ctx.capacityGeneration
  · exact .inr ⟨hne, hmarker⟩
  · have hlt : g.value < snap.generation.value := UInt64.lt_of_le_of_lt hle (UInt64.not_le.mp hmarker)
    exact .inl (UInt64.lt_iff_toNat_lt.mp hlt)

/-! ## Acknowledged updates -/

/-- The snapshot that placement considers for an agent. -/
def considered (c : Coordinator F) (id : AgentId) : Option ResourceSnapshot :=
  (c.current id).bind fun a => if a.alive then some a.snapshot else none

/-- An event that may change what is considered for an agent. -/
def Touches (id : AgentId) (c : Coordinator F) (e : CoordinatorEvent F) : Prop :=
  (∃ boot, Registers id boot c e) ∨ (∃ conn snap, AcceptsOn conn snap c e ∧ snap.agentId = id) ∨
    ∃ conn ctx, e = .lost conn ∧ c.Serves conn ctx ∧ ctx.id = id

/-- What is acknowledged is considered, and stays so until the agent is touched again. -/
def Acknowledged (h : List (CoordinatorEvent F)) : Prop :=
  ∀ pre e mid post conn snap, h = (pre ++ [e]) ++ mid ++ post →
    AcceptsOn conn snap ((coordinator F).after pre) e →
    (∀ mid₁ e' mid₂, mid = mid₁ ++ e' :: mid₂ →
      ¬ Touches snap.agentId ((coordinator F).after ((pre ++ [e]) ++ mid₁)) e') →
    ((coordinator F).after ((pre ++ [e]) ++ mid)).considered snap.agentId = some snap

/-- An update that is about to be accepted arrives on the connection of a live current
registration, or repeats what that one holds. -/
def OnCurrent (c : Coordinator F) (e : CoordinatorEvent F) : Prop :=
  ∀ conn epochVal snap ctx, e = .agent conn (.capacityUpdate epochVal snap) → c.Serves conn ctx →
    c.capacityRefusal ctx epochVal snap = none → ∃ a, c.current ctx.id = some a ∧ a.alive = true ∧
      (c.agents.find? ctx.id = some conn ∨ a.snapshot = snap)

theorem considered_congr (h : c'.current id = c.current id) : c'.considered id = c.considered id := by
  rw [considered, considered, h]

/-- What no event touches stays considered. -/
theorem considered_step (hc : c.WellFormed) (htouch : ¬ Touches id c e) :
    (c.step e).2.considered id = c.considered id := by
  refine considered_congr ?_
  cases agent_effect hc e with
  | quiet _ hkept _ => exact current_eq_of_same hkept.agents hkept.contexts id
  | closed _ _ _ _ _ _ hagents hcontexts _ _ => exact current_eq_of_same hagents hcontexts id
  | registered conn id' boot he hreply hnew _ hagents hcontexts _ _ =>
    rw [current_of_registration hc hnew hagents hcontexts, if_neg]
    rintro rfl
    exact htouch (.inl ⟨boot, conn, he, hreply⟩)
  | accepted conn ctx epochVal snap he hserves hrefusal hreply hagents hcontexts _ _ =>
    rw [current_of_context hagents hcontexts, if_neg]
    intro hentry
    obtain ⟨a, ha, haid⟩ := hc.mapped id conn hentry
    obtain rfl := Option.some.inj (hserves.context.symm.trans ha)
    obtain ⟨-, ⟨-, hid⟩, -⟩ := capacityRefusal_eq_none_iff.mp hrefusal
    exact htouch (.inr (.inl ⟨conn, snap, ⟨⟨epochVal, he⟩, hreply⟩, hid.trans haid⟩))
  | fenced conn ctx cur a he hserves _ hcur _ _ hagents hcontexts _ _ =>
    rw [current_of_fence hc hcur hagents hcontexts, if_neg]
    rintro rfl
    exact htouch (.inr (.inr ⟨conn, ctx, he, hserves, rfl⟩))

/-- What is considered right after an update was accepted. -/
theorem considered_accept {ctx : AgentConn} (hserves : c.Serves conn ctx)
    (hagents : c'.agents = c.agents)
    (hcontexts : c'.contexts = c.contexts.insert conn
      { ctx with snapshot := snap, capacityGeneration := snap.generation.value }) :
    c'.considered ctx.id = some snap ↔ ∃ a, c.current ctx.id = some a ∧ a.alive = true ∧
      (c.agents.find? ctx.id = some conn ∨ a.snapshot = snap) := by
  rw [considered, current_of_context hagents hcontexts]
  by_cases hentry : c.agents.find? ctx.id = some conn
  · have hcur : c.current ctx.id = some ctx := by
      rw [current, hentry, Option.bind_some, hserves.context]
    simp [hentry, hcur]
  · rw [if_neg hentry]
    cases hcur : c.current ctx.id with
    | none => simp
    | some a => simp [hentry]

theorem acknowledged_iff (h : List (CoordinatorEvent F)) :
    Acknowledged h ↔ (coordinator F).Guarded OnCurrent h := by
  constructor
  · rintro hack pre e post hh conn epochVal snap ctx rfl hserves hrefusal
    have haccepts := acceptsOn_iff.mpr ⟨epochVal, ctx, rfl, hserves, hrefusal⟩
    have hnow := hack pre _ [] post conn snap (by simp [hh]) haccepts (by simp)
    obtain ⟨ctx', hserves', hid, -, hagents, hcontexts⟩ := accept_effect haccepts
    obtain rfl := Option.some.inj (hserves.context.symm.trans hserves'.context)
    rw [List.append_nil, Machine.after_snoc, hid] at hnow
    exact (considered_accept hserves hagents hcontexts).mp hnow
  · intro hguard pre e mid post conn snap hh haccepts huntouched
    induction mid using List.reverseRecOn generalizing post with
    | nil =>
      obtain ⟨ctx, hserves, hid, -, hagents, hcontexts⟩ := accept_effect haccepts
      obtain ⟨epochVal, ctx', rfl, hserves', hrefusal⟩ := acceptsOn_iff.mp haccepts
      obtain rfl := Option.some.inj (hserves.context.symm.trans hserves'.context)
      have hcur := hguard pre _ post (by simp [hh]) conn epochVal snap ctx rfl hserves hrefusal
      rw [List.append_nil, Machine.after_snoc, hid]
      exact (considered_accept hserves hagents hcontexts).mpr hcur
    | append_singleton mid e' ih =>
      have hkept := ih (e' :: post) (by simp [hh]) fun mid₁ e₁ mid₂ hmid =>
        huntouched mid₁ e₁ (mid₂ ++ [e']) (by simp [hmid])
      have htouch := huntouched mid e' [] rfl
      rw [← List.append_assoc, Machine.after_snoc]
      exact (considered_step (wellFormed_after _) htouch).trans hkept

/-- The update arrives on a connection that another registration has superseded. -/
theorem acknowledged_fails : ¬ Acknowledged (F := Binary64)
    [.register 0 ⟨1⟩ ⟨100⟩, .register 1 ⟨1⟩ ⟨100⟩,
      .agent 0 (.capacityUpdate 1 { agentId := ⟨1⟩, bootId := ⟨100⟩, generation := ⟨5⟩ })] := by
  intro hack
  have hnow := hack [.register 0 ⟨1⟩ ⟨100⟩, .register 1 ⟨1⟩ ⟨100⟩]
    (.agent 0 (.capacityUpdate 1 { agentId := ⟨1⟩, bootId := ⟨100⟩, generation := ⟨5⟩ })) [] [] 0 _
    rfl ⟨⟨1, rfl⟩, rfl⟩ (by simp)
  have hgen := congrArg (Option.map ResourceSnapshot.generation) hnow
  revert hgen
  decide

end Coordinator

end Fabric
