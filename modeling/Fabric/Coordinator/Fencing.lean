import Fabric.Coordinator.Steps

/-!
# Fencing agents

A lost connection fences the agent it was registered for, by the name of the agent: the context
that is marked dead is the one in the map, not the one of the lost connection. A registration is
only compared with the context in the map, and only while that one is alive.

* `fence_law_iff`: the loss of a superseded connection is harmless exactly when the current
  registration is dead already.
* `never_returns_iff`: a fenced boot identity stays away exactly when every attempt to register
  it again meets a live registration with another boot identity.
-/

namespace Fabric

open Support

variable {F : Type} [Double F]

namespace Coordinator

variable {c : Coordinator F} {e : CoordinatorEvent F} {id : AgentId} {boot : AgentBootId}

/-! ## Losing a connection -/

/-- The current registration of `id` goes from alive to dead. -/
def Dies (c c' : Coordinator F) (id : AgentId) : Prop :=
  c'.agents.find? id = c.agents.find? id ∧ (∃ a, c.current id = some a ∧ a.alive = true) ∧
    ∃ a, c'.current id = some a ∧ a.alive = false

/-- The map holds a later registration for the agent of a served connection. -/
def Superseded (c : Coordinator F) (conn : ConnId) (ctx : AgentConn) : Prop :=
  c.Serves conn ctx ∧ c.agents.find? ctx.id ≠ some conn

/-- Losing a superseded connection changes nothing for its agent, and the epoch moves on once
for each registration that dies. -/
structure FenceLaw (c : Coordinator F) (e : CoordinatorEvent F) : Prop where
  keeps : ∀ conn ctx, e = .lost conn → c.Superseded conn ctx →
    (c.step e).2.current ctx.id = c.current ctx.id ∧ (c.step e).2.epoch = c.epoch
  counts : ((∃! id, Dies c (c.step e).2 id) ∧ (c.step e).2.epoch = c.epoch.next) ∨
    (∀ id, ¬ Dies c (c.step e).2 id) ∧ (c.step e).2.epoch = c.epoch

/-- No connection is lost that is superseded by a live registration. -/
def LosesCurrent (c : Coordinator F) (e : CoordinatorEvent F) : Prop :=
  ∀ conn ctx, e = .lost conn → c.Superseded conn ctx →
    ∀ a, c.current ctx.id = some a → a.alive = false

theorem not_dies_of_current {c' : Coordinator F} (h : c'.current id = c.current id) :
    ¬ Dies c c' id := by
  rintro ⟨-, ⟨a, ha, halive⟩, b, hb, hdead⟩
  obtain rfl := Option.some.inj (ha.symm.trans (h.symm.trans hb))
  cases halive.symm.trans hdead

/-- A context that stays as alive as it was does not make its agent die. -/
theorem not_dies_of_alive {c' : Coordinator F} {a' : AgentConn} (h : c'.current id = some a')
    (halive : ∀ a, c.current id = some a → a.alive = true → a'.alive = true) :
    ¬ Dies c c' id := by
  rintro ⟨-, ⟨a, ha, hlive⟩, b, hb, hdead⟩
  obtain rfl := Option.some.inj (h.symm.trans hb)
  cases (halive a ha hlive).symm.trans hdead

/-- The epoch moves on once for each registration that dies. -/
theorem epoch_counts (hc : c.WellFormed) (e : CoordinatorEvent F) :
    ((∃! id, Dies c (c.step e).2 id) ∧ (c.step e).2.epoch = c.epoch.next) ∨
      (∀ id, ¬ Dies c (c.step e).2 id) ∧ (c.step e).2.epoch = c.epoch := by
  cases agent_effect hc e with
  | quiet _ hkept _ =>
    refine .inr ⟨fun id => not_dies_of_current ?_, hkept.epoch⟩
    exact current_eq_of_same hkept.agents hkept.contexts id
  | registered conn id boot _ _ hnew _ hagents hcontexts _ hepoch =>
    refine .inr ⟨fun id' => ?_, hepoch⟩
    have hcurrent := current_of_registration hc hnew hagents hcontexts id'
    split_ifs at hcurrent
    · exact not_dies_of_alive hcurrent fun _ _ _ => rfl
    · exact not_dies_of_current hcurrent
  | accepted conn ctx _ snap _ hserves _ _ hagents hcontexts _ hepoch =>
    refine .inr ⟨fun id' => ?_, hepoch⟩
    have hcurrent := current_of_context hagents hcontexts id'
    split_ifs at hcurrent with hentry
    · refine not_dies_of_alive hcurrent fun a ha halive => ?_
      rw [current, hentry, Option.bind_some, hserves.context] at ha
      obtain rfl := Option.some.inj ha
      exact halive
    · exact not_dies_of_current hcurrent
  | fenced conn ctx cur a _ _ _ hcur ha halive hagents hcontexts _ hepoch =>
    have hcurrent := current_of_fence hc hcur hagents hcontexts
    refine .inl ⟨⟨ctx.id, ⟨by rw [hagents], ⟨a, ?_, halive⟩, _, (hcurrent _).trans (if_pos rfl),
      rfl⟩, fun id' hdies => ?_⟩, hepoch⟩
    · rw [current, hcur, Option.bind_some, ha]
    · by_contra hid
      exact not_dies_of_current ((hcurrent id').trans (if_neg hid)) hdies
  | closed conn ctx _ _ _ _ hagents hcontexts _ hepoch =>
    refine .inr ⟨fun id => not_dies_of_current ?_, hepoch⟩
    exact current_eq_of_same hagents hcontexts id

theorem fence_law_of_wellFormed (hc : c.WellFormed) (e : CoordinatorEvent F) :
    c.FenceLaw e ↔ c.LosesCurrent e := by
  have hcounts := epoch_counts hc e
  constructor
  · intro hlaw conn ctx he hsup a ha
    by_contra halive
    have halive : a.alive = true := by simpa using halive
    obtain ⟨hkeeps, -⟩ := hlaw.keeps conn ctx he hsup
    -- The current registration is alive, so the loss fences it.
    subst he
    cases agent_effect hc (.lost conn) with
    | quiet _ _ hlost => exact hlost conn ctx rfl hsup.1
    | registered _ _ _ he => cases he
    | accepted _ _ _ _ he => cases he
    | fenced conn' ctx' cur b he hserves _ hcur hb _ hagents hcontexts _ _ =>
      obtain rfl : conn = conn' := by simpa using he
      obtain rfl := Option.some.inj (hsup.1.context.symm.trans hserves.context)
      rw [current_of_fence hc hcur hagents hcontexts, if_pos rfl, ha] at hkeeps
      obtain rfl := Option.some.inj hkeeps
      cases halive
    | closed conn' ctx' he hserves _ hdead _ _ _ _ =>
      obtain rfl : conn = conn' := by simpa using he
      obtain rfl := Option.some.inj (hsup.1.context.symm.trans hserves.context)
      cases (hdead a ha).symm.trans halive
  · intro hloses
    refine ⟨fun conn ctx he hsup => ?_, hcounts⟩
    have hdead := hloses conn ctx he hsup
    subst he
    cases agent_effect hc (.lost conn) with
    | quiet _ _ hlost => exact absurd hsup.1 (hlost conn ctx rfl)
    | registered _ _ _ he => cases he
    | accepted _ _ _ _ he => cases he
    | fenced conn' ctx' cur b he hserves _ hcur hb halive _ _ _ _ =>
      obtain rfl : conn = conn' := by simpa using he
      obtain rfl := Option.some.inj (hsup.1.context.symm.trans hserves.context)
      have hb' : c.current ctx.id = some b := by rw [current, hcur, Option.bind_some, hb]
      cases (hdead b hb').symm.trans halive
    | closed _ _ _ _ _ _ hagents hcontexts _ hepoch =>
      exact ⟨current_eq_of_same hagents hcontexts _, hepoch⟩

/-- Only the current connection of an agent can fence it, exactly when no superseded connection
is lost while the current registration is alive. -/
theorem fence_law_iff (h : List (CoordinatorEvent F)) :
    (coordinator F).Guarded FenceLaw h ↔ (coordinator F).Guarded LosesCurrent h :=
  forall₄_congr fun pre e _ _ => fence_law_of_wellFormed (wellFormed_after pre) e

/-- An agent registers again under the same boot identity, and its old connection is lost. -/
theorem fence_law_fails : ¬ (coordinator Binary64).Guarded FenceLaw
    [.register 0 ⟨1⟩ ⟨100⟩, .register 1 ⟨1⟩ ⟨100⟩, .lost 0] := by
  intro hlaw
  have hlost := hlaw [.register 0 ⟨1⟩ ⟨100⟩, .register 1 ⟨1⟩ ⟨100⟩] (.lost 0) [] rfl
  have hkeeps := hlost.keeps 0 { id := ⟨1⟩, boot := ⟨100⟩, registered := true, alive := true } rfl
    ⟨⟨rfl, rfl⟩, by decide⟩
  have hepoch := hkeeps.2
  revert hepoch
  decide

/-! ## Boot identities that come back -/

/-- The event is an accepted registration of `id` under `boot`. -/
def Registers (id : AgentId) (boot : AgentBootId) (c : Coordinator F) (e : CoordinatorEvent F) :
    Prop :=
  ∃ conn, e = .register conn id boot ∧ (c.step e).1 = .agentRegistered c.epoch

/-- The event fences the current registration of `id`, which has the identity `boot`. -/
def Fences (id : AgentId) (boot : AgentBootId) (c : Coordinator F) (e : CoordinatorEvent F) :
    Prop :=
  ∃ conn ctx a, e = .lost conn ∧ c.Serves conn ctx ∧ ctx.id = id ∧ c.current id = some a ∧
    a.alive = true ∧ a.boot = boot

/-- Whether a loss fences depends on the agents only. -/
theorem Fences.of_same {c' : Coordinator F} (hsame : c.SameAgents c')
    (h : Fences id boot c e) : Fences id boot c' e := by
  obtain ⟨conn, ctx, a, he, hserves, hid, ha, halive, hboot⟩ := h
  refine ⟨conn, ctx, a, he, ⟨?_, ?_⟩, hid, ?_, halive, hboot⟩
  · rw [hsame.handlers, hserves.handler]
  · rw [hsame.contexts, hserves.context]
  · rw [current, hsame.agents, hsame.contexts]
    exact ha

/-- A registration of `id` under `boot` was fenced, or replaced by another identity. -/
def Retired (id : AgentId) (boot : AgentBootId) (h : List (CoordinatorEvent F)) : Prop :=
  (coordinator F).Happened (Fences id boot) h ∨
    ∃ pre e post boot', h = pre ++ e :: post ∧ boot' ≠ boot ∧
      Registers id boot' ((coordinator F).after pre) e ∧
      (coordinator F).Happened (Registers id boot) pre

/-- A retired identity is never registered again, and what replaces a dead registration is an
identity that was never used. -/
structure NeverReturns (h : List (CoordinatorEvent F)) : Prop where
  retired : ∀ pre e post id boot, h = pre ++ e :: post → Retired id boot pre →
    ¬ Registers id boot ((coordinator F).after pre) e
  fresh : ∀ pre e post id boot a, h = pre ++ e :: post →
    ((coordinator F).after pre).current id = some a → a.alive = false →
    Registers id boot ((coordinator F).after pre) e →
    ¬ (coordinator F).Happened (Registers id boot) pre

/-- Every attempt to register a retired identity meets a live registration with another. -/
def MeetsLive (h : List (CoordinatorEvent F)) : Prop :=
  ∀ pre conn id boot post, h = pre ++ .register conn id boot :: post → Retired id boot pre →
    ((coordinator F).after pre).contexts.find? conn = none →
    ∃ a, ((coordinator F).after pre).current id = some a ∧ a.alive = true ∧ a.boot ≠ boot

/-- A registration is accepted on a new connection, unless a live registration with another
identity stands against it. -/
theorem registers_iff : Registers id boot c e ↔ ∃ conn, e = .register conn id boot ∧
    c.contexts.find? conn = none ∧ ¬ ∃ a, c.current id = some a ∧ a.alive = true ∧ a.boot ≠ boot := by
  refine exists_congr fun conn => and_congr_right fun he => ?_
  subst he
  by_cases hknown : c.contexts.contains conn = true
  · obtain ⟨ctx, hctx⟩ := OrdMap.contains_iff.mp hknown
    simp [step, hknown, hctx]
  · have hnew : c.contexts.find? conn = none :=
      OrdMap.contains_eq_false_iff.mp (by simpa using hknown)
    simp only [step, if_neg hknown, hnew, true_and, register]
    cases hcur : c.current id with
    | none => simp
    | some a =>
      by_cases halive : a.alive = true
      · by_cases hboot : a.boot = boot
        · simp [halive, hboot]
        · simp [halive, hboot]
      · simp [halive]

theorem Retired.mono {h : List (CoordinatorEvent F)} (hr : Retired id boot h)
    (e : CoordinatorEvent F) : Retired id boot (h ++ [e]) := by
  rcases hr with hf | ⟨pre, e', post, boot', rfl, hne, hreg, hused⟩
  · exact .inl (Machine.happened_snoc.mpr (.inl hf))
  · exact .inr ⟨pre, e', post ++ [e], boot', by simp, hne, hreg, hused⟩

/-- What the map says about the past of an agent: a dead registration is retired, and an
identity that was used is the current one or retired. -/
structure Remembered (h : List (CoordinatorEvent F)) : Prop where
  dead : ∀ id a, ((coordinator F).after h).current id = some a → a.alive = false →
    Retired id a.boot h
  used : ∀ id boot, (coordinator F).Happened (Registers id boot) h →
    ∃ a, ((coordinator F).after h).current id = some a ∧ (a.boot = boot ∨ Retired id boot h)

/-- An event that changes no liveness and registers nothing keeps what is remembered. -/
theorem Remembered.keep {h : List (CoordinatorEvent F)} {e : CoordinatorEvent F}
    (hr : Remembered h) (hreg : ∀ id boot, ¬ Registers id boot ((coordinator F).after h) e)
    (hcur : ∀ id a', ((coordinator F).after (h ++ [e])).current id = some a' →
      ∃ a, ((coordinator F).after h).current id = some a ∧ a'.boot = a.boot ∧ a'.alive = a.alive)
    (hback : ∀ id a, ((coordinator F).after h).current id = some a →
      ∃ a', ((coordinator F).after (h ++ [e])).current id = some a') : Remembered (h ++ [e]) := by
  constructor
  · intro id a' ha' hdead
    obtain ⟨a, ha, hboot, halive⟩ := hcur id a' ha'
    rw [hboot]
    exact (hr.dead id a ha (halive.symm.trans hdead)).mono e
  · intro id boot hused
    rcases Machine.happened_snoc.mp hused with hused | hnow
    · obtain ⟨a, ha, hcase⟩ := hr.used id boot hused
      obtain ⟨a', ha'⟩ := hback id a ha
      obtain ⟨b, hb, hboot, -⟩ := hcur id a' ha'
      obtain rfl := Option.some.inj (ha.symm.trans hb)
      exact ⟨a', ha', hcase.imp hboot.trans fun h => h.mono e⟩
    · exact absurd hnow (hreg id boot)

theorem not_registers_of_quiet (h : (c.step e).1.IsQuiet) : ¬ Registers id boot c e := by
  rintro ⟨conn, -, hreply⟩
  rw [hreply] at h
  exact h

theorem remembered_registered {h : List (CoordinatorEvent F)} (hr : Remembered h)
    {conn : ConnId} (he : e = .register conn id boot)
    (hreg : Registers id boot ((coordinator F).after h) e)
    (hcur : ∀ id', ((coordinator F).after (h ++ [e])).current id' =
      if id' = id then some { id, boot, registered := true, alive := true }
      else ((coordinator F).after h).current id') : Remembered (h ++ [e]) := by
  constructor
  · intro id' a ha hdead
    rw [hcur] at ha
    split_ifs at ha with hid
    · obtain rfl := Option.some.inj ha
      cases hdead
    · exact (hr.dead id' a ha hdead).mono e
  · intro id' boot' hused
    by_cases hid : id' = id
    · subst hid
      refine ⟨_, (hcur id').trans (if_pos rfl), ?_⟩
      by_cases hboot : boot = boot'
      · exact .inl hboot
      · refine .inr (.inr ⟨h, e, [], boot, rfl, hboot, hreg, ?_⟩)
        refine (Machine.happened_snoc.mp hused).resolve_right ?_
        rintro ⟨conn', he', -⟩
        rw [he] at he'
        injection he' with _ _ hsame
        exact hboot hsame
    · have hbefore : (coordinator F).Happened (Registers id' boot') h := by
        refine (Machine.happened_snoc.mp hused).resolve_right ?_
        rintro ⟨conn', he', -⟩
        rw [he] at he'
        injection he' with _ hsame _
        exact hid hsame.symm
      obtain ⟨a, ha, hcase⟩ := hr.used id' boot' hbefore
      exact ⟨a, (hcur id').trans ((if_neg hid).trans ha), hcase.imp_right fun h => h.mono e⟩

theorem remembered_fenced {h : List (CoordinatorEvent F)} (hr : Remembered h) {a : AgentConn}
    (hreg : ∀ id boot, ¬ Registers id boot ((coordinator F).after h) e)
    (hfence : Fences id a.boot ((coordinator F).after h) e)
    (ha : ((coordinator F).after h).current id = some a)
    (hcur : ∀ id', ((coordinator F).after (h ++ [e])).current id' =
      if id' = id then some { a with alive := false }
      else ((coordinator F).after h).current id') : Remembered (h ++ [e]) := by
  constructor
  · intro id' a' ha' hdead
    rw [hcur] at ha'
    split_ifs at ha' with hid
    · obtain rfl := Option.some.inj ha'
      rw [hid]
      exact .inl (Machine.happened_snoc.mpr (.inr hfence))
    · exact (hr.dead id' a' ha' hdead).mono e
  · intro id' boot hused
    have hbefore := (Machine.happened_snoc.mp hused).resolve_right (hreg id' boot)
    obtain ⟨b, hb, hcase⟩ := hr.used id' boot hbefore
    by_cases hid : id' = id
    · subst hid
      obtain rfl := Option.some.inj (ha.symm.trans hb)
      exact ⟨_, (hcur id').trans (if_pos rfl), hcase.imp_right fun h => h.mono e⟩
    · exact ⟨b, (hcur id').trans ((if_neg hid).trans hb), hcase.imp_right fun h => h.mono e⟩

theorem remembered_after (h : List (CoordinatorEvent F)) : Remembered h := by
  induction h using List.reverseRecOn with
  | nil =>
    refine ⟨fun _ _ ha => ?_, fun _ _ hused => absurd hused Machine.not_happened_nil⟩
    cases ha
  | append_singleton h e ih =>
    have hnext : (coordinator F).after (h ++ [e]) = (((coordinator F).after h).step e).2 :=
      Machine.after_snoc _ h e
    have same : ((((coordinator F).after h).step e).1.IsQuiet) →
        (∀ id, (((coordinator F).after h).step e).2.current id =
          ((coordinator F).after h).current id) → Remembered (h ++ [e]) := by
      intro hquiet hcur
      refine ih.keep (fun _ _ => not_registers_of_quiet hquiet) (fun id a' ha' => ?_)
        fun id a ha => ⟨a, ?_⟩
      · rw [hnext, hcur] at ha'
        exact ⟨a', ha', rfl, rfl⟩
      · rw [hnext, hcur, ha]
    cases agent_effect (wellFormed_after h) e with
    | quiet hreply hkept _ =>
      exact same hreply (current_eq_of_same hkept.agents hkept.contexts)
    | registered conn id boot he hreply hnew _ hagents hcontexts _ _ =>
      refine remembered_registered ih he ⟨conn, he, hreply⟩ fun id' => ?_
      rw [hnext, current_of_registration (wellFormed_after h) hnew hagents hcontexts]
    | accepted conn ctx epochVal snap he hserves _ hreply hagents hcontexts _ _ =>
      have hcur := current_of_context hagents hcontexts
      refine ih.keep (fun id boot hreg => ?_) (fun id a' ha' => ?_) fun id a ha => ?_
      · obtain ⟨conn', he', -⟩ := hreg
        cases he.symm.trans he'
      · rw [hnext, hcur] at ha'
        split_ifs at ha' with hentry
        · obtain rfl := Option.some.inj ha'
          exact ⟨ctx, by rw [current, hentry, Option.bind_some, hserves.context], rfl, rfl⟩
        · exact ⟨a', ha', rfl, rfl⟩
      · rw [hnext, hcur]
        split_ifs
        · exact ⟨_, rfl⟩
        · exact ⟨a, ha⟩
    | fenced conn ctx cur a he hserves hreply hcur ha halive hagents hcontexts _ _ =>
      have hcurrent : ((coordinator F).after h).current ctx.id = some a := by
        rw [current, hcur, Option.bind_some, ha]
      refine remembered_fenced ih (fun id boot hreg => ?_)
        ⟨conn, ctx, a, he, hserves, rfl, hcurrent, halive, rfl⟩ hcurrent fun id' => ?_
      · obtain ⟨conn', he', -⟩ := hreg
        cases he.symm.trans he'
      · rw [hnext, current_of_fence (wellFormed_after h) hcur hagents hcontexts]
    | closed conn ctx he _ hreply _ hagents hcontexts _ _ =>
      exact same (hreply ▸ trivial) (current_eq_of_same hagents hcontexts)

/-- A fenced boot identity never comes back, exactly when every attempt to register it again
meets a live registration with another identity. -/
theorem never_returns_iff (h : List (CoordinatorEvent F)) : NeverReturns h ↔ MeetsLive h := by
  constructor
  · intro hnever pre conn id boot post hh hret hnew
    by_contra hlive
    exact hnever.retired pre _ post id boot hh hret (registers_iff.mpr ⟨conn, rfl, hnew, hlive⟩)
  · intro hmeets
    have hretired : ∀ pre e post id boot, h = pre ++ e :: post → Retired id boot pre →
        ¬ Registers id boot ((coordinator F).after pre) e := by
      intro pre e post id boot hh hret hreg
      obtain ⟨conn, rfl, hnew, hlive⟩ := registers_iff.mp hreg
      exact hlive (hmeets pre conn id boot post hh hret hnew)
    refine ⟨hretired, fun pre e post id boot a hh ha hdead hreg hused => ?_⟩
    -- An identity that was used is that of the dead registration or retired: both are retired.
    obtain ⟨b, hb, hcase⟩ := (remembered_after pre).used id boot hused
    obtain rfl := Option.some.inj (ha.symm.trans hb)
    rcases hcase with rfl | hret
    · exact hretired pre e post id _ hh ((remembered_after pre).dead id a ha hdead) hreg
    · exact hretired pre e post id boot hh hret hreg

/-- The connection of an agent is lost, and the agent registers under the fenced identity. -/
theorem never_returns_fails : ¬ NeverReturns (F := Binary64)
    [.register 0 ⟨1⟩ ⟨100⟩, .lost 0, .register 1 ⟨1⟩ ⟨100⟩] := by
  intro hnever
  refine hnever.retired [.register 0 ⟨1⟩ ⟨100⟩, .lost 0] (.register 1 ⟨1⟩ ⟨100⟩) [] ⟨1⟩ ⟨100⟩ rfl
    (.inl ⟨[.register 0 ⟨1⟩ ⟨100⟩], .lost 0, [], rfl, 0, _, _, rfl, ⟨rfl, rfl⟩, rfl, rfl, rfl,
      rfl⟩) ?_
  exact ⟨1, rfl, rfl⟩

end Coordinator

end Fabric
