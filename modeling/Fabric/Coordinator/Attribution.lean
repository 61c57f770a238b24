import Fabric.Coordinator.Placement
import Fabric.Engine.Holdings

/-!
# What is admitted on an agent

All agents share one table of reservations, and its total is replaced by that of the chosen agent
on every request, so nothing bounds the table as a whole. A history attributes a reservation to
the agent that was chosen when it was admitted (`reservationsOn`). What the reservations of one
agent hold stays inside the total that the agent reports, as long as nothing is admitted on a
connection of it that has not reported (`within_total_of_reported`): an admission on the agent
bounds the whole table by its total, and between admissions on the agent what is attributed to
it only shrinks.
-/

namespace Fabric

open Support

variable {F : Type} [Double F]

namespace Coordinator

/-- The reservation that an event admits on agent `id`. -/
def admittedOn (id : AgentId) (c : Coordinator F) : CoordinatorEvent F → Option ReservationId
  | .client now (.evaluate d) =>
    let dec := ((c.engine.setSnapshot (c.snapshotFor now d)).evaluate now d).1
    if (c.chosen d).map AgentConn.id = some id ∧ dec.outcome = .admitted then dec.reservationId
    else none
  | _ => none

/-- The reservations that a history admitted while the snapshot of agent `id` was chosen. -/
def reservationsOn (id : AgentId) (h : List (CoordinatorEvent F)) : List ReservationId :=
  (coordinator F).log (admittedOn id) (coordinator F).init h

/-- The demand of those that are reserved or committed. -/
def demandOn (id : AgentId) (h : List (CoordinatorEvent F)) : ResourceId → ℕ :=
  heldBy (· ∈ reservationsOn id h) ((coordinator F).after h).engine.table

/-- What is held on agent `id` is inside `total`, in the dimensions that `total` governs. -/
def WithinTotal (id : AgentId) (total : ResourceVector) (h : List (CoordinatorEvent F)) : Prop :=
  ∀ i, total.get i ≠ 0 → demandOn id h i ≤ (total.get i).toNat

/-- Only policies without overcommit and overrides are installed. -/
def PlainPolicies (h : List (CoordinatorEvent F)) : Prop :=
  ∀ now p, .host now (.installPolicy p) ∈ h → p.Plain

/-- Every snapshot accepted from agent `id` reports `total`. -/
def SteadyTotal (id : AgentId) (total : ResourceVector) (h : List (CoordinatorEvent F)) : Prop :=
  ∀ pre e post conn snap, h = pre ++ e :: post → AcceptsOn conn snap ((coordinator F).after pre) e →
    snap.agentId = id → snap.total = total

/-- No request that passes all checks is placed on a connection of agent `id` that has not had an
update accepted. -/
def PlacedOnReports (id : AgentId) (h : List (CoordinatorEvent F)) : Prop :=
  ∀ pre now d post conn ctx, h = pre ++ .client now (.evaluate d) :: post →
    ((coordinator F).after pre).chooseSnapshot d = some conn →
    ((coordinator F).after pre).contexts.find? conn = some ctx → ctx.id = id →
    (((coordinator F).after pre).engine.setSnapshot ctx.snapshot).Admissible now d →
    Reported conn pre

variable {c : Coordinator F} {e : CoordinatorEvent F} {h : List (CoordinatorEvent F)}
  {id : AgentId} {total : ResourceVector} {rid : ReservationId} {conn : ConnId} {ctx : AgentConn}

/-! ## Prefixes -/

theorem PlainPolicies.initial {post : List (CoordinatorEvent F)} (hp : PlainPolicies (h ++ post)) :
    PlainPolicies h := fun now p hmem => hp now p (List.mem_append_left _ hmem)

theorem SteadyTotal.initial {post : List (CoordinatorEvent F)}
    (ht : SteadyTotal id total (h ++ post)) : SteadyTotal id total h :=
  fun pre e mid conn snap hh => ht pre e (mid ++ post) conn snap (by simp [hh])

theorem PlacedOnReports.initial {post : List (CoordinatorEvent F)}
    (hp : PlacedOnReports id (h ++ post)) : PlacedOnReports id h :=
  fun pre now d mid conn ctx hh => hp pre now d (mid ++ post) conn ctx (by simp [hh])

/-! ## The engine of a run -/

/-- The policies of the engine stay plain. -/
theorem plain_after (hp : PlainPolicies h) : ((coordinator F).after h).engine.policy.Plain := by
  induction h using List.reverseRecOn with
  | nil => exact fun g p hg => by cases hg
  | append_singleton h e ih =>
    rw [Machine.after_snoc]
    show (((coordinator F).after h).step e).2.engine.policy.Plain
    rw [engine_step]
    refine Machine.run_keeps (M := Fabric.engine F) (P := fun f => f.policy.Plain)
      (fun f call hcall hf => ?_) (ih hp.initial)
    refine AdmissionFabric.plain_call hf fun p hop => ?_
    -- Only the host installs policies.
    cases e with
    | host now op =>
      obtain rfl : call = ⟨now, op.toEngine⟩ := by simpa [engineCalls] using hcall
      cases op with
      | installPolicy q =>
        obtain rfl : q = p := by simpa [HostOp.toEngine] using hop
        exact hp now q (by simp)
      | _ => cases hop
    | client now msg =>
      cases msg with
      | evaluate d =>
        have hcases : call = ⟨now, .setSnapshot (((coordinator F).after h).snapshotFor now d)⟩ ∨
            call = ⟨now, .evaluate d⟩ := by simpa [engineCalls] using hcall
        rcases hcases with rfl | rfl
        · cases hop
        · cases hop
      | commit x g =>
        obtain rfl : call = ⟨now, .commit x g⟩ := by simpa [engineCalls] using hcall
        cases hop
      | release x =>
        obtain rfl : call = ⟨now, .release x⟩ := by simpa [engineCalls] using hcall
        cases hop
      | observe o =>
        obtain rfl : call = ⟨now, .observe o⟩ := by simpa [engineCalls] using hcall
        cases hop
      | _ => simp [engineCalls] at hcall
    | _ => simp [engineCalls] at hcall

/-- A context keeps its agent through the rest of a history. -/
theorem context_id_kept {pre : List (CoordinatorEvent F)}
    (hctx : ((coordinator F).after pre).contexts.find? conn = some ctx)
    (mid : List (CoordinatorEvent F)) :
    ∃ ctx', ((coordinator F).after (pre ++ mid)).contexts.find? conn = some ctx' ∧
      ctx'.id = ctx.id := by
  refine Machine.persists (M := coordinator F) (I := WellFormed)
    (P := fun c => ∃ ctx', c.contexts.find? conn = some ctx' ∧ ctx'.id = ctx.id) wellFormed_after
    ?_ ⟨ctx, hctx, rfl⟩ mid
  rintro c e hc ⟨ctx', hctx', hid⟩
  obtain ⟨a, ha, haid, -⟩ := context_kept hc e hctx'
  exact ⟨a, ha, haid.trans hid⟩

/-- A connection of the agent that has reported holds a snapshot with its total. -/
theorem total_of_reported (ht : SteadyTotal id total h) (hr : Reported conn h)
    (hctx : ((coordinator F).after h).contexts.find? conn = some ctx) (hid : ctx.id = id) :
    ctx.snapshot.total = total := by
  obtain ⟨a, ha, pre, e, post, rfl, haccepts⟩ := accepted_of_reported hr
  obtain rfl := Option.some.inj (hctx.symm.trans ha)
  obtain ⟨ctx₀, hserves, hagent, -⟩ := accept_effect haccepts
  obtain ⟨ctx', hctx', hid'⟩ := context_id_kept hserves.context (e :: post)
  obtain rfl := Option.some.inj (hctx.symm.trans hctx')
  exact ht pre e post conn _ rfl haccepts (hagent.trans (hid'.symm.trans hid))

/-! ## Admissions on an agent -/

/-- What an event that is attributed to an agent is. -/
theorem admittedOn_eq_some (hadm : admittedOn id c e = some rid) :
    ∃ now d conn ctx, e = .client now (.evaluate d) ∧ c.chooseSnapshot d = some conn ∧
      c.contexts.find? conn = some ctx ∧ ctx.id = id ∧
      (c.engine.setSnapshot ctx.snapshot).Admissible now d ∧
      ((c.engine.setSnapshot ctx.snapshot).evaluate now d).1.reservationId = some rid := by
  unfold admittedOn at hadm
  split at hadm
  · rename_i now d
    simp only at hadm
    split_ifs at hadm with hcond
    obtain ⟨hchosen, hout⟩ := hcond
    obtain ⟨conn, ctx, hchoice, hctx, hadmissible⟩ := admits_client_iff.mp hout
    rw [chosen, hchoice, Option.bind_some, hctx] at hchosen
    rw [snapshotFor_of_chosen hchoice hctx] at hadm
    exact ⟨now, d, conn, ctx, rfl, hchoice, hctx, Option.some.inj hchosen, hadmissible, hadm⟩
  · cases hadm

theorem reservationsOn_snoc (id : AgentId) (h : List (CoordinatorEvent F))
    (e : CoordinatorEvent F) : reservationsOn id (h ++ [e]) =
      reservationsOn id h ++ (admittedOn id ((coordinator F).after h) e).toList :=
  Machine.log_snoc

/-- The reservation of an admission is in the table afterwards. -/
theorem entry_of_admission {f : AdmissionFabric F} {now : TimePoint} {d : AdmissionDescriptor F}
    (hadm : f.Admissible now d) (hrid : (f.evaluate now d).1.reservationId = some rid) :
    ∃ r, (f.evaluate now d).2.table.find? rid = some r := by
  obtain ⟨a⟩ := hadm
  obtain ⟨dec, metrics, -, hdec, -, heq⟩ := AdmissionFabric.evaluate_of_admission a
  rw [heq] at hrid ⊢
  obtain rfl := Option.some.inj (hdec.symm.trans hrid)
  exact ⟨_, OrdMap.find?_insert_self _ _ _⟩

theorem known_after (id : AgentId) (h : List (CoordinatorEvent F)) :
    ∀ rid ∈ reservationsOn id h, ∃ r, ((coordinator F).after h).engine.table.find? rid = some r := by
  induction h using List.reverseRecOn with
  | nil => exact fun rid hrid => by simp [reservationsOn, Machine.log] at hrid
  | append_singleton h e ih =>
    intro rid hrid
    rw [Machine.after_snoc]
    show ∃ r, (((coordinator F).after h).step e).2.engine.table.find? rid = some r
    rw [reservationsOn_snoc, List.mem_append, Option.mem_toList] at hrid
    rcases hrid with hold | hnew
    · rw [engine_step]
      exact (AdmissionFabric.heldBy_run_le (accounting_engine h) ih _).1 rid hold
    · obtain ⟨now, d, conn, ctx, rfl, hchoice, hctx, -, hadm, hid⟩ := admittedOn_eq_some hnew
      rw [step_evaluate, snapshotFor_of_chosen hchoice hctx]
      exact entry_of_admission hadm hid

/-- One more event: an admission on the agent leaves the whole table inside its total, and any
other event adds nothing to what is attributed to it. -/
theorem within_snoc (hp : PlainPolicies h) (hwithin : WithinTotal id total h)
    (hplaced : ∀ now d conn ctx, e = .client now (.evaluate d) →
      ((coordinator F).after h).chooseSnapshot d = some conn →
      ((coordinator F).after h).contexts.find? conn = some ctx → ctx.id = id →
      (((coordinator F).after h).engine.setSnapshot ctx.snapshot).Admissible now d →
      ctx.snapshot.total = total) : WithinTotal id total (h ++ [e]) := by
  intro i hi
  have hacc : ((coordinator F).after (h ++ [e])).engine.reservations.Accounting :=
    accounting_engine (h ++ [e])
  cases hnote : admittedOn id ((coordinator F).after h) e with
  | none =>
    have hsame : reservationsOn id (h ++ [e]) = reservationsOn id h := by
      rw [reservationsOn_snoc, hnote]
      simp
    have hle := (AdmissionFabric.heldBy_run_le (p := (· ∈ reservationsOn id h))
      (accounting_engine h) (known_after id h) (((coordinator F).after h).engineCalls e)).2
    rw [← engine_step] at hle
    calc demandOn id (h ++ [e]) i
        = heldBy (· ∈ reservationsOn id h) (((coordinator F).after h).step e).2.engine.table i := by
          rw [demandOn, Machine.after_snoc]
          simp only [hsame]
          rfl
      _ ≤ demandOn id h i := hle i
      _ ≤ (total.get i).toNat := hwithin i hi
  | some rid =>
    obtain ⟨now, d, conn, ctx, rfl, hchoice, hctx, hid, hadm, -⟩ := admittedOn_eq_some hnote
    have htotal := hplaced now d conn ctx rfl hchoice hctx hid hadm
    obtain ⟨a⟩ := hadm
    generalize hf : ((coordinator F).after h).engine.setSnapshot ctx.snapshot = f at a
    have hplain : f.policy.Plain := hf ▸ plain_after hp
    have hset : f.reservations.total = total := hf ▸ htotal
    have hnext : ((coordinator F).after (h ++ [.client now (.evaluate d)])).engine =
        (f.evaluate now d).2 := by
      rw [Machine.after_snoc]
      show (((coordinator F).after h).step _).2.engine = _
      rw [step_evaluate, snapshotFor_of_chosen hchoice hctx, hf]
    rw [hnext] at hacc
    calc demandOn id (h ++ [.client now (.evaluate d)]) i
        ≤ (f.evaluate now d).2.reservations.held i := by
          rw [demandOn, hnext]
          exact heldBy_le_held hacc i
      _ ≤ (f.reservations.total.get i).toNat :=
          AdmissionFabric.held_of_admission hplain a (by rwa [hset])
      _ = (total.get i).toNat := by rw [hset]

/-- What is held on an agent stays inside the total that it reports, in every state of a run in
which nothing is admitted on a connection of it that has not reported. -/
theorem within_total_of_reported (id : AgentId) (total : ResourceVector)
    (h : List (CoordinatorEvent F)) (hpolicies : PlainPolicies h) (hsteady : SteadyTotal id total h)
    (hplaced : PlacedOnReports id h) (pre post : List (CoordinatorEvent F)) (hh : h = pre ++ post) :
    WithinTotal id total pre := by
  subst hh
  replace hpolicies := hpolicies.initial
  replace hsteady := hsteady.initial
  replace hplaced := hplaced.initial
  clear post
  induction pre using List.reverseRecOn with
  | nil =>
    intro i _
    exact Nat.zero_le _
  | append_singleton h e ih =>
    refine within_snoc hpolicies.initial (ih hpolicies.initial hsteady.initial hplaced.initial) ?_
    rintro now d conn ctx rfl hchoice hctx hid hadm
    have hreported := hplaced h now d [] conn ctx rfl hchoice hctx hid hadm
    exact total_of_reported hsteady.initial hreported hctx hid

/-- One request is admitted on an agent that has reported. -/
theorem within_total_of_reported_served :
    demandOn ⟨1⟩ (Sample.served ++ [.client 0 (.evaluate (Sample.descriptor 1))])
      .acceleratorMemory ≤ 2000000000 := by
  refine within_total_of_reported ⟨1⟩ (Sample.report 1 2000000000).total
    (Sample.served ++ [.client 0 (.evaluate (Sample.descriptor 1))]) ?_ ?_ ?_ _ [] rfl
    .acceleratorMemory (by decide)
  · intro now p hmem
    obtain ⟨-, rfl⟩ : now = 0 ∧ p = Sample.policy := by simpa [Sample.served] using hmem
    exact ⟨rfl, rfl⟩
  · rintro pre e post conn snap hh ⟨⟨epochVal, rfl⟩, -⟩ -
    have hmem : CoordinatorEvent.agent conn (.capacityUpdate epochVal snap) ∈
        Sample.served ++ [.client 0 (.evaluate (Sample.descriptor 1))] := by
      rw [hh]
      simp
    obtain ⟨-, -, rfl⟩ : conn = 0 ∧ epochVal = 1 ∧ snap = Sample.report 1 2000000000 := by
      simpa [Sample.served] using hmem
    rfl
  · intro pre now d post conn ctx hh hchoice _ _ _
    obtain ⟨rfl, rfl, rfl⟩ : pre = Sample.served ∧ now = 0 ∧ d = Sample.descriptor 1 := by
      rcases pre with _ | ⟨e₁, _ | ⟨e₂, _ | ⟨e₃, pre⟩⟩⟩
      · simp [Sample.served] at hh
      · simp [Sample.served] at hh
      · simp [Sample.served] at hh
      · rcases pre with _ | ⟨e₄, pre⟩
        · simp [Sample.served] at hh ⊢
          tauto
        · simp [Sample.served] at hh
    obtain rfl : 0 = conn := Option.some.inj (Eq.trans (by decide +kernel) hchoice)
    exact ⟨[.host 0 (.installPolicy Sample.policy), .register 0 ⟨1⟩ ⟨100⟩], _, [], rfl, _,
      ⟨1, rfl⟩, rfl⟩

/-- A request is admitted on an agent that has registered, and then the agent reports. -/
def Sample.early : List (CoordinatorEvent Binary64) :=
  [.host 0 (.installPolicy { Sample.policy with acceptStaleSnapshot := true }),
    .register 0 ⟨1⟩ ⟨100⟩, .client 1700000000000000000 (.evaluate (Sample.descriptor 1)),
    .agent 0 (.capacityUpdate 1 (Sample.report 1 1000))]

/-- What was admitted on an agent before it reported is more than the total that it reports. -/
theorem within_total_fails : PlainPolicies Sample.early ∧
    SteadyTotal ⟨1⟩ (Sample.report 1 1000).total Sample.early ∧
      ¬ WithinTotal ⟨1⟩ (Sample.report 1 1000).total Sample.early := by
  refine ⟨?_, ?_, ?_⟩
  · intro now p hmem
    obtain ⟨-, rfl⟩ : now = 0 ∧ p = { Sample.policy with acceptStaleSnapshot := true } := by
      simpa [Sample.early] using hmem
    exact ⟨rfl, rfl⟩
  · rintro pre e post conn snap hh ⟨⟨epochVal, rfl⟩, -⟩ -
    have hmem : CoordinatorEvent.agent conn (.capacityUpdate epochVal snap) ∈ Sample.early := by
      rw [hh]
      simp
    obtain ⟨-, -, rfl⟩ : conn = 0 ∧ epochVal = 1 ∧ snap = Sample.report 1 1000 := by
      simpa [Sample.early] using hmem
    rfl
  · intro hwithin
    have hle := hwithin .acceleratorMemory (by decide)
    revert hle
    decide +kernel

end Coordinator

end Fabric
