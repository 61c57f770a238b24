import Fabric.Support.Exact

/-!
# Reading first and applying afterwards

A loader changes its state between its reads. `Replays P g m d step` says that this makes no
difference to its successes: on a state with the change `g` pending, `m` succeeds exactly when the
decoder `d` reads a value that `step` can apply to the state, and ends with what `step` returns.
Every error of `m` meets `P`.

The rules take a loader apart in the order in which it is written. A change that cannot fail is
pending until the value it belongs to has been read to the end.
-/

namespace Fabric.Support

open Support.ByteReader

variable {σ E α β γ κ : Type} {P : E → Prop}

/-! ## Errors of decoders -/

/-- The errors of `m` meet `P`. -/
class Raises (P : E → Prop) (m : Decoder E α) : Prop where
  error : ∀ {r r' : ByteReader} {e : E}, m r = .error e r' → P e

namespace Raises

variable {m : Decoder E α} {f : α → Decoder E β}

instance pure (a : α) : Raises P (Pure.pure a : Decoder E α) where
  error h := by cases h

theorem throw {e : E} (h : P e) : Raises P (MonadExcept.throw e : Decoder E α) where
  error heq := by
    cases heq
    exact h

instance bind [hm : Raises P m] [hf : ∀ a, Raises P (f a)] : Raises P (m >>= f) where
  error {r _ _} h := by
    change EStateM.bind m f r = _ at h
    rw [EStateM.bind] at h
    cases hrun : m r with
    | error e r₁ =>
      rw [hrun] at h
      cases h
      exact hm.error hrun
    | ok a r₁ =>
      rw [hrun] at h
      exact (hf a).error h

/-- One read of a long chain. -/
theorem step [Raises P m] (hf : ∀ a, Raises P (f a)) : Raises P (m >>= f) := bind

instance map (g : α → β) [hm : Raises P m] : Raises P (g <$> m) := by
  rw [map_eq_pure_bind]
  infer_instance

instance ite {c : Prop} [Decidable c] {m' : Decoder E α} [hm : Raises P m] [hm' : Raises P m'] :
    Raises P (if c then m else m') := by
  split_ifs
  · exact hm
  · exact hm'

theorem ensureOk {e : String → E} (h : ∀ text, P (e text)) : Raises P (ByteReader.ensureOk e) where
  error {r _ _} heq := by
    rw [ByteReader.ensureOk] at heq
    split_ifs at heq
    cases heq
    exact h _

instance get : Raises P (MonadState.get : Decoder E ByteReader) where
  error h := by cases h

instance markFailed (e : String) : Raises P (modify (·.fail e) : Decoder E Unit) where
  error h := by cases h

instance u8 : Raises P (ByteReader.u8 : Decoder E UInt8) where
  error h := by
    rw [ByteReader.u8] at h
    split at h <;> cases h

instance number (width : ℕ) : Raises P (ByteReader.number width : Decoder E ℕ) := by
  induction width with
  | zero => exact pure 0
  | succ width ih =>
    unfold ByteReader.number
    infer_instance

instance take (n : ℕ) : Raises P (ByteReader.take n : Decoder E (List UInt8)) where
  error {r _ _} h := by
    unfold ByteReader.take at h
    dsimp only at h
    split_ifs at h

instance times [Raises P m] (n : ℕ) : Raises P (ByteReader.times m n) := by
  induction n with
  | zero => exact pure []
  | succ n ih =>
    unfold ByteReader.times
    infer_instance

instance timesWhileOk [Raises P m] (n : ℕ) : Raises P (ByteReader.timesWhileOk m n) := by
  induction n with
  | zero => exact pure []
  | succ n ih =>
    unfold ByteReader.timesWhileOk
    infer_instance

instance table [DecidableEq κ] [Raises P m] (keys : List κ) (t : κ → α) :
    Raises P (ByteReader.table m keys t) := by
  induction keys generalizing t with
  | nil => exact pure t
  | cons k keys ih =>
    unfold ByteReader.table
    infer_instance

end Raises

/-! ## Loaders and decoders -/

/-- On a state with the change `g`, the loader `m` succeeds exactly when `d` reads a value that
`step` applies to the state without it; the errors of `m` meet `P`. -/
structure Replays (P : E → Prop) (g : σ → σ) (m : Loader σ E Unit) (d : Decoder E β)
    (step : β → σ → Option σ) : Prop where
  run_iff : ∀ {s s' : σ} {r r' : ByteReader}, r'.failed = false →
    (m (g s, r) = .ok () (s', r') ↔ ∃ b, d r = .ok b r' ∧ step b s = some s')
  error : ∀ {s : σ} {r : ByteReader} {e : E} {s' : σ × ByteReader},
    m (g s, r) = .error e s' → P e

/-- Two reads, one after the other. -/
def ByteReader.both (d₁ : Decoder E α) (d₂ : Decoder E β) : Decoder E (α × β) := do
  let a ← d₁
  let b ← d₂
  pure (a, b)

instance (d₁ : Decoder E α) (d₂ : Decoder E β) [Exact d₁] [Exact d₂] : Exact (both d₁ d₂) := by
  unfold both
  infer_instance

theorem ok_pure_iff {r r' : ByteReader} {b : β} {Q : β → Prop} :
    (∃ b', (pure b : Decoder E β) r = .ok b' r' ∧ Q b') ↔ r = r' ∧ Q b := by
  constructor
  · rintro ⟨_, hread, hQ⟩
    cases hread
    exact ⟨rfl, hQ⟩
  · rintro ⟨rfl, hQ⟩
    exact ⟨b, rfl, hQ⟩

namespace Replays

variable {g h : σ → σ} {m : Loader σ E Unit} {d : Decoder E β} {step : β → σ → Option σ} {b : β}

/-- All changes have been made when the value is complete. -/
theorem pure (hstep : ∀ s, step b s = some (g s)) :
    Replays P g (Pure.pure ()) (Pure.pure b : Decoder E β) step where
  run_iff {s s' r r'} _ := by
    rw [ok_pure_iff, hstep s]
    constructor
    · intro h
      cases h
      exact ⟨rfl, rfl⟩
    · rintro ⟨rfl, h⟩
      cases h
      rfl
  error h := by cases h

/-- A change that may fail, as the last thing. -/
theorem attempt {change : σ → Option E × σ}
    (hstep : ∀ s, step b s = match change (g s) with
      | (none, s') => some s'
      | (some _, _) => none)
    (herror : ∀ s e s', change s = (some e, s') → P e) :
    Replays P g (Loader.attempt change) (Pure.pure b : Decoder E β) step where
  run_iff {s s' r r'} _ := by
    rw [ok_pure_iff, hstep s, Loader.attempt]
    rcases hchange : change (g s) with ⟨_ | e, s₁⟩
    · simp [and_comm]
    · simp
  error {s r e s'} heq := by
    rw [Loader.attempt] at heq
    rcases hchange : change (g s) with ⟨_ | e', s₁⟩
    · simp only [hchange] at heq
      cases heq
    · simp only [hchange] at heq
      cases heq
      exact herror _ _ _ hchange

theorem throw {e : E} (he : P e) :
    Replays P g (MonadExcept.throw e : Loader σ E Unit) (MonadExcept.throw e : Decoder E β)
      step where
  run_iff _ := by
    constructor
    · intro h
      cases h
    · rintro ⟨_, h, -⟩
      cases h
  error h := by
    cases h
    exact he

/-- A read. -/
theorem decode {d₁ : Decoder E α} [Raises P d₁] {f : α → Loader σ E Unit} {k : α → Decoder E β}
    (hf : ∀ a, Replays P g (f a) (k a) step) :
    Replays P g (Loader.decode d₁ >>= f) (d₁ >>= k) step where
  run_iff {s s' r r'} hr := by
    show EStateM.bind _ _ _ = _ ↔ ∃ b, EStateM.bind _ _ _ = _ ∧ _
    unfold EStateM.bind Loader.decode
    cases hrun : d₁ r with
    | error e r₁ => simp
    | ok a r₁ => exact (hf a).run_iff hr
  error {s r e s'} heq := by
    change EStateM.bind _ _ _ = _ at heq
    unfold EStateM.bind Loader.decode at heq
    cases hrun : d₁ r with
    | error e' r₁ =>
      simp only [hrun] at heq
      cases heq
      exact Raises.error hrun
    | ok a r₁ =>
      simp only [hrun] at heq
      exact (hf a).error heq

/-- The read of a value that is applied at once. -/
theorem read [Raises P d] {f : β → Loader σ E Unit}
    (hf : ∀ b, Replays P g (f b) (Pure.pure b : Decoder E β) step) :
    Replays P g (Loader.decode d >>= f) d step := by
  have h : Replays P g (Loader.decode d >>= f) (d >>= Pure.pure) step := decode hf
  rwa [bind_pure] at h

/-- A change that cannot fail. -/
theorem update {f : Unit → Loader σ E Unit}
    (hf : Replays P (fun s => h (g s)) (f ()) d step) :
    Replays P g (Loader.update h >>= f) d step where
  run_iff hr := hf.run_iff hr
  error heq := hf.error heq

theorem update_last (hstep : ∀ s, step b s = some (h (g s))) :
    Replays P g (Loader.update h) (Pure.pure b : Decoder E β) step :=
  update (f := Pure.pure) (pure hstep)

/-- A read that returns nothing, as the last thing. -/
theorem decode_last {d : Decoder E Unit} [Raises P d] {step : Unit → σ → Option σ}
    (hstep : ∀ s, step () s = some (g s)) : Replays P g (Loader.decode d) d step := by
  have h : Replays P g (Loader.decode d >>= Pure.pure) d step := read fun _ => pure hstep
  rwa [bind_pure] at h

/-- A change that cannot fail, after a part that may. -/
theorem then_update {step' : β → σ → Option σ} (hm : Replays P g m (Pure.pure b) step)
    (hstep : ∀ s, step' b s = (step b s).map h) :
    Replays P g (m >>= fun _ => Loader.update h) (Pure.pure b : Decoder E β) step' where
  run_iff {s s' r r'} hr := by
    show EStateM.bind _ _ _ = _ ↔ _
    rw [ok_pure_iff, hstep, EStateM.bind, Option.map_eq_some_iff]
    constructor
    · intro hrun
      cases hfirst : m (g s, r) with
      | error e s₁ =>
        rw [hfirst] at hrun
        cases hrun
      | ok u s₁ =>
        rw [hfirst] at hrun
        cases hrun
        obtain ⟨hr', happly⟩ := ok_pure_iff.mp ((hm.run_iff hr).mp hfirst)
        exact ⟨hr', _, happly, rfl⟩
    · rintro ⟨hr', s₁, happly, rfl⟩
      rw [(hm.run_iff hr).mpr (ok_pure_iff.mpr ⟨hr', happly⟩)]
      rfl
  error {s r e s'} heq := by
    change EStateM.bind _ _ _ = _ at heq
    rw [EStateM.bind] at heq
    cases hfirst : m (g s, r) with
    | error e' s₁ =>
      rw [hfirst] at heq
      cases heq
      exact hm.error hfirst
    | ok u s₁ =>
      rw [hfirst] at heq
      cases heq

/-- A condition on what has been read. -/
theorem require {c : Prop} [Decidable c] {e : E} {f : Unit → Loader σ E Unit} (he : P e)
    (hf : Replays P g (f ()) d step) :
    Replays P g (Loader.require c e >>= f) (if c then d else MonadExcept.throw e) step := by
  rw [Loader.require]
  by_cases hc : c
  · rw [if_pos hc, if_pos hc]
    exact ⟨hf.run_iff, hf.error⟩
  · rw [if_neg hc, if_neg hc]
    exact throw he

/-- Two parts that are read and applied one after the other. -/
theorem seq {m₁ : Loader σ E Unit} {f : Unit → Loader σ E Unit} {d₁ : Decoder E α}
    {d₂ : Decoder E β} [Exact d₂] {step₁ : α → σ → Option σ} {step₂ : β → σ → Option σ}
    (h₁ : Replays P g m₁ d₁ step₁) (h₂ : Replays P id (f ()) d₂ step₂) :
    Replays P g (m₁ >>= f) (both d₁ d₂) fun p s => (step₁ p.1 s).bind (step₂ p.2) where
  run_iff {s s' r r'} hr := by
    have hboth : ∀ p, both d₁ d₂ r = .ok p r' ↔
        ∃ r₁, d₁ r = .ok p.1 r₁ ∧ d₂ r₁ = .ok p.2 r' := by
      rintro ⟨a, b⟩
      rw [both, run_bind_eq_ok_iff]
      constructor
      · rintro ⟨a', r₁, ha, hrest⟩
        obtain ⟨b', r₂, hb, hpure⟩ := run_bind_eq_ok_iff.mp hrest
        cases hpure
        exact ⟨r₁, ha, hb⟩
      · rintro ⟨r₁, ha, hb⟩
        exact ⟨a, r₁, ha, run_bind_eq_ok_iff.mpr ⟨b, r', hb, rfl⟩⟩
    show EStateM.bind m₁ f (g s, r) = _ ↔ _
    unfold EStateM.bind
    constructor
    · intro hrun
      cases hfirst : m₁ (g s, r) with
      | error e s₁ =>
        rw [hfirst] at hrun
        cases hrun
      | ok u s₁ =>
        obtain ⟨s₁, r₁⟩ := s₁
        rw [hfirst] at hrun
        obtain ⟨b, hb, hstep⟩ := (h₂.run_iff hr).mp hrun
        -- A reader that is good at the end was good in between.
        have hr₁ : r₁.failed = false := by
          cases hfailed : r₁.failed with
          | false => rfl
          | true =>
            rw [Exact.sticky hb hfailed] at hr
            cases hr
        obtain ⟨a, ha, hstep₁⟩ := (h₁.run_iff hr₁).mp hfirst
        exact ⟨(a, b), (hboth _).mpr ⟨r₁, ha, hb⟩, Option.bind_eq_some_iff.mpr ⟨s₁, hstep₁, hstep⟩⟩
    · rintro ⟨⟨a, b⟩, hread, happly⟩
      obtain ⟨r₁, ha, hb⟩ := (hboth _).mp hread
      obtain ⟨s₁, hstep₁, hstep⟩ := Option.bind_eq_some_iff.mp happly
      have hr₁ : r₁.failed = false := by
        cases hfailed : r₁.failed with
        | false => rfl
        | true =>
          rw [Exact.sticky hb hfailed] at hr
          cases hr
      rw [(h₁.run_iff hr₁).mpr ⟨a, ha, hstep₁⟩]
      exact (h₂.run_iff hr).mpr ⟨b, hb, hstep⟩
  error {s r e s'} heq := by
    change EStateM.bind m₁ f (g s, r) = _ at heq
    unfold EStateM.bind at heq
    cases hfirst : m₁ (g s, r) with
    | error e' s₁ =>
      rw [hfirst] at heq
      cases heq
      exact h₁.error hfirst
    | ok u s₁ =>
      rw [hfirst] at heq
      exact h₂.error heq

/-- Another representation of what was read. -/
theorem map {f : β → γ} {step' : γ → σ → Option σ} (hm : Replays P g m d step)
    (hstep : ∀ b s, step' (f b) s = step b s) : Replays P g m (f <$> d) step' where
  run_iff {s s' r r'} hr := by
    rw [hm.run_iff hr, map_eq_pure_bind]
    constructor
    · rintro ⟨b, hread, happly⟩
      exact ⟨f b, run_bind_eq_ok_iff.mpr ⟨b, r', hread, rfl⟩, (hstep b s).trans happly⟩
    · rintro ⟨c, hread, happly⟩
      obtain ⟨b, r₁, hb, hpure⟩ := run_bind_eq_ok_iff.mp hread
      cases hpure
      exact ⟨b, hb, (hstep b s).symm.trans happly⟩
  error heq := hm.error heq

/-- A change that was made before. -/
theorem pending (hm : Replays P id m d step) : Replays P g m d fun b s => step b (g s) :=
  ⟨hm.run_iff, hm.error⟩

/-- A loop, as a fold over what is read. -/
theorem times [Exact d] (hm : Replays P id m d step) (n : ℕ) :
    Replays P id (Loader.times m n) (ByteReader.times d n)
      fun bs s => bs.foldlM (fun s b => step b s) s := by
  induction n with
  | zero => exact pure fun s => rfl
  | succ n ih =>
    have hpairs : ByteReader.times d (n + 1) =
        (fun p : β × List β => p.1 :: p.2) <$> both d (ByteReader.times d n) := by
      simp only [ByteReader.times, both, map_bind, map_pure]
    rw [hpairs]
    exact (hm.seq (f := fun _ => Loader.times m n) ih).map fun p s => List.foldlM_cons ..

end Replays

/-! ## Applying a list -/

section Lists

variable {as : List α} {step : σ → α → Option σ}

/-- A fold that changes only a part of the state. -/
theorem foldlM_of_part {τ : Type} (put : τ → σ) {part : τ → α → Option τ}
    (h : ∀ t a, step (put t) a = (part t a).map put) (as : List α) (t : τ) :
    as.foldlM step (put t) = (as.foldlM part t).map put := by
  induction as generalizing t with
  | nil => rfl
  | cons a as ih =>
    rw [List.foldlM_cons, List.foldlM_cons, h]
    cases part t a with
    | none => rfl
    | some t' => exact ih t'

/-- Entries with keys are applied when each one is allowed, its key is free, and no two have the
same key. -/
theorem foldlM_isSome_iff {key : α → κ} {ok : α → Prop} (Free : σ → κ → Prop)
    (hstep : ∀ s a, (step s a).isSome = true ↔ ok a ∧ Free s (key a))
    (hfree : ∀ {s a s'}, step s a = some s' → ∀ k, Free s' k ↔ Free s k ∧ k ≠ key a) (s : σ) :
    (as.foldlM step s).isSome = true ↔
      (∀ a ∈ as, ok a ∧ Free s (key a)) ∧ (as.map key).Nodup := by
  induction as generalizing s with
  | nil => exact iff_of_true rfl ⟨nofun, List.nodup_nil⟩
  | cons a as ih =>
    rw [List.foldlM_cons, List.map_cons, List.nodup_cons, List.forall_mem_cons]
    cases ha : step s a with
    | none =>
      have hno : ¬ (ok a ∧ Free s (key a)) := by
        rw [← hstep, ha]
        exact Bool.false_ne_true
      exact iff_of_false Bool.false_ne_true fun h => hno h.1.1
    | some s' =>
      have hyes : ok a ∧ Free s (key a) := (hstep s a).mp (by rw [ha]; rfl)
      have hkey : ∀ b, Free s' (key b) ↔ Free s (key b) ∧ key b ≠ key a := fun b => hfree ha _
      refine (ih s').trans ?_
      simp only [hkey, List.mem_map, not_exists, not_and]
      constructor
      · rintro ⟨hall, hnodup⟩
        exact ⟨⟨hyes, fun b hb => ⟨(hall b hb).1, (hall b hb).2.1⟩⟩,
          fun b hb => (hall b hb).2.2, hnodup⟩
      · rintro ⟨⟨-, hall⟩, hne, hnodup⟩
        exact ⟨fun b hb => ⟨(hall b hb).1, (hall b hb).2, hne b hb⟩, hnodup⟩

end Lists

end Fabric.Support
