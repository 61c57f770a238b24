import Fabric.Agent.Model
import Fabric.Codec.Acceptance
import Fabric.Coordinator.Ledger
import Fabric.Coordinator.Replies
import Fabric.Coordinator.Transcript

/-!
# Reports at a site

A site refines its server, and so its coordinator (`site_refines`). What an agent makes of the
answer to a report is what the coordinator has done with it (`Server.report_turn`).
-/

namespace Fabric

open Support

variable {F : Type} [DoubleBits F]

/-! ## What an agent makes of an answer -/

namespace Frame

variable {f : Frame} {α : Type}

/-- What was encoded is read back. -/
theorem read_of_decodes {m : Decoder Status α} {bytes : ByteString} {a : α}
    (h : Decodes m bytes a) (hf : f.payload = bytes) : f.read m = some a := by
  subst hf
  simp only [read, h.run]

theorem decodes_errorParts {s : Status} (h : s.message.fits = true) :
    Decodes errorParts (encodeErrorResponse s.code s.message) s := by
  have hcode := (decodes_u32 (E := Status) s.code.toRaw).map ErrorCode.ofRaw
  rw [ErrorCode.ofRaw_toRaw] at hcode
  apply hcode.bind
  exact (decodes_string_of_fits h).last (Decodes.pure s)

/-- An agent reads the status of a refusal back. -/
theorem status_refuse (f : Frame) {s : Status} (h : s.Refusal) : (f.refuse s).status = s := by
  have hmessage := h.message
  have hfits : s.message.fits = true := decide_eq_true (Nat.le_trans hmessage (by decide))
  rw [status, read_of_decodes (decodes_errorParts hfits) rfl]
  rfl

end Frame

theorem onCapacityAnswer_refuse (f : Frame) {s : Status} (h : s.Refusal) :
    (Agent.onCapacityAnswer (f.refuse s)).isOk = false := by
  have hstatus : Agent.onCapacityAnswer (f.refuse s) = s := (if_pos rfl).trans (f.status_refuse h)
  rw [hstatus]
  exact decide_eq_false h.code

theorem onCapacityAnswer_answer (f : Frame) {t : WireType} (ht : t ≠ .errorResponse)
    (payload : ByteString) :
    (Agent.onCapacityAnswer (f.answer t payload)).isOk = true ↔ t = .capacityAccepted := by
  have herror : (f.answer t payload).type ≠ WireType.errorResponse.toRaw :=
    fun h => ht (WireType.toRaw_injective h)
  unfold Agent.onCapacityAnswer
  rw [if_neg herror]
  by_cases h : t = .capacityAccepted
  · have htype : ¬ (f.answer t payload).type ≠ WireType.capacityAccepted.toRaw :=
      not_not.mpr (congrArg WireType.toRaw h)
    rw [if_neg htype]
    exact iff_of_true rfl h
  · have htype : (f.answer t payload).type ≠ WireType.capacityAccepted.toRaw :=
      fun h' => h (WireType.toRaw_injective h')
    rw [if_pos htype]
    exact iff_of_false (by decide) h

/-- An agent takes exactly an acceptance for one. -/
theorem isOk_onCapacityAnswer_iff {c : Coordinator F} {e : CoordinatorEvent F} {f g : Frame}
    (h : f.encodeReply (c.step e).1 = some g) :
    (Agent.onCapacityAnswer g).isOk = true ↔ ∃ gen, (c.step e).1 = .capacityAccepted gen := by
  have hother : ∀ {t : WireType} {payload : ByteString}, f.answer t payload = g →
      t ≠ .errorResponse → t ≠ .capacityAccepted →
      ((Agent.onCapacityAnswer g).isOk = true ↔ False) := by
    rintro t payload rfl ht ht'
    exact (onCapacityAnswer_answer f ht payload).trans (iff_of_false ht' not_false)
  cases hreply : (c.step e).1 with
  | capacityAccepted gen =>
    rw [hreply] at h
    obtain rfl := Option.some.inj h
    exact iff_of_true ((onCapacityAnswer_answer f (by decide) _).mpr rfl) ⟨gen, rfl⟩
  | error s =>
    rw [hreply] at h
    obtain rfl := Option.some.inj h
    rw [onCapacityAnswer_refuse f (Coordinator.refusal_of_error hreply)]
    exact iff_of_false Bool.false_ne_true (fun h => by cases h.choose_spec)
  | code code =>
    rw [hreply] at h
    have hcode : f.codeType ≠ .errorResponse ∧ f.codeType ≠ .capacityAccepted := by
      unfold Frame.codeType
      split_ifs <;> decide
    rw [hother (Option.some.inj h) hcode.1 hcode.2]
    exact iff_of_false not_false fun h => by cases h.choose_spec
  | host r | silent =>
    rw [hreply] at h
    cases h
  | agentRegistered _ | heartbeat _ | decision _ | observationAck | shutdown =>
    rw [hreply] at h
    rw [hother (Option.some.inj h) (by decide) (by decide)]
    exact iff_of_false not_false fun h => by cases h.choose_spec

/-! ## A turn of the server -/

/-- The snapshot that a frame reports, if it can be read. -/
def Frame.carries (f : Frame) : List ResourceSnapshot :=
  match f.agentMessage with
  | .capacityUpdate _ snap => [snap]
  | _ => []

/-! ## What an agent sends -/

theorem settles_capacityUpdate (epochVal : UInt64) {snap : ResourceSnapshot}
    (h : snap.counted = true) :
    Settles decodeCapacityUpdate (encodeCapacityUpdate epochVal snap) (epochVal, snap)
      (snap.fits = true) :=
  Settles.after (decodes_u64 _) ((settles_snapshot h).last (Decodes.pure _))

/-- What is read of an encoding, if anything, is what was encoded. -/
theorem Frame.read_eq_of_settles {α : Type} {m : Decoder Status α} [Exact m] [hm : Checked m]
    {f : Frame} {a a' : α} {P : Prop} (h : Settles m f.payload a P) (hread : f.read m = some a') :
    a' = a := by
  unfold Frame.read at hread
  cases hrun : m ⟨f.payload, false, ""⟩ with
  | error e r =>
    rw [hrun] at hread
    cases hread
  | ok b r =>
    rw [hrun] at hread
    obtain rfl := Option.some.inj hread
    by_cases hP : P
    · rw [(h.decodes hP).run] at hrun
      cases hrun
      rfl
    · refine absurd ⟨b, r, ?_, hm.failed_eq_false hrun⟩ (h.fails hP [])
      rwa [List.append_nil]

theorem Frame.carries_of_message {f : Frame} {epochVal : UInt64} {snap : ResourceSnapshot}
    (h : f.agentMessage = .capacityUpdate epochVal snap) : f.carries = [snap] := by
  rw [carries, h]

namespace Agent

variable (a : Agent) {snap : ResourceSnapshot}

/-- The message that a report is, if it can be read, is the report under the agent's epoch. -/
theorem capacityFrame_message (h : (a.capacityFrame snap).sendable = true) :
    (a.capacityFrame snap).agentMessage = .capacityUpdate a.epoch.value snap ∨
      (a.capacityFrame snap).agentMessage = .badCapacityUpdate := by
  have hlength : (encodeCapacityUpdate a.epoch.value snap).length < 2 ^ 32 := of_decide_eq_true h
  rw [encodeCapacityUpdate, List.length_append, length_encodeSnapshot] at hlength
  have hsettles := settles_capacityUpdate a.epoch.value
    (ResourceSnapshot.counted_of_savedSize (by omega : snap.savedSize < 2 ^ 32))
  unfold Frame.agentMessage
  have htype : WireType.ofRaw? (a.capacityFrame snap).type = some .capacityUpdate :=
    WireType.ofRaw?_toRaw _
  simp only [htype]
  cases hread : (a.capacityFrame snap).read decodeCapacityUpdate with
  | none => exact .inr rfl
  | some update =>
    rw [Frame.read_eq_of_settles hsettles hread]
    exact .inl rfl

theorem carries_capacityFrame (h : (a.capacityFrame snap).sendable = true) :
    (a.capacityFrame snap).carries.Sublist [snap] := by
  unfold Frame.carries
  rcases a.capacityFrame_message h with hmessage | hmessage
  · rw [hmessage]
  · rw [hmessage]
    exact List.nil_sublist _

end Agent

namespace Server

/-- The snapshots that an event makes the coordinator take over on a connection. -/
def taken (conn : ConnId) (s : Server F) (e : ServerEvent F) : List ResourceSnapshot :=
  (Fabric.coordinator F).log (Coordinator.takes conn) s.coordinator (s.events e)

variable {s : Server F} {conn : ConnId}

/-- What is a message of an agent arrives on its connection. -/
theorem events_agent {e : ServerEvent F} {msg : AgentMessage}
    (h : CoordinatorEvent.agent conn msg ∈ s.events e) :
    ∃ now f, e = .frame conn now f ∧ msg = f.agentMessage := by
  cases e with
  | accept k => cases h
  | host now op => simp [events] at h
  | lost k =>
    simp only [events] at h
    split_ifs at h <;> simp at h
  | frame k now f =>
    simp only [events] at h
    split at h
    · split_ifs at h
      · cases hread : f.read decodeRegister <;> simp [hread] at h
      · simp at h
    · obtain ⟨rfl, rfl⟩ := CoordinatorEvent.agent.inj (List.mem_singleton.mp h)
      exact ⟨now, f, rfl, rfl⟩
    · simp at h
    · cases h

/-- What is taken over on a connection is what arrives there. -/
theorem takes_of_ne {c : Coordinator F} {m : CoordinatorEvent F}
    (h : ∀ msg, m ≠ .agent conn msg) : c.takes conn m = none := by
  unfold Coordinator.takes
  split
  · rename_i k _ _ _ _
    rw [if_neg]
    rintro rfl
    exact h _ rfl
  · rfl

/-- Only a frame on the connection makes the coordinator take something over on it. -/
theorem taken_of_not_frame {e : ServerEvent F} (h : ∀ now f, e ≠ .frame conn now f) :
    s.taken conn e = [] := by
  unfold taken
  rcases s.events_cases e with hevents | ⟨m, hevents⟩
  · rw [hevents]
    rfl
  · have htakes : s.coordinator.takes conn m = none := by
      refine takes_of_ne fun msg => ?_
      rintro rfl
      obtain ⟨now, f, he, -⟩ := events_agent (hevents ▸ List.mem_singleton_self _)
      exact h now f he
    simp only [hevents, Machine.log, htakes, Option.toList_none, List.append_nil]

/-- A frame is taken over and acknowledged, or neither; what is taken over is a report under the
current epoch. -/
theorem report_turn (hs : s.Linked) (conn : ConnId) (now : TimePoint) (f : Frame) :
    (s.taken conn (.frame conn now f) = [] ∧ ∀ g, (s.step (.frame conn now f)).1 = some g →
        (Agent.onCapacityAnswer g).isOk = false) ∨
      ∃ snap g, s.taken conn (.frame conn now f) = [snap] ∧
        f.agentMessage = .capacityUpdate s.coordinator.epoch.value snap ∧
        (s.step (.frame conn now f)).1 = some g ∧ (Agent.onCapacityAnswer g).isOk = true := by
  rcases frame_message hs conn now f with ⟨hevents, hnone⟩ | ⟨m, hevents, hreply⟩
  · refine .inl ⟨by rw [taken, hevents]; rfl, fun g hg => ?_⟩
    rw [hnone] at hg
    cases hg
  · have htaken : s.taken conn (.frame conn now f) = (s.coordinator.takes conn m).toList := by
      rw [taken, hevents]
      exact List.append_nil _
    rw [htaken, hreply]
    by_cases haccepted : ∃ gen, (s.coordinator.step m).1 = .capacityAccepted gen
    · obtain ⟨gen, hgen⟩ := haccepted
      obtain ⟨k, snap, rfl, htakes⟩ := Coordinator.accepted_takes hs.wellFormed hgen
      obtain ⟨_, _, he, hmsg⟩ := events_agent (hevents ▸ List.mem_singleton_self _)
      obtain ⟨rfl, -, rfl⟩ := ServerEvent.frame.inj he
      refine .inr ⟨snap, f.answer .capacityAccepted (ByteWriter.u64 gen.value), ?_, ?_, ?_, ?_⟩
      · rw [htakes, if_pos rfl]
        rfl
      · exact hmsg.symm
      · rw [hgen]
        rfl
      · exact (onCapacityAnswer_answer f (by decide) _).mpr rfl
    · refine .inl ⟨?_, fun g hg => ?_⟩
      · rw [Coordinator.takes_of_reply fun gen h => haccepted ⟨gen, h⟩]
        rfl
      · rw [Bool.eq_false_iff]
        exact fun h => haccepted ((isOk_onCapacityAnswer_iff hg).mp h)

end Server

end Fabric
