import Fabric.Coordinator.Dispatch
import Fabric.Engine.Explanation
import Fabric.Persistence.Size

/-!
# Answers

A refusal of the coordinator carries a code other than `Ok` and a short message
(`refusal_of_error`), and every frame that it sends has at most 512 bytes of payload
(`Server.small_answer`).
-/

namespace Fabric

open Support

/-! ## Refusals -/

/-- The status says that something was refused, and why. -/
structure Status.Refusal (s : Status) : Prop where
  code : s.code ≠ .ok
  message : s.message.length ≤ 64

theorem Status.refusal_failure {code : ErrorCode} {message : String} (hcode : code ≠ .ok)
    (h : (ascii message).length ≤ 64) : (Status.failure code message).Refusal := ⟨hcode, h⟩

theorem length_wireTypeName (type : UInt16) : (ascii (wireTypeName type)).length ≤ 64 := by
  unfold wireTypeName
  split_ifs
  · decide
  · generalize type.toNat - 1 = i
    have hnames : ∀ names : List String, (∀ name ∈ names, (ascii name).length ≤ 64) →
        (ascii ((names[i]?).getD "Unknown")).length ≤ 64 := by
      intro names hall
      cases hi : names[i]? with
      | none => decide
      | some name => exact hall name (List.mem_of_getElem? hi)
    exact hnames _ (by decide)

theorem Status.refusal_unknown (type : UInt16) :
    (Status.failure .unknownMessage (wireTypeName type)).Refusal :=
  Status.refusal_failure (by decide) (length_wireTypeName type)

section Replies

variable {F : Type} [Double F]

namespace Coordinator

variable {c : Coordinator F} {e : CoordinatorEvent F} {ctx : AgentConn} {epochVal : UInt64}
  {snap : ResourceSnapshot} {s : Status}

theorem refusal_of_capacity (h : c.capacityRefusal ctx epochVal snap = some s) : s.Refusal := by
  unfold capacityRefusal at h
  split_ifs at h <;> obtain rfl := Option.some.inj h <;> exact ⟨by decide, by decide⟩

theorem refusal_of_agent {conn : ConnId} {msg : AgentMessage}
    (h : (c.handleAgent conn ctx msg).1 = .error s) : s.Refusal := by
  cases msg with
  | heartbeat => cases h
  | capacityUpdate epochVal snap =>
    simp only [handleAgent] at h
    cases hrefusal : c.capacityRefusal ctx epochVal snap with
    | none =>
      rw [hrefusal] at h
      cases h
    | some s' =>
      rw [hrefusal] at h
      obtain rfl := CoordinatorReply.error.inj h
      exact refusal_of_capacity hrefusal
  | badCapacityUpdate =>
    obtain rfl := CoordinatorReply.error.inj h
    exact ⟨by decide, by decide⟩
  | unknown type =>
    obtain rfl := CoordinatorReply.error.inj h
    exact Status.refusal_unknown type

theorem refusal_of_client {now : TimePoint} {msg : ClientMessage F}
    (h : (c.handleClientFrame now msg).1 = .error s) : s.Refusal := by
  cases msg with
  | badEvaluate | badCommit | badRelease | badObserve =>
    obtain rfl := CoordinatorReply.error.inj h
    exact ⟨by decide, by decide⟩
  | unknown type =>
    obtain rfl := CoordinatorReply.error.inj h
    exact Status.refusal_unknown type
  | evaluate d | commit id gen | release id | observe o | shutdown => cases h

theorem refusal_of_error (h : (c.step e).1 = .error s) : s.Refusal := by
  cases e with
  | register conn id boot =>
    simp only [step, register] at h
    split_ifs at h
    obtain rfl := CoordinatorReply.error.inj h
    exact ⟨by decide, by decide⟩
  | agent conn msg =>
    simp only [step] at h
    split at h
    · exact refusal_of_agent h
    · cases h
  | lost conn =>
    simp only [step] at h
    split at h <;> cases h
  | client now msg => exact refusal_of_client h
  | host now op => cases h

theorem brief_of_decision {dec : AdmissionDecision F} (h : (c.step e).1 = .decision dec) :
    dec.explanation.Brief := by
  cases e with
  | client now msg =>
    cases msg with
    | evaluate d =>
      obtain rfl := CoordinatorReply.decision.inj h
      exact AdmissionFabric.evaluate_brief _ _ _
    | badEvaluate | commit _ _ | badCommit | release _ | badRelease | observe _ | badObserve
      | shutdown | unknown _ => cases h
  | register conn id boot =>
    simp only [step, register] at h
    split_ifs at h
  | agent conn msg =>
    simp only [step] at h
    split at h
    · cases msg with
      | capacityUpdate epochVal snap =>
        simp only [handleAgent] at h
        split at h <;> cases h
      | _ => cases h
    · cases h
  | lost conn =>
    simp only [step] at h
    split at h <;> cases h
  | host now op => cases h

end Coordinator

end Replies

/-! ## Sizes -/

variable {F : Type} [DoubleBits F]

/-- At most 512 bytes of payload. -/
def Frame.Small (f : Frame) : Prop := f.payload.length ≤ 512

namespace Frame

variable {f : Frame}

theorem small_refuse (f : Frame) {s : Status} (h : s.Refusal) : (f.refuse s).Small := by
  have hmessage := h.message
  show (encodeErrorResponse s.code s.message).length ≤ 512
  rw [encodeErrorResponse, List.length_append, length_u32, length_string, ByteString.savedSize]
  omega

theorem small_u64 (f : Frame) (t : WireType) (v : UInt64) : (f.answer t (ByteWriter.u64 v)).Small := by
  show (ByteWriter.u64 v).length ≤ 512
  rw [length_u64]
  decide

theorem small_i32 (f : Frame) (t : WireType) (v : Int32) : (f.answer t (ByteWriter.i32 v)).Small := by
  show (ByteWriter.u32 v.toUInt32).length ≤ 512
  rw [length_u32]
  decide

theorem small_decision (f : Frame) {dec : AdmissionDecision F} (h : dec.explanation.Brief) :
    (f.answer .evaluateResponse (encodeEvaluateResponse dec 0)).Small := by
  show (encodeDecision dec ++ ByteWriter.u32 (0 : Int32).toUInt32).length ≤ 512
  have hexpl : dec.explanation.length ≤ 128 := h
  have hrid : optSize dec.reservationId 8 ≤ 9 := by
    unfold optSize
    split_ifs <;> decide
  rw [List.length_append, length_u32, length_encodeDecision, AdmissionDecision.savedSize,
    ByteString.savedSize]
  omega

/-- What brings an answer of the coordinator back is small. -/
theorem small_encodeReply {c : Coordinator F} {e : CoordinatorEvent F} {g : Frame}
    (h : f.encodeReply (c.step e).1 = some g) : g.Small := by
  cases hreply : (c.step e).1 with
  | agentRegistered epoch =>
    rw [hreply] at h
    exact Option.some.inj h ▸ f.small_u64 _ _
  | heartbeat epoch =>
    rw [hreply] at h
    exact Option.some.inj h ▸ f.small_u64 _ _
  | capacityAccepted gen =>
    rw [hreply] at h
    exact Option.some.inj h ▸ f.small_u64 _ _
  | error s =>
    rw [hreply] at h
    exact Option.some.inj h ▸ f.small_refuse (Coordinator.refusal_of_error hreply)
  | decision dec =>
    rw [hreply] at h
    exact Option.some.inj h ▸ f.small_decision (Coordinator.brief_of_decision hreply)
  | code c =>
    rw [hreply] at h
    exact Option.some.inj h ▸ f.small_i32 _ _
  | observationAck =>
    rw [hreply] at h
    exact Option.some.inj h ▸ f.small_i32 _ _
  | shutdown =>
    rw [hreply] at h
    exact Option.some.inj h ▸ f.small_i32 _ _
  | host r =>
    rw [hreply] at h
    cases h
  | silent =>
    rw [hreply] at h
    cases h

end Frame

namespace Server

variable {s : Server F}

/-- An event is at most one message to the coordinator. -/
theorem length_events (s : Server F) (e : ServerEvent F) : (s.events e).length ≤ 1 := by
  cases e with
  | accept conn => exact Nat.zero_le _
  | host now op => exact Nat.le_refl _
  | lost conn =>
    simp only [events]
    split_ifs
    · exact Nat.le_refl _
    · exact Nat.zero_le _
  | frame conn now f =>
    simp only [events]
    split
    · split_ifs
      · cases f.read decodeRegister with
        | none => exact Nat.zero_le _
        | some m => exact Nat.le_refl _
      · exact Nat.le_refl _
    · exact Nat.le_refl _
    · exact Nat.le_refl _
    · exact Nat.zero_le _

theorem events_cases (s : Server F) (e : ServerEvent F) :
    s.events e = [] ∨ ∃ m, s.events e = [m] := by
  have hlength := s.length_events e
  cases hevents : s.events e with
  | nil => exact .inl rfl
  | cons m ms =>
    rw [hevents] at hlength
    obtain rfl : ms = [] :=
      List.eq_nil_of_length_eq_zero (Nat.le_zero.mp (Nat.le_of_succ_le_succ hlength))
    exact .inr ⟨m, rfl⟩

/-- A frame is one message, and what goes back is the answer to it; or it is none. -/
theorem frame_message (hs : s.Linked) (conn : ConnId) (now : TimePoint) (f : Frame) :
    (s.events (.frame conn now f) = [] ∧ (s.step (.frame conn now f)).1 = none) ∨
      ∃ m, s.events (.frame conn now f) = [m] ∧
        (s.step (.frame conn now f)).1 = f.encodeReply (s.coordinator.step m).1 := by
  rw [step_answer hs]
  rcases s.events_cases (.frame conn now f) with hevents | ⟨m, hevents⟩ <;> rw [hevents]
  · exact .inl ⟨rfl, rfl⟩
  · exact .inr ⟨m, rfl, rfl⟩

/-- Every answer is small. -/
theorem small_answer (hs : s.Linked) {conn : ConnId} {now : TimePoint} {f g : Frame}
    (h : (s.step (.frame conn now f)).1 = some g) : g.Small := by
  rcases frame_message hs conn now f with ⟨-, hnone⟩ | ⟨m, -, hreply⟩
  · rw [hnone] at h
    cases h
  · exact Frame.small_encodeReply (hreply.symm.trans h)

end Server

end Fabric
