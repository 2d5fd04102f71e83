import BleWsCentral.Mqtt.Cuts

/-!
# Behind a bad frame

What the decoder does when a frame is not a packet, and `driver_task` goes on reading.

* `Frame` — a type byte, a remaining length, and as many bytes as that says.
* `MqttFormat.ReadsHeader` — what is relied on of the crate `mqtt` for such frames.
* `MqttFormat.Recovers` — the call that reports the error removes the frame, and the packets behind it are
  decoded.
* `recovers_iff` — this is so if and only if the fixed header is accepted, the remaining length takes one byte,
  and so do those of the packets. With a fixed header that is not accepted, nothing is removed, and every
  further call reports the same error.
-/

namespace BleWsCentral.Mqtt

open BleWsCentral.Found

/-- A frame as it is received; its remaining length is any that stands for the length of its body. -/
structure Frame where
  typeByte : UInt8
  remainingLength : List UInt8
  body : List UInt8
  legal : Varint.read 3 remainingLength = .ok (body.length, [])

namespace Frame

variable (frame : Frame)

/-- The bytes of a frame. -/
def bytes : List UInt8 := frame.typeByte :: (frame.remainingLength ++ frame.body)

theorem body_lt : frame.body.length < 2 ^ 28 := Varint.read_lt frame.legal

theorem remainingLength_pos : 0 < frame.remainingLength.length := by
  rw [List.length_pos_iff]
  intro hnil
  have hlegal := frame.legal
  rw [hnil] at hlegal
  cases hlegal

theorem length_bytes : frame.bytes.length = 1 + frame.remainingLength.length + frame.body.length := by
  rw [bytes, List.length_cons, List.length_append]
  omega

end Frame

namespace MqttFormat

variable {P E : Type} {F : MqttFormat P E}

/-- A fixed header is decoded from the type byte and the remaining length alone, and what it gives is the
number this stands for. -/
structure ReadsHeader (F : MqttFormat P E) : Prop where
  append : ∀ (frame : Frame) (rest : List UInt8),
    F.fixedHeader (frame.bytes ++ rest) = F.fixedHeader frame.bytes
  remainingLength : ∀ (frame : Frame) n, F.fixedHeader frame.bytes = .ok n →
    n = UInt32.ofNat frame.body.length

/-- The call that reports the error of the frame removes it and expects a fixed header, and the further calls
give the packets behind it. -/
def Recovers (F : MqttFormat P E) (frame : Frame) (ps : List P) : Prop :=
  (∃ e, F.decode .needFixedHeader (frame.bytes ++ ps.flatMap F.encode) =
    some ⟨.error e, .needFixedHeader, ps.flatMap F.encode⟩) ∧
  Yields (F.drain ((ps.flatMap F.encode).length + 1) .needFixedHeader (ps.flatMap F.encode)) ps

/-- A frame with a fixed header that is not accepted is never removed. -/
theorem decode_of_rejected_header (hF : F.ReadsHeader) {frame : Frame} {e : E}
    (h : F.fixedHeader frame.bytes = .error e) (rest : List UInt8) :
    F.decode .needFixedHeader (frame.bytes ++ rest) =
      some ⟨.error (.fixedHeader e), .needFixedHeader, frame.bytes ++ rest⟩ := by
  rw [← hF.append frame rest] at h
  exact decode_of_fixedHeader_error (by simp [Frame.bytes]) h

/-- A frame with a fixed header that is accepted is cut behind as many bytes as it would have if its remaining
length took one byte. -/
theorem decode_frame (hF : F.ReadsHeader) {frame : Frame} {n : UInt32}
    (h : F.fixedHeader frame.bytes = .ok n) (rest : List UInt8) :
    F.decode .needFixedHeader (frame.bytes ++ rest) =
      match F.variablePacket (frame.bytes.take (frame.body.length + 2)) with
      | .error e => some ⟨.error (.packet e), .needFixedHeader,
          frame.bytes.drop (frame.body.length + 2) ++ rest⟩
      | .ok ret => some ⟨.ok (some ret), .needFixedHeader,
          frame.bytes.drop (frame.body.length + 2) ++ rest⟩ := by
  have hlength := frame.length_bytes
  have hpos := frame.remainingLength_pos
  apply decode_of_fixedHeader frame.body_lt (by omega)
  rw [hF.append, h, hF.remainingLength frame n h]

/-- **Recovering.** The decoder recovers from a frame that is rejected, whatever packets follow it, if and only if
the fixed header of the frame is accepted and its remaining length takes one byte, as do those of the packets.
If the fixed header is rejected, each call reports this again and removes nothing. -/
theorem recovers_iff (hF : F.ReadsHeader) (frame : Frame) (ps : List P)
    (hrejected : (∃ e, F.fixedHeader frame.bytes = .error e) ∨
      ∃ e, F.variablePacket frame.bytes = .error e) :
    (F.Recovers frame ps ↔ (∃ n, F.fixedHeader frame.bytes = .ok n) ∧
      frame.remainingLength.length = 1 ∧ ∀ p ∈ ps, (F.body p).length < 128) ∧
    ∀ e, F.fixedHeader frame.bytes = .error e →
      F.decode .needFixedHeader (frame.bytes ++ ps.flatMap F.encode) =
        some ⟨.error (.fixedHeader e), .needFixedHeader, frame.bytes ++ ps.flatMap F.encode⟩ := by
  refine ⟨?_, fun e he => decode_of_rejected_header hF he _⟩
  have hlength := frame.length_bytes
  rw [Recovers, yields_flatMap_iff (Nat.lt_succ_self _), ← and_assoc]
  refine and_congr_left fun _ => ?_
  cases hheader : F.fixedHeader frame.bytes with
  | error e =>
      refine iff_of_false ?_ (by simp)
      rintro ⟨e', hdecode⟩
      rw [decode_of_rejected_header hF hheader] at hdecode
      have hsrc := congrArg List.length (Decoded.mk.inj (Option.some.inj hdecode)).2.2
      rw [List.length_append] at hsrc
      omega
  | ok n =>
      rw [decode_frame hF hheader, and_iff_right ⟨n, rfl⟩]
      constructor
      · rintro ⟨e, hdecode⟩
        have hsrc : frame.bytes.drop (frame.body.length + 2) ++ ps.flatMap F.encode =
            ps.flatMap F.encode := by
          split at hdecode
          · exact (Decoded.mk.inj (Option.some.inj hdecode)).2.2
          · cases (Decoded.mk.inj (Option.some.inj hdecode)).1
        have hempty := congrArg List.length hsrc
        rw [List.length_append, List.length_drop] at hempty
        have hpos := frame.remainingLength_pos
        omega
      · intro hone
        have hall : frame.body.length + 2 = frame.bytes.length := by omega
        obtain ⟨e, he⟩ : ∃ e, F.variablePacket frame.bytes = .error e := by
          apply hrejected.resolve_left
          rintro ⟨e, he⟩
          cases hheader.symm.trans he
        refine ⟨.packet e, ?_⟩
        rw [hall, List.take_length, List.drop_length, he]
        rfl

end MqttFormat

/-! ## Frames of this program -/

/-- What is decoded of the fixed header of a frame, whatever follows it. -/
theorem fixedHeader_frame (frame : Frame) (rest : List UInt8) :
    Publish.fixedHeader (frame.bytes ++ rest) =
      if frame.typeByte = 0x30 then .ok (UInt32.ofNat frame.body.length) else .error .malformed := by
  have hread := Varint.read_append frame.legal (frame.body ++ rest)
  rw [Frame.bytes, List.cons_append, List.append_assoc, Publish.fixedHeader, hread]

/-- Such headers are decoded from the type byte and the remaining length alone. -/
theorem readsHeader_publishFormat : publishFormat.ReadsHeader where
  append frame rest := by
    have hframe := fixedHeader_frame frame []
    rw [List.append_nil] at hframe
    exact (fixedHeader_frame frame rest).trans hframe.symm
  remainingLength frame n h := by
    have hframe := fixedHeader_frame frame []
    rw [List.append_nil, show Publish.fixedHeader frame.bytes = .ok n from h] at hframe
    split at hframe
    · exact Except.ok.inj hframe
    · cases hframe

/-- The theorem for a frame whose body is no topic, and a packet behind it. -/
theorem recovers_iff_no_topic :
    publishFormat.Recovers ⟨0x30, [1], [7], rfl⟩ [⟨[21, 50], by decide⟩] :=
  (MqttFormat.recovers_iff readsHeader_publishFormat ⟨0x30, [1], [7], rfl⟩ [⟨[21, 50], by decide⟩]
    (.inr ⟨.malformed, rfl⟩)).1.mpr ⟨⟨1, rfl⟩, rfl, by decide⟩

/-- A frame with the reserved type 0 is reported and stays where it is. -/
theorem reserved_type_stays :
    publishFormat.fixedHeader (Frame.mk 0x00 [0] [] rfl).bytes = .error .malformed ∧
      publishFormat.decode .needFixedHeader (Frame.mk 0x00 [0] [] rfl).bytes =
        some ⟨.error (.fixedHeader .malformed), .needFixedHeader, (Frame.mk 0x00 [0] [] rfl).bytes⟩ ∧
      ¬ publishFormat.Recovers (Frame.mk 0x00 [0] [] rfl) [] := by
  refine ⟨rfl, rfl, ?_⟩
  rintro ⟨⟨e, hdecode⟩, -⟩
  cases hdecode

end BleWsCentral.Mqtt
