import BleWsCentral.Data
import BleWsCentral.Found.Varint

/-!
# The MQTT codec

`codec.rs` of `tokio-mqtt`: how packets are cut out of the bytes that were received.

* `MqttFormat` — what the codec relies on of the crate that encodes and decodes packets.
* `MqttDecoder`, `MqttFormat.decode` — the decoder, which is called again and again with the bytes that
  are there; `MqttFormat.drain` calls it until it returns `Ok(None)`.
* `decode_of_fixedHeader` — what a call makes of a frame at the front of the buffer: it cuts off one byte
  for the remaining length, whatever the width of that field; `decode_encode` is this for a packet.
* `drain_encoded_iff` — so a list of packets is decoded as it was encoded if and only if the remaining
  length of each of them fits into one byte.
* `publishFormat` — a format of the packets this program sends, on which runs can be computed.
-/

namespace BleWsCentral.Mqtt

open BleWsCentral.Found

/-! ## The packets -/

/-- The packets of type `P` of the crate `mqtt`, and the errors of type `E` of its decoders. -/
structure MqttFormat (P E : Type) where
  /-- `Encodable::encode`. -/
  encode : P → List UInt8
  /-- `Encodable::encoded_length`. -/
  encodedLength : P → UInt32
  /-- `FixedHeader::decode`, of which the remaining length is used. -/
  fixedHeader : List UInt8 → Except E UInt32
  /-- `VariablePacket::decode`. -/
  variablePacket : List UInt8 → Except E P
  /-- The error of a reader that ran out of bytes. -/
  eof : E
  /-- The first byte of a packet. -/
  typeByte : P → UInt8
  /-- What follows the fixed header of a packet. -/
  body : P → List UInt8
  body_lt : ∀ p, (body p).length < 2 ^ 28
  /-- A packet is its type byte, the length of its body in one to four bytes, and its body. -/
  encode_eq : ∀ p, encode p = typeByte p :: (Varint.encode 3 (body p).length ++ body p)
  /-- The fixed header is the first two parts. -/
  fixedHeader_packet : ∀ p rest,
    fixedHeader (typeByte p :: (Varint.encode 3 (body p).length ++ rest)) =
      .ok (UInt32.ofNat (body p).length)
  /-- A fixed header has more than one byte. -/
  fixedHeader_single : ∀ b, fixedHeader [b] = .error eof
  /-- A reader that runs out of bytes does so on fewer bytes too. -/
  fixedHeader_eof : ∀ bytes rest, fixedHeader (bytes ++ rest) = .error eof → bytes ≠ [] →
    fixedHeader bytes = .error eof
  /-- A packet is decoded from exactly its bytes. -/
  variablePacket_encode : ∀ p, variablePacket (encode p) = .ok p
  /-- No packet is decoded from a part of its bytes. -/
  variablePacket_truncated : ∀ p bytes, bytes <+: encode p → bytes ≠ encode p →
    variablePacket bytes ≠ .ok p

/-! ## The decoder -/

/-- `MqttDecoder`. -/
inductive MqttDecoder
  | needFixedHeader
  | needBytes (nbytes : ℕ)
deriving DecidableEq

/-- The errors of the codec, before they are wrapped in an `io::Error`. -/
inductive CodecError (E : Type)
  | fixedHeader (e : E)
  | packet (e : E)
  /-- "Packet too big for this system" -/
  | tooBig
deriving DecidableEq

/-- What a call of `decode` gives, and what it leaves of the decoder and the buffer. -/
structure Decoded (P E : Type) where
  result : Except (CodecError E) (Option P)
  decoder : MqttDecoder
  src : List UInt8

/-- `BytesMut::split_to`, which panics if there are not as many bytes. -/
def splitTo (src : List UInt8) (n : ℕ) : Option (List UInt8 × List UInt8) :=
  if n ≤ src.length then some (src.take n, src.drop n) else none

/-- `usize::checked_add`. -/
def checkedAdd (a b : ℕ) : Option ℕ := if a + b ≤ usizeMax then some (a + b) else none

namespace MqttFormat

variable {P E : Type} (F : MqttFormat P E)

/-- `MqttDecoder::consume_full_packet`; `none` is a panic. -/
def consumeFullPacket (self : MqttDecoder) (src : List UInt8) (nbytes : ℕ) :
    Option (Decoded P E) := do
  let (packet, src) ← splitTo src (nbytes + 1)
  match F.variablePacket packet with
  | .error e => some ⟨.error (.packet e), self, src⟩
  | .ok ret => some ⟨.ok (some ret), .needFixedHeader, src⟩

/-- `MqttDecoder::decode`; `none` is a panic. -/
def decode (self : MqttDecoder) (src : List UInt8) : Option (Decoded P E) :=
  match self with
  | .needFixedHeader =>
      if 0 < src.length then
        match F.fixedHeader src with
        | .error e => some ⟨.error (.fixedHeader e), self, src⟩
        | .ok remainingLength =>
            match checkedAdd remainingLength.toNat 1 with
            | none => some ⟨.error .tooBig, self, src⟩
            | some nbytes =>
                if nbytes ≤ src.length then F.consumeFullPacket self src nbytes
                else some ⟨.ok none, .needBytes nbytes, src⟩
      else some ⟨.ok none, self, src⟩
  | .needBytes nbytes =>
      if src.length ≤ nbytes then F.consumeFullPacket self src nbytes
      else some ⟨.ok none, self, src⟩

/-- `MqttEncoder::encode`. -/
def encodeInto (dst : List UInt8) (item : P) : Except (CodecError E) (List UInt8) :=
  if (F.encodedLength item).toNat ≤ usizeMax then .ok (dst ++ F.encode item) else .error .tooBig

/-- A call of the decoder: what it was given, and what it gave. -/
structure Call (P E : Type) where
  decoder : MqttDecoder
  src : List UInt8
  outcome : Option (Decoded P E)

/-- The packet a call gave. -/
def Call.packet? (c : Call P E) : Option P :=
  match c.outcome with
  | some ⟨.ok p, _, _⟩ => p
  | _ => none

/-- The error a call gave. -/
def Call.error? (c : Call P E) : Option (CodecError E) :=
  match c.outcome with
  | some ⟨.error e, _, _⟩ => some e
  | _ => none

/-- Calls the decoder until it returns `Ok(None)`, fails or panics: the calls, and in the first case
what they leave. A call that gives a packet takes bytes away, so more calls than there are bytes are
not needed (`drain_succ`). -/
def drain : ℕ → MqttDecoder → List UInt8 → List (Call P E) × Option (MqttDecoder × List UInt8)
  | 0, _, _ => ([], none)
  | n + 1, self, src =>
      let call : Call P E := ⟨self, src, F.decode self src⟩
      match F.decode self src with
      | some ⟨.ok (some _), self, src⟩ =>
          let (calls, left) := drain n self src
          (call :: calls, left)
      | some ⟨.ok none, self, src⟩ => ([call], some (self, src))
      | _ => ([call], none)

/-- The packets of a sequence of calls, in order. -/
def packets (calls : List (Call P E)) : List P := calls.filterMap Call.packet?

/-- The error that ends a sequence of calls. -/
def error (calls : List (Call P E)) : Option (CodecError E) := calls.findSome? Call.error?

/-! ## What a call does -/

variable {F}

/-- No remaining length is too big for words of 64 bits. -/
theorem checkedAdd_remainingLength (n : UInt32) : checkedAdd n.toNat 1 = some (n.toNat + 1) := by
  have := n.toNat_lt
  rw [checkedAdd, if_pos]
  unfold usizeMax
  omega

/-- A call that gives a packet takes bytes away, and expects a fixed header next. -/
theorem decode_packet {self : MqttDecoder} {src : List UInt8} {p : P} {self' : MqttDecoder}
    {src' : List UInt8} (h : F.decode self src = some ⟨.ok (some p), self', src'⟩) :
    self' = .needFixedHeader ∧ src'.length < src.length := by
  have hconsume : ∀ nbytes, F.consumeFullPacket self src nbytes = some ⟨.ok (some p), self', src'⟩ →
      self' = .needFixedHeader ∧ src'.length < src.length := by
    intro nbytes h
    unfold consumeFullPacket splitTo at h
    split at h
    · rename_i hlen
      simp only [Option.bind_eq_bind, Option.bind_some] at h
      split at h
      · cases h
      · cases h
        simp only [List.length_drop, true_and]
        omega
    · cases h
  unfold decode at h
  split at h
  · split at h
    · split at h
      · cases h
      · split at h
        · cases h
        · split at h
          · exact hconsume _ h
          · cases h
    · cases h
  · split at h
    · exact hconsume _ h
    · cases h

/-- More calls than there are bytes give nothing more. -/
theorem drain_succ {n : ℕ} {self : MqttDecoder} {src : List UInt8} (h : src.length < n) :
    F.drain n self src = F.drain (n + 1) self src := by
  induction n generalizing self src with
  | zero => omega
  | succ n ih =>
      rw [drain, drain]
      split
      · rename_i hdecode
        have hlt := (decode_packet hdecode).2
        rw [ih (by omega)]
      · rfl
      · rfl

/-- What a call makes of a fixed header at the front of the buffer: it cuts off the type byte, one byte of
the remaining length, and as many bytes as that says. -/
theorem decode_of_fixedHeader {bytes rest : List UInt8} {n : ℕ} (hlt : n < 2 ^ 28)
    (hlen : n + 2 ≤ bytes.length) (hheader : F.fixedHeader (bytes ++ rest) = .ok (UInt32.ofNat n)) :
    F.decode .needFixedHeader (bytes ++ rest) =
      match F.variablePacket (bytes.take (n + 2)) with
      | .error e => some ⟨.error (.packet e), .needFixedHeader, bytes.drop (n + 2) ++ rest⟩
      | .ok ret => some ⟨.ok (some ret), .needFixedHeader, bytes.drop (n + 2) ++ rest⟩ := by
  have hnat : (UInt32.ofNat n).toNat = n := by
    rw [UInt32.toNat_ofNat', Nat.mod_eq_of_lt (by omega)]
  have hadd := checkedAdd_remainingLength (UInt32.ofNat n)
  have hnonempty : 0 < (bytes ++ rest).length := by
    rw [List.length_append]
    omega
  have henough : n + 1 ≤ (bytes ++ rest).length := by
    rw [List.length_append]
    omega
  have hsplit : splitTo (bytes ++ rest) (n + 1 + 1) =
      some (bytes.take (n + 2), bytes.drop (n + 2) ++ rest) := by
    rw [splitTo, if_pos (by rw [List.length_append]; omega),
      List.take_append_of_le_length hlen, List.drop_append_of_le_length hlen]
  rw [hnat] at hadd
  simp only [decode, if_pos hnonempty, hheader, hnat, hadd, if_pos henough, consumeFullPacket, hsplit,
    Option.bind_eq_bind, Option.bind_some]

/-- What a call makes of a packet at the front of the buffer. -/
theorem decode_encode (p : P) (rest : List UInt8) :
    F.decode .needFixedHeader (F.encode p ++ rest) =
      match F.variablePacket ((F.encode p).take ((F.body p).length + 2)) with
      | .error e => some ⟨.error (.packet e), .needFixedHeader,
          (F.encode p).drop ((F.body p).length + 2) ++ rest⟩
      | .ok ret => some ⟨.ok (some ret), .needFixedHeader,
          (F.encode p).drop ((F.body p).length + 2) ++ rest⟩ := by
  have hwidth := Varint.length_encode_pos 3 (F.body p).length
  have hlen : (F.body p).length + 2 ≤ (F.encode p).length := by
    rw [F.encode_eq, List.length_cons, List.length_append]
    omega
  have hheader : F.fixedHeader (F.encode p ++ rest) = .ok (UInt32.ofNat (F.body p).length) := by
    rw [F.encode_eq, List.cons_append, List.append_assoc]
    exact F.fixedHeader_packet p _
  exact decode_of_fixedHeader (F.body_lt p) hlen hheader

/-- The length of a packet whose remaining length takes one byte, and of the other ones. -/
theorem length_encode (p : P) :
    ((F.body p).length < 128 → (F.encode p).length = (F.body p).length + 2) ∧
      (¬ (F.body p).length < 128 → (F.body p).length + 2 < (F.encode p).length) := by
  have hwidth := Varint.length_encode_pos 3 (F.body p).length
  have hone : (Varint.encode 3 (F.body p).length).length = 1 ↔ (F.body p).length < 128 :=
    Varint.length_encode_eq_one
  rw [F.encode_eq, List.length_cons, List.length_append]
  constructor
  · intro h
    have := hone.mpr h
    omega
  · intro h
    have := mt hone.mp h
    omega

/-- A packet with a remaining length of one byte is decoded. -/
theorem decode_encode_of_lt {p : P} (h : (F.body p).length < 128) (rest : List UInt8) :
    F.decode .needFixedHeader (F.encode p ++ rest) =
      some ⟨.ok (some p), .needFixedHeader, rest⟩ := by
  have hlen := (length_encode p).1 h
  rw [decode_encode, ← hlen, List.take_length, F.variablePacket_encode, List.drop_length]
  rfl

/-- A packet with a longer remaining length is cut short, and something else is decoded or nothing. -/
theorem decode_encode_of_not_lt {p : P} (h : ¬ (F.body p).length < 128) (rest : List UInt8) :
    ∃ d : Decoded P E, F.decode .needFixedHeader (F.encode p ++ rest) = some d ∧
      ((∃ e, d.result = .error e) ∨ ∃ p', d.result = .ok (some p') ∧ p' ≠ p) := by
  have hlen := (length_encode p).2 h
  have hne := F.variablePacket_truncated p ((F.encode p).take ((F.body p).length + 2))
    (List.take_prefix _ _) (by
      intro heq
      have := congrArg List.length heq
      rw [List.length_take] at this
      omega)
  rw [decode_encode]
  cases hpacket : F.variablePacket ((F.encode p).take ((F.body p).length + 2)) with
  | error e => exact ⟨_, rfl, .inl ⟨_, rfl⟩⟩
  | ok p' =>
      refine ⟨_, rfl, .inr ⟨p', rfl, ?_⟩⟩
      rintro rfl
      exact hne hpacket

/-! ## Lists of packets -/

/-- The encoder puts the packets one behind the other. -/
theorem foldlM_encodeInto (ps : List P) (dst : List UInt8) :
    ps.foldlM F.encodeInto dst = .ok (dst ++ ps.flatMap F.encode) := by
  induction ps generalizing dst with
  | nil => simp [pure, Except.pure]
  | cons p ps ih =>
      have hfits : (F.encodedLength p).toNat ≤ usizeMax := by
        have := (F.encodedLength p).toNat_lt
        unfold usizeMax
        omega
      have hencode : F.encodeInto dst p = .ok (dst ++ F.encode p) := if_pos hfits
      rw [List.foldlM_cons, hencode]
      simpa [bind, Except.bind] using ih (dst ++ F.encode p)

/-- The calls give exactly the packets `ps`, and leave an empty buffer and a decoder that expects a
fixed header. -/
def Yields (r : List (Call P E) × Option (MqttDecoder × List UInt8)) (ps : List P) : Prop :=
  packets r.1 = ps ∧ r.2 = some (.needFixedHeader, [])

/-- On an empty buffer there is nothing to decode. -/
theorem yields_nil {n : ℕ} : Yields (F.drain (n + 1) .needFixedHeader []) [] := by
  simp [Yields, drain, decode, packets, Call.packet?]

/-- A packet at the front is given first if its remaining length takes one byte; otherwise it is not. -/
theorem yields_cons {n : ℕ} {p : P} {ps : List P} {rest : List UInt8} :
    Yields (F.drain (n + 1) .needFixedHeader (F.encode p ++ rest)) (p :: ps) ↔
      (F.body p).length < 128 ∧ Yields (F.drain n .needFixedHeader rest) ps := by
  by_cases h : (F.body p).length < 128
  · simp [Yields, drain, decode_encode_of_lt h, packets, Call.packet?, h]
  · refine iff_of_false ?_ fun hp => h hp.1
    obtain ⟨⟨result, self, src⟩, hdecode, hresult⟩ := decode_encode_of_not_lt h rest
    rintro ⟨hpackets, hleft⟩
    rw [drain, hdecode] at hpackets hleft
    rcases hresult with ⟨e, he⟩ | ⟨p', hp', hne⟩
    · simp only at he
      subst he
      cases hleft
    · simp only at hp'
      subst hp'
      simp only [packets, List.filterMap_cons, Call.packet?, List.cons.injEq] at hpackets
      exact hne hpackets.1

/-- The packets are given back if the remaining length of each of them takes one byte. -/
theorem yields_flatMap_iff {ps : List P} {n : ℕ} (hn : (ps.flatMap F.encode).length < n) :
    Yields (F.drain n .needFixedHeader (ps.flatMap F.encode)) ps ↔
      ∀ p ∈ ps, (F.body p).length < 128 := by
  induction ps generalizing n with
  | nil =>
      obtain ⟨n, rfl⟩ := Nat.exists_eq_succ_of_ne_zero (Nat.ne_of_gt hn)
      exact iff_of_true yields_nil (by simp)
  | cons p ps ih =>
      rw [List.flatMap_cons, List.length_append] at hn
      obtain ⟨n, rfl⟩ := Nat.exists_eq_succ_of_ne_zero (Nat.ne_of_gt (Nat.zero_lt_of_lt hn))
      have hpos : 0 < (F.encode p).length := by rw [F.encode_eq]; simp
      rw [List.flatMap_cons, yields_cons, ih (by omega), List.forall_mem_cons]

/-- **Decoding what was encoded.** Packets that are encoded one after the other into a buffer are given
back by the decoder, with nothing left over, if and only if the remaining length of each of them fits
into one byte. -/
theorem drain_encoded_iff (F : MqttFormat P E) (ps : List P) :
    (∃ buf, ps.foldlM F.encodeInto [] = .ok buf ∧
      Yields (F.drain (buf.length + 1) .needFixedHeader buf) ps) ↔
    ∀ p ∈ ps, (F.body p).length < 128 := by
  rw [← yields_flatMap_iff (Nat.lt_succ_self _)]
  simp [foldlM_encodeInto]

end MqttFormat

/-! ## The packets of this program -/

/-- A `PublishPacket` of quality of service `Level0` with topic `t`. -/
structure Publish where
  payload : List UInt8
  fits : payload.length + 3 < 2 ^ 28
deriving DecidableEq

/-- The errors of the decoders of such packets. -/
inductive PublishError
  | eof
  | malformed
deriving DecidableEq

namespace Publish

/-- The topic with its length, and the payload. -/
def body (p : Publish) : List UInt8 := 0 :: 1 :: 0x74 :: p.payload

/-- The type byte and the remaining length. -/
def fixedHeader : List UInt8 → Except PublishError UInt32
  | [] => .error .eof
  | t :: bytes =>
      match Varint.read 3 bytes with
      | .error .eof => .error .eof
      | .error .malformed => .error .malformed
      | .ok (n, _) => if t = 0x30 then .ok (UInt32.ofNat n) else .error .malformed

/-- The topic and the payload. -/
def ofBody : List UInt8 → Except PublishError Publish
  | 0 :: 1 :: 0x74 :: payload =>
      if h : payload.length + 3 < 2 ^ 28 then .ok ⟨payload, h⟩ else .error .malformed
  | _ => .error .malformed

/-- The whole packet; its body has to be there up to the remaining length. -/
def variablePacket : List UInt8 → Except PublishError Publish
  | [] => .error .eof
  | t :: bytes =>
      match Varint.read 3 bytes with
      | .error .eof => .error .eof
      | .error .malformed => .error .malformed
      | .ok (n, rest) =>
          if t = 0x30 then if rest.length < n then .error .eof else ofBody (rest.take n)
          else .error .malformed

theorem ofBody_body (p : Publish) : ofBody p.body = .ok p := dif_pos p.fits

theorem body_length_lt (p : Publish) : p.body.length < 128 ^ 4 := by
  have := p.fits
  simp only [body, List.length_cons]
  omega

/-- No packet is decoded from a part of its bytes: the body ends too early. -/
theorem variablePacket_truncated {p : Publish} {bytes : List UInt8}
    (hpart : bytes <+: 0x30 :: (Varint.encode 3 p.body.length ++ p.body))
    (hne : bytes ≠ 0x30 :: (Varint.encode 3 p.body.length ++ p.body)) :
    variablePacket bytes ≠ .ok p := by
  intro hok
  obtain ⟨tail, htail⟩ := hpart
  cases bytes with
  | nil => cases hok
  | cons t bytes =>
      rw [List.cons_append, List.cons.injEq] at htail
      obtain ⟨rfl, htail⟩ := htail
      rw [variablePacket] at hok
      split at hok
      · cases hok
      · cases hok
      · rename_i n rest hread
        rw [if_pos rfl] at hok
        split at hok
        · cases hok
        · rename_i hthere
          have hall := Varint.read_append hread tail
          rw [htail, Varint.read_encode p.body_length_lt] at hall
          obtain ⟨rfl, hrest⟩ := Prod.mk.inj (Except.ok.inj hall)
          have hlen := congrArg List.length hrest
          rw [List.length_append] at hlen
          have : tail = [] := List.length_eq_zero_iff.mp (by omega)
          subst this
          rw [List.append_nil] at htail
          exact hne (by rw [htail])

end Publish

/-- The format of these packets. -/
def publishFormat : MqttFormat Publish PublishError where
  encode p := 0x30 :: (Varint.encode 3 p.body.length ++ p.body)
  encodedLength p := UInt32.ofNat (1 + (Varint.encode 3 p.body.length).length + p.body.length)
  fixedHeader := Publish.fixedHeader
  variablePacket := Publish.variablePacket
  eof := .eof
  typeByte _ := 0x30
  body := Publish.body
  body_lt p := p.body_length_lt
  encode_eq _ := rfl
  fixedHeader_packet p rest := by
    simp [Publish.fixedHeader, Varint.read_encode p.body_length_lt]
  fixedHeader_single _ := rfl
  fixedHeader_eof bytes rest h hne := by
    cases bytes with
    | nil => exact absurd rfl hne
    | cons t bytes =>
        rw [List.cons_append, Publish.fixedHeader] at h
        split at h
        · rename_i hread
          simp [Publish.fixedHeader, Varint.read_eof_of_append hread]
        · cases h
        · split at h <;> cases h
  variablePacket_encode p := by
    simp [Publish.variablePacket, Varint.read_encode p.body_length_lt, Publish.ofBody_body]
  variablePacket_truncated _ _ := Publish.variablePacket_truncated

/-- The theorem for a message with a short payload. -/
theorem drain_encoded_iff_short :
    ∃ buf, [(⟨[21, 50], by decide⟩ : Publish)].foldlM publishFormat.encodeInto [] = .ok buf ∧
      MqttFormat.Yields (publishFormat.drain (buf.length + 1) .needFixedHeader buf)
        [⟨[21, 50], by decide⟩] :=
  (MqttFormat.drain_encoded_iff publishFormat _).mpr (by decide)

/-- A message with 125 bytes of payload is encoded with a remaining length of two bytes, and it is not
what the decoder gives back. -/
theorem long_publish_not_decoded :
    ∃ p : Publish, p.payload.length = 125 ∧ ∀ buf,
      [p].foldlM publishFormat.encodeInto [] = .ok buf →
        ¬ MqttFormat.Yields (publishFormat.drain (buf.length + 1) .needFixedHeader buf) [p] := by
  refine ⟨⟨List.replicate 125 0, by simp⟩, by simp, fun buf hbuf => ?_⟩
  rw [MqttFormat.foldlM_encodeInto] at hbuf
  cases hbuf
  unfold MqttFormat.Yields
  decide +kernel

end BleWsCentral.Mqtt
