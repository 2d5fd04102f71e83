import BleWsCentral.Mqtt.Codec

/-!
# Cutting the stream

The bytes of a connection arrive in reads that end anywhere. After each of them the decoder is called
until it returns `Ok(None)` or an error.

* `MqttFormat.feed` — the calls that are made for a sequence of reads.
* `CallOk` — what every call should do: it does not panic, no beginning of a packet is an error, and
  `Ok(None)` takes nothing and means that there is no whole frame yet.
* `CutIndependent` — for a stream: all calls are so however it is cut, and any two ways of cutting it
  give the same packets and the same error.
* `cutIndependent_iff` — the streams for which this is true are the empty one, and those that fail
  wherever they are cut. It also says what does work: reads that end at the end of a packet, as long
  as the remaining lengths take one byte.
-/

namespace BleWsCentral.Mqtt

open BleWsCentral.Found

namespace MqttFormat

variable {P E : Type} (F : MqttFormat P E)

/-- The calls for a sequence of reads, up to an error or a panic. -/
def feed : MqttDecoder → List UInt8 → List (List UInt8) → List (Call P E)
  | _, _, [] => []
  | self, buf, read :: reads =>
      match F.drain ((buf ++ read).length + 1) self (buf ++ read) with
      | (calls, none) => calls
      | (calls, some (self, buf)) => calls ++ feed self buf reads

/-- A whole frame is at the front of the buffer. -/
def HoldsFrame (src : List UInt8) : Prop :=
  ∃ (t : UInt8) (body rest : List UInt8), body.length < 2 ^ 28 ∧
    src = t :: (Varint.encode 3 body.length ++ body ++ rest)

/-- What a call should do. -/
structure CallOk (c : Call P E) : Prop where
  /-- It does not panic. -/
  no_panic : c.outcome ≠ none
  /-- The beginning of a packet is not an error. -/
  error_honest : ∀ d e, c.outcome = some d → d.result = .error e → ∀ p, ¬ c.src <+: F.encode p
  /-- `Ok(None)` takes nothing from the buffer. -/
  keeps : ∀ d, c.outcome = some d → d.result = .ok none → d.src = c.src
  /-- `Ok(None)` is returned as long as there is no whole frame. -/
  waits : ∀ d, c.outcome = some d → d.result = .ok none → ¬ HoldsFrame c.src

/-- However the stream is cut, every call does what it should, and the packets and the error are the
same. -/
def CutIndependent (bytes : List UInt8) : Prop :=
  (∀ cut : List (List UInt8), cut.flatten = bytes →
    ∀ c ∈ F.feed .needFixedHeader [] cut, F.CallOk c) ∧
  ∀ cut cut' : List (List UInt8), cut.flatten = bytes → cut'.flatten = bytes →
    packets (F.feed .needFixedHeader [] cut) = packets (F.feed .needFixedHeader [] cut') ∧
      error (F.feed .needFixedHeader [] cut) = error (F.feed .needFixedHeader [] cut')

variable {F}

/-- The calls for the first read, and those for the other ones with what it leaves. -/
theorem feed_cons {self : MqttDecoder} {buf read : List UInt8} {reads : List (List UInt8)} :
    F.feed self buf (read :: reads) =
      (F.drain ((buf ++ read).length + 1) self (buf ++ read)).1 ++
        match (F.drain ((buf ++ read).length + 1) self (buf ++ read)).2 with
        | none => []
        | some (self, buf) => F.feed self buf reads := by
  rw [feed]
  rcases F.drain ((buf ++ read).length + 1) self (buf ++ read) with ⟨calls, _ | ⟨self', buf'⟩⟩ <;>
    simp

/-! ## Single calls -/

/-- The call on an empty buffer. -/
theorem decode_nil : F.decode .needFixedHeader [] = some ⟨.ok none, .needFixedHeader, []⟩ := rfl

theorem not_holdsFrame_nil : ¬ HoldsFrame [] := by
  rintro ⟨t, body, rest, -, h⟩
  cases h

/-- It does what it should. -/
theorem callOk_nil : F.CallOk ⟨.needFixedHeader, [], F.decode .needFixedHeader []⟩ where
  no_panic := by simp [decode_nil]
  error_honest d e hd he := by
    cases hd
    cases he
  keeps d hd _ := by
    cases hd
    rfl
  waits _ _ _ := not_holdsFrame_nil

/-- The call on a buffer whose fixed header cannot be read. -/
theorem decode_of_fixedHeader_error {src : List UInt8} {e : E} (hsrc : src ≠ [])
    (h : F.fixedHeader src = .error e) :
    F.decode .needFixedHeader src = some ⟨.error (.fixedHeader e), .needFixedHeader, src⟩ := by
  simp [decode, List.length_pos_iff.mpr hsrc, h]

/-- An error in the packet is not one in the fixed header. -/
theorem consumeFullPacket_ne_fixedHeader {self self' : MqttDecoder} {src src' : List UInt8}
    {nbytes : ℕ} {e : E} :
    F.consumeFullPacket self src nbytes ≠ some ⟨.error (.fixedHeader e), self', src'⟩ := by
  intro h
  unfold consumeFullPacket splitTo at h
  split at h
  · simp only [Option.bind_eq_bind, Option.bind_some] at h
    split at h <;> cases h
  · cases h

/-- An error in the fixed header comes from reading it. -/
theorem fixedHeader_of_decode_error {src src' : List UInt8} {self' : MqttDecoder} {e : E}
    (h : F.decode .needFixedHeader src = some ⟨.error (.fixedHeader e), self', src'⟩) :
    F.fixedHeader src = .error e := by
  simp only [decode] at h
  split at h
  · split at h
    · rename_i e' hheader
      cases h
      exact hheader
    · split at h
      · cases h
      · split at h
        · exact absurd h consumeFullPacket_ne_fixedHeader
        · cases h
  · cases h

/-! ## Streams that fail wherever they are cut -/

/-- A stream whose fixed header is cut off: the first read that is not empty gives the error. -/
theorem feed_of_eof {cut : List (List UInt8)} (hne : cut.flatten ≠ [])
    (h : F.fixedHeader cut.flatten = .error F.eof)
    (hfirst : ∀ p, ¬ cut.flatten.head? = some (F.typeByte p)) :
    (∀ c ∈ F.feed .needFixedHeader [] cut, F.CallOk c) ∧
      packets (F.feed .needFixedHeader [] cut) = [] ∧
      error (F.feed .needFixedHeader [] cut) = some (.fixedHeader F.eof) := by
  induction cut with
  | nil => exact absurd rfl hne
  | cons read reads ih =>
      rw [List.flatten_cons] at hne h hfirst
      cases read with
      | nil =>
          obtain ⟨hok, hpackets, herror⟩ := ih hne h hfirst
          have hfeed : F.feed .needFixedHeader [] ([] :: reads) =
              ⟨.needFixedHeader, [], F.decode .needFixedHeader []⟩ ::
                F.feed .needFixedHeader [] reads := by
            simp [feed, drain, decode_nil]
          rw [hfeed]
          refine ⟨?_, ?_, ?_⟩
          · intro c hc
            rcases List.mem_cons.mp hc with rfl | hc
            · exact callOk_nil
            · exact hok c hc
          · simpa [packets, Call.packet?, decode_nil] using hpackets
          · simpa [error, List.findSome?_cons, Call.error?, decode_nil] using herror
      | cons b read =>
          have hdecode := decode_of_fixedHeader_error (List.cons_ne_nil b read)
            (F.fixedHeader_eof (b :: read) reads.flatten h (List.cons_ne_nil b read))
          have hfeed : F.feed .needFixedHeader [] ((b :: read) :: reads) =
              [⟨.needFixedHeader, b :: read, F.decode .needFixedHeader (b :: read)⟩] := by
            simp [feed, drain, hdecode]
          rw [hfeed]
          refine ⟨?_, ?_, ?_⟩
          · intro c hc
            rw [List.mem_singleton] at hc
            subst hc
            refine ⟨by simp [hdecode], ?_, ?_, ?_⟩
            · rintro d e - - p ⟨tail, htail⟩
              rw [F.encode_eq, List.cons_append, List.cons.injEq] at htail
              exact hfirst p (by simp [htail.1])
            · intro d hd hresult
              rw [hdecode] at hd
              cases hd
              cases hresult
            · intro d hd hresult
              rw [hdecode] at hd
              cases hd
              cases hresult
          · simp [packets, Call.packet?, hdecode]
          · simp [error, Call.error?, hdecode]

/-- On the empty stream there is nothing to do. -/
theorem feed_of_flatten_nil {cut : List (List UInt8)} (h : cut.flatten = []) :
    (∀ c ∈ F.feed .needFixedHeader [] cut, F.CallOk c) ∧
      packets (F.feed .needFixedHeader [] cut) = [] ∧
      error (F.feed .needFixedHeader [] cut) = none := by
  induction cut with
  | nil => simp [feed, packets, error]
  | cons read reads ih =>
      rw [List.flatten_cons, List.append_eq_nil_iff] at h
      obtain ⟨rfl, h⟩ := h
      obtain ⟨hok, hpackets, herror⟩ := ih h
      have hfeed : F.feed .needFixedHeader [] ([] :: reads) =
          ⟨.needFixedHeader, [], F.decode .needFixedHeader []⟩ ::
            F.feed .needFixedHeader [] reads := by
        simp [feed, drain, decode_nil]
      rw [hfeed]
      refine ⟨?_, ?_, ?_⟩
      · intro c hc
        rcases List.mem_cons.mp hc with rfl | hc
        · exact callOk_nil
        · exact hok c hc
      · simpa [packets, Call.packet?, decode_nil] using hpackets
      · simpa [error, List.findSome?_cons, Call.error?, decode_nil] using herror

theorem cutIndependent_nil : F.CutIndependent [] := by
  refine ⟨fun cut hcut => (feed_of_flatten_nil hcut).1, fun cut cut' hcut hcut' => ?_⟩
  obtain ⟨-, hpackets, herror⟩ := feed_of_flatten_nil (F := F) hcut
  obtain ⟨-, hpackets', herror'⟩ := feed_of_flatten_nil (F := F) hcut'
  exact ⟨hpackets.trans hpackets'.symm, herror.trans herror'.symm⟩

/-- The first byte that arrives is an error in either way of cutting. -/
theorem cutIndependent_of_eof {bytes : List UInt8} (hne : bytes ≠ [])
    (h : F.fixedHeader bytes = .error F.eof)
    (hfirst : ∀ p, bytes.head? ≠ some (F.typeByte p)) : F.CutIndependent bytes := by
  have hfeed : ∀ cut : List (List UInt8), cut.flatten = bytes → _ := fun cut hcut =>
    feed_of_eof (F := F) (hcut ▸ hne) (hcut ▸ h) (fun p => hcut ▸ hfirst p)
  refine ⟨fun cut hcut => (hfeed cut hcut).1, fun cut cut' hcut hcut' => ?_⟩
  obtain ⟨-, hpackets, herror⟩ := hfeed cut hcut
  obtain ⟨-, hpackets', herror'⟩ := hfeed cut' hcut'
  exact ⟨hpackets.trans hpackets'.symm, herror.trans herror'.symm⟩

/-! ## Streams that do not fail -/

/-- A first call that gives a packet makes the packets of the stream start with it. -/
theorem packets_feed_ne_nil {src src' : List UInt8} {self' : MqttDecoder} {p : P}
    (h : F.decode .needFixedHeader src = some ⟨.ok (some p), self', src'⟩) :
    packets (F.feed .needFixedHeader [] [src]) ≠ [] := by
  have hmem : (⟨.needFixedHeader, src, F.decode .needFixedHeader src⟩ : Call P E) ∈
      F.feed .needFixedHeader [] [src] := by
    rw [feed_cons, List.nil_append]
    apply List.mem_append_left _
    simp [drain, h]
  refine List.ne_nil_of_mem (a := p) (List.mem_filterMap.mpr ⟨_, hmem, ?_⟩)
  simp [Call.packet?, h]

/-- If the first byte alone gives the same as the whole stream, the whole stream has no fixed header. -/
theorem fixedHeader_of_cutIndependent {b : UInt8} {rest : List UInt8}
    (h : F.CutIndependent (b :: rest)) :
    (∀ p, F.typeByte p ≠ b) ∧ F.fixedHeader (b :: rest) = .error F.eof := by
  obtain ⟨hok, hsame⟩ := h
  have hsingle := decode_of_fixedHeader_error (List.cons_ne_nil b []) (F.fixedHeader_single b)
  have hfeed : F.feed .needFixedHeader [] [[b], rest] =
      [⟨.needFixedHeader, [b], F.decode .needFixedHeader [b]⟩] := by
    simp [feed, drain, hsingle]
  constructor
  · rintro p rfl
    have hcall := hok [[F.typeByte p], rest] (by simp) _ (hfeed ▸ List.mem_singleton.mpr rfl)
    refine hcall.error_honest _ _ hsingle rfl p
      ⟨Varint.encode 3 (F.body p).length ++ F.body p, ?_⟩
    rw [F.encode_eq]
    rfl
  · obtain ⟨hpackets, herror⟩ := hsame [[b], rest] [b :: rest] (by simp) (by simp)
    rw [hfeed] at hpackets herror
    have hone : error [(⟨.needFixedHeader, [b], F.decode .needFixedHeader [b]⟩ : Call P E)] =
        some (.fixedHeader F.eof) := by
      simp [error, Call.error?, hsingle]
    have hnone : packets [(⟨.needFixedHeader, [b], F.decode .needFixedHeader [b]⟩ : Call P E)] = [] := by
      simp [packets, Call.packet?, hsingle]
    rw [hone] at herror
    rw [hnone] at hpackets
    -- the first call on the whole stream has to give that error too
    rcases hdecode : F.decode .needFixedHeader (b :: rest) with _ | ⟨result, self, src⟩
    · simp [feed, drain, hdecode, error, Call.error?] at herror
    · rcases result with e | _ | p
      · have : e = .fixedHeader F.eof := by
          simpa [feed, drain, hdecode, error, Call.error?, eq_comm] using herror
        subst this
        exact fixedHeader_of_decode_error hdecode
      · simp [feed, drain, hdecode, error, Call.error?] at herror
      · exact absurd hpackets.symm (packets_feed_ne_nil hdecode)

/-! ## Reads that end with a packet -/

/-- A call that gives a packet does what it should. -/
theorem callOk_of_packet {self self' : MqttDecoder} {src src' : List UInt8} {p : P}
    (h : F.decode self src = some ⟨.ok (some p), self', src'⟩) :
    F.CallOk ⟨self, src, F.decode self src⟩ := by
  refine ⟨by simp [h], ?_, ?_, ?_⟩
  · intro d e hd hresult
    rw [h] at hd
    cases hd
    cases hresult
  · intro d hd hresult
    rw [h] at hd
    cases hd
    cases hresult
  · intro d hd hresult
    rw [h] at hd
    cases hd
    cases hresult

/-- A read of whole packets with remaining lengths of one byte. -/
theorem drain_flatMap_encode {ps : List P} (h : ∀ p ∈ ps, (F.body p).length < 128) {n : ℕ}
    (hn : (ps.flatMap F.encode).length < n) :
    (∀ c ∈ (F.drain n .needFixedHeader (ps.flatMap F.encode)).1, F.CallOk c) ∧
      packets (F.drain n .needFixedHeader (ps.flatMap F.encode)).1 = ps ∧
      error (F.drain n .needFixedHeader (ps.flatMap F.encode)).1 = none ∧
      (F.drain n .needFixedHeader (ps.flatMap F.encode)).2 = some (.needFixedHeader, []) := by
  induction ps generalizing n with
  | nil =>
      obtain ⟨n, rfl⟩ := Nat.exists_eq_succ_of_ne_zero (Nat.ne_zero_of_lt hn)
      refine ⟨?_, ?_⟩
      · intro c hc
        rw [List.flatMap_nil, drain, decode_nil, List.mem_singleton] at hc
        subst hc
        exact callOk_nil
      · simp [drain, decode_nil, packets, error, Call.packet?, Call.error?]
  | cons p ps ih =>
      obtain ⟨n, rfl⟩ := Nat.exists_eq_succ_of_ne_zero (Nat.ne_zero_of_lt hn)
      rw [List.flatMap_cons, List.length_append] at hn
      have hpos : 0 < (F.encode p).length := by rw [F.encode_eq]; simp
      have hdecode := decode_encode_of_lt (h p List.mem_cons_self) (ps.flatMap F.encode)
      obtain ⟨hok, hpackets, herror, hleft⟩ :=
        ih (fun q hq => h q (List.mem_cons_of_mem _ hq)) (n := n) (by omega)
      rw [List.flatMap_cons, drain, hdecode]
      refine ⟨?_, ?_, ?_, hleft⟩
      · intro c hc
        rcases List.mem_cons.mp hc with rfl | hc
        · rw [← hdecode]
          exact callOk_of_packet hdecode
        · exact hok c hc
      · simpa [packets, Call.packet?] using hpackets
      · simpa [error, List.findSome?_cons, Call.error?] using herror

/-- Reads of whole packets with remaining lengths of one byte. -/
theorem feed_groups {groups : List (List P)}
    (h : ∀ p ∈ groups.flatten, (F.body p).length < 128) :
    (∀ c ∈ F.feed .needFixedHeader [] (groups.map fun ps => ps.flatMap F.encode), F.CallOk c) ∧
      packets (F.feed .needFixedHeader [] (groups.map fun ps => ps.flatMap F.encode)) =
        groups.flatten ∧
      error (F.feed .needFixedHeader [] (groups.map fun ps => ps.flatMap F.encode)) = none := by
  induction groups with
  | nil => simp [feed, packets, error]
  | cons ps groups ih =>
      rw [List.flatten_cons, List.forall_mem_append] at h
      obtain ⟨hok, hpackets, herror, hleft⟩ := drain_flatMap_encode h.1 (Nat.lt_succ_self _)
      obtain ⟨hok', hpackets', herror'⟩ := ih h.2
      rw [List.map_cons, feed_cons, List.nil_append, hleft]
      refine ⟨?_, ?_, ?_⟩
      · intro c hc
        rcases List.mem_append.mp hc with hc | hc
        · exact hok c hc
        · exact hok' c hc
      · rw [packets, List.filterMap_append, List.flatten_cons]
        exact congrArg₂ _ hpackets hpackets'
      · rw [error, List.findSome?_append]
        rw [error] at herror
        rw [herror]
        exact herror'

/-! ## When the cutting does not matter -/

/-- **Cutting the stream.** What the decoder does is independent of how a stream is cut into reads, and
every call does what it should, if and only if the stream is empty, or no packet starts with its first
byte and its fixed header is cut off. Reads that end with a packet, with remaining lengths of one
byte, are decoded as they should be all the same. -/
theorem cutIndependent_iff (F : MqttFormat P E) :
    (∀ bytes : List UInt8, F.CutIndependent bytes ↔
      bytes = [] ∨ (∀ p, bytes.head? ≠ some (F.typeByte p)) ∧ F.fixedHeader bytes = .error F.eof) ∧
    ∀ groups : List (List P), (∀ p ∈ groups.flatten, (F.body p).length < 128) →
      (∀ c ∈ F.feed .needFixedHeader [] (groups.map fun ps => ps.flatMap F.encode), F.CallOk c) ∧
        packets (F.feed .needFixedHeader [] (groups.map fun ps => ps.flatMap F.encode)) =
          groups.flatten ∧
        error (F.feed .needFixedHeader [] (groups.map fun ps => ps.flatMap F.encode)) = none := by
  refine ⟨fun bytes => ⟨fun h => ?_, ?_⟩, fun groups => feed_groups⟩
  · cases bytes with
    | nil => exact .inl rfl
    | cons b rest =>
        obtain ⟨hfirst, hheader⟩ := fixedHeader_of_cutIndependent h
        refine .inr ⟨fun p hp => hfirst p ?_, hheader⟩
        simpa using hp.symm
  · rintro (rfl | ⟨hfirst, hheader⟩)
    · exact cutIndependent_nil
    · by_cases hne : bytes = []
      · exact hne ▸ cutIndependent_nil
      · exact cutIndependent_of_eof hne hheader hfirst

end MqttFormat

/-- The theorem for a byte that starts no packet. -/
theorem cutIndependent_iff_reserved : publishFormat.CutIndependent [0x00] :=
  ((MqttFormat.cutIndependent_iff publishFormat).1 _).mpr
    (.inr ⟨fun _ => (by decide : some (0x00 : UInt8) ≠ some 0x30), rfl⟩)

/-- A frame of seven bytes. Whole it is decoded. If the first read ends after its first byte, that is
an error; if the first read ends after four bytes and one more byte comes, the decoder panics. -/
theorem cut_frame_fails :
    ∃ p : Publish,
      MqttFormat.packets (publishFormat.feed .needFixedHeader [] [publishFormat.encode p]) = [p] ∧
      MqttFormat.error (publishFormat.feed .needFixedHeader []
        [(publishFormat.encode p).take 1, (publishFormat.encode p).drop 1]) =
          some (.fixedHeader .eof) ∧
      (publishFormat.feed .needFixedHeader [] [(publishFormat.encode p).take 4,
        ((publishFormat.encode p).drop 4).take 1, (publishFormat.encode p).drop 5]).any
          (·.outcome.isNone) = true ∧
      ¬ publishFormat.CutIndependent (publishFormat.encode p) := by
  refine ⟨⟨[21, 50], by decide⟩, by decide +kernel, by decide +kernel, by decide +kernel, ?_⟩
  intro h
  have hsame := (h.2 [[0x30], [5, 0, 1, 0x74, 21, 50]] [[0x30, 5, 0, 1, 0x74, 21, 50]]
    (by decide +kernel) (by decide +kernel)).2
  revert hsame
  decide +kernel

end BleWsCentral.Mqtt
