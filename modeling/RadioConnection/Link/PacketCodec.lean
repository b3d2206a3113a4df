import RadioConnection.Link.Packet

/-!
# The codec of the link packet

`link_packet_encode` and `link_packet_decode` with the memory that they write:
the encoder puts each field at its offset of a cleared buffer, the decoder fills a
packet of its own and copies it out at the end.  A null pointer is `none`.

* `linkPacketEncode_eq`, `linkPacketDecode_eq`: they are `encode` and `decode`.
* `rawFrame`: the frame that a packet was decoded from.
* `linkPacketCodec`: what the two do together.
-/

namespace RadioConnection.LinkPacket

/-! ## The encoder -/

def writeBytes (buffer : List UInt8) (offset : ℕ) (bytes : List UInt8) : List UInt8 :=
  buffer.take offset ++ bytes ++ buffer.drop (offset + bytes.length)

/-- The fields before the payload, each at its offset. -/
def writeHeader (packet : LinkPacket) (encoded : List UInt8) : List UInt8 :=
  let encoded := writeBytes encoded 0 [linkPacketMagicByte0]
  let encoded := writeBytes encoded 1 [linkPacketMagicByte1]
  let encoded := writeBytes encoded 2 [linkPacketVersion]
  let encoded := writeBytes encoded 3 [packet.messageType.code]
  let encoded := writeBytes encoded 4 [packet.sourceId]
  let encoded := writeBytes encoded 5 [packet.destinationId]
  let encoded := writeBytes encoded 6 (writeU16Be packet.sequence)
  let encoded := writeBytes encoded 8 (writeU16Be packet.acknowledgedSequence)
  let encoded := writeBytes encoded 10 [packet.payloadLength]
  writeBytes encoded 11 [packet.flags]

/-- The statements of `link_packet_encode` behind its checks. -/
def writeFrame (packet : LinkPacket) (encoded : List UInt8) : List UInt8 :=
  let encoded := writeBytes encoded 0 (List.replicate linkPacketEncodedSize 0)
  let encoded := writeHeader packet encoded
  let encoded := writeBytes encoded 12 (packet.payload.toList.take packet.payloadLength.toNat)
  writeBytes encoded 28 (writeU16Be (linkCrc16CcittFalse (encoded.take 28)))

/-- `link_packet_encode`, with the buffer that it leaves. -/
def linkPacketEncode (packet : Option LinkPacket) (encoded : Option (List UInt8))
    (encodedCapacity : ℕ) : LinkPacketStatus × Option (List UInt8) :=
  match packet, encoded with
  | some packet, some encoded =>
    if encodedCapacity < linkPacketEncodedSize then (.invalidFrameLength, some encoded)
    else if ¬ messageTypeIsValid packet.messageType.code then (.invalidMessageType, some encoded)
    else if ¬ payloadLengthIsValid packet.payloadLength then (.invalidPayloadLength, some encoded)
    else (.ok, some (writeFrame packet encoded))
  | _, _ => (.invalidArgument, encoded)

/-! ## The decoder -/

/-- `link_packet_decode`, with the packet that it leaves. -/
def linkPacketDecode (encoded : Option (List UInt8)) (expectedDestinationId : UInt8)
    (packet : Option LinkPacket) : LinkPacketStatus × Option LinkPacket :=
  match encoded, packet with
  | some encoded, some _ =>
    if encoded.length ≠ linkPacketEncodedSize then (.invalidFrameLength, packet)
    else if encoded.getD 0 0 ≠ linkPacketMagicByte0 ∨ encoded.getD 1 0 ≠ linkPacketMagicByte1 then
      (.invalidMagic, packet)
    else if encoded.getD 2 0 ≠ linkPacketVersion then (.unsupportedVersion, packet)
    else if ¬ messageTypeIsValid (encoded.getD 3 0) then (.invalidMessageType, packet)
    else if encoded.getD 5 0 ≠ expectedDestinationId then (.invalidDestination, packet)
    else if ¬ payloadLengthIsValid (encoded.getD 10 0) then (.invalidPayloadLength, packet)
    else if readU16Be (encoded.getD 28 0) (encoded.getD 29 0)
        ≠ linkCrc16CcittFalse (encoded.take 28) then (.crcMismatch, packet)
    else (.ok, some (ofFrame encoded))
  | _, _ => (.invalidArgument, packet)

theorem linkPacketDecode_eq (encoded : List UInt8) (d : UInt8) (out : LinkPacket) :
    linkPacketDecode (some encoded) d (some out) =
      match decode encoded d with
      | .error status => (status, some out)
      | .ok packet => (.ok, some packet) := by
  unfold linkPacketDecode decode
  dsimp only
  split_ifs <;> rfl

/-! ## The bytes that the encoder writes -/

def headerFields (packet : LinkPacket) : List UInt8 :=
  [linkPacketMagicByte0, linkPacketMagicByte1, linkPacketVersion, packet.messageType.code,
    packet.sourceId, packet.destinationId] ++ writeU16Be packet.sequence ++
  writeU16Be packet.acknowledgedSequence ++ [packet.payloadLength, packet.flags]

theorem length_headerFields (packet : LinkPacket) : packet.headerFields.length = 12 := rfl

theorem writeHeader_eq (packet : LinkPacket) (tail : List UInt8) :
    writeHeader packet (List.replicate 12 0 ++ tail) = packet.headerFields ++ tail := by
  simp [writeHeader, writeBytes, writeU16Be, headerFields, List.replicate_succ]

theorem toList_copyPayload (payload : Vector UInt8 linkPacketPayloadSize) {n : ℕ} (hn : n ≤ 16) :
    (copyPayload payload n).toList = payload.toList.take n ++ List.replicate (16 - n) 0 := by
  have htake : (payload.toList.take n).length = n := by
    rw [List.length_take, Vector.length_toList]
    exact Nat.min_eq_left hn
  apply List.ext_getElem
  · rw [List.length_append, htake, List.length_replicate, Vector.length_toList]
    exact (Nat.add_sub_cancel' hn).symm
  · intro i hi hi'
    by_cases hlt : i < n
    · rw [List.getElem_append_left (by rw [htake]; exact hlt)]
      simp [copyPayload, hlt]
    · rw [List.getElem_append_right (by rw [htake]; exact Nat.le_of_not_lt hlt)]
      simp [copyPayload, hlt]

theorem writeBytes_append {l old bytes tail : List UInt8} {offset : ℕ} (hl : l.length = offset)
    (hold : old.length = bytes.length) :
    writeBytes (l ++ (old ++ tail)) offset bytes = l ++ (bytes ++ tail) := by
  rw [writeBytes, List.take_left' hl, ← List.drop_drop, List.drop_left' hl, List.drop_left' hold,
    List.append_assoc]

/-- **The encoder writes the frame**, and nothing behind it. -/
theorem writeFrame_eq {packet : LinkPacket} (encoded : List UInt8)
    (hl : packet.payloadLength.toNat ≤ 16) :
    writeFrame packet encoded =
      packet.frame.toList ++ encoded.drop linkPacketEncodedSize := by
  generalize hn : packet.payloadLength.toNat = n at hl
  have hlength : (packet.payload.toList.take n).length = n := by
    rw [List.length_take, Vector.length_toList]
    exact Nat.min_eq_left hl
  have hzeros : List.replicate 30 (0 : UInt8) = List.replicate 12 0 ++
      (List.replicate n 0 ++ (List.replicate (16 - n) 0 ++ List.replicate 2 0)) := by
    rw [← List.replicate_add, ← List.replicate_add, ← List.replicate_add]
    congr 1
    omega
  have hclear : writeBytes encoded 0 (List.replicate linkPacketEncodedSize 0) =
      List.replicate 30 0 ++ encoded.drop linkPacketEncodedSize := by
    rw [writeBytes, List.take_zero, List.nil_append, List.length_replicate, Nat.zero_add]
  have hheader : packet.header = packet.headerFields ++
      (packet.payload.toList.take n ++ List.replicate (16 - n) 0) := by
    rw [header, hn, toList_copyPayload packet.payload hl, headerFields]
  have hpayload : writeBytes (writeHeader packet (writeBytes encoded 0
      (List.replicate linkPacketEncodedSize 0))) 12 (packet.payload.toList.take n) =
        packet.header ++ (List.replicate 2 0 ++ encoded.drop linkPacketEncodedSize) := by
    rw [hclear, hzeros, List.append_assoc, writeHeader_eq, List.append_assoc,
      writeBytes_append (length_headerFields packet) (by rw [hlength, List.length_replicate]),
      hheader]
    simp only [List.append_assoc]
  have htake : (packet.header ++ (List.replicate 2 0 ++
      encoded.drop linkPacketEncodedSize)).take 28 = packet.header :=
    List.take_left' (header_length packet)
  have hcrc : (List.replicate 2 (0 : UInt8)).length =
      (writeU16Be (linkCrc16CcittFalse packet.header)).length := rfl
  unfold writeFrame
  dsimp only
  rw [hn, hpayload, htake, writeBytes_append (header_length packet) hcrc, toList_frame,
    List.append_assoc]

theorem messageTypeIsValid_iff (byte : UInt8) :
    messageTypeIsValid byte = true ↔ 1 ≤ byte.toNat ∧ byte.toNat ≤ 4 := by
  rw [messageTypeIsValid, Bool.and_eq_true, decide_eq_true_iff, decide_eq_true_iff,
    UInt8.le_iff_toNat_le, UInt8.le_iff_toNat_le]
  rfl

theorem payloadLengthIsValid_iff (payloadLength : UInt8) :
    payloadLengthIsValid payloadLength = true ↔
      10 ≤ payloadLength.toNat ∧ payloadLength.toNat ≤ 16 := by
  rw [payloadLengthIsValid, Bool.and_eq_true, decide_eq_true_iff, decide_eq_true_iff]
  rfl

theorem linkPacketEncode_eq (packet : LinkPacket) (encoded : List UInt8) (capacity : ℕ) :
    linkPacketEncode (some packet) (some encoded) capacity =
      match packet.encode capacity with
      | .error status => (status, some encoded)
      | .ok frame => (.ok, some (frame.toList ++ encoded.drop linkPacketEncodedSize)) := by
  rw [linkPacketEncode, encode]
  by_cases hcapacity : capacity < linkPacketEncodedSize
  · rw [if_pos hcapacity, if_pos hcapacity]
  rw [if_neg hcapacity, if_neg hcapacity]
  by_cases htype : messageTypeIsValid packet.messageType.code = true
  · rw [if_neg (not_not.mpr htype), if_neg (not_not.mpr htype)]
    by_cases hlength : payloadLengthIsValid packet.payloadLength = true
    · rw [if_neg (not_not.mpr hlength), if_neg (not_not.mpr hlength),
        writeFrame_eq encoded ((payloadLengthIsValid_iff packet.payloadLength).mp hlength).2]
    · rw [if_pos hlength, if_pos hlength]
  · rw [if_pos htype, if_pos htype]

/-! ## The frames that are accepted -/

structure Accepts (encoded : List UInt8) (d : UInt8) : Prop where
  length : encoded.length = 30
  magic : encoded.getD 0 0 = linkPacketMagicByte0 ∧ encoded.getD 1 0 = linkPacketMagicByte1
  version : encoded.getD 2 0 = linkPacketVersion
  messageType : 1 ≤ (encoded.getD 3 0).toNat ∧ (encoded.getD 3 0).toNat ≤ 4
  destination : encoded.getD 5 0 = d
  payloadLength : 10 ≤ (encoded.getD 10 0).toNat ∧ (encoded.getD 10 0).toNat ≤ 16
  crc : 256 * (encoded.getD 28 0).toNat + (encoded.getD 29 0).toNat =
    (linkCrc16CcittFalse (encoded.take 28)).toNat

theorem toNat_readU16Be (high low : UInt8) :
    (readU16Be high low).toNat = 256 * high.toNat + low.toNat := by
  have hhigh : high.toNat < 256 := high.toNat_lt
  have hlow : low.toNat < 2 ^ 8 := low.toNat_lt
  have hor := Nat.two_pow_add_eq_or_of_lt hlow high.toNat
  rw [readU16Be, UInt16.toNat_or, UInt16.toNat_shiftLeft, UInt8.toNat_toUInt16, UInt8.toNat_toUInt16]
  show high.toNat <<< 8 % 2 ^ 16 ||| low.toNat = _
  rw [Nat.shiftLeft_eq, Nat.mod_eq_of_lt (by omega), Nat.mul_comm, ← hor]

theorem decode_eq_ok_iff {encoded : List UInt8} {d : UInt8} {packet : LinkPacket} :
    decode encoded d = .ok packet ↔ Accepts encoded d ∧ packet = ofFrame encoded := by
  have hcrc : readU16Be (encoded.getD 28 0) (encoded.getD 29 0) =
      linkCrc16CcittFalse (encoded.take 28) ↔
        256 * (encoded.getD 28 0).toNat + (encoded.getD 29 0).toNat =
          (linkCrc16CcittFalse (encoded.take 28)).toNat := by
    rw [← UInt16.toNat_inj, toNat_readU16Be]
  constructor
  · intro h
    unfold decode at h
    split_ifs at h with hlength hmagic hversion htype hdestination hpayload hmatch
    have hmagic' := not_or.mp hmagic
    refine ⟨⟨not_not.mp hlength, ⟨not_not.mp hmagic'.1, not_not.mp hmagic'.2⟩, not_not.mp hversion,
      (messageTypeIsValid_iff _).mp htype, not_not.mp hdestination,
      (payloadLengthIsValid_iff _).mp hpayload, hcrc.mp (not_not.mp hmatch)⟩, ?_⟩
    exact (Except.ok.inj h).symm
  · intro ⟨h, hpacket⟩
    have hmagic : ¬ (encoded.getD 0 0 ≠ linkPacketMagicByte0 ∨
        encoded.getD 1 0 ≠ linkPacketMagicByte1) :=
      not_or.mpr ⟨not_not.mpr h.magic.1, not_not.mpr h.magic.2⟩
    rw [decode, if_neg (not_not.mpr h.length), if_neg hmagic, if_neg (not_not.mpr h.version),
      if_neg (not_not.mpr ((messageTypeIsValid_iff _).mpr h.messageType)),
      if_neg (not_not.mpr h.destination),
      if_neg (not_not.mpr ((payloadLengthIsValid_iff _).mpr h.payloadLength)),
      if_neg (not_not.mpr (hcrc.mpr h.crc)), hpacket]

/-! ## The frame behind a packet -/

/-- The bytes under the CRC, with the whole payload. -/
def rawHeader (packet : LinkPacket) : List UInt8 :=
  packet.headerFields ++ packet.payload.toList

/-- The frame that a packet was decoded from. -/
def rawFrame (packet : LinkPacket) : List UInt8 :=
  packet.rawHeader ++ writeU16Be (linkCrc16CcittFalse packet.rawHeader)

theorem length_rawHeader (packet : LinkPacket) : packet.rawHeader.length = 28 := by
  rw [rawHeader, List.length_append, length_headerFields, Vector.length_toList]
  rfl

theorem code_ofCode {byte : UInt8} (h : 1 ≤ byte.toNat ∧ byte.toNat ≤ 4) :
    (LinkMessageType.ofCode byte).code = byte := by
  have hcases : byte = 1 ∨ byte = 2 ∨ byte = 3 ∨ byte = 4 := by
    simp only [← UInt8.toNat_inj]
    show byte.toNat = 1 ∨ byte.toNat = 2 ∨ byte.toNat = 3 ∨ byte.toNat = 4
    omega
  rcases hcases with rfl | rfl | rfl | rfl <;> rfl

theorem writeU16Be_read (high low : UInt8) : writeU16Be (readU16Be high low) = [high, low] := by
  have hread := toNat_readU16Be high low
  have hhigh : high.toNat < 256 := high.toNat_lt
  have hlow : low.toNat < 256 := low.toNat_lt
  have hfirst : highByte (readU16Be high low) = high := by
    apply UInt8.toNat_inj.mp
    rw [highByte, UInt16.toNat_toUInt8, UInt16.toNat_shiftRight, hread]
    show (256 * high.toNat + low.toNat) >>> 8 % 256 = high.toNat
    rw [Nat.shiftRight_eq_div_pow]
    omega
  have hsecond : lowByte (readU16Be high low) = low := by
    apply UInt8.toNat_inj.mp
    rw [lowByte, UInt16.toNat_toUInt8, UInt16.toNat_and, hread]
    show ((256 * high.toNat + low.toNat) &&& (2 ^ 8 - 1)) % 256 = low.toNat
    rw [Nat.and_two_pow_sub_one_eq_mod]
    omega
  rw [writeU16Be, hfirst, hsecond]

/-- **An accepted frame is the frame behind its packet.** -/
theorem Accepts.rawFrame_ofFrame {encoded : List UInt8} {d : UInt8} (h : Accepts encoded d) :
    rawFrame (ofFrame encoded) = encoded := by
  have hheader : rawHeader (ofFrame encoded) = encoded.take 28 := by
    have hfields : headerFields (ofFrame encoded) = (List.range 12).map (encoded.getD · 0) := by
      rw [headerFields, ofFrame]
      dsimp only
      rw [code_ofCode h.messageType, writeU16Be_read, writeU16Be_read, ← h.magic.1, ← h.magic.2,
        ← h.version]
      rfl
    apply List.ext_getElem
    · rw [length_rawHeader, List.length_take, h.length]
      rfl
    · intro i hi hi'
      rw [length_rawHeader] at hi
      have hin : i < encoded.length := by
        rw [h.length]
        omega
      rw [List.getElem_take]
      by_cases hfield : i < 12
      · simp only [rawHeader, hfields]
        rw [List.getElem_append_left (by simpa using hfield), List.getElem_map, List.getElem_range,
          List.getD_eq_getElem _ _ hin]
      · simp only [rawHeader]
        rw [List.getElem_append_right (by rw [length_headerFields]; omega)]
        simp only [length_headerFields, Vector.getElem_toList, ofFrame, Vector.getElem_ofFn]
        rw [Nat.add_sub_cancel' (Nat.le_of_not_lt hfield), List.getD_eq_getElem _ _ hin]
  have hcrc : writeU16Be (linkCrc16CcittFalse (encoded.take 28)) = encoded.drop 28 := by
    have hread : readU16Be (encoded.getD 28 0) (encoded.getD 29 0) =
        linkCrc16CcittFalse (encoded.take 28) := by
      apply UInt16.toNat_inj.mp
      rw [toNat_readU16Be, h.crc]
    have hlength := h.length
    rw [← hread, writeU16Be_read, List.drop_eq_getElem_cons (by omega),
      List.drop_eq_getElem_cons (by omega), List.drop_of_length_le (by omega),
      List.getD_eq_getElem _ _ (by omega), List.getD_eq_getElem _ _ (by omega)]
  rw [rawFrame, hheader, hcrc, List.take_append_drop]

/-! ## The codec -/

theorem decode_error {encoded : List UInt8} {d : UInt8} {status : LinkPacketStatus}
    (h : decode encoded d = .error status) : status ≠ .ok := by
  unfold decode at h
  split_ifs at h <;>
  · obtain rfl := Except.error.inj h
    nofun

theorem linkPacketDecode_ok_iff {encoded : List UInt8} {d : UInt8} {out packet : LinkPacket} :
    linkPacketDecode (some encoded) d (some out) = (.ok, some packet) ↔
      Accepts encoded d ∧ packet = ofFrame encoded := by
  rw [linkPacketDecode_eq, ← decode_eq_ok_iff]
  cases hdecode : decode encoded d with
  | error status =>
    constructor
    · intro h
      exact absurd (Prod.mk.inj h).1 (decode_error hdecode)
    · nofun
  | ok decoded =>
    constructor
    · intro h
      rw [Option.some.inj (Prod.mk.inj h).2]
    · intro h
      rw [Except.ok.inj h]

theorem linkPacketDecode_status_iff {encoded : List UInt8} {d : UInt8} {out : LinkPacket} :
    (linkPacketDecode (some encoded) d (some out)).1 = .ok ↔ Accepts encoded d := by
  constructor
  · intro h
    rw [linkPacketDecode_eq] at h
    cases hdecode : decode encoded d with
    | error status =>
      rw [hdecode] at h
      exact absurd h (decode_error hdecode)
    | ok packet => exact (decode_eq_ok_iff.mp hdecode).1
  · intro h
    rw [linkPacketDecode_ok_iff.mpr ⟨h, rfl⟩]

/-- The padding bytes are cleared by the encoder alone. -/
theorem frame_eq_rawFrame_iff (packet : LinkPacket) :
    packet.frame.toList = packet.rawFrame ↔
      copyPayload packet.payload packet.payloadLength.toNat = packet.payload := by
  have hheader : packet.header = packet.headerFields ++
      (copyPayload packet.payload packet.payloadLength.toNat).toList := rfl
  constructor
  · intro h
    have htake := congrArg (List.take 28) h
    rw [toList_frame, rawFrame, List.take_left' (header_length packet),
      List.take_left' (length_rawHeader packet), hheader, rawHeader] at htake
    exact Vector.toList_inj.mp (List.append_cancel_left htake)
  · intro h
    rw [toList_frame, rawFrame, rawHeader, hheader, h]

theorem copyPayload_eq_iff (payload : Vector UInt8 linkPacketPayloadSize) (n : ℕ) :
    copyPayload payload n = payload ↔ ∀ i : Fin 16, n ≤ i.val → payload[i.val] = 0 := by
  constructor
  · intro h i hi
    have hat := congrArg (·[i.val]) h
    simp only [copyPayload, Vector.getElem_ofFn] at hat
    rw [if_neg (Nat.not_lt.mpr hi)] at hat
    exact hat.symm
  · intro h
    apply Vector.ext
    intro i hi
    rw [copyPayload, Vector.getElem_ofFn]
    split_ifs with hlt
    · rfl
    · exact (h ⟨i, hi⟩ (Nat.not_lt.mp hlt)).symm

structure LinkPacketCodec : Prop where
  /-- A packet with a message type and an allowed payload length comes back with its padding
  cleared. -/
  roundTrip : ∀ (packet out : LinkPacket) (encoded : List UInt8) (capacity : ℕ),
    packet.messageType ≠ .unset → 10 ≤ packet.payloadLength.toNat →
    packet.payloadLength.toNat ≤ 16 → 30 ≤ capacity →
    ∃ frame : List UInt8, frame.length = 30 ∧
      linkPacketEncode (some packet) (some encoded) capacity =
        (.ok, some (frame ++ encoded.drop 30)) ∧
      linkPacketDecode (some frame) packet.destinationId (some out) = (.ok, some packet.cleared)
  accepts : ∀ (encoded : List UInt8) (d : UInt8) (out : LinkPacket),
    (linkPacketDecode (some encoded) d (some out)).1 = .ok ↔ Accepts encoded d
  injective : ∀ (encoded encoded' : List UInt8) (d d' : UInt8) (out out' packet : LinkPacket),
    linkPacketDecode (some encoded) d (some out) = (.ok, some packet) →
    linkPacketDecode (some encoded') d' (some out') = (.ok, some packet) → encoded = encoded'
  reencode : ∀ (encoded buffer : List UInt8) (d : UInt8) (out packet : LinkPacket) (capacity : ℕ),
    linkPacketDecode (some encoded) d (some out) = (.ok, some packet) → 30 ≤ capacity →
    (linkPacketEncode (some packet) (some buffer) capacity =
        (.ok, some (encoded ++ buffer.drop 30)) ↔
      ∀ i, packet.payloadLength.toNat ≤ i → i < 16 → encoded.getD (12 + i) 0 = 0)
  decodeError : ∀ (encoded : Option (List UInt8)) (d : UInt8) (out : Option LinkPacket),
    (linkPacketDecode encoded d out).1 ≠ .ok → (linkPacketDecode encoded d out).2 = out
  encodeError : ∀ (packet : Option LinkPacket) (encoded : Option (List UInt8)) (capacity : ℕ),
    (linkPacketEncode packet encoded capacity).1 ≠ .ok →
      (linkPacketEncode packet encoded capacity).2 = encoded

theorem reencode_iff {encoded : List UInt8} (buffer : List UInt8) {d : UInt8}
    (h : Accepts encoded d) {capacity : ℕ} (hcapacity : 30 ≤ capacity) :
    linkPacketEncode (some (ofFrame encoded)) (some buffer) capacity =
        (.ok, some (encoded ++ buffer.drop 30)) ↔
      ∀ i, (ofFrame encoded).payloadLength.toNat ≤ i → i < 16 → encoded.getD (12 + i) 0 = 0 := by
  have htype : messageTypeIsValid (ofFrame encoded).messageType.code = true := by
    rw [ofFrame, code_ofCode h.messageType]
    exact (messageTypeIsValid_iff _).mpr h.messageType
  have hlength : payloadLengthIsValid (ofFrame encoded).payloadLength = true :=
    (payloadLengthIsValid_iff _).mpr h.payloadLength
  have hsame : linkPacketEncode (some (ofFrame encoded)) (some buffer) capacity =
      (.ok, some (encoded ++ buffer.drop 30)) ↔
        (ofFrame encoded).frame.toList = rawFrame (ofFrame encoded) := by
    rw [linkPacketEncode_eq, encode_eq_ok hcapacity htype hlength, h.rawFrame_ofFrame]
    constructor
    · intro heq
      exact List.append_cancel_right (Option.some.inj (Prod.mk.inj heq).2)
    · intro heq
      show (LinkPacketStatus.ok, some ((ofFrame encoded).frame.toList ++ buffer.drop 30)) = _
      rw [heq]
  rw [hsame, frame_eq_rawFrame_iff, copyPayload_eq_iff]
  constructor
  · intro hzero i hi hlt
    have hat := hzero ⟨i, hlt⟩ hi
    simp only [ofFrame, Vector.getElem_ofFn] at hat
    exact hat
  · intro hzero i hi
    simp only [ofFrame, Vector.getElem_ofFn]
    exact hzero i.val hi i.isLt

/-- **The codec of the link packet.** -/
theorem linkPacketCodec : LinkPacketCodec where
  roundTrip := by
    intro packet out encoded capacity hset hmin hmax hcapacity
    have htype : messageTypeIsValid packet.messageType.code = true := by
      cases hcase : packet.messageType with
      | unset => exact absurd hcase hset
      | data => rfl
      | ack => rfl
      | ping => rfl
      | pong => rfl
    have hlength : payloadLengthIsValid packet.payloadLength = true :=
      (payloadLengthIsValid_iff _).mpr ⟨hmin, hmax⟩
    refine ⟨packet.frame.toList, Vector.length_toList, ?_, ?_⟩
    · rw [linkPacketEncode_eq, encode_eq_ok hcapacity htype hlength]
    · rw [linkPacketDecode_eq, decode_frame htype hlength]
  accepts := by
    intro encoded d out
    exact linkPacketDecode_status_iff
  injective := by
    intro encoded encoded' d d' out out' packet h h'
    obtain ⟨haccepts, hpacket⟩ := linkPacketDecode_ok_iff.mp h
    obtain ⟨haccepts', hpacket'⟩ := linkPacketDecode_ok_iff.mp h'
    rw [← haccepts.rawFrame_ofFrame, ← haccepts'.rawFrame_ofFrame, ← hpacket, ← hpacket']
  reencode := by
    intro encoded buffer d out packet capacity h hcapacity
    obtain ⟨haccepts, rfl⟩ := linkPacketDecode_ok_iff.mp h
    exact reencode_iff buffer haccepts hcapacity
  decodeError := by
    intro encoded d out h
    cases encoded with
    | none => rfl
    | some encoded =>
      cases out with
      | none => rfl
      | some out =>
        rw [linkPacketDecode_eq] at h ⊢
        cases hdecode : decode encoded d with
        | error status => rfl
        | ok packet =>
          rw [hdecode] at h
          exact absurd rfl h
  encodeError := by
    intro packet encoded capacity h
    cases packet with
    | none => rfl
    | some packet =>
      cases encoded with
      | none => rfl
      | some encoded =>
        rw [linkPacketEncode_eq] at h ⊢
        cases hencode : packet.encode capacity with
        | error status => rfl
        | ok frame =>
          rw [hencode] at h
          exact absurd rfl h

end RadioConnection.LinkPacket
