import Mathlib

/-!
# The link packet and its frame

`link_crc16.c` and `link_packet.c`: a `LinkPacket` travels as a frame of 30
bytes, two magic bytes, a version, the header fields with 16-bit numbers in
big-endian order, 16 payload bytes and a CRC of the 28 bytes before it.

`decode_frame`: a frame that `encode` built decodes, for its destination, to
the packet it was built from, with the payload bytes past the payload length
cleared.
-/

namespace RadioConnection

/-! ## The CRC -/

def linkCrc16CcittFalseInit : UInt16 := 0xFFFF
def linkCrc16CcittFalsePoly : UInt16 := 0x1021

def linkCrc16Bit (crc : UInt16) : UInt16 :=
  if crc &&& 0x8000 ≠ 0 then (crc <<< 1) ^^^ linkCrc16CcittFalsePoly else crc <<< 1

def linkCrc16Byte (crc : UInt16) (byte : UInt8) : UInt16 :=
  linkCrc16Bit^[8] (crc ^^^ (byte.toUInt16 <<< 8))

def linkCrc16CcittFalse (data : List UInt8) : UInt16 :=
  data.foldl linkCrc16Byte linkCrc16CcittFalseInit

/-! ## Packets -/

def linkPacketMagicByte0 : UInt8 := 0x4C
def linkPacketMagicByte1 : UInt8 := 0x52
def linkPacketVersion : UInt8 := 1
def linkPacketMinPayloadSize : Nat := 10
abbrev linkPacketPayloadSize : Nat := 16
abbrev linkPacketEncodedSize : Nat := 30
def linkPacketFlagNone : UInt8 := 0

/-- `unset` is the value `0` of a cleared packet, which names no message. -/
inductive LinkMessageType
  | unset | data | ack | ping | pong
  deriving DecidableEq, Repr

namespace LinkMessageType

def code : LinkMessageType → UInt8
  | unset => 0
  | data => 1
  | ack => 2
  | ping => 3
  | pong => 4

/-- The cast of a byte that `messageTypeIsValid` accepts. -/
def ofCode (byte : UInt8) : LinkMessageType :=
  if byte = 1 then data else if byte = 2 then ack else if byte = 3 then ping
  else if byte = 4 then pong else unset

@[simp] theorem ofCode_code (t : LinkMessageType) : ofCode t.code = t := by cases t <;> rfl

end LinkMessageType

inductive LinkPacketStatus
  | ok | invalidArgument | invalidFrameLength | invalidMagic | unsupportedVersion
  | invalidMessageType | invalidDestination | invalidPayloadLength | crcMismatch
  deriving DecidableEq, Repr

structure LinkPacket where
  messageType : LinkMessageType
  sourceId : UInt8
  destinationId : UInt8
  sequence : UInt16
  acknowledgedSequence : UInt16
  payloadLength : UInt8
  flags : UInt8
  payload : Vector UInt8 linkPacketPayloadSize
  deriving DecidableEq, Repr

/-- A frame as `link_packet_encode` writes it. -/
abbrev LinkFrame : Type := Vector UInt8 linkPacketEncodedSize

namespace LinkPacket

/-- The packet of a cleared `LinkPacket`. -/
def zero : LinkPacket := ⟨.unset, 0, 0, 0, 0, 0, 0, Vector.replicate _ 0⟩

def messageTypeIsValid (messageType : UInt8) : Bool :=
  LinkMessageType.data.code ≤ messageType && messageType ≤ LinkMessageType.pong.code

def payloadLengthIsValid (payloadLength : UInt8) : Bool :=
  linkPacketMinPayloadSize ≤ payloadLength.toNat && payloadLength.toNat ≤ linkPacketPayloadSize

def highByte (value : UInt16) : UInt8 := (value >>> 8).toUInt8
def lowByte (value : UInt16) : UInt8 := (value &&& 0x00FF).toUInt8

def writeU16Be (value : UInt16) : List UInt8 := [highByte value, lowByte value]

def readU16Be (high low : UInt8) : UInt16 := (high.toUInt16 <<< 8) ||| low.toUInt16

/-- The first `length` bytes of a payload, copied over cleared bytes. -/
def copyPayload (payload : Vector UInt8 linkPacketPayloadSize) (length : Nat) :
    Vector UInt8 linkPacketPayloadSize :=
  Vector.ofFn fun i => if i.val < length then payload[i.val] else 0

/-- The 28 bytes under the CRC. -/
def header (packet : LinkPacket) : List UInt8 :=
  [linkPacketMagicByte0, linkPacketMagicByte1, linkPacketVersion, packet.messageType.code,
    packet.sourceId, packet.destinationId] ++ writeU16Be packet.sequence ++
  writeU16Be packet.acknowledgedSequence ++ [packet.payloadLength, packet.flags] ++
  (copyPayload packet.payload packet.payloadLength.toNat).toList

theorem header_length (packet : LinkPacket) : packet.header.length = 28 := by
  simp [header, writeU16Be]

/-- The header with its CRC. -/
def frame (packet : LinkPacket) : LinkFrame :=
  ⟨(packet.header ++ writeU16Be (linkCrc16CcittFalse packet.header)).toArray, by
    simp [header_length, writeU16Be]⟩

def encode (packet : LinkPacket) (encodedCapacity : Nat) : Except LinkPacketStatus LinkFrame :=
  if encodedCapacity < linkPacketEncodedSize then .error .invalidFrameLength
  else if ¬ messageTypeIsValid packet.messageType.code then .error .invalidMessageType
  else if ¬ payloadLengthIsValid packet.payloadLength then .error .invalidPayloadLength
  else .ok packet.frame

/-- What `link_packet_decode` reads from a frame that passes its checks. -/
def ofFrame (encoded : List UInt8) : LinkPacket where
  messageType := .ofCode (encoded.getD 3 0)
  sourceId := encoded.getD 4 0
  destinationId := encoded.getD 5 0
  sequence := readU16Be (encoded.getD 6 0) (encoded.getD 7 0)
  acknowledgedSequence := readU16Be (encoded.getD 8 0) (encoded.getD 9 0)
  payloadLength := encoded.getD 10 0
  flags := encoded.getD 11 0
  payload := Vector.ofFn fun i => encoded.getD (12 + i.val) 0

def decode (encoded : List UInt8) (expectedDestinationId : UInt8) :
    Except LinkPacketStatus LinkPacket :=
  if encoded.length ≠ linkPacketEncodedSize then .error .invalidFrameLength
  else if encoded.getD 0 0 ≠ linkPacketMagicByte0 ∨ encoded.getD 1 0 ≠ linkPacketMagicByte1 then
    .error .invalidMagic
  else if encoded.getD 2 0 ≠ linkPacketVersion then .error .unsupportedVersion
  else if ¬ messageTypeIsValid (encoded.getD 3 0) then .error .invalidMessageType
  else if encoded.getD 5 0 ≠ expectedDestinationId then .error .invalidDestination
  else if ¬ payloadLengthIsValid (encoded.getD 10 0) then .error .invalidPayloadLength
  else if readU16Be (encoded.getD 28 0) (encoded.getD 29 0)
      ≠ linkCrc16CcittFalse (encoded.take 28) then .error .crcMismatch
  else .ok (ofFrame encoded)

/-! ## Decoding what was encoded -/

@[simp] theorem readU16Be_write (value : UInt16) :
    readU16Be (highByte value) (lowByte value) = value := by
  apply UInt16.toNat_inj.mp
  have hv := value.toNat_lt
  have hor := Nat.two_pow_add_eq_or_of_lt (i := 8) (b := value.toNat % 256)
    (Nat.mod_lt _ (by decide)) (value.toNat / 256)
  have hand := Nat.and_two_pow_sub_one_eq_mod (value.toNat % 256) 8
  simp [readU16Be, highByte, lowByte, Nat.shiftLeft_eq, Nat.shiftRight_eq_div_pow] at hor hand ⊢
  rw [hand, Nat.mod_eq_of_lt (by omega : value.toNat / 256 < 256),
    Nat.mod_eq_of_lt (by omega), Nat.mul_comm, ← hor]
  omega

theorem toList_frame (packet : LinkPacket) : packet.frame.toList =
    packet.header ++ writeU16Be (linkCrc16CcittFalse packet.header) := rfl

theorem frame_getD {packet : LinkPacket} {i : Nat} (hi : i < 28) :
    packet.frame.toList.getD i 0 = packet.header.getD i 0 := by
  rw [toList_frame, List.getD_append _ _ _ _ (by rw [header_length]; exact hi)]

theorem header_getD_payload (packet : LinkPacket) (i : Fin 16) :
    packet.header.getD (12 + i.val) 0 =
      (copyPayload packet.payload packet.payloadLength.toNat)[i.val] := by
  rw [header, List.getD_append_right _ _ _ _ (by simp [writeU16Be])]
  simp [writeU16Be]

/-- What a frame decodes to: its payload bytes past the payload length are `0`. -/
def cleared (packet : LinkPacket) : LinkPacket :=
  { packet with payload := copyPayload packet.payload packet.payloadLength.toNat }

theorem ofFrame_frame (packet : LinkPacket) : ofFrame packet.frame.toList = packet.cleared := by
  have hpayload : (Vector.ofFn fun i : Fin 16 => packet.frame.toList.getD (12 + i.val) 0) =
      copyPayload packet.payload packet.payloadLength.toNat := by
    apply Vector.ext
    intro i hi
    rw [Vector.getElem_ofFn, frame_getD (by simp only; omega)]
    exact header_getD_payload packet ⟨i, hi⟩
  rw [ofFrame, hpayload]
  rw [frame_getD (by omega), frame_getD (by omega), frame_getD (by omega), frame_getD (by omega),
    frame_getD (by omega), frame_getD (by omega), frame_getD (by omega), frame_getD (by omega),
    frame_getD (by omega)]
  simp [header, writeU16Be, cleared]

/-- **A frame that was encoded decodes to its packet.** -/
theorem decode_frame {packet : LinkPacket} (ht : messageTypeIsValid packet.messageType.code = true)
    (hl : payloadLengthIsValid packet.payloadLength = true) :
    decode packet.frame.toList packet.destinationId = .ok packet.cleared := by
  have h28 : packet.frame.toList.take 28 = packet.header :=
    List.take_left' (header_length packet)
  have hcrc : readU16Be (packet.frame.toList.getD 28 0) (packet.frame.toList.getD 29 0) =
      linkCrc16CcittFalse packet.header := by
    rw [toList_frame, List.getD_append_right _ _ _ _ (by rw [header_length]),
      List.getD_append_right _ _ _ _ (by rw [header_length]; omega), header_length]
    exact readU16Be_write _
  rw [decode, if_neg (by simp), h28, hcrc, ofFrame_frame, frame_getD (by omega),
    frame_getD (by omega), frame_getD (by omega), frame_getD (by omega), frame_getD (by omega),
    frame_getD (by omega)]
  simp [header, writeU16Be, ht, hl]

theorem encode_eq_ok {packet : LinkPacket} {capacity : Nat}
    (hc : linkPacketEncodedSize ≤ capacity)
    (ht : messageTypeIsValid packet.messageType.code = true)
    (hl : payloadLengthIsValid packet.payloadLength = true) :
    packet.encode capacity = .ok packet.frame := by
  rw [encode, if_neg (by omega), if_neg (by simp [ht]), if_neg (by simp [hl])]

end LinkPacket

end RadioConnection
