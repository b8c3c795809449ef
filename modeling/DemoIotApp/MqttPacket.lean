import DemoIotApp.Library.CString
import DemoIotApp.Library.Varint

/-!
# MQTT packets on the wire

A packet is a header byte, a remaining length of one to four bytes in base 128
and as many payload bytes as the length says. The packet type is the upper
half of the header byte. The layouts below are the ones that the serialisers
of the MQTT library write.
-/

namespace DemoIotApp

open Library

/-- The packet types of `msgTypes`, with the values that the header carries. -/
inductive PacketType where
  | connect | connack | publish | puback | pubrec | pubrel | pubcomp
  | subscribe | suback | unsubscribe | unsuback | pingreq | pingresp | disconnect
  deriving DecidableEq

namespace PacketType

def code : PacketType → ℕ
  | connect => 1
  | connack => 2
  | publish => 3
  | puback => 4
  | pubrec => 5
  | pubrel => 6
  | pubcomp => 7
  | subscribe => 8
  | suback => 9
  | unsubscribe => 10
  | unsuback => 11
  | pingreq => 12
  | pingresp => 13
  | disconnect => 14

/-- The values 0 and 15 of the header field name no packet. -/
def ofCode : ℕ → Option PacketType
  | 1 => some connect
  | 2 => some connack
  | 3 => some publish
  | 4 => some puback
  | 5 => some pubrec
  | 6 => some pubrel
  | 7 => some pubcomp
  | 8 => some subscribe
  | 9 => some suback
  | 10 => some unsubscribe
  | 11 => some unsuback
  | 12 => some pingreq
  | 13 => some pingresp
  | 14 => some disconnect
  | _ => none

theorem ofCode_eq_some_iff {n : ℕ} {t : PacketType} : ofCode n = some t ↔ n = t.code := by
  constructor
  · intro h
    unfold ofCode at h
    split at h <;> simp_all <;> subst h <;> rfl
  · rintro rfl
    cases t <;> rfl

end PacketType

/-! ## The header byte -/

def headerType (header : UInt8) : ℕ := header.toNat / 16

def headerDup (header : UInt8) : ℕ := header.toNat / 8 % 2

def headerQos (header : UInt8) : ℕ := header.toNat / 2 % 4

def headerRetain (header : UInt8) : ℕ := header.toNat % 2

/-! ## The remaining length -/

theorem value_lt_of_length_le {lenBytes : List UInt8} (hlen : lenBytes.length ≤ 4) :
    Varint.value lenBytes < 2 ^ 28 := by
  calc Varint.value lenBytes < 128 ^ lenBytes.length := Varint.value_lt _
    _ ≤ 128 ^ 4 := Nat.pow_le_pow_right (by omega) hlen
    _ = 2 ^ 28 := by decide

/-- The packet at the start of the buffer declares that it ends there, which may be behind
the end of the buffer. -/
def DeclaresEnd (buf : List UInt8) (packetEnd : ℕ) : Prop :=
  ∃ header lenBytes rest, buf = header :: (lenBytes ++ rest) ∧ Varint.IsEncoding lenBytes ∧
    lenBytes.length ≤ 4 ∧ packetEnd = 1 + lenBytes.length + Varint.value lenBytes

theorem DeclaresEnd.lt {buf : List UInt8} {packetEnd : ℕ} (h : DeclaresEnd buf packetEnd) :
    packetEnd < 5 + 2 ^ 28 := by
  obtain ⟨_, _, _, -, -, hlen, rfl⟩ := h
  have hvalue := value_lt_of_length_le hlen
  omega

theorem DeclaresEnd.unique {buf : List UInt8} {m n : ℕ} (hm : DeclaresEnd buf m)
    (hn : DeclaresEnd buf n) : m = n := by
  obtain ⟨_, lenBytes, _, rfl, henc, -, rfl⟩ := hm
  obtain ⟨_, lenBytes', _, heq, henc', -, rfl⟩ := hn
  obtain ⟨rfl, -⟩ := henc.append_inj henc' (List.cons.inj heq).2
  rfl

/-! ## Complete packets -/

/-- A complete packet. The remaining length may be written in any encoding of
the payload length, not only in the shortest one. -/
structure Packet where
  header : UInt8
  lenBytes : List UInt8
  payload : List UInt8
  isEncoding : Varint.IsEncoding lenBytes
  length_lenBytes_le : lenBytes.length ≤ 4
  value_lenBytes : Varint.value lenBytes = payload.length

namespace Packet

def bytes (p : Packet) : List UInt8 := p.header :: (p.lenBytes ++ p.payload)

def type (p : Packet) : ℕ := headerType p.header

/-- The packet with the shortest remaining length. -/
def ofPayload (header : UInt8) (payload : List UInt8) (h : payload.length < 2 ^ 28) : Packet where
  header := header
  lenBytes := Varint.encode payload.length
  payload := payload
  isEncoding := Varint.isEncoding_encode _
  length_lenBytes_le := Varint.length_encode_le (k := 4) (by omega) (by omega)
  value_lenBytes := Varint.value_encode _

theorem length_bytes_pos (p : Packet) : 0 < p.bytes.length := by
  simp [bytes]

end Packet

/-- The byte stream of a sequence of packets. -/
def stream (ps : List Packet) : List UInt8 := ps.flatMap Packet.bytes

@[simp] theorem stream_nil : stream [] = [] := rfl

@[simp] theorem stream_cons (p : Packet) (ps : List Packet) :
    stream (p :: ps) = p.bytes ++ stream ps := rfl

@[simp] theorem stream_append (ps qs : List Packet) :
    stream (ps ++ qs) = stream ps ++ stream qs := by
  simp [stream]

/-! ## Layouts -/

/-- Two bytes, the high one first. -/
def u16 (n : ℕ) : List UInt8 := [UInt8.ofNat (n / 256), UInt8.ofNat (n % 256)]

@[simp] theorem length_u16 (n : ℕ) : (u16 n).length = 2 := rfl

theorem length_u16_lt (id : UInt16) : (u16 id.toNat).length < 2 ^ 28 := by
  rw [length_u16]
  decide

theorem length_nil_lt : ([] : List UInt8).length < 2 ^ 28 := by
  decide

def asciiBytes (text : String) : List UInt8 := text.toList.map fun c ↦ UInt8.ofNat c.toNat

/-- The characters of a C string that starts at the given memory. -/
def cString (memory : List UInt8) : List UInt8 := memory.takeWhile (· ≠ 0)

theorem cString_append_zero (chars unused : List UInt8) :
    cString (chars ++ 0 :: unused) = cString chars :=
  takeWhile_append_zero chars unused

theorem cString_eq_self_iff {chars : List UInt8} : cString chars = chars ↔ 0 ∉ chars := by
  refine ⟨fun h ↦ ?_, takeWhile_eq_self⟩
  rw [← h]
  exact zero_notMem_takeWhile chars

theorem cString_memory (s : CStr) : cString s.memory = s.chars := s.takeWhile_memory

def publishHeader (dup qos retained : ℕ) : UInt8 :=
  UInt8.ofNat (48 + dup % 2 * 8 + qos % 4 * 2 + retained % 2)

/-- The packet identifier is there from quality of service 1 on. -/
def publishBody (qos : ℕ) (packetId : UInt16) (topic payload : List UInt8) : List UInt8 :=
  u16 topic.length ++ topic ++ (if 0 < qos then u16 packetId.toNat else []) ++ payload

def publishPacket (dup qos retained : ℕ) (packetId : UInt16) (topic payload : List UInt8) :
    List UInt8 :=
  publishHeader dup qos retained ::
    (Varint.encode (publishBody qos packetId topic payload).length ++
      publishBody qos packetId topic payload)

theorem headerType_publishHeader (dup qos retained : ℕ) :
    headerType (publishHeader dup qos retained) = 3 := by
  have hd : dup % 2 < 2 := Nat.mod_lt _ (by omega)
  have hq : qos % 4 < 4 := Nat.mod_lt _ (by omega)
  have hr : retained % 2 < 2 := Nat.mod_lt _ (by omega)
  rw [headerType, publishHeader, Varint.toNat_ofNat_of_lt (by omega)]
  omega

/-- PUBREL carries the reserved flag that quality of service 1 would set. -/
def ackHeader (type : PacketType) (dup : ℕ) : UInt8 :=
  UInt8.ofNat (type.code * 16 + dup % 2 * 8 + if type = .pubrel then 2 else 0)

theorem headerType_ackHeader_pubrel : headerType (ackHeader .pubrel 0) = 6 := by decide

def ackPacket (type : PacketType) (dup : ℕ) (packetId : UInt16) : List UInt8 :=
  [ackHeader type dup, 2] ++ u16 packetId.toNat

def pingreqPacket : List UInt8 := [0xC0, 0]

def disconnectPacket : List UInt8 := [0xE0, 0]

def connackPacket (sessionPresent rc : UInt8) : List UInt8 := [0x20, 2, sessionPresent, rc]

/-- The packet type of the bytes handed to the network. -/
def packetType (bytes : List UInt8) : Option PacketType :=
  bytes.head?.bind fun header ↦ PacketType.ofCode (headerType header)

end DemoIotApp
