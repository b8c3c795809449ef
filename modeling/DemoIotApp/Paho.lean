import DemoIotApp.MqttPacket

/-!
# The MQTT packet library

The component links against the Paho packet library, which is not part of the
repository. It enters as a record of functions. What the code relies on is
stated as one named property for each function, and every result says which of
them it uses.
-/

namespace DemoIotApp

open Library

/-! ## Data passed to the library -/

structure Will where
  topicName : List UInt8
  message : List UInt8
  retained : ℕ
  qos : ℕ

/-- `MQTTPacket_connectData`. A string is the memory its pointer points to. -/
structure ConnectData where
  mqttVersion : ℕ
  clientId : List UInt8
  keepAliveInterval : ℕ
  cleansession : Bool
  willFlag : Bool
  will : Will
  username : List UInt8
  password : List UInt8

/-- `MQTTPacket_connectData_initializer` -/
def ConnectData.initializer : ConnectData where
  mqttVersion := 4
  clientId := []
  keepAliveInterval := 60
  cleansession := true
  willFlag := false
  will := ⟨[], [], 0, 0⟩
  username := []
  password := []

structure ConnackData where
  rc : UInt8
  sessionPresent : UInt8

structure AckData where
  packetId : UInt16
  dup : ℕ
  type : ℕ

/-- The arguments of `MQTTSerialize_publish`. The topic and the payload are
the memory their pointers point to. -/
structure PublishArgs where
  dup : ℕ
  qos : ℕ
  retained : ℕ
  packetId : UInt16
  topicName : List UInt8
  payload : List UInt8
  payloadLen : ℤ

/-- The topic is passed as a C string, the payload with its length. -/
def PublishArgs.packet (args : PublishArgs) : List UInt8 :=
  publishPacket args.dup args.qos args.retained args.packetId (cString args.topicName)
    (args.payload.take args.payloadLen.toNat)

/-- `MQTTLenString`: an offset in the input buffer and a length. -/
structure LenString where
  data : ℕ
  len : ℤ

/-- A pointer through which the library reads and writes the caller's memory. -/
structure OutPtr (M α : Type) where
  store : α → M → M
  load : M → α

/-- The result pointers of `MQTTDeserialize_publish`. They may overlap: what
a store through one of them does to the others is up to the caller's memory. -/
structure PublishOut (M : Type) where
  dup : OutPtr M ℕ
  qos : OutPtr M ℤ
  retained : OutPtr M ℕ
  packetId : OutPtr M UInt16
  payload : OutPtr M ℕ
  payloadLen : OutPtr M ℤ

/-- A property that every store through one of the pointers keeps. -/
structure PublishOut.Keeps {M : Type} (out : PublishOut M) (I : M → Prop) : Prop where
  dup : ∀ n m, I m → I (out.dup.store n m)
  qos : ∀ n m, I m → I (out.qos.store n m)
  retained : ∀ n m, I m → I (out.retained.store n m)
  packetId : ∀ id m, I m → I (out.packetId.store id m)
  payload : ∀ offset m, I m → I (out.payload.store offset m)
  payloadLen : ∀ n m, I m → I (out.payloadLen.store n m)

/-! ## The functions -/

/-- A serialiser takes the send buffer and returns a length and what the buffer
holds then. -/
structure Serializer where
  run : List UInt8 → ℤ × List UInt8
  length_run : ∀ buf, (run buf).2.length = buf.length

instance : CoeFun Serializer fun _ ↦ List UInt8 → ℤ × List UInt8 := ⟨Serializer.run⟩

structure Paho where
  packetEncode : ℕ → List UInt8
  serializeConnect : ConnectData → Serializer
  serializeDisconnect : Serializer
  serializePingreq : Serializer
  serializeAck : PacketType → ℕ → UInt16 → Serializer
  serializePublish : PublishArgs → Serializer
  serializeConnack : UInt8 → UInt8 → Serializer
  deserializeAck : List UInt8 → ℤ × AckData
  deserializeConnack : List UInt8 → ConnackData → ℤ × ConnackData
  deserializePublish : {M : Type} → PublishOut M → List UInt8 → M → ℤ × LenString × M

/-! ## What the code relies on -/

/-- The packet fits and was written at the start of the buffer. -/
def Serialized (packet buf : List UInt8) (out : ℤ × List UInt8) : Prop :=
  packet.length ≤ buf.length ∧ out = ((packet.length : ℤ), packet ++ buf.drop packet.length)

/-- A serialiser reports a positive length only for the packet it is there
for, and it fails only when the packet is longer than the buffer. -/
def Serializes (serialize : Serializer) (packet : List UInt8) : Prop :=
  ∀ buf, (0 < (serialize buf).1 → Serialized packet buf (serialize buf)) ∧
    (packet.length ≤ buf.length → 0 < (serialize buf).1)

theorem Serialized.take {packet buf : List UInt8} {out : ℤ × List UInt8}
    (h : Serialized packet buf out) : out.2.take out.1.toNat = packet := by
  rw [h.2]
  simp

namespace Paho

variable (P : Paho)

/-- `MQTTPacket_encode` writes the minimal encoding of a remaining length. -/
def EncodesLength : Prop := ∀ n, n < 2 ^ 28 → P.packetEncode n = Varint.encode n

/-- Whatever the options are, a serialised CONNECT is framed as a packet. -/
def SerializesConnect : Prop :=
  ∀ options buf, 0 < (P.serializeConnect options buf).1 → ∃ header body,
    headerType header = PacketType.connect.code ∧
      Serialized (header :: (Varint.encode body.length ++ body)) buf
        (P.serializeConnect options buf)

def SerializesDisconnect : Prop := Serializes P.serializeDisconnect disconnectPacket

def SerializesPingreq : Prop := Serializes P.serializePingreq pingreqPacket

def SerializesAck : Prop :=
  ∀ type dup packetId, Serializes (P.serializeAck type dup packetId) (ackPacket type dup packetId)

def SerializesConnack : Prop :=
  ∀ rc sessionPresent,
    Serializes (P.serializeConnack rc sessionPresent) (connackPacket sessionPresent rc)

/-- The payload length is a C `int`; the payload pointer must reach that far
for the packet to be written. -/
def SerializesPublish : Prop :=
  ∀ args buf,
    (0 < (P.serializePublish args buf).1 →
      Serialized args.packet buf (P.serializePublish args buf)) ∧
    (0 ≤ args.payloadLen → args.payloadLen ≤ args.payload.length →
      args.packet.length ≤ buf.length → 0 < (P.serializePublish args buf).1)

/-- A well-formed acknowledgement has a remaining length of two. -/
def DeserializesAck : Prop :=
  ∀ header (packetId : UInt16) rest,
    P.deserializeAck (header :: 2 :: (u16 packetId.toNat ++ rest)) =
      (1, ⟨packetId, headerDup header, headerType header⟩)

def DeserializesConnack : Prop :=
  ∀ header flags rc rest old, headerType header = PacketType.connack.code →
    P.deserializeConnack (header :: 2 :: flags :: rc :: rest) old = (1, ⟨rc, flags % 2⟩)

/-- The memory of the caller changes only through the pointers, also when the
packet is malformed. -/
def StoresThroughPointers : Prop :=
  ∀ {M : Type} (out : PublishOut M) (I : M → Prop), out.Keeps I →
    ∀ buf m, I m → I (P.deserializePublish out buf m).2.2

/-- The flags are stored in the order DUP, quality of service, RETAIN, and
whether an identifier follows the topic is then decided by loading the quality
of service back through its pointer. -/
def DeserializesPublish : Prop :=
  ∀ {M : Type} (out : PublishOut M) (m : M) (p : Packet) (topic tail rest : List UInt8),
    p.type = PacketType.publish.code → topic.length < 65536 →
    p.payload = u16 topic.length ++ topic ++ tail →
    ∃ packetId,
      let flags := out.retained.store (headerRetain p.header)
        (out.qos.store (headerQos p.header) (out.dup.store (headerDup p.header) m))
      let idLen := if 0 < out.qos.load flags then 2 else 0
      let start := 1 + p.lenBytes.length + 2
      P.deserializePublish out (p.bytes ++ rest) m =
        (1, ⟨start, topic.length⟩,
          out.payload.store (start + topic.length + idLen)
            (out.payloadLen.store (tail.length - idLen : ℤ)
              (if 0 < out.qos.load flags then out.packetId.store packetId flags else flags)))

/-- What is reported of an arbitrary packet lies between its start and the end that its
remaining length declares, wherever the buffer ends. The payload is all that is left behind
the topic, and it is negative when the identifier is missing there. -/
def DeserializesWithin : Prop :=
  ∀ {M : Type} (out : PublishOut M) (buf : List UInt8) (m m' : M) (topic : LenString),
    P.deserializePublish out buf m = (1, topic, m') →
    ∃ (start topicLen offset packetEnd : ℕ) (flags : M),
      topic = ⟨start, topicLen⟩ ∧ DeclaresEnd buf packetEnd ∧ start + topicLen ≤ packetEnd ∧
        offset ≤ packetEnd + 2 ∧ m' = out.payload.store offset
          (out.payloadLen.store ((packetEnd : ℤ) - offset) flags)

end Paho

end DemoIotApp
