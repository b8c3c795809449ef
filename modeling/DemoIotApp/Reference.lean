import DemoIotApp.GlueTls
import DemoIotApp.MqttClient

/-!
# A reference platform

The packet library and the buffer library are parameters of the model. This
file gives one executable instance of each and proves that it has every
property that the results ask for, so that none of them is about nothing. It
also gives a world in which every call succeeds.
-/

namespace DemoIotApp

open Library

/-! ## Writing packets -/

namespace Paho.Reference

/-- Write a packet at the start of the buffer if it fits. -/
def serialize (packet : List UInt8) : Serializer where
  run buf :=
    if packet.length ≤ buf.length then
      ((packet.length : ℤ), packet ++ buf.drop packet.length)
    else (-2, buf)
  length_run buf := by
    split_ifs with hfit
    · simp only [List.length_append, List.length_drop]
      omega
    · rfl

theorem serialize_apply (packet buf : List UInt8) :
    serialize packet buf = if packet.length ≤ buf.length then
      ((packet.length : ℤ), packet ++ buf.drop packet.length) else (-2, buf) := rfl

theorem serialized_of_pos {packet buf : List UInt8} (h : 0 < (serialize packet buf).1) :
    Serialized packet buf (serialize packet buf) := by
  rw [serialize_apply] at h ⊢
  split_ifs at h ⊢ with hfit
  · exact ⟨hfit, rfl⟩
  · simp at h

theorem serialize_pos {packet buf : List UInt8} (hne : packet ≠ [])
    (hfit : packet.length ≤ buf.length) : 0 < (serialize packet buf).1 := by
  rw [serialize_apply, if_pos hfit]
  have hpos : 0 < packet.length := List.length_pos_iff.mpr hne
  show (0 : ℤ) < packet.length
  omega

theorem serializes {packet : List UInt8} (hne : packet ≠ []) :
    Serializes (serialize packet) packet :=
  fun _ ↦ ⟨serialized_of_pos, serialize_pos hne⟩

/-- A C string with its length in front. -/
def lengthPrefixed (memory : List UInt8) : List UInt8 :=
  u16 (cString memory).length ++ cString memory

def connectFlags (options : ConnectData) : ℕ :=
  (if options.username = [] then 0 else 128) + (if options.password = [] then 0 else 64) +
    (if options.willFlag then options.will.retained % 2 * 32 + options.will.qos % 4 * 8 + 4
      else 0) + if options.cleansession then 2 else 0

def connectBody (options : ConnectData) : List UInt8 :=
  (if options.mqttVersion = 4 then [0, 4, 77, 81, 84, 84, 4]
    else [0, 6, 77, 81, 73, 115, 100, 112, 3]) ++
  [UInt8.ofNat (connectFlags options)] ++ u16 options.keepAliveInterval ++
  lengthPrefixed options.clientId ++
  (if options.willFlag then
    lengthPrefixed options.will.topicName ++ lengthPrefixed options.will.message else []) ++
  (if options.username = [] then [] else lengthPrefixed options.username) ++
  (if options.password = [] then [] else lengthPrefixed options.password)

def connectPacket (options : ConnectData) : List UInt8 :=
  0x10 :: (Varint.encode (connectBody options).length ++ connectBody options)

def serializePublish (args : PublishArgs) : Serializer :=
  if 0 ≤ args.payloadLen ∧ args.payloadLen ≤ args.payload.length then
    serialize args.packet
  else ⟨fun buf ↦ (-2, buf), fun _ ↦ rfl⟩

/-! ## Reading packets -/

def readU16 (high low : UInt8) : ℕ := high.toNat * 256 + low.toNat

theorem readU16_u16 {n : ℕ} (h : n < 65536) :
    readU16 (UInt8.ofNat (n / 256)) (UInt8.ofNat (n % 256)) = n := by
  rw [readU16, Varint.toNat_ofNat_of_lt (by omega), Varint.toNat_ofNat_of_lt (by omega)]
  omega

/-- The header byte and what the remaining length announces of the rest. -/
def splitPacket (buf : List UInt8) : Option (UInt8 × ℕ × List UInt8) :=
  match buf with
  | [] => none
  | header :: rest =>
      (Varint.decode rest).map fun p ↦ (header, rest.length - p.2.length, p.2.take p.1)

theorem splitPacket_bytes (p : Packet) (rest : List UInt8) :
    splitPacket (p.bytes ++ rest) = some (p.header, p.lenBytes.length, p.payload) := by
  simp [splitPacket, Packet.bytes, Varint.decode_append p.isEncoding, p.value_lenBytes]

def deserializeAck (buf : List UInt8) : ℤ × AckData :=
  match splitPacket buf with
  | some (header, _, high :: low :: _) =>
      (1, ⟨UInt16.ofNat (readU16 high low), headerDup header, headerType header⟩)
  | _ => (0, ⟨0, 0, 0⟩)

def deserializeConnack (buf : List UInt8) (old : ConnackData) : ℤ × ConnackData :=
  match splitPacket buf with
  | some (header, _, flags :: rc :: _) =>
      if headerType header = PacketType.connack.code then (1, ⟨rc, flags % 2⟩) else (0, old)
  | _ => (0, old)

/-- Store the three flags, read the topic and let the stored quality of service
decide whether an identifier follows. -/
def deserializePublish {M : Type} (out : PublishOut M) (buf : List UInt8) (m : M) :
    ℤ × LenString × M :=
  match splitPacket buf with
  | some (header, lenSize, high :: low :: rest) =>
      let topicLen := readU16 high low
      if headerType header ≠ PacketType.publish.code ∨ rest.length < topicLen then
        (0, ⟨0, 0⟩, m)
      else
        let flags := out.retained.store (headerRetain header)
          (out.qos.store (headerQos header) (out.dup.store (headerDup header) m))
        let tail := rest.drop topicLen
        let idLen := if 0 < out.qos.load flags then 2 else 0
        let flags := if 0 < out.qos.load flags then
            out.packetId.store (UInt16.ofNat (readU16 (tail.headD 0) (tail.tail.headD 0))) flags
          else flags
        let start := 1 + lenSize + 2
        (1, ⟨start, topicLen⟩,
          out.payload.store (start + topicLen + idLen)
            (out.payloadLen.store (tail.length - idLen : ℤ) flags))
  | _ => (0, ⟨0, 0⟩, m)

/-- The same with the payload length as the packet declares it, also when the buffer ends
before. The topic and the identifier may lie behind its end as well. -/
def deserializeDeclared {M : Type} (out : PublishOut M) (buf : List UInt8) (m : M) :
    ℤ × LenString × M :=
  match Varint.decode buf.tail with
  | none => (0, ⟨0, 0⟩, m)
  | some (remaining, body) =>
      let header := buf.headD 0
      let lenSize := buf.tail.length - body.length
      let topicLen := readU16 (body.headD 0) (body.tail.headD 0)
      if headerType header ≠ PacketType.publish.code ∨ 4 < lenSize ∨ remaining < 2 + topicLen then
        (0, ⟨0, 0⟩, m)
      else
        let flags := out.retained.store (headerRetain header)
          (out.qos.store (headerQos header) (out.dup.store (headerDup header) m))
        let tail := body.drop (2 + topicLen)
        let idLen := if 0 < out.qos.load flags then 2 else 0
        let flags := if 0 < out.qos.load flags then
            out.packetId.store (UInt16.ofNat (readU16 (tail.headD 0) (tail.tail.headD 0))) flags
          else flags
        let offset := 1 + lenSize + 2 + topicLen + idLen
        (1, ⟨1 + lenSize + 2, topicLen⟩,
          out.payload.store offset
            (out.payloadLen.store ((1 + lenSize + remaining : ℕ) - offset : ℤ) flags))

end Paho.Reference

namespace Paho

open Reference

def reference : Paho where
  packetEncode := Varint.encode
  serializeConnect options := serialize (connectPacket options)
  serializeDisconnect := serialize disconnectPacket
  serializePingreq := serialize pingreqPacket
  serializeAck type dup packetId := serialize (ackPacket type dup packetId)
  serializePublish := Reference.serializePublish
  serializeConnack rc sessionPresent := serialize (connackPacket sessionPresent rc)
  deserializeAck := Reference.deserializeAck
  deserializeConnack := Reference.deserializeConnack
  deserializePublish := Reference.deserializePublish

namespace reference

theorem encodesLength : reference.EncodesLength := fun _ _ ↦ rfl

theorem serializesConnect : reference.SerializesConnect := by
  intro options buf hpos
  exact ⟨0x10, connectBody options, by decide, serialized_of_pos hpos⟩

theorem serializesDisconnect : reference.SerializesDisconnect :=
  serializes (by simp [disconnectPacket])

theorem serializesPingreq : reference.SerializesPingreq :=
  serializes (by simp [pingreqPacket])

theorem serializesAck : reference.SerializesAck :=
  fun _ _ _ ↦ serializes (by simp [ackPacket])

theorem serializesConnack : reference.SerializesConnack :=
  fun _ _ ↦ serializes (by simp [connackPacket])

theorem serializesPublish : reference.SerializesPublish := by
  intro args buf
  simp only [reference, Reference.serializePublish]
  constructor
  · intro hpos
    split_ifs at hpos ⊢ with hlen
    · exact serialized_of_pos hpos
    · simp at hpos
  · intro hnonneg hle hfit
    simp only [if_pos (And.intro hnonneg hle)]
    exact serialize_pos (by simp [PublishArgs.packet, publishPacket]) hfit

theorem splitPacket_two (header a b : UInt8) (rest : List UInt8) :
    splitPacket (header :: 2 :: a :: b :: rest) = some (header, 1, [a, b]) := by
  simp [splitPacket, Varint.decode]

theorem deserializesAck : reference.DeserializesAck := by
  intro header packetId rest
  have hid : UInt16.ofNat packetId.toNat = packetId := by simp
  have hlt : packetId.toNat < 65536 := packetId.toNat_lt
  simp only [reference, Reference.deserializeAck, u16, List.cons_append, List.nil_append,
    splitPacket_two, readU16_u16 hlt, hid]

theorem deserializesConnack : reference.DeserializesConnack := by
  intro header flags rc rest old hheader
  simp only [reference, Reference.deserializeConnack, splitPacket_two, if_pos hheader]

theorem deserializesPublish : reference.DeserializesPublish := by
  intro M out m p topic tail rest htype hlt hpayload
  have hsplit : splitPacket (p.bytes ++ rest) = some (p.header, p.lenBytes.length,
      UInt8.ofNat (topic.length / 256) :: UInt8.ofNat (topic.length % 256) :: (topic ++ tail)) := by
    rw [splitPacket_bytes, hpayload]
    simp [u16]
  have hheader : headerType p.header = PacketType.publish.code := htype
  refine ⟨UInt16.ofNat (readU16 (tail.headD 0) (tail.tail.headD 0)), ?_⟩
  simp only [reference, Reference.deserializePublish, hsplit, readU16_u16 hlt, hheader]
  rw [if_neg (by simp)]
  simp only [List.drop_left]

theorem storesThroughPointers : reference.StoresThroughPointers := by
  intro M out I hI buf m hm
  have hflags : ∀ dup qos retained, I (out.retained.store retained
      (out.qos.store qos (out.dup.store dup m))) :=
    fun dup qos retained ↦ hI.retained _ _ (hI.qos _ _ (hI.dup _ _ hm))
  simp only [reference, Reference.deserializePublish]
  split
  · split
    · exact hm
    · apply hI.payload _ _ (hI.payloadLen _ _ _)
      split
      · exact hI.packetId _ _ (hflags _ _ _)
      · exact hflags _ _ _
  · exact hm

end reference

/-- The deserialiser takes the remaining length as it is declared. -/
def declared : Paho := { reference with deserializePublish := Reference.deserializeDeclared }

namespace declared

theorem storesThroughPointers : declared.StoresThroughPointers := by
  intro M out I hI buf m hm
  have hflags : ∀ dup qos retained, I (out.retained.store retained
      (out.qos.store qos (out.dup.store dup m))) :=
    fun dup qos retained ↦ hI.retained _ _ (hI.qos _ _ (hI.dup _ _ hm))
  simp only [declared, Reference.deserializeDeclared]
  split
  · exact hm
  · split
    · exact hm
    · apply hI.payload _ _ (hI.payloadLen _ _ _)
      split
      · exact hI.packetId _ _ (hflags _ _ _)
      · exact hflags _ _ _

theorem deserializesWithin : declared.DeserializesWithin := by
  intro M out buf m m' topic h
  simp only [declared, Reference.deserializeDeclared] at h
  split at h
  · simp at h
  · rename_i remaining body hdecode
    obtain ⟨lenBytes, htail, henc, rfl⟩ := Varint.exists_of_decode_eq_some hdecode
    have hlen : buf.tail.length - body.length = lenBytes.length := by
      rw [htail, List.length_append, Nat.add_sub_cancel]
    have hbuf : buf = buf.headD 0 :: (lenBytes ++ body) := by
      cases buf with
      | nil => exact absurd (List.append_eq_nil_iff.mp htail.symm).1 henc.ne_nil
      | cons header rest => rw [← htail, List.headD_cons, List.tail_cons]
    rw [hlen] at h
    by_cases hreject : headerType (buf.headD 0) ≠ PacketType.publish.code ∨ 4 < lenBytes.length ∨
        Varint.value lenBytes < 2 + readU16 (body.headD 0) (body.tail.headD 0)
    · rw [if_pos hreject] at h
      simp at h
    · rw [if_neg hreject] at h
      obtain ⟨-, rfl, rfl⟩ := h
      refine ⟨_, _, _, _, _, rfl, ⟨_, lenBytes, body, hbuf, henc, by omega, rfl⟩, by omega, ?_, rfl⟩
      split_ifs <;> omega

/-- A complete packet ends where it declares to. -/
theorem deserializesPublish : declared.DeserializesPublish := by
  intro M out m p topic tail rest htype hlt hpayload
  have hdecode : Varint.decode (p.bytes ++ rest).tail =
      some (p.payload.length, p.payload ++ rest) := by
    rw [Packet.bytes, List.cons_append, List.tail_cons, List.append_assoc,
      Varint.decode_append p.isEncoding, p.value_lenBytes]
  have hlenSize : (p.bytes ++ rest).tail.length - (p.payload ++ rest).length =
      p.lenBytes.length := by
    rw [Packet.bytes, List.cons_append, List.tail_cons, List.append_assoc, List.length_append,
      Nat.add_sub_cancel]
  have hheader : headerType ((p.bytes ++ rest).headD 0) = PacketType.publish.code := htype
  have hbody : p.payload ++ rest = UInt8.ofNat (topic.length / 256) ::
      UInt8.ofNat (topic.length % 256) :: (topic ++ (tail ++ rest)) := by
    simp [hpayload, u16]
  have hlength : p.payload.length = 2 + topic.length + tail.length := by
    rw [hpayload, List.length_append, List.length_append]
    rfl
  have hdrop : (UInt8.ofNat (topic.length / 256) :: UInt8.ofNat (topic.length % 256) ::
      (topic ++ (tail ++ rest))).drop (2 + topic.length) = tail ++ rest := by
    rw [Nat.add_comm, List.drop_succ_cons, List.drop_succ_cons, List.drop_left]
  have hle := p.length_lenBytes_le
  rw [hbody] at hdecode hlenSize
  refine ⟨UInt16.ofNat (readU16 ((tail ++ rest).headD 0) ((tail ++ rest).tail.headD 0)), ?_⟩
  simp only [declared, Reference.deserializeDeclared, hdecode, hlenSize, hheader,
    List.headD_cons, List.tail_cons, readU16_u16 hlt, hdrop]
  rw [if_neg (by omega)]
  have hdeclared : ∀ idLen : ℕ, ((1 + p.lenBytes.length + p.payload.length : ℕ) -
      (1 + p.lenBytes.length + 2 + topic.length + idLen : ℕ) : ℤ) = tail.length - idLen := by
    intro idLen
    omega
  simp only [hdeclared]
  rfl

end declared

end Paho

/-! ## The other libraries -/

/-- A managed buffer is its memory and the number of bytes in use. -/
def ManagedBufferLib.reference : ManagedBufferLib where
  Handle := List UInt8 × ℕ
  init memory := (memory, 0)
  getFreeSpace mb := mb.1.length - mb.2
  getFreeSpacePtr mb := mb.2
  append mb bytes :=
    (mb.1.take mb.2 ++ (bytes ++ mb.1.drop (mb.2 + bytes.length)), mb.2 + bytes.length)
  appendChar mb c := (mb.1.take mb.2 ++ ([c] ++ mb.1.drop (mb.2 + 1)), mb.2 + 1)
  memory := Prod.fst

theorem ManagedBufferLib.reference_appends : ManagedBufferLib.reference.Appends where
  init memory := ⟨rfl, rfl, by simp [reference]⟩
  append := by
    rintro ⟨memory, used⟩ bytes h
    refine ⟨rfl, rfl, ?_⟩
    simp only [reference, List.length_append, List.length_take, List.length_drop] at h ⊢
    omega
  appendChar := by
    rintro ⟨memory, used⟩ c h
    refine ⟨rfl, rfl, ?_⟩
    simp only [reference, List.length_append, List.length_take, List.length_drop,
      List.length_singleton] at h ⊢
    omega

/-- A 64-bit board. -/
def Platform.reference (assertions : Bool) : Platform where
  paho := Paho.reference
  managedBuffer := ManagedBufferLib.reference
  assertions := assertions
  sizeBits := 64
  sizeBits_eq := Or.inr rfl
  isBufferInBuffer offset len bufferLen := decide (offset + len ≤ bufferLen)
  osError _ := -1
  osError_ne_zero _ := by decide

/-- The same with the deserialiser that takes the remaining length as it is declared. -/
def Platform.declared (assertions : Bool) : Platform :=
  { Platform.reference assertions with paho := Paho.declared }

theorem Platform.reference_checksBuffers (assertions : Bool) :
    (Platform.reference assertions).ChecksBuffers := by
  simp [ChecksBuffers, reference]

/-! ## A world without failures -/

/-- Every call succeeds, every transfer is complete and no time passes. -/
def Answers.steady : Answers where
  timerNow _ := 0
  getTime _ := some 1
  tlsWrite _ := .success 4096
  tlsRead _ := .success 4096
  returnCode _ _ := 0
  parameter _ := [65, 0]
  networkStackState _ := .running
  handleId _ := 1
  numberOfSocketsWithEvents _ := 1
  socketEvent _ := ⟨1, false, true, false, false, 0⟩

/-- The start of a run in such a world, with the bytes the broker will send. -/
def World.steady (rx : List UInt8) : World := ⟨Answers.steady, 0, rx, [], false⟩

/-- A run in which the broker accepts the connection, the first write of what follows
the CONNECT has this result and the second one fails. -/
def World.cutting (result : TlsResult) : World :=
  ⟨{ Answers.steady with
      tlsWrite := fun k ↦
        if k = 39 then result else if k = 41 then .error (-1) else .success 4096 },
    0, [0x20, 2, 0, 0], [], false⟩

/-- A client with a small read buffer and no keep-alive. -/
def smallClient : MqttClient World :=
  { (MqttClient.zeroed : MqttClient World) with
    net := some (netWan 4), readbuf := List.replicate 5 0, sendbuf := List.replicate 5 0 }

end DemoIotApp
