import DemoIotApp.Reachability
import Mathlib.Data.List.TakeWhile

/-!
# What the relay sends on

A PUBLISH of the sensor goes through three places: the deserialiser takes it
apart, `do_process_publish` copies it, and the client serialises it again. The
quality of service is stored through an `int` pointer that covers the other
flags, and the topic goes through a C string.
-/

namespace DemoIotApp

open Library Prog

/-! ## The incoming and the outgoing message -/

/-- A complete PUBLISH with these parts. -/
structure IsPublish (p : Packet) (packetId : UInt16) (topic payload : List UInt8) : Prop where
  type : p.type = PacketType.publish.code
  payload : p.payload = publishBody (headerQos p.header) packetId topic payload

namespace CcFsm

/-- What the client passes to the serialiser for the accepted message. -/
def outgoing (self : CcFsm) (packetId : UInt16) : PublishArgs :=
  publishArgs self.memory self.tmpDataPublish.szTopic
    { self.tmpDataPublish.msg with id := packetId }

end CcFsm

/-! ## The flags -/

namespace MqttMessage

/-- The message after the three flags were stored. -/
def withFlags (msg : MqttMessage) (qos retained : ℕ) : MqttMessage :=
  { msg with qos := UInt8.ofNat qos, retained := UInt8.ofNat retained, dup := 0, padding := 0 }

/-- The store of the quality of service clears DUP, and RETAIN is stored last. -/
theorem store_flags (msg : MqttMessage) (dup retained : ℕ) {qos : ℕ} (hqos : qos < 4) :
    out.retained.store retained (out.qos.store qos (out.dup.store dup msg)) =
      msg.withFlags qos retained := by
  have hmod : ((qos : ℤ) % 2 ^ 32).toNat = qos := by omega
  have hbyte : ∀ k, 8 ≤ k → UInt8.ofNat (qos / 2 ^ k) = 0 := by
    intro k hk
    have hzero : qos / 2 ^ k = 0 := by
      apply Nat.div_eq_of_lt
      calc qos < 2 ^ 8 := by omega
        _ ≤ 2 ^ k := Nat.pow_le_pow_right (by omega) hk
    rw [hzero]
    rfl
  show ({ msg with
    qos := UInt8.ofNat ((qos : ℤ) % 2 ^ 32).toNat
    retained := UInt8.ofNat retained
    dup := UInt8.ofNat (((qos : ℤ) % 2 ^ 32).toNat / 2 ^ 16)
    padding := UInt8.ofNat (((qos : ℤ) % 2 ^ 32).toNat / 2 ^ 24) } : MqttMessage) = _
  rw [hmod, hbyte 16 (by omega), hbyte 24 (by omega), withFlags]

/-- The `int` that is loaded back is positive when one of the two flags is set. -/
theorem load_withFlags (msg : MqttMessage) {qos retained : ℕ} (hqos : qos < 4)
    (hretained : retained < 2) :
    0 < out.qos.load (msg.withFlags qos retained) ↔ qos ≠ 0 ∨ retained ≠ 0 := by
  have hq : (UInt8.ofNat qos).toNat = qos := Varint.toNat_ofNat_of_lt (by omega)
  have hr : (UInt8.ofNat retained).toNat = retained := Varint.toNat_ofNat_of_lt (by omega)
  have hload : out.qos.load (msg.withFlags qos retained) = toCInt (qos + retained * 2 ^ 8) := by
    simp only [out, qosInt, withFlags, hq, hr, UInt8.toNat_zero, Nat.zero_mul, Nat.add_zero]
  rw [hload, toCInt_of_lt (by omega)]
  omega

theorem store_payloadLen {msg : MqttMessage} (h : msg.payloadlen < 2 ^ 32) (n : ℤ) :
    (out.payloadLen.store n msg).payloadlen = (n % 2 ^ 32).toNat := by
  simp only [out]
  rw [Nat.div_eq_of_lt h, Nat.zero_mul, Nat.zero_add]

end MqttMessage

/-! ## What is relayed -/

/-- The outgoing message has quality of service 1 and these parts. -/
structure Carries (args : PublishArgs) (retained : ℕ) (topic payload : List UInt8) : Prop where
  qos : args.qos = 1
  retained : args.retained = retained
  topic : cString args.topicName = topic
  payload : args.payload.take args.payloadLen.toNat = payload

theorem Carries.length_packet {args : PublishArgs} {retained : ℕ} {topic payload : List UInt8}
    (h : Carries args retained topic payload) :
    args.packet.length = 1 + ((Varint.encode (topic.length + payload.length + 4)).length +
      (topic.length + payload.length + 4)) := by
  have hbody : (publishBody args.qos args.packetId (cString args.topicName)
      (args.payload.take args.payloadLen.toNat)).length = topic.length + payload.length + 4 := by
    rw [h.topic, h.payload, h.qos, publishBody]
    simp [u16]
    omega
  rw [PublishArgs.packet, publishPacket, List.length_cons, List.length_append, hbody]
  omega

/-- The number of bytes that the deserialiser skips behind the topic. -/
def skippedLen (p : Packet) : ℕ :=
  if headerQos p.header ≠ 0 ∨ headerRetain p.header ≠ 0 then 2 else 0

theorem skippedLen_le_two (p : Packet) : skippedLen p ≤ 2 := by
  unfold skippedLen
  split_ifs <;> omega

/-- What follows the topic. -/
def behindTopic (p : Packet) (packetId : UInt16) (payload : List UInt8) : List UInt8 :=
  (if 0 < headerQos p.header then u16 packetId.toNat else []) ++ payload

theorem headerQos_lt (header : UInt8) : headerQos header < 4 := Nat.mod_lt _ (by omega)

theorem headerRetain_lt (header : UInt8) : headerRetain header < 2 := Nat.mod_lt _ (by omega)

section Relay

variable {P : Platform} {self self' : CcFsm} {p : Packet} {packetId : UInt16}
  {topic payload rest : List UInt8} {s t : Sys World}

theorem IsPublish.payload_eq (h : IsPublish p packetId topic payload) :
    p.payload = u16 topic.length ++ topic ++ behindTopic p packetId payload := by
  rw [h.payload, publishBody, behindTopic]
  simp

theorem IsPublish.bytes_eq (h : IsPublish p packetId topic payload) :
    p.bytes = (p.header :: p.lenBytes ++ u16 topic.length) ++
      (topic ++ behindTopic p packetId payload) := by
  rw [Packet.bytes, h.payload_eq]
  simp

/-- The parts of the packet and what follows it fill the read buffer. -/
theorem IsPublish.length_layout (h : IsPublish p packetId topic payload)
    {readbuf : List UInt8} (hlen : readbuf.length = pahoRecvBuffSize)
    (hread : readbuf = p.bytes ++ rest) :
    1 + p.lenBytes.length + 2 +
      (topic.length + ((behindTopic p packetId payload).length + rest.length)) = 1024 := by
  have hall : (p.bytes ++ rest).length = 1024 := hread ▸ hlen
  rw [h.bytes_eq] at hall
  simp only [List.length_append, List.length_cons, length_u16] at hall
  omega

theorem deserializePublish_eq (rest : List UInt8) (hP : P.paho.DeserializesPublish)
    (hpublish : IsPublish p packetId topic payload) (hlt : topic.length < 65536)
    {msg : MqttMessage} (hpayloadlen : msg.payloadlen < 2 ^ 32) :
    ∃ msg', P.paho.deserializePublish MqttMessage.out (p.bytes ++ rest) msg =
        (1, ⟨1 + p.lenBytes.length + 2, topic.length⟩, msg') ∧
      msg'.payload = .serverReadBuff
        (1 + p.lenBytes.length + 2 + topic.length + skippedLen p) ∧
      msg'.payloadlen =
        (((behindTopic p packetId payload).length - skippedLen p : ℤ) % 2 ^ 32).toNat ∧
      msg'.retained = UInt8.ofNat (headerRetain p.header) ∧ msg'.dup = 0 := by
  obtain ⟨id, hout⟩ := hP MqttMessage.out msg p topic (behindTopic p packetId payload) rest
    hpublish.type hlt hpublish.payload_eq
  dsimp only at hout
  rw [MqttMessage.store_flags msg _ _ (headerQos_lt _)] at hout
  have hload := msg.load_withFlags (headerQos_lt p.header) (headerRetain_lt p.header)
  by_cases hskip : headerQos p.header ≠ 0 ∨ headerRetain p.header ≠ 0
  · simp only [if_pos (hload.mpr hskip)] at hout
    rw [skippedLen, if_pos hskip]
    exact ⟨_, hout, rfl, MqttMessage.store_payloadLen hpayloadlen _, rfl, rfl⟩
  · simp only [if_neg (mt hload.mp hskip)] at hout
    rw [skippedLen, if_neg hskip]
    exact ⟨_, hout, rfl, MqttMessage.store_payloadLen hpayloadlen _, rfl, rfl⟩

theorem Packet.length_prefix (p : Packet) (n : ℕ) :
    (p.header :: p.lenBytes ++ u16 n).length = 1 + p.lenBytes.length + 2 := by
  rw [List.length_append, List.length_cons, length_u16, Nat.add_comm 1]

theorem IsPublish.take_topic (h : IsPublish p packetId topic payload) (rest : List UInt8) :
    ((p.bytes ++ rest).drop (1 + p.lenBytes.length + 2)).take topic.length = topic := by
  rw [h.bytes_eq, List.append_assoc, ← p.length_prefix topic.length, List.drop_left,
    List.append_assoc, List.take_left]

theorem IsPublish.take_payload (h : IsPublish p packetId topic payload) (rest : List UInt8)
    {skipped : ℕ} (hle : skipped ≤ (behindTopic p packetId payload).length) :
    ((p.bytes ++ rest).drop (1 + p.lenBytes.length + 2 + topic.length + skipped)).take
        ((behindTopic p packetId payload).length - skipped) =
      (behindTopic p packetId payload).drop skipped := by
  rw [h.bytes_eq, List.append_assoc, ← p.length_prefix topic.length, Nat.add_assoc,
    List.drop_length_add_append, List.append_assoc, List.drop_length_add_append,
    List.drop_append_of_le_length hle, List.take_append_of_le_length (by rw [List.length_drop])]
  exact List.take_of_length_le (by rw [List.length_drop])

theorem outgoing_copied (self : CcFsm) {msg : MqttMessage} (topicBytes : List UInt8)
    {payloadBytes : List UInt8} (unused : List UInt8) (hlen : payloadBytes.length = msg.payloadlen)
    (hlt : msg.payloadlen < 2 ^ 31) (packetId : UInt16) :
    (((self.withMessage msg).copied topicBytes payloadBytes unused).outgoing packetId).payload =
        payloadBytes ++ unused ∧
      (((self.withMessage msg).copied topicBytes payloadBytes unused).outgoing
        packetId).payloadLen = msg.payloadlen ∧
      Carries (((self.withMessage msg).copied topicBytes payloadBytes unused).outgoing packetId)
        msg.retained.toNat (cString topicBytes) payloadBytes := by
  have hmsg := self.withMessage_msg msg
  generalize (self.withMessage msg) = self' at hmsg ⊢
  have hpayload : ((self'.copied topicBytes payloadBytes unused).outgoing packetId).payload =
      payloadBytes ++ unused := by
    show (topicBytes ++ 0 :: (payloadBytes ++ unused)).drop (topicBytes.length + 1) = _
    rw [List.drop_length_add_append]
    rfl
  have hpayloadLen : ((self'.copied topicBytes payloadBytes unused).outgoing
      packetId).payloadLen = msg.payloadlen := by
    show toCInt self'.tmpDataPublish.msg.payloadlen = _
    rw [hmsg]
    exact toCInt_of_lt hlt
  refine ⟨hpayload, hpayloadLen, ?_, ?_, cString_append_zero topicBytes _, ?_⟩
  · show self'.tmpDataPublish.msg.qos.toNat = 1
    rw [hmsg]
    rfl
  · show self'.tmpDataPublish.msg.retained.toNat = msg.retained.toNat
    rw [hmsg]
  · rw [hpayload, hpayloadLen, Int.toNat_natCast, ← hlen, List.take_left]

/-- An accepted message is relayed up to the first NUL of its topic and from
behind the skipped bytes on. -/
theorem outgoing_of_accepted {netFuel : ℕ} (hB : P.managedBuffer.Appends)
    (hP : P.paho.DeserializesPublish) (hself : self.Ready netFuel)
    (hread : self.serverReadBuff = p.bytes ++ rest)
    (hpublish : IsPublish p packetId topic payload)
    (h : doProcessPublish P self s = .ok (0, self') t) (packetId' : UInt16) :
    skippedLen p ≤ (behindTopic p packetId payload).length ∧
      (self'.outgoing packetId').payloadLen ≤ (self'.outgoing packetId').payload.length ∧
        0 ≤ (self'.outgoing packetId').payloadLen ∧
          Carries (self'.outgoing packetId') (headerRetain p.header) (cString topic)
            ((behindTopic p packetId payload).drop (skippedLen p)) := by
  have hsize := hpublish.length_layout hself.serverReadBuff hread
  obtain ⟨msg, hout, hmsgPayload, hmsgLen, hmsgRetained, -⟩ :=
    deserializePublish_eq rest hP hpublish (by omega) hself.payloadlen
  rw [← hread] at hout
  have hends := copyEnds_of_accepted hB (by rw [hself.serverReadBuff]; decide) hout h
  have hmsg := self.withMessage_msg msg
  generalize hzero : (0 : ℤ) = ret at hends
  cases hends with
  | tooLong => exact absurd hzero (by decide)
  | copied topicBytes payloadBytes unused htopic htopicLen hpayloadBytes hpayloadLen hlen' =>
      rw [hmsg] at hpayloadBytes hpayloadLen
      have hpayloadLen : payloadBytes.length = msg.payloadlen := hpayloadLen
      have htopicSize : P.sizeT (topic.length : ℤ) = topic.length := P.sizeT_natCast (by omega)
      have htake := hpublish.take_topic rest
      rw [← hread] at htake
      obtain rfl : topicBytes = topic := by
        rw [htopic, htopicSize]
        exact htake
      have hfits : topicBytes.length + 1 + msg.payloadlen + unused.length = 1024 :=
        hpayloadLen ▸ hlen'.trans hself.buffer
      -- a length below zero would not have fitted
      have hle := skippedLen_le_two p
      have hn : msg.payloadlen = (behindTopic p packetId payload).length - skippedLen p ∧
          skippedLen p ≤ (behindTopic p packetId payload).length := by omega
      obtain rfl : payloadBytes = (behindTopic p packetId payload).drop (skippedLen p) := by
        have htake := hpublish.take_payload rest hn.2
        rw [← hread, ← hn.1] at htake
        rw [hpayloadBytes, ← htake]
        dsimp only
        rw [hmsgPayload]
        rfl
      obtain ⟨hpayload, hlen, hcarries⟩ :=
        outgoing_copied self topicBytes unused hpayloadLen (by omega) packetId'
      have hretained : msg.retained.toNat = headerRetain p.header := by
        have hlt := headerRetain_lt p.header
        rw [hmsgRetained, Varint.toNat_ofNat_of_lt (by omega)]
      refine ⟨hn.2, ?_, ?_, hretained ▸ hcarries⟩
      · rw [hpayload, hlen, List.length_append, hpayloadLen]
        omega
      · rw [hlen]
        exact Int.natCast_nonneg _

/-- Nothing of the payload is lost unless RETAIN was taken for a quality of service. -/
theorem behindTopic_drop (p : Packet) (packetId : UInt16) (payload : List UInt8) :
    (behindTopic p packetId payload).drop (skippedLen p) =
      if headerQos p.header = 0 ∧ headerRetain p.header = 1 then payload.drop 2 else payload := by
  have hretain := headerRetain_lt p.header
  unfold behindTopic skippedLen
  by_cases hqos : headerQos p.header = 0
  · by_cases hretained : headerRetain p.header = 1
    · simp [hqos, hretained]
    · have hzero : headerRetain p.header = 0 := by omega
      simp [hqos, hzero]
  · rw [if_pos (Nat.pos_of_ne_zero hqos), if_pos (Or.inl hqos), if_neg fun h ↦ hqos h.1]
    rfl

theorem skippedLen_le_iff {p : Packet} {packetId : UInt16} {payload : List UInt8} :
    skippedLen p ≤ (behindTopic p packetId payload).length ↔
      (headerQos p.header = 0 ∧ headerRetain p.header = 1 → 2 ≤ payload.length) := by
  have hretain := headerRetain_lt p.header
  unfold behindTopic skippedLen
  by_cases hqos : headerQos p.header = 0
  · by_cases hretained : headerRetain p.header = 1
    · simp [hqos, hretained]
    · have hzero : headerRetain p.header = 0 := by omega
      simp [hqos, hzero]
  · rw [if_pos (Nat.pos_of_ne_zero hqos), if_pos (Or.inl hqos)]
    simp [u16, hqos]

theorem Reachable.receiving_ready (hP : P.ProcessesPackets) (hself : Reachable P 0 self)
    (sensorPort : SensorPort) : ∃ netFuel, (self.receiving sensorPort).Ready netFuel := by
  obtain ⟨netFuel, hready⟩ := hself.ready hP
  exact ⟨netFuel, { hready.withReadBuff sensorPort with }⟩

end Relay

/-! ## Fixed packets -/

/-- A PUBLISH to the topic `t` with the shortest remaining length. -/
def publishOf (header : UInt8) (packetId : UInt16) (payload : List UInt8)
    (h : (publishBody (headerQos header) packetId [116] payload).length < 2 ^ 28) : Packet :=
  .ofPayload header (publishBody (headerQos header) packetId [116] payload) h

/-- The component takes a packet right after its constructor. -/
def acceptRun (p : Packet) : Outcome Stop (Sys World) (ℤ × CcFsm) :=
  doProcessPublish (Platform.reference false)
    ((CcFsm.constructed 4).receiving (sensorPortOf p.bytes)) ⟨World.steady [], []⟩

/-! ## The content of the message -/

section Content

variable {P : Platform} {self self' : CcFsm} {p : Packet} {packetId : UInt16}
  {topic payload rest : List UInt8} {s t : Sys World}

/-- The relay sends on what it received exactly when the topic has no NUL and
the packet is not one of quality of service 0 with RETAIN. -/
theorem carries_iff (hP : P.ProcessesPackets) (hdeserialize : P.paho.DeserializesPublish)
    (hself : Reachable P 0 self) {sensorPort : SensorPort}
    (hport : sensorPort.bytes.take pahoRecvBuffSize = p.bytes ++ rest)
    (hpublish : IsPublish p packetId topic payload)
    (haccept : doProcessPublish P (self.receiving sensorPort) s = .ok (0, self') t)
    (packetId' : UInt16) :
    Carries (self'.outgoing packetId') (headerRetain p.header) topic payload ↔
      0 ∉ topic ∧ ¬(headerQos p.header = 0 ∧ headerRetain p.header = 1) := by
  obtain ⟨netFuel, hready⟩ := hself.receiving_ready hP sensorPort
  obtain ⟨hle, -, -, hcarries⟩ := outgoing_of_accepted hP.appends hdeserialize hready hport
    hpublish haccept packetId'
  rw [behindTopic_drop] at hcarries
  rw [← cString_eq_self_iff]
  constructor
  · intro h
    refine ⟨hcarries.topic.symm.trans h.topic, fun hflags ↦ ?_⟩
    rw [if_pos hflags] at hcarries
    have hlen := congrArg List.length (hcarries.payload.symm.trans h.payload)
    have htwo := skippedLen_le_iff.mp hle hflags
    rw [List.length_drop] at hlen
    omega
  · rintro ⟨htopic, hflags⟩
    rw [if_neg hflags, htopic] at hcarries
    exact hcarries

end Content

theorem carries_of_qos_one :
    ∃ self' t, acceptRun (publishOf 0x33 7 [1, 2, 3] (by decide)) = .ok (0, self') t ∧
      Carries (self'.outgoing 2) 1 [116] [1, 2, 3] := by
  have hview : (acceptRun (publishOf 0x33 7 [1, 2, 3] (by decide))).view? (fun r _ ↦ r.1) =
      some 0 := by decide +kernel
  obtain ⟨⟨ret, self'⟩, t, hrun, hret⟩ := Outcome.view?_eq_some_iff.mp hview
  obtain rfl : ret = 0 := hret
  refine ⟨self', t, hrun, (carries_iff (Platform.reference_processesPackets false)
    Paho.reference.deserializesPublish (reachable_constructed _ 4) (sensorPortOf_take (by decide))
    ⟨rfl, rfl⟩ hrun 2).mpr ⟨by decide, by decide⟩⟩

/-- Quality of service 0 with RETAIN: the first two bytes of the payload are lost. -/
theorem not_carries_of_qos_zero_retain :
    Reachable (Platform.reference false) 0 (CcFsm.constructed 4) ∧
      IsPublish (publishOf 0x31 0 [1, 2, 3] (by decide)) 0 [116] [1, 2, 3] ∧
      ∃ self' t, acceptRun (publishOf 0x31 0 [1, 2, 3] (by decide)) = .ok (0, self') t ∧
        ¬Carries (self'.outgoing 2) 1 [116] [1, 2, 3] := by
  have hview : (acceptRun (publishOf 0x31 0 [1, 2, 3] (by decide))).view?
      (fun r _ ↦ (r.1, (r.2.outgoing 2).payload.take (r.2.outgoing 2).payloadLen.toNat)) =
        some (0, [3]) := by decide +kernel
  obtain ⟨⟨ret, self'⟩, t, hrun, hresult⟩ := Outcome.view?_eq_some_iff.mp hview
  obtain ⟨rfl, hpayload⟩ := Prod.mk.inj hresult
  refine ⟨reachable_constructed _ 4, ⟨rfl, rfl⟩, self', t, hrun, fun h ↦ ?_⟩
  exact absurd (hpayload.symm.trans h.payload) (by decide)

/-! ## The size of the message -/

section Size

variable {P : Platform} {self self' : CcFsm} {p : Packet} {packetId : UInt16}
  {topic payload rest : List UInt8} {s t : Sys World}

/-- A packet within the read buffer fits the send buffer again unless the added
identifier makes it too long. -/
theorem length_outgoing_le_iff (hpublish : IsPublish p packetId topic payload)
    (hbytes : p.bytes.length ≤ 1024)
    (hskip : skippedLen p ≤ (behindTopic p packetId payload).length) {args : PublishArgs}
    (h : Carries args (headerRetain p.header) (cString topic)
      ((behindTopic p packetId payload).drop (skippedLen p))) :
    args.packet.length ≤ 1024 ↔
      headerQos p.header ≠ 0 ∨ headerRetain p.header ≠ 0 ∨
        (cString topic).length + payload.length ≤ 1017 := by
  have htopic : (cString topic).length ≤ topic.length := (List.takeWhile_prefix _).length_le
  have hlen : 2 + topic.length + (behindTopic p packetId payload).length = p.payload.length := by
    rw [hpublish.payload_eq]
    simp [u16]
    omega
  have hlenBytes : 128 ≤ p.payload.length → 2 ≤ p.lenBytes.length :=
    fun hlarge ↦ Varint.two_le_length (p.value_lenBytes ▸ hlarge)
  have hlenBytes' : 0 < p.lenBytes.length := List.length_pos_iff.mpr p.isEncoding.ne_nil
  have hincoming : p.bytes.length = 1 + p.lenBytes.length + p.payload.length := by
    simp [Packet.bytes]
    omega
  have hpayload : ((behindTopic p packetId payload).drop (skippedLen p)).length =
      (behindTopic p packetId payload).length - skippedLen p := List.length_drop
  rw [h.length_packet, Varint.length_encode (by omega)]
  by_cases hflags : headerQos p.header ≠ 0 ∨ headerRetain p.header ≠ 0
  · -- two bytes are skipped and two are added
    have htwo : skippedLen p = 2 := if_pos hflags
    refine iff_of_true ?_ (by tauto)
    split_ifs <;> omega
  · have hzero : skippedLen p = 0 := if_neg hflags
    have hbehind : (behindTopic p packetId payload).length = payload.length := by
      have hqos : headerQos p.header = 0 := by tauto
      simp [behindTopic, hqos]
    have hcond : (headerQos p.header ≠ 0 ∨ headerRetain p.header ≠ 0 ∨
        (cString topic).length + payload.length ≤ 1017) ↔
          (cString topic).length + payload.length ≤ 1017 := by tauto
    rw [hcond]
    split_ifs <;> omega

/-- What is accepted can be serialised into every send buffer of the client's
size exactly when the identifier is not added or there is room for it. -/
theorem serializes_iff (hP : P.ProcessesPackets) (hdeserialize : P.paho.DeserializesPublish)
    (hserialize : P.paho.SerializesPublish) (hself : Reachable P 0 self) {sensorPort : SensorPort}
    (hport : sensorPort.bytes.take pahoRecvBuffSize = p.bytes ++ rest)
    (hpublish : IsPublish p packetId topic payload)
    (haccept : doProcessPublish P (self.receiving sensorPort) s = .ok (0, self') t)
    (packetId' : UInt16) :
    (∀ sendbuf, sendbuf.length = pahoSendBuffSize →
        0 < (P.paho.serializePublish (self'.outgoing packetId') sendbuf).1) ↔
      headerQos p.header ≠ 0 ∨ headerRetain p.header ≠ 0 ∨
        (cString topic).length + payload.length ≤ 1017 := by
  obtain ⟨netFuel, hready⟩ := hself.receiving_ready hP sensorPort
  obtain ⟨hskip, hlen, hnonneg, hcarries⟩ := outgoing_of_accepted hP.appends hdeserialize hready
    hport hpublish haccept packetId'
  have hbytes : p.bytes.length ≤ 1024 := by
    have hall : (p.bytes ++ rest).length = pahoRecvBuffSize :=
      hport ▸ hready.serverReadBuff
    rw [List.length_append] at hall
    calc p.bytes.length ≤ p.bytes.length + rest.length := Nat.le_add_right _ _
      _ = 1024 := hall
  rw [← length_outgoing_le_iff hpublish hbytes hskip hcarries]
  constructor
  · intro h
    have hpos := h (zeros pahoSendBuffSize) (List.length_replicate ..)
    exact ((hserialize _ _).1 hpos).1.trans (List.length_replicate ..).le
  · rintro hfit sendbuf hsendbuf
    exact (hserialize _ _).2 hnonneg hlen (hfit.trans hsendbuf.ge)

end Size

theorem serializes_of_small_payload :
    ∃ self' t, acceptRun (publishOf 0x30 0 [1, 2, 3] (by decide)) = .ok (0, self') t ∧
      ∀ sendbuf, sendbuf.length = pahoSendBuffSize →
        0 < (Paho.reference.serializePublish (self'.outgoing 2) sendbuf).1 := by
  have hview : (acceptRun (publishOf 0x30 0 [1, 2, 3] (by decide))).view? (fun r _ ↦ r.1) =
      some 0 := by decide +kernel
  obtain ⟨⟨ret, self'⟩, t, hrun, hret⟩ := Outcome.view?_eq_some_iff.mp hview
  obtain rfl : ret = 0 := hret
  exact ⟨self', t, hrun, (serializes_iff (Platform.reference_processesPackets false)
    Paho.reference.deserializesPublish Paho.reference.serializesPublish
    (reachable_constructed _ 4) (sensorPortOf_take (by decide)) ⟨rfl, rfl⟩ hrun 2).mpr
    (Or.inr (Or.inr (by decide)))⟩

/-- The packet has 1023 bytes, and with the identifier it has 1025. -/
theorem not_serializes_of_large_payload :
    Reachable (Platform.reference false) 0 (CcFsm.constructed 4) ∧
      (publishOf 0x30 0 (zeros 1017) (by decide +kernel)).bytes.length = 1023 ∧
      IsPublish (publishOf 0x30 0 (zeros 1017) (by decide +kernel)) 0 [116] (zeros 1017) ∧
      ∃ self' t, acceptRun (publishOf 0x30 0 (zeros 1017) (by decide +kernel)) =
          .ok (0, self') t ∧
        ¬∀ sendbuf, sendbuf.length = pahoSendBuffSize →
          0 < (Paho.reference.serializePublish (self'.outgoing 2) sendbuf).1 := by
  have hview : (acceptRun (publishOf 0x30 0 (zeros 1017) (by decide +kernel))).view?
      (fun r _ ↦ (r.1, (Paho.reference.serializePublish (r.2.outgoing 2) (zeros 1024)).1)) =
        some (0, -2) := by decide +kernel
  obtain ⟨⟨ret, self'⟩, t, hrun, hresult⟩ := Outcome.view?_eq_some_iff.mp hview
  obtain ⟨rfl, hret⟩ := Prod.mk.inj hresult
  refine ⟨reachable_constructed _ 4, by decide +kernel, ⟨rfl, rfl⟩, self', t, hrun, fun h ↦ ?_⟩
  have hpos := h (zeros 1024) (List.length_replicate ..)
  rw [hret] at hpos
  exact absurd hpos (by decide)

end DemoIotApp
