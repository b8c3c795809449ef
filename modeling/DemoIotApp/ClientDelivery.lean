import DemoIotApp.ConnectAccepted
import DemoIotApp.PromptWorld

/-!
# A session that succeeds

Over a connection that stays up, a client whose broker answers succeeds in everything: it
connects, its messages of all qualities of service are acknowledged, and it disconnects. What it
sends for that are just the packets that the protocol wants.
-/

namespace DemoIotApp

open Library Prog

/-! ## Waiting for a packet -/

/-- What the broker sends until a packet of this type comes. The client can read all of it. -/
structure Brings (type : PacketType) (before : List Packet) (p : Packet) : Prop where
  expected : p.type = type.code
  others : ∀ q ∈ before, q.type ≠ type.code
  fits : ∀ q ∈ before ++ [p], q.Fits pahoRecvBuffSize

section Wait

variable {P : Platform} {patience tick netFuel sendSize : ℕ} {connected : Bool}
  {self : MqttClient World} {s : Sys World} {p : Packet} {rest : List UInt8}

theorem length_packetInBuffer {header : UInt8} {payload buffer : List UInt8}
    (h : 1 + (Varint.encode payload.length).length + payload.length ≤ buffer.length) :
    (packetInBuffer header payload buffer).length = buffer.length := by
  simp only [packetInBuffer, List.length_append, List.length_cons, List.length_drop]
  omega

/-- The client after a packet has come in. -/
def receivedBy (self : MqttClient World) (p : Packet) : MqttClient World :=
  noteReceived p.type
    { self with readbuf := packetInBuffer p.header p.payload self.readbuf }

theorem receivedBy_readbuf (self : MqttClient World) (p : Packet) :
    (receivedBy self p).readbuf = packetInBuffer p.header p.payload self.readbuf ∧
      Waited self (receivedBy self p) := by
  obtain ⟨hreadbuf, hwaited⟩ := noteReceived_readbuf (p.type : ℤ)
    { self with readbuf := packetInBuffer p.header p.payload self.readbuf }
  exact ⟨hreadbuf, Waited.trans ⟨_, self.sendbuf, self.isPingOutstanding, rfl⟩ hwaited⟩

theorem setup_receivedBy
    (hself : Setup (netWan netFuel) pahoRecvBuffSize sendSize 0 connected self)
    (hfits : p.Fits pahoRecvBuffSize) :
    Setup (netWan netFuel) pahoRecvBuffSize sendSize 0 connected (receivedBy self p) := by
  have hlen : (packetInBuffer p.header p.payload self.readbuf).length = pahoRecvBuffSize :=
    (length_packetInBuffer (hself.readbuf ▸ hfits.le)).trans hself.readbuf
  unfold receivedBy noteReceived
  split_ifs
  · exact { hself with readbuf := hlen }
  · exact { hself with readbuf := hlen }

/-- Without a keep-alive a turn of the wait loop is the read of a packet. -/
theorem post_waitForNextPacket_prompt (hP : P.paho.EncodesLength)
    (h : s.world.answers.Prompt patience tick)
    (hself : Setup (netWan netFuel) pahoRecvBuffSize sendSize 0 connected self)
    (hrx : s.world.rx = p.bytes ++ rest) (hfits : p.Fits pahoRecvBuffSize)
    (hfuel : (patience + 1) * pahoSendBuffSize < netFuel) :
    Post (waitForNextPacket P self none) s
      (fun r t ↦ r = ((p.type : ℤ), receivedBy self p) ∧ Transfers s t p.bytes [])
      fun _ _ ↦ False := by
  have hread := post_mqttNetworkReadPacket_prompt hP h hrx hself.readbuf hfits hfuel
  have hreceive : Post (receivePacket P self none) s
      (fun r t ↦ r = ((p.type : ℤ),
          { self with readbuf := packetInBuffer p.header p.payload self.readbuf }) ∧
        Transfers s t p.bytes []) fun _ _ ↦ False := by
    unfold receivePacket
    rw [hself.net]
    apply Post.bind (Q := fun r t ↦
      r = ((p.type : ℤ), packetInBuffer p.header p.payload self.readbuf) ∧
        Transfers s t p.bytes [])
    · rw [Sys.post_observed]
      exact hread.mono (fun r t ht ↦ ⟨ht.1, ht.2.log rfl⟩) fun _ _ h ↦ h
    · rintro ⟨ret, readbuf⟩ t ⟨hr, htransfers⟩
      obtain ⟨rfl, rfl⟩ := Prod.mk.inj hr
      exact ⟨rfl, htransfers⟩
  have hexpired : ∀ client : MqttClient World, client.keepAliveIntervalMs = 0 →
      keepAlive P client p.type = pure ((p.type : ℤ), client) := by
    intro client hinterval
    rw [keepAlive, keepAliveExpired, if_neg (not_not.mpr hinterval), pure_bind, if_neg (by simp),
      if_neg (by omega)]
  apply hreceive.bind
  rintro ⟨ret, client⟩ t ⟨hr, htransfers⟩
  obtain ⟨rfl, rfl⟩ := Prod.mk.inj hr
  refine post_ite (fun hneg ↦ by omega) fun _ ↦ ?_
  refine post_ite (fun hping ↦ ?_) fun hping ↦ ?_
  · rw [hexpired, receivedBy, noteReceived, if_pos hping]
    · exact ⟨rfl, htransfers⟩
    · exact hself.keepAliveIntervalMs
  · rw [hexpired, receivedBy, noteReceived, if_neg hping]
    · exact ⟨rfl, htransfers⟩
    · exact hself.keepAliveIntervalMs

/-- The wait loop reads on until the packet is there. -/
theorem post_waitForSpecificPacket_prompt (hP : P.paho.EncodesLength) {type : PacketType}
    {before : List Packet} (hbrings : Brings type before p)
    (h : s.world.answers.Prompt patience tick)
    (hself : Setup (netWan netFuel) pahoRecvBuffSize sendSize 0 connected self)
    (hrx : s.world.rx = stream (before ++ [p]) ++ rest) {fuel : ℕ} (hfuel : before.length < fuel)
    (hnetFuel : (patience + 1) * pahoSendBuffSize < netFuel) :
    Post (waitForSpecificPacket P type.code none fuel self) s
      (fun r t ↦ r.1 = mqttSuccess ∧
        Setup (netWan netFuel) pahoRecvBuffSize sendSize 0 connected r.2 ∧ Waited self r.2 ∧
        (∃ buffer, r.2.readbuf = packetInBuffer p.header p.payload buffer) ∧
        Transfers s t (stream (before ++ [p])) []) fun _ _ ↦ False := by
  induction before generalizing self s fuel with
  | nil =>
      obtain ⟨fuel, rfl⟩ := Nat.exists_eq_add_one.mpr hfuel
      have hrx : s.world.rx = p.bytes ++ rest := by simpa using hrx
      have hnext := post_waitForNextPacket_prompt hP h hself hrx (hbrings.fits p (by simp)) hnetFuel
      show Post (waitForNextPacket P self none >>= _) s _ _
      apply hnext.bind
      rintro ⟨ret, client⟩ t ⟨hr, htransfers⟩
      obtain ⟨rfl, rfl⟩ := Prod.mk.inj hr
      obtain ⟨hreadbuf, hwaited⟩ := receivedBy_readbuf self p
      refine post_ite (fun hneg ↦ by omega) fun _ ↦ post_ite (fun _ ↦ ?_) fun hne ↦ ?_
      · exact ⟨rfl, setup_receivedBy hself (hbrings.fits p (by simp)), hwaited, ⟨_, hreadbuf⟩,
          by simpa using htransfers⟩
      · exact absurd (congrArg Nat.cast hbrings.expected) hne
  | cons q before ih =>
      obtain ⟨fuel, rfl⟩ := Nat.exists_eq_add_one.mpr (Nat.zero_lt_of_lt hfuel)
      have hfits := hbrings.fits q (by simp)
      rw [List.cons_append, stream_cons, List.append_assoc] at hrx
      have hnext := post_waitForNextPacket_prompt hP h hself hrx hfits hnetFuel
      show Post (waitForNextPacket P self none >>= _) s _ _
      apply hnext.bind
      rintro ⟨ret, client⟩ t ⟨hr, htransfers⟩
      obtain ⟨rfl, rfl⟩ := Prod.mk.inj hr
      refine post_ite (fun hneg ↦ by omega) fun _ ↦ post_ite (fun heq ↦ ?_) fun _ ↦ ?_
      · exact absurd (Int.ofNat.inj heq) (hbrings.others q (by simp))
      have hrest : Brings type before p := ⟨hbrings.expected,
        fun q' hq' ↦ hbrings.others q' (List.mem_cons_of_mem q hq'),
        fun q' hq' ↦ hbrings.fits q' (List.mem_cons_of_mem q hq')⟩
      refine (ih hrest (htransfers.prompt h) (setup_receivedBy hself hfits)
        (htransfers.rx_eq hrx) (Nat.lt_of_succ_lt_succ hfuel)).mono ?_ fun _ _ h ↦ h
      rintro r u ⟨hret, hsetup, hwaited, hreadbuf, htransfers'⟩
      exact ⟨hret, hsetup, (receivedBy_readbuf self q).2.trans hwaited, hreadbuf,
        htransfers.trans htransfers'⟩

end Wait

/-! ## Publishing a message -/

/-- The client talks to the cloud without a keep-alive. It has drawn so many identifiers. -/
structure MqttClient.Live (netFuel n : ℕ) (connected : Bool) (client : MqttClient World) :
    Prop where
  setup : Setup (netWan netFuel) pahoRecvBuffSize pahoSendBuffSize 0 connected client
  sendTimeoutMs : client.sendTimeoutMs = pahoTimeoutMsCommand
  drawn : HasDrawn n client

section Publish

variable {P : Platform} {patience tick netFuel fuel n : ℕ} {connected : Bool}
  {self : MqttClient World} {s : Sys World} {p : Packet} {before : List Packet}
  {rest : List UInt8}

/-- What was serialised is sent. -/
theorem post_sendPacket_prompt {serialize : Serializer} {packet : List UInt8}
    (h : s.world.answers.Prompt patience tick) (hself : self.Live netFuel n connected)
    (hserialized : Serialized packet self.sendbuf (serialize self.sendbuf))
    (hnetFuel : (patience + 1) * pahoSendBuffSize < netFuel) :
    Post (sendPacket { self with sendbuf := (serialize self.sendbuf).2 }
        (serialize self.sendbuf).1.toNat) s
      (fun rc t ↦ rc = mqttSuccess ∧ Transfers s t [] [packet]) fun _ _ ↦ False := by
  rw [sendPacket, hself.setup.net, hserialized.take]
  exact post_sendWithTimeout_prompt h hself.sendTimeoutMs (hself.setup.sendbuf ▸ hserialized.1)
    hnetFuel

/-- What fits the send buffer is sent. -/
theorem post_sendSerialized_prompt {serialize : Serializer} {packet : List UInt8}
    (h : s.world.answers.Prompt patience tick) (hself : self.Live netFuel n connected)
    (hserialize : 0 < (serialize self.sendbuf).1 →
      Serialized packet self.sendbuf (serialize self.sendbuf))
    (hpos : 0 < (serialize self.sendbuf).1)
    (hnetFuel : (patience + 1) * pahoSendBuffSize < netFuel) :
    Post (sendSerialized serialize self) s
      (fun r t ↦ r.1 = mqttSuccess ∧ r.2.Live netFuel n connected ∧ Transfers s t [] [packet])
      fun _ _ ↦ False := by
  rw [sendSerialized, if_neg (Int.not_le.mpr hpos)]
  apply (post_sendPacket_prompt h hself (hserialize hpos) hnetFuel).bind
  rintro rc t ⟨rfl, ht⟩
  exact ⟨rfl, ⟨hself.setup.serialized serialize, hself.sendTimeoutMs, hself.drawn⟩, ht⟩

/-- An acknowledgement with this identifier is waited for and taken apart. -/
theorem post_expectAck_prompt (hencode : P.paho.EncodesLength) (hack : P.paho.DeserializesAck)
    {type : PacketType} {id : UInt16} (hbrings : Brings type before p)
    (hpayload : p.payload = u16 id.toNat) (h : s.world.answers.Prompt patience tick)
    (hself : self.Live netFuel n connected)
    (hrx : s.world.rx = stream (before ++ [p]) ++ rest) (hfuel : before.length < fuel)
    (hnetFuel : (patience + 1) * pahoSendBuffSize < netFuel) (data : AckData) :
    Post (expectAck P fuel self type data none) s
      (fun r t ↦ r.1 = mqttSuccess ∧ r.2.1.packetId = id ∧ r.2.2.Live netFuel n connected ∧
        Transfers s t (stream (before ++ [p])) []) fun _ _ ↦ False := by
  have hread : ∀ buffer, P.paho.deserializeAck (packetInBuffer p.header p.payload buffer) =
      (1, ⟨id, headerDup p.header, headerType p.header⟩) := by
    intro buffer
    rw [hpayload]
    exact hack p.header id _
  have hdata : Post (waitAndReadSpecificAckPacket P fuel self type data none) s
      (fun r t ↦ r.1 = mqttSuccess ∧ r.2.1.type = type.code ∧ r.2.1.packetId = id ∧
        r.2.2.Live netFuel n connected ∧ Transfers s t (stream (before ++ [p])) [])
      fun _ _ ↦ False := by
    apply (post_waitForSpecificPacket_prompt hencode hbrings h hself.setup hrx hfuel
      hnetFuel).bind
    rintro ⟨ret, client⟩ t ⟨hret, hsetup, hwaited, ⟨buffer, hreadbuf⟩, htransfers⟩
    dsimp only at hret hsetup hreadbuf
    refine post_ite (fun hne ↦ absurd hret hne) fun _ ↦ ?_
    have hlive : client.Live netFuel n connected := by
      obtain ⟨_, _, _, rfl⟩ := hwaited
      exact ⟨hsetup, hself.sendTimeoutMs, hself.drawn⟩
    rw [hreadbuf, hread]
    exact ⟨rfl, hbrings.expected, rfl, hlive, htransfers⟩
  apply hdata.bind
  rintro ⟨ret, data', client⟩ t ⟨hret, htype, hends⟩
  dsimp only at hret htype hends
  refine post_ite (fun hne ↦ absurd hret hne) fun _ ↦ ?_
  rw [debugAssert, if_neg (fun h ↦ h.2 htype.symm), pure_bind]
  exact ⟨rfl, hends⟩

/-- What the broker sends for a message of this quality of service, and the packet with which the
client goes on after the PUBLISH. -/
inductive Answered : UInt8 → List Packet → List (List UInt8) → Prop
  | atMostOnce : Answered 0 [] []
  | atLeastOnce {before : List Packet} {puback : Packet} (id : UInt16)
      (hbrings : Brings .puback before puback) (hpuback : puback.payload = u16 id.toNat) :
      Answered 1 (before ++ [puback]) []
  | exactlyOnce {before before' : List Packet} {pubrec pubcomp : Packet} (id id' : UInt16)
      (hbrings : Brings .pubrec before pubrec) (hpubrec : pubrec.payload = u16 id.toNat)
      (hbrings' : Brings .pubcomp before' pubcomp) (hpubcomp : pubcomp.payload = u16 id'.toNat) :
      Answered 2 (before ++ [pubrec] ++ (before' ++ [pubcomp])) [ackPacket .pubrel 0 id]

/-- Each of the handshakes comes to its end. -/
theorem post_checkPublishQos_prompt (hencode : P.paho.EncodesLength)
    (hack : P.paho.DeserializesAck) {qos : UInt8} (hrelease : qos = 2 → P.paho.SerializesAck)
    {incoming : List Packet} {released : List (List UInt8)}
    (hanswered : Answered qos incoming released) (h : s.world.answers.Prompt patience tick)
    (hself : self.Live netFuel n connected) (hrx : s.world.rx = stream incoming ++ rest)
    (hfuel : incoming.length ≤ fuel) (hnetFuel : (patience + 1) * pahoSendBuffSize < netFuel) :
    Post (checkPublishQos P fuel self qos none) s
      (fun r t ↦ r.1 = mqttSuccess ∧ r.2.Live netFuel n connected ∧
        Transfers s t (stream incoming) released) fun _ _ ↦ False := by
  cases hanswered with
  | atMostOnce => exact ⟨rfl, hself, .refl s⟩
  | @atLeastOnce before puback id hbrings hpuback =>
      rw [List.length_append, List.length_singleton] at hfuel
      show Post (expectAck P fuel self .puback ⟨0, 0, 0⟩ none >>= _) s _ _
      apply (post_expectAck_prompt hencode hack hbrings hpuback h hself hrx hfuel hnetFuel _).bind
      rintro ⟨ret, data, client⟩ t ⟨hret, -, hlive, htransfers⟩
      exact ⟨if_neg (not_not.mpr hret), hlive, htransfers⟩
  | @exactlyOnce before before' pubrec pubcomp id id' hbrings hpubrec hbrings' hpubcomp =>
      rw [List.length_append, List.length_append, List.length_append, List.length_singleton,
        List.length_singleton] at hfuel
      rw [stream_append, List.append_assoc] at hrx
      show Post (expectAck P fuel self .pubrec ⟨0, 0, 0⟩ none >>= _) s _ _
      apply (post_expectAck_prompt hencode hack hbrings hpubrec h hself hrx (by omega)
        hnetFuel _).bind
      rintro ⟨ret, data, client⟩ t ⟨hret, hid, hlive, ht⟩
      dsimp only at hret hid hlive
      -- the PUBREL carries the identifier of the PUBREC
      subst hid
      refine post_ite (fun hne ↦ absurd hret hne) fun _ ↦ ?_
      have hserialize := hrelease rfl .pubrel 0 data.packetId client.sendbuf
      have hpos : 0 < (P.paho.serializeAck .pubrel 0 data.packetId client.sendbuf).1 := by
        apply hserialize.2
        rw [hlive.setup.sendbuf]
        simp [ackPacket, length_u16, pahoSendBuffSize]
      have hsend : Post (sendAck P client .pubrel 0 data.packetId) t _ _ :=
        post_sendSerialized_prompt (ht.prompt h) hlive hserialize.1 hpos hnetFuel
      apply hsend.bind
      rintro ⟨ret', client'⟩ u ⟨hret', hlive', hu⟩
      refine post_ite (fun hne ↦ absurd hret' hne) fun _ ↦ ?_
      have hsu := ht.trans hu
      rw [List.append_nil] at hsu
      apply (post_expectAck_prompt hencode hack hbrings' hpubcomp (hsu.prompt h) hlive'
        (hsu.rx_eq hrx) (by omega) hnetFuel data).bind
      rintro ⟨ret'', data', client''⟩ v ⟨hret'', -, hlive'', hv⟩
      refine ⟨if_neg (not_not.mpr hret''), hlive'', ?_⟩
      rw [stream_append]
      have hall := hsu.trans hv
      rwa [List.append_nil] at hall

/-- What a message with this quality of service leaves of the counter. -/
def drawnWith (qos : UInt8) (n : ℕ) : ℕ := if qos = 1 ∨ qos = 2 then n + 1 else n

/-- The message as it is sent when so many identifiers were drawn before. -/
def MqttMessage.numbered (msg : MqttMessage) (n : ℕ) : MqttMessage :=
  if msg.qos = 1 ∨ msg.qos = 2 then { msg with id := UInt16.ofNat (idAfter (n + 1)) } else msg

@[simp] theorem MqttMessage.qos_numbered (msg : MqttMessage) (n : ℕ) :
    (msg.numbered n).qos = msg.qos := by
  unfold numbered
  split_ifs <;> rfl

theorem assignPacketId_of_drawn (hdrawn : HasDrawn n self) (msg : MqttMessage) (s : Sys World) :
    assignPacketId P self msg s =
      .ok (msg.numbered n, { self with nextPacketId := idAfter (drawnWith msg.qos n) }) s := by
  unfold assignPacketId MqttMessage.numbered drawnWith
  split_ifs
  · rw [bind_eq_of_ok (hdrawn.getNextPacketId P s)]
    rfl
  · rw [← show self.nextPacketId = idAfter n from hdrawn]
    rfl

/-- A message that fits is sent and acknowledged. -/
theorem post_mqttClientPublish_prompt (hpaho : P.paho.SerializesPublish)
    (hencode : P.paho.EncodesLength) (hack : P.paho.DeserializesAck)
    {memory : Ptr → List UInt8} {topicName : Ptr} {msg : MqttMessage}
    (hrelease : msg.qos = 2 → P.paho.SerializesAck) {incoming : List Packet}
    {released : List (List UInt8)} (hanswered : Answered msg.qos incoming released)
    (hargs : 0 ≤ (publishArgs memory topicName (msg.numbered n)).payloadLen ∧
      (publishArgs memory topicName (msg.numbered n)).payloadLen ≤
        (publishArgs memory topicName (msg.numbered n)).payload.length)
    (hfits : (publishArgs memory topicName (msg.numbered n)).packet.length ≤ pahoSendBuffSize)
    (h : s.world.answers.Prompt patience tick) (hself : self.Live netFuel n true)
    (hrx : s.world.rx = stream incoming ++ rest) (hfuel : incoming.length ≤ fuel)
    (hnetFuel : (patience + 1) * pahoSendBuffSize < netFuel) :
    Post (mqttClientPublish P fuel memory self topicName msg none) s
      (fun r t ↦ r.1 = mqttSuccess ∧ r.2.1 = msg.numbered n ∧
        r.2.2.Live netFuel (drawnWith msg.qos n) true ∧ Transfers s t (stream incoming)
          ((publishArgs memory topicName (msg.numbered n)).packet :: released))
      fun _ _ ↦ False := by
  have hdrawn : MqttClient.Live netFuel (drawnWith msg.qos n) true
      { self with nextPacketId := idAfter (drawnWith msg.qos n) } :=
    ⟨{ hself.setup with }, hself.sendTimeoutMs, rfl⟩
  have hpos : 0 < (P.paho.serializePublish (publishArgs memory topicName (msg.numbered n))
      self.sendbuf).1 := by
    rwa [serializePublish_pos_iff hpaho hargs, hself.setup.sendbuf]
  have hsend : Post (sendPublish P { self with nextPacketId := idAfter (drawnWith msg.qos n) }
      (publishArgs memory topicName (msg.numbered n))) s _ _ :=
    post_sendSerialized_prompt h hdrawn (hpaho _ _).1 hpos hnetFuel
  rw [Post, mqttClientPublish, if_neg (not_not.mpr hself.setup.isConnected),
    bind_eq_of_ok (assignPacketId_of_drawn hself.drawn msg s)]
  apply hsend.bind
  rintro ⟨ret, client⟩ t ⟨hret, hlive, ht⟩
  dsimp only at hret hlive
  refine post_ite (fun hne ↦ absurd hret hne) fun _ ↦ ?_
  rw [MqttMessage.qos_numbered]
  apply (post_checkPublishQos_prompt hencode hack hrelease hanswered (ht.prompt h) hlive
    (ht.rx_eq hrx) hfuel hnetFuel).bind
  rintro ⟨ret', client'⟩ u ⟨hret', hlive', hu⟩
  exact post_ite (fun hne ↦ absurd hret' hne) fun _ ↦ ⟨rfl, rfl, hlive', ht.trans hu⟩

end Publish

/-! ## Connecting -/

section Connect

variable {P : Platform} {patience tick netFuel fuel n : ℕ} {self : MqttClient World}
  {s : Sys World} {connack : Packet} {before : List Packet} {rest : List UInt8}

/-- The answer to the CONNECT, whatever its return code is. -/
def IsConnackPacket (p : Packet) : Prop := ∃ flags rc, p.payload = [flags, rc]

theorem deserializeConnack_of_packet (hP : P.paho.DeserializesConnack) (htype :
      connack.type = PacketType.connack.code) (h : IsConnackPacket connack) (buffer : List UInt8)
    (old : ConnackData) : (P.paho.deserializeConnack
      (packetInBuffer connack.header connack.payload buffer) old).1 = 1 := by
  obtain ⟨flags, rc, hpayload⟩ := h
  have hconnack : IsConnack rc (packetInBuffer connack.header connack.payload buffer) := by
    rw [hpayload]
    exact ⟨_, flags, _, htype, rfl⟩
  exact hconnack.deserialize hP old

/-- The CONNECT that the settings make fits the send buffer. -/
def ConnectFits (P : Platform) (options : ConnectData) : Prop :=
  ∀ buf, buf.length = pahoSendBuffSize → 0 < (P.paho.serializeConnect options buf).1

/-- The CONNECT that is serialised of these options. -/
def IsConnectOf (P : Platform) (options : ConnectData) (packet : List UInt8) : Prop :=
  packetType packet = some .connect ∧
    ∃ buf, Serialized packet buf (P.paho.serializeConnect options buf)

/-- The CONNECT goes out and its answer comes in. -/
theorem post_mqttClientConnect_prompt (hencode : P.paho.EncodesLength)
    (hconnect : P.paho.SerializesConnect) (hdeserialize : P.paho.DeserializesConnack)
    {options : ConnectData} (hoptions : options.keepAliveInterval = 0)
    (hfits : ConnectFits P options) (hbrings : Brings .connack before connack)
    (hconnack : IsConnackPacket connack) (h : s.world.answers.Prompt patience tick)
    (hself : self.Live netFuel n false)
    (hrx : s.world.rx = stream (before ++ [connack]) ++ rest) (hfuel : before.length < fuel)
    (hnetFuel : (patience + 1) * pahoSendBuffSize < netFuel) :
    Post (mqttClientConnect P fuel self (some options) ⟨0, 0⟩ none) s
      (fun r t ↦ r.1 = mqttSuccess ∧ r.2.2.Live netFuel n true ∧
        ∃ packet, IsConnectOf P options packet ∧
          Transfers s t (stream (before ++ [connack])) [packet]) fun _ _ ↦ False := by
  have hpos := hfits self.sendbuf hself.setup.sendbuf
  obtain ⟨header, body, hheader, hserialized⟩ := hconnect options self.sendbuf hpos
  have hpacket : packetType (header :: (Varint.encode body.length ++ body)) = some .connect :=
    (isPacket_of_length hheader (hself.setup.sendbuf ▸ hserialized.1)).packetType
  generalize hbytes : header :: (Varint.encode body.length ++ body) = packet at hserialized hpacket
  have hawait : Post (awaitConnack P fuel self options none) s
      (fun r t ↦ r.1 = mqttSuccess ∧ r.2.Live netFuel n false ∧
        (∃ buffer, r.2.readbuf = packetInBuffer connack.header connack.payload buffer) ∧
        Transfers s t (stream (before ++ [connack])) [packet]) fun _ _ ↦ False := by
    have htimer : Post (timerCountdown options.keepAliveInterval) s
        (fun _ t ↦ Transfers s t [] []) fun _ _ ↦ False :=
      ⟨⟨rfl, rfl, rfl, (List.append_nil _).symm⟩, (List.append_nil _).symm⟩
    apply htimer.bind
    intro timerLastSend t ht
    have hstarted : MqttClient.Live netFuel n false
        { self with
          keepAliveIntervalMs := options.keepAliveInterval
          timerLastSend := timerLastSend } :=
      ⟨{ hself.setup with keepAliveIntervalMs := hoptions }, hself.sendTimeoutMs, hself.drawn⟩
    have hsend : Post (sendConnect P _ options) t _ _ :=
      post_sendSerialized_prompt (ht.prompt h) hstarted (fun _ ↦ hserialized) hpos hnetFuel
    apply hsend.bind
    rintro ⟨ret, client⟩ u ⟨hret, hlive, hu⟩
    dsimp only at hret hlive
    have htu := ht.trans hu
    refine post_ite (fun hne ↦ absurd hret hne) fun _ ↦ ?_
    apply (post_waitForSpecificPacket_prompt hencode hbrings (htu.prompt h) hlive.setup
      (htu.rx_eq hrx) hfuel hnetFuel).bind
    rintro ⟨ret', client'⟩ v ⟨hret', hsetup, ⟨_, _, _, hwaited⟩, hreadbuf, hv⟩
    dsimp only at hret' hsetup hwaited hreadbuf
    subst hwaited hret'
    exact ⟨rfl, ⟨hsetup, hlive.sendTimeoutMs, hlive.drawn⟩, hreadbuf, htu.trans hv⟩
  rw [mqttClientConnect, if_neg (by rw [hself.setup.isConnected]; exact Bool.false_ne_true)]
  apply hawait.bind
  rintro ⟨ret, client⟩ t ⟨hret, hlive, ⟨buffer, hreadbuf⟩, ht⟩
  refine post_ite (fun hne ↦ absurd hret hne) fun _ ↦ ?_
  dsimp only at hlive hreadbuf ⊢
  refine post_ite (fun hne ↦ absurd ?_ hne) fun _ ↦ ?_
  · rw [hreadbuf]
    exact deserializeConnack_of_packet hdeserialize hbrings.expected hconnack buffer _
  · exact ⟨rfl, ⟨{ hlive.setup with isConnected := rfl }, hlive.sendTimeoutMs, hlive.drawn⟩,
      packet, ⟨hpacket, _, hserialized⟩, ht⟩

end Connect

/-! ## A slow connection -/

/-- Every other attempt to read or write waits, and the next one moves a single byte. The stack
is found running at the second look at the latest. The clocks go on with every call. -/
def Answers.dribbling (parameter : ConfigParameter → List UInt8) : Answers :=
  { Answers.steady with
    timerNow := fun k ↦ k
    getTime := fun k ↦ some (UInt64.ofNat (1 + min k 1000000))
    tlsWrite := fun k ↦ if k % 4 < 2 then .wouldBlock else .success 1
    tlsRead := fun k ↦ if k % 4 < 2 then .wouldBlock else .success 1
    networkStackState := fun k ↦ if k % 2 = 0 then .running else .other
    parameter := parameter }

theorem flows_dribbling :
    Flows (fun k ↦ if k % 4 < 2 then TlsResult.wouldBlock else .success 1) 1 where
  ne_error k code := by split_ifs <;> exact TlsResult.noConfusion
  moves k := by
    by_cases h : k % 4 < 2
    · exact ⟨1, Nat.le_refl 1, 0, if_neg (by omega)⟩
    · exact ⟨0, Nat.zero_le 1, 0, if_neg h⟩

theorem prompt_dribbling (parameter : ConfigParameter → List UInt8) :
    (Answers.dribbling parameter).Prompt 1 1 where
  writes := flows_dribbling
  reads := flows_dribbling
  timeMs_ne := by
    intro k hzero
    have htoNat := congrArg UInt64.toNat hzero
    simp [Answers.timeMs, Answers.dribbling] at htoNat
    omega
  timeMs_step := by
    intro k
    simp [Answers.timeMs, Answers.dribbling, UInt64.toNat_sub]
    omega
  timerNow_le := fun k ↦ Nat.le_succ k
  timerNow_step := fun k ↦ Nat.le_refl (k + 1)
  inTime := by decide

theorem connectFits_reference (assertions : Bool) {options : ConnectData}
    (h : (Paho.Reference.connectPacket options).length ≤ pahoSendBuffSize) :
    ConnectFits (Platform.reference assertions) options := by
  intro buf hbuf
  have hserializes : Serializes (Paho.reference.serializeConnect options)
      (Paho.Reference.connectPacket options) :=
    Paho.Reference.serializes (by simp [Paho.Reference.connectPacket])
  exact (hserializes buf).2 (hbuf ▸ h)

theorem fits_of_short {p : Packet} (h : p.payload.length + 5 ≤ pahoRecvBuffSize) :
    p.Fits pahoRecvBuffSize := by
  rw [pahoRecvBuffSize] at h
  have hencode := Varint.length_encode_le (k := 4) (n := p.payload.length) (by omega) (by omega)
  exact (passesCheck_iff (by decide) (by rw [pahoRecvBuffSize]; omega)).mpr
    (by rw [pahoRecvBuffSize]; omega)

theorem brings_of_short {type : PacketType} {before : List Packet} {p : Packet}
    (hexpected : p.type = type.code) (hothers : ∀ q ∈ before, q.type ≠ type.code)
    (hshort : ∀ q ∈ before ++ [p], q.payload.length + 5 ≤ pahoRecvBuffSize) :
    Brings type before p :=
  ⟨hexpected, hothers, fun q hq ↦ fits_of_short (hshort q hq)⟩

/-- The broker accepts the connection. -/
def acceptingConnack : Packet := .ofPayload 0x20 [0, 0] (by decide)

theorem brings_acceptingConnack : Brings .connack [] acceptingConnack :=
  brings_of_short (by decide) (by simp)
    (by simp [acceptingConnack, Packet.ofPayload, pahoRecvBuffSize])

/-! ## A whole session -/

/-- A message that is published, and what the broker sends for it. -/
structure Publication where
  memory : Ptr → List UInt8
  topicName : Ptr
  msg : MqttMessage
  incoming : List Packet
  released : List (List UInt8)

namespace Publication

def call (x : Publication) : SessionCall := .publish x.memory x.topicName x.msg none

/-- What is serialised when so many identifiers were drawn before. -/
def args (x : Publication) (n : ℕ) : PublishArgs :=
  publishArgs x.memory x.topicName (x.msg.numbered n)

/-- The message fits the send buffer, and the broker answers as its quality of service wants. -/
structure Succeeds (x : Publication) : Prop where
  answered : Answered x.msg.qos x.incoming x.released
  payload : ∀ n, 0 ≤ (x.args n).payloadLen ∧ (x.args n).payloadLen ≤ (x.args n).payload.length
  fits : ∀ n, (x.args n).packet.length ≤ pahoSendBuffSize

end Publication

/-- What the client sends for these messages. -/
def publicationPackets : ℕ → List Publication → List (List UInt8)
  | _, [] => []
  | n, x :: xs => ((x.args n).packet :: x.released) ++ publicationPackets (drawnWith x.msg.qos n) xs

/-- What a session relies on. -/
structure Paho.RunsSession (P : Paho) : Prop where
  encodes : P.EncodesLength
  connect : P.SerializesConnect
  connack : P.DeserializesConnack
  publish : P.SerializesPublish
  acks : P.DeserializesAck
  release : P.SerializesAck
  disconnect : P.SerializesDisconnect

/-- All calls have succeeded, all packets are out in their order, and the session is closed. -/
structure SessionSucceeded (P : Platform) (options : ConnectData) (xs : List Publication)
    (w : World) (rest : List UInt8) (r : List SessionResult × MqttClient World)
    (t : Sys World) : Prop where
  history : r.1 = .connect mqttSuccess ::
    (List.replicate xs.length (.publish mqttSuccess) ++ [.disconnect])
  closed : r.2.isConnected = false
  rx : t.world.rx = rest
  wire : t.world.wire = w.wire ++ (sentPackets t.trace).flatten
  sentPackets : ∃ connect, IsConnectOf P options connect ∧
    sentPackets t.trace = connect :: (publicationPackets 0 xs ++ [disconnectPacket])

section WholeSession

variable {P : Platform} {patience tick netFuel fuel n : ℕ} {client : MqttClient World}
  {s : Sys World} {rest : List UInt8} {xs : List Publication}

theorem post_callSession_publish_prompt (hP : P.paho.RunsSession)
    (h : s.world.answers.Prompt patience tick) (history : List SessionResult)
    (hclient : client.Live netFuel n true) {x : Publication} (hx : x.Succeeds)
    (hrx : s.world.rx = stream x.incoming ++ rest) (hfuel : x.incoming.length ≤ fuel)
    (hnetFuel : (patience + 1) * pahoSendBuffSize < netFuel) :
    Post (callSession P fuel (history, client) x.call) s
      (fun r t ↦ r.1 = history ++ [.publish mqttSuccess] ∧
        r.2.Live netFuel (drawnWith x.msg.qos n) true ∧
          Transfers s t (stream x.incoming) ((x.args n).packet :: x.released))
      fun _ _ ↦ False := by
  apply (post_mqttClientPublish_prompt hP.publish hP.encodes hP.acks (fun _ ↦ hP.release)
    hx.answered (hx.payload n) (hx.fits n) h hclient hrx hfuel hnetFuel).bind
  rintro ⟨ret, msg, client'⟩ t ⟨hret, -, hlive, ht⟩
  dsimp only at hret
  exact ⟨by rw [hret], hlive, ht⟩

/-- One publish after the other succeeds. -/
theorem post_callSessions_publish_prompt (hP : P.paho.RunsSession)
    (h : s.world.answers.Prompt patience tick) (history : List SessionResult)
    (hclient : client.Live netFuel n true) (hxs : ∀ x ∈ xs, x.Succeeds)
    (hrx : s.world.rx = stream (xs.flatMap Publication.incoming) ++ rest)
    (hfuel : ∀ x ∈ xs, x.incoming.length ≤ fuel)
    (hnetFuel : (patience + 1) * pahoSendBuffSize < netFuel) :
    Post ((xs.map Publication.call).foldlM (callSession P fuel) (history, client)) s
      (fun r t ↦ r.1 = history ++ List.replicate xs.length (.publish mqttSuccess) ∧
        (∃ n', r.2.Live netFuel n' true) ∧
          Transfers s t (stream (xs.flatMap Publication.incoming)) (publicationPackets n xs))
      fun _ _ ↦ False := by
  induction xs generalizing s client n history with
  | nil => exact ⟨(List.append_nil history).symm, ⟨n, hclient⟩, .refl s⟩
  | cons x xs ih =>
      rw [List.flatMap_cons, stream_append, List.append_assoc] at hrx
      rw [List.map_cons, List.foldlM_cons]
      apply (post_callSession_publish_prompt hP h history hclient (hxs x List.mem_cons_self) hrx
        (hfuel x List.mem_cons_self) hnetFuel).bind
      rintro ⟨history', client'⟩ t ⟨hhistory, hlive, ht⟩
      dsimp only at hhistory
      refine (ih (ht.prompt h) history' hlive (fun x' hx' ↦ hxs x' (List.mem_cons_of_mem x hx'))
        (ht.rx_eq hrx) fun x' hx' ↦ hfuel x' (List.mem_cons_of_mem x hx')).mono ?_ fun _ _ h ↦ h
      rintro r u ⟨hhistory', hlive', hu⟩
      refine ⟨?_, hlive', ?_⟩
      · rw [hhistory', hhistory, List.append_assoc, List.length_cons, List.replicate_succ]
        rfl
      · rw [List.flatMap_cons, stream_append]
        exact ht.trans hu

/-- The DISCONNECT goes out. -/
theorem post_mqttClientDisconnect_prompt (hP : P.paho.SerializesDisconnect)
    (h : s.world.answers.Prompt patience tick) (hclient : client.Live netFuel n true)
    (hnetFuel : (patience + 1) * pahoSendBuffSize < netFuel) :
    Post (mqttClientDisconnect P client) s
      (fun client' t ↦ client'.isConnected = false ∧ Transfers s t [] [disconnectPacket])
      fun _ _ ↦ False := by
  have hserialize := hP client.sendbuf
  have hpos : 0 < (P.paho.serializeDisconnect client.sendbuf).1 := by
    apply hserialize.2
    rw [hclient.setup.sendbuf]
    decide
  have hsend : Post (sendDisconnect P client) s (fun _ t ↦ Transfers s t [] [disconnectPacket])
      fun _ _ ↦ False := by
    rw [sendDisconnect, if_neg (Int.not_le.mpr hpos)]
    exact (post_sendPacket_prompt h hclient (hserialize.1 hpos) hnetFuel).bind fun _ _ ht ↦ ht.2
  exact hsend.bind fun _ _ ht ↦ ⟨rfl, ht⟩

/-- Over a connection that stays up, with a broker that answers, a session with any messages of
any quality of service comes to its end with enough turns of the loops: every call succeeds, and
what is sent are the CONNECT, for each message a PUBLISH with the next identifier if it has one
and the PUBREL that goes on after a PUBREC, and the DISCONNECT. -/
theorem callSessions_succeeds (hP : P.paho.RunsSession) {w : World}
    (h : w.answers.Prompt patience tick) {options : ConnectData}
    (hoptions : options.keepAliveInterval = 0) (hconnect : ConnectFits P options)
    {before : List Packet} {connack : Packet} (hbrings : Brings .connack before connack)
    (hconnack : IsConnackPacket connack) (hxs : ∀ x ∈ xs, x.Succeeds)
    (hrx : w.rx = stream (before ++ [connack]) ++
      (stream (xs.flatMap Publication.incoming) ++ rest)) {sendbuf readbuf : List UInt8}
    (hsendbuf : sendbuf.length = pahoSendBuffSize)
    (hreadbuf : readbuf.length = pahoRecvBuffSize) (self : MqttClient World) :
    ∃ k, ∀ fuel ≥ k, ∃ r t,
      callSessions P fuel
          (mqttClientInit self (netWan fuel) pahoTimeoutMsCommand sendbuf readbuf)
          (.connect (some options) ⟨0, 0⟩ none :: (xs.map Publication.call ++ [.disconnect]))
          ⟨w, []⟩ = .ok r t ∧
        SessionSucceeded P options xs w rest r t := by
  let observed := (xs.map fun x ↦ x.incoming.length).max?.getD 0
  refine ⟨(patience + 1) * pahoSendBuffSize + before.length + observed + 1, fun fuel hfuel ↦ ?_⟩
  have hpublished : ∀ x ∈ xs, x.incoming.length ≤ fuel := by
    intro x hx
    have hobserved : x.incoming.length ≤ observed :=
      List.le_max?_getD_of_mem (List.mem_map_of_mem hx)
    omega
  have hnetFuel : (patience + 1) * pahoSendBuffSize < fuel := by omega
  have hinit : (mqttClientInit self (netWan fuel) pahoTimeoutMsCommand sendbuf readbuf).Live fuel 0
      false := ⟨⟨rfl, hreadbuf, hsendbuf, rfl, rfl⟩, rfl, rfl⟩
  apply Post.exists_ok
  show Post (callSession P fuel ([], _) (.connect (some options) ⟨0, 0⟩ none) >>= _) _ _ _
  have hopen : Post (callSession P fuel
      ([], mqttClientInit self (netWan fuel) pahoTimeoutMsCommand sendbuf readbuf)
      (.connect (some options) ⟨0, 0⟩ none)) (⟨w, []⟩ : Sys World)
      (fun r t ↦ r.1 = [.connect mqttSuccess] ∧ r.2.Live fuel 0 true ∧
        ∃ packet, IsConnectOf P options packet ∧
          Transfers ⟨w, []⟩ t (stream (before ++ [connack])) [packet]) fun _ _ ↦ False := by
    apply (post_mqttClientConnect_prompt hP.encodes hP.connect hP.connack hoptions hconnect hbrings
      hconnack h hinit hrx (by omega) hnetFuel).bind
    rintro ⟨ret, data, client⟩ t ⟨hret, hlive, hpacket⟩
    dsimp only at hret
    exact ⟨by rw [hret]; rfl, hlive, hpacket⟩
  apply hopen.bind
  rintro ⟨history, client⟩ t ⟨hhistory, hlive, packet, hpacket, ht⟩
  rw [List.foldlM_append]
  apply (post_callSessions_publish_prompt hP (ht.prompt h) history hlive hxs (ht.rx_eq hrx)
    hpublished hnetFuel).bind
  rintro ⟨history', client'⟩ u ⟨hhistory', ⟨n, hlive'⟩, hu⟩
  have htu := ht.trans hu
  have hclose : Post (callSession P fuel (history', client') .disconnect) u
      (fun r v ↦ r.1 = history' ++ [.disconnect] ∧ r.2.isConnected = false ∧
        Transfers u v [] [disconnectPacket]) fun _ _ ↦ False := by
    apply (post_mqttClientDisconnect_prompt hP.disconnect (htu.prompt h) hlive' hnetFuel).bind
    rintro client'' v ⟨hclosed, hv⟩
    exact ⟨rfl, hclosed, hv⟩
  apply hclose.bind
  rintro r v ⟨hr, hclosed, hv⟩
  have hall := htu.trans hv
  dsimp only at hhistory hhistory'
  have hsent : sentPackets v.trace = packet :: (publicationPackets 0 xs ++ [disconnectPacket]) :=
    hall.sentPackets
  refine ⟨?_, hclosed, hv.rx_eq (hu.rx_eq (ht.rx_eq hrx)), ?_, packet, hpacket, hsent⟩
  · rw [hr, hhistory', hhistory]
    rfl
  · rw [hsent]
    exact hall.moved.wire

/-- A message whose topic and payload are one character. -/
def shortMessage (qos : UInt8) (incoming : List Packet) (released : List (List UInt8)) :
    Publication where
  memory _ := [0x74, 0]
  topicName := .null
  msg := { MqttMessage.zeroed with qos := qos, payloadlen := 1 }
  incoming := incoming
  released := released

theorem succeeds_shortMessage {qos : UInt8} {incoming : List Packet}
    {released : List (List UInt8)} (hanswered : Answered qos incoming released) :
    (shortMessage qos incoming released).Succeeds := by
  have hbody : ∀ id, (publishBody qos.toNat id [0x74] [0x74]).length ≤ 6 := by
    intro id
    unfold publishBody
    split_ifs <;> simp [length_u16]
  have hpacket : ∀ id, (publishPacket 0 qos.toNat 0 id [0x74] [0x74]).length ≤ 8 := by
    intro id
    have hlength := hbody id
    have hencode := Varint.length_encode_le (k := 1) (by omega) (hlength.trans_lt (by decide))
    simp only [publishPacket, List.length_cons, List.length_append]
    omega
  have hpayload : 0 ≤ toCInt 1 ∧ toCInt 1 ≤ ([0x74, 0] : List UInt8).length := by decide
  refine ⟨hanswered, fun n ↦ ?_, fun n ↦ ?_⟩
  · unfold Publication.args MqttMessage.numbered
    split_ifs <;> exact hpayload
  · unfold Publication.args MqttMessage.numbered
    split_ifs <;> exact (hpacket _).trans (by decide)

/-- An acknowledgement. -/
def shortAck (header : UInt8) (id : UInt16) : Packet :=
  .ofPayload header (u16 id.toNat) (length_u16_lt id)

theorem brings_shortAck {type : PacketType} {header : UInt8} (id : UInt16) {before : List Packet}
    (htype : headerType header = type.code) (hothers : ∀ q ∈ before, q.type ≠ type.code)
    (hshort : ∀ q ∈ before, q.payload = []) : Brings type before (shortAck header id) := by
  refine brings_of_short htype hothers fun q hq ↦ ?_
  rcases List.mem_append.mp hq with hq | hq
  · rw [hshort q hq]
    decide
  · rw [List.mem_singleton.mp hq, shortAck, Packet.ofPayload, length_u16]
    decide

/-- A PINGRESP that nobody has asked for. -/
def strayPingresp : Packet := .ofPayload 0xD0 [] length_nil_lt

/-- A message of each quality of service, and the answers to them. -/
def threeMessages : List Publication :=
  [shortMessage 0 [] [],
    shortMessage 1 ([strayPingresp] ++ [shortAck 0x40 2]) [],
    shortMessage 2 ([] ++ [shortAck 0x50 3] ++ ([] ++ [shortAck 0x70 3])) [ackPacket .pubrel 0 3]]

theorem succeeds_threeMessages : ∀ x ∈ threeMessages, x.Succeeds := by
  have hpuback : Brings .puback [strayPingresp] (shortAck 0x40 2) :=
    brings_shortAck 2 (by decide) (by simp only [List.mem_singleton, forall_eq]; decide)
      (by simp [strayPingresp, Packet.ofPayload])
  have hpubrec : Brings .pubrec [] (shortAck 0x50 3) :=
    brings_shortAck 3 (by decide) (by simp) (by simp)
  have hpubcomp : Brings .pubcomp [] (shortAck 0x70 3) :=
    brings_shortAck 3 (by decide) (by simp) (by simp)
  simp only [threeMessages, List.mem_cons, List.not_mem_nil, or_false, forall_eq_or_imp, forall_eq]
  exact ⟨succeeds_shortMessage .atMostOnce,
    succeeds_shortMessage (.atLeastOnce 2 hpuback rfl),
    succeeds_shortMessage (.exactlyOnce 3 3 hpubrec rfl hpubcomp rfl)⟩

def ConnectData.withoutKeepAlive : ConnectData :=
  { ConnectData.initializer with keepAliveInterval := 0 }

def World.answering : World :=
  ⟨Answers.dribbling Answers.steady.parameter, 0,
    [0x20, 2, 0, 0, 0xD0, 0, 0x40, 2, 0, 2, 0x50, 2, 0, 3, 0x70, 2, 0, 3], [], false⟩

/-- The three messages are sent in one session. -/
theorem callSessions_succeeds_threeMessages :
    ∃ k, ∀ fuel ≥ k, ∃ r t,
      callSessions (Platform.reference true) fuel
          (mqttClientInit MqttClient.zeroed (netWan fuel) pahoTimeoutMsCommand
            (zeros pahoSendBuffSize) (zeros pahoRecvBuffSize))
          (.connect (some ConnectData.withoutKeepAlive) ⟨0, 0⟩ none ::
            (threeMessages.map Publication.call ++ [.disconnect]))
          ⟨World.answering, []⟩ = .ok r t ∧
        SessionSucceeded (Platform.reference true) ConnectData.withoutKeepAlive threeMessages
          World.answering [] r t := by
  have hpaho : (Platform.reference true).paho.RunsSession :=
    { encodes := Paho.reference.encodesLength
      connect := Paho.reference.serializesConnect
      connack := Paho.reference.deserializesConnack
      publish := Paho.reference.serializesPublish
      acks := Paho.reference.deserializesAck
      release := Paho.reference.serializesAck
      disconnect := Paho.reference.serializesDisconnect }
  exact callSessions_succeeds hpaho (prompt_dribbling _) rfl
    (connectFits_reference true (by decide)) brings_acceptingConnack ⟨0, 0, rfl⟩
    succeeds_threeMessages (by decide)
    List.length_replicate List.length_replicate MqttClient.zeroed

end WholeSession

end DemoIotApp
