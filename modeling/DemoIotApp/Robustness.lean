import DemoIotApp.PacketBounds
import DemoIotApp.PacketDecoding
import DemoIotApp.Startup

/-!
# Nothing from outside stops the component

The model stops a run at a null pointer, at a store or load outside an object, and at a failed
assertion. Of these none depends on the network: whatever the broker sends and however the
connection fails, a component whose sensor sends tame packets only waits or goes on, with
assertions compiled in or without.
-/

namespace DemoIotApp

open Library Prog

/-- The type in the data of an acknowledgement is the one in the header. -/
def Paho.ReportsAckType (P : Paho) : Prop :=
  ∀ buf data, P.deserializeAck buf = (1, data) → data.type = headerType (buf.headD 0)

theorem Paho.reference_reportsAckType : Paho.reference.ReportsAckType := by
  intro buf data h
  cases buf with
  | nil => cases h
  | cons header rest =>
      simp only [reference, Reference.deserializeAck, Reference.splitPacket] at h
      split at h
      · rename_i header' _ high low _ hsplit
        obtain ⟨⟨n, unread⟩, -, hpacket⟩ := Option.map_eq_some_iff.mp hsplit
        obtain ⟨rfl, -⟩ := Prod.mk.inj hpacket
        rw [← (Prod.mk.inj h).2]
        rfl
      · cases h

/-- The call returns in `V`, or it goes on beyond what is observed. -/
def RunsOn {α : Type} (V : α → Prop) (m : Prog Stop (Sys World) α) : Prop :=
  Keeps (fun _ ↦ True) (fun e _ ↦ e = .unfinished) V m

theorem RunsOn.and_yields {α : Type} {V V' : α → Prop} {m : Prog Stop (Sys World) α}
    (h : RunsOn V m) (h' : Yields V' m) : RunsOn (fun a ↦ V a ∧ V' a) m :=
  fun s hs ↦ ((h s hs).and (h'.post s)).mono (fun _ _ hr ↦ ⟨⟨hr.1.1, hr.2⟩, trivial⟩)
    fun _ _ he ↦ he.1

theorem runsOn_readClock : RunsOn (fun _ ↦ True) readClock := fun _ _ ↦ ⟨trivial, trivial⟩

theorem sendKeeps_runsOn (netFuel : ℕ) : SendKeeps (netWan netFuel) (fun _ ↦ True)
    (fun _ ↦ True) fun e _ ↦ e = .unfinished :=
  sendKeeps_netWan netFuel (fun _ _ _ _ _ _ _ ↦ trivial) fun _ _ ↦ rfl

/-! ## Receiving -/

section Receiving

variable {P : Platform} {netFuel size sendSize : ℕ} {connected : Bool} {self : MqttClient World}

theorem readStops_unfinished (netFuel : ℕ) :
    ReadStops (netWan netFuel) fun e _ ↦ e = .unfinished := by
  intro buffer timer s
  unfold mqttNetworkRead
  rw [Sys.post_observed]
  have htimeout : RunsOn (fun _ ↦ True) (timeoutOf timer : Prog Stop (Sys World) ℤ) := by
    cases timer with
    | none => exact keeps_pure trivial
    | some timer => exact fun _ _ ↦ ⟨trivial, trivial⟩
  apply (htimeout s trivial).bind
  intro timeoutMs t _
  have hread := World.keeps_glueTlsMqttRead (I := fun _ ↦ True) (fun _ _ _ _ ↦ trivial)
    netFuel buffer timeoutMs t.world trivial
  show Post (Sys.onWorld (glueTlsMqttRead netFuel buffer timeoutMs)) t _ _
  rw [Sys.post_onWorld]
  exact hread.mono (fun _ _ _ ↦ trivial) fun _ _ h ↦ h.1

/-- The type that is returned is the one in the buffer. -/
theorem PacketEnds.headerType {W : Type} {rx : W → List UInt8} {buffer : List UInt8} {s t : Sys W}
    {r : ℤ × List UInt8} (h : PacketEnds rx buffer s r t) (hr : 0 ≤ r.1) :
    r.1 = DemoIotApp.headerType (r.2.headD 0) := by
  cases h with
  | complete => rfl
  | headerFailed _ _ _ _ _ hneg => exact absurd hr (Int.not_le.mpr hneg)
  | lengthFailed _ _ _ _ _ _ _ _ _ _ _ _ hneg => exact absurd hr (Int.not_le.mpr hneg)
  | lengthTooLong => exact absurd hr (Int.not_le.mpr mqttFailure_neg)
  | overflow => exact absurd hr (show ¬0 ≤ mqttBufferOverflow by decide)
  | payloadFailed _ _ _ _ _ _ _ _ _ _ _ _ _ hneg => exact absurd hr (Int.not_le.mpr hneg)

theorem runsOn_mqttNetworkReadPacket {P : Paho} (hP : P.EncodesLength) (netFuel : ℕ)
    {buffer : List UInt8} (hsize : 5 ≤ buffer.length) (timer : Option Timer) :
    RunsOn (fun r : ℤ × List UInt8 ↦ r.2.length = buffer.length ∧
        (0 ≤ r.1 → r.1 = headerType (r.2.headD 0)))
      (mqttNetworkReadPacket P (netWan netFuel) buffer timer) := by
  intro s _
  have hstream := readsStream_netWan netFuel
  have hends := post_mqttNetworkReadPacket hP hstream (readStops_unfinished netFuel) (by omega)
    timer (hasRoom_of_le hsize (World.rx s.world))
  have hlength := (readKeeps_length hstream).mqttNetworkReadPacket P buffer timer s trivial
  exact (hends.and hlength).mono
    (fun _ _ h ↦ ⟨⟨h.2.1, fun hr ↦ h.1.headerType hr⟩, trivial⟩) fun _ _ h ↦ h.1

/-- Without a keep-alive nothing is sent. -/
theorem runsOn_waitForNextPacket (hP : P.paho.EncodesLength) (hsize : 5 ≤ size)
    (hself : Setup (netWan netFuel) size sendSize 0 connected self) (timer : Option Timer) :
    RunsOn (fun r : ℤ × MqttClient World ↦ Setup (netWan netFuel) size sendSize 0 connected r.2 ∧
        (0 < r.1 → r.1 = headerType (r.2.readbuf.headD 0)))
      (waitForNextPacket P self timer) := by
  have hkeepAlive : ∀ (packetType : ℤ) (client : MqttClient World),
      Setup (netWan netFuel) size sendSize 0 connected client →
      (0 < packetType → packetType = headerType (client.readbuf.headD 0)) →
      RunsOn (fun r : ℤ × MqttClient World ↦ Setup (netWan netFuel) size sendSize 0 connected r.2 ∧
        (0 < r.1 → r.1 = headerType (r.2.readbuf.headD 0))) (keepAlive P client packetType) := by
    intro packetType client hclient htype
    have hexpired : keepAliveExpired client = pure false :=
      if_neg (not_not.mpr hclient.keepAliveIntervalMs)
    rw [keepAlive, hexpired, pure_bind, if_neg (by simp)]
    refine keeps_pure ⟨hclient, ?_⟩
    by_cases hnone : packetType = -1
    · simp [hnone, mqttSuccess]
    · rwa [if_neg hnone]
  have hreceive : RunsOn (fun r : ℤ × MqttClient World ↦
      Setup (netWan netFuel) size sendSize 0 connected r.2 ∧
        (0 ≤ r.1 → r.1 = headerType (r.2.readbuf.headD 0))) (receivePacket P self timer) := by
    unfold receivePacket
    rw [hself.net]
    have hread := runsOn_mqttNetworkReadPacket hP netFuel (hself.readbuf ▸ hsize) timer
    have hobserved : RunsOn _ (Sys.observed .readPacket _) := fun s hs ↦
      Sys.post_observed.mpr ((hread s hs).mono (fun _ _ h ↦ h) fun _ _ h ↦ h)
    apply hobserved.bind
    rintro ⟨ret, readbuf⟩ ⟨hlength, htype⟩
    exact keeps_pure ⟨{ hself with net := rfl, readbuf := hlength.trans hself.readbuf }, htype⟩
  apply hreceive.bind
  rintro ⟨ret, client⟩ ⟨hclient, htype⟩
  refine keeps_ite (fun _ ↦ hkeepAlive _ _ hclient (by simp)) fun hneg ↦ ?_
  have hknown : 0 < ret → ret = headerType (client.readbuf.headD 0) := fun h ↦ htype h.le
  exact keeps_ite (fun _ ↦ hkeepAlive _ _ { hclient with } hknown) fun _ ↦
    hkeepAlive _ _ hclient hknown

theorem runsOn_waitForSpecificPacket (hP : P.paho.EncodesLength) (hsize : 5 ≤ size)
    {packetType : ℤ} (hpos : 0 < packetType) (fuel : ℕ)
    (hself : Setup (netWan netFuel) size sendSize 0 connected self) (timer : Option Timer) :
    RunsOn (fun r : ℤ × MqttClient World ↦ Setup (netWan netFuel) size sendSize 0 connected r.2 ∧
        (r.1 = mqttSuccess → packetType = headerType (r.2.readbuf.headD 0)))
      (waitForSpecificPacket P packetType timer fuel self) := by
  induction fuel generalizing self with
  | zero => exact keeps_stop fun _ _ ↦ rfl
  | succ fuel ih =>
      have htimedOut : RunsOn (fun _ ↦ True) (isTimedOut timer : Prog Stop (Sys World) Bool) := by
        cases timer with
        | none => exact keeps_pure trivial
        | some timer => exact runsOn_readClock.bind fun _ _ ↦ keeps_pure trivial
      apply htimedOut.bind
      intro timedOut _
      refine keeps_ite (fun _ ↦ keeps_pure ⟨hself, fun h : mqttTimeout = mqttSuccess ↦
        absurd h (by decide)⟩) fun _ ↦ ?_
      apply (runsOn_waitForNextPacket hP hsize hself timer).bind
      rintro ⟨ret, client⟩ ⟨hclient, htype⟩
      refine keeps_ite (fun _ ↦ keeps_pure ⟨hclient, fun h ↦ absurd h mqttFailure_ne_mqttSuccess⟩)
        fun _ ↦ ?_
      refine keeps_ite (fun heq ↦ keeps_pure ⟨hclient, fun _ ↦ ?_⟩) fun _ ↦ ih hclient
      rw [← heq]
      exact htype (heq ▸ hpos)

end Receiving

/-! ## Publishing and connecting -/

/-- What the relay needs of Paho to be sturdy. -/
structure Paho.Sturdy (P : Paho) : Prop where
  encodes : P.EncodesLength
  ackType : P.ReportsAckType

section Sending

variable {P : Platform} {netFuel fuel sendSize : ℕ} {connected : Bool} {self : MqttClient World}

theorem runsOn_sendSerialized (serialize : Serializer)
    (hself : Setup (netWan netFuel) pahoRecvBuffSize sendSize 0 connected self) :
    RunsOn (fun r : ℤ × MqttClient World ↦
        Setup (netWan netFuel) pahoRecvBuffSize sendSize 0 connected r.2)
      (sendSerialized serialize self) :=
  ((sendKeeps_runsOn netFuel).leaves.sendSerialized runsOn_readClock (fun _ _ _ ↦ trivial)
    hself).keeps

/-- The assertion on the type holds, because the packet that has ended the wait is the one that
is looked at. -/
theorem runsOn_expectAck (hP : P.paho.Sturdy) {type : PacketType} {data : AckData}
    (hself : Setup (netWan netFuel) pahoRecvBuffSize sendSize 0 connected self)
    (timer : Option Timer) :
    RunsOn (fun r : ℤ × AckData × MqttClient World ↦
        Setup (netWan netFuel) pahoRecvBuffSize sendSize 0 connected r.2.2)
      (expectAck P fuel self type data timer) := by
  have hpos : (0 : ℤ) < type.code := by cases type <;> decide
  have hack : RunsOn (fun r : ℤ × AckData × MqttClient World ↦
      Setup (netWan netFuel) pahoRecvBuffSize sendSize 0 connected r.2.2 ∧
        (r.1 = mqttSuccess → type.code = r.2.1.type))
      (waitAndReadSpecificAckPacket P fuel self type data timer) := by
    apply (runsOn_waitForSpecificPacket hP.encodes (by decide) hpos fuel hself timer).bind
    rintro ⟨ret, client⟩ ⟨hclient, htype⟩
    refine keeps_ite (fun _ ↦ keeps_pure ⟨hclient, fun h : mqttFailure = mqttSuccess ↦
      absurd h mqttFailure_ne_mqttSuccess⟩) fun hret ↦ ?_
    refine keeps_pure ⟨hclient, fun hlen ↦ ?_⟩
    have hone : (P.paho.deserializeAck client.readbuf).1 = 1 := by
      by_contra hne
      exact absurd ((if_pos hne).symm.trans hlen) mqttFailure_ne_mqttSuccess
    have hreported := hP.ackType client.readbuf _ (Prod.ext hone rfl)
    exact (Int.natCast_inj.mp (htype (not_not.mp hret))).trans hreported.symm
  apply hack.bind
  rintro ⟨ret, data', client⟩ ⟨hclient, htype⟩
  refine keeps_ite (fun _ ↦ keeps_pure hclient) fun hret ↦ ?_
  have hassert : RunsOn (fun _ ↦ True) (debugAssert P.assertions (type.code = data'.type)) :=
    keeps_ite (fun h ↦ absurd (htype (not_not.mp hret)) h.2) fun _ ↦ keeps_pure trivial
  exact hassert.bind fun _ _ ↦ keeps_pure hclient

/-- The assertion on the counter holds. -/
theorem runsOn_getNextPacketId (hcount : self.nextPacketId ≤ maxPacketId)
    (hself : Setup (netWan netFuel) pahoRecvBuffSize sendSize 0 connected self) :
    RunsOn (fun r : ℕ × MqttClient World ↦
        Setup (netWan netFuel) pahoRecvBuffSize sendSize 0 connected r.2)
      (getNextPacketId P self) := by
  have hassert : RunsOn (fun _ ↦ True)
      (debugAssert P.assertions (self.nextPacketId ≤ maxPacketId)) :=
    keeps_ite (fun h ↦ absurd hcount h.2) fun _ ↦ keeps_pure trivial
  exact hassert.bind fun _ _ ↦ keeps_pure { hself with }

/-- The messages of the relay have quality of service 1. -/
theorem runsOn_mqttClientPublish (hP : P.paho.Sturdy) {memory : Ptr → List UInt8}
    {topicName : Ptr} {msg : MqttMessage} (hqos : msg.qos = 1)
    (hcount : self.nextPacketId ≤ maxPacketId)
    (hself : Setup (netWan netFuel) pahoRecvBuffSize sendSize 0 connected self)
    (timer : Option Timer) :
    RunsOn (fun r : ℤ × MqttMessage × MqttClient World ↦
        (∃ connected, Setup (netWan netFuel) pahoRecvBuffSize sendSize 0 connected r.2.2) ∧
          ∃ id, r.2.1 = { msg with id := id })
      (mqttClientPublish P fuel memory self topicName msg timer) := by
  refine keeps_ite (fun _ ↦ keeps_pure ⟨⟨_, hself.closeSession⟩, msg.id, rfl⟩) fun _ ↦ ?_
  have hassign : RunsOn (fun r : MqttMessage × MqttClient World ↦
      Setup (netWan netFuel) pahoRecvBuffSize sendSize 0 connected r.2 ∧
        ∃ id, r.1 = { msg with id := id }) (assignPacketId P self msg) := by
    refine keeps_ite (fun _ ↦ ?_) fun _ ↦ keeps_pure ⟨hself, msg.id, rfl⟩
    exact (runsOn_getNextPacketId hcount hself).bind fun r hr ↦ keeps_pure ⟨hr, _, rfl⟩
  apply hassign.bind
  rintro ⟨msg₁, self₁⟩ ⟨hself₁, id, rfl⟩
  apply (runsOn_sendSerialized _ hself₁).bind
  rintro ⟨ret, self₂⟩ hself₂
  refine keeps_ite (fun _ ↦ keeps_pure ⟨⟨_, hself₂.closeSession⟩, id, rfl⟩) fun _ ↦ ?_
  have hcheck : RunsOn (fun r : ℤ × MqttClient World ↦
      Setup (netWan netFuel) pahoRecvBuffSize sendSize 0 connected r.2)
      (checkPublishQos P fuel self₂ msg.qos timer) := by
    rw [hqos, checkPublishQos, if_neg (by decide), if_pos rfl]
    exact (runsOn_expectAck hP hself₂ timer).bind fun _ h ↦ keeps_pure h
  apply hcheck.bind
  rintro ⟨ret, self₃⟩ hself₃
  exact keeps_ite (fun _ ↦ keeps_pure ⟨⟨_, hself₃.closeSession⟩, id, rfl⟩) fun _ ↦
    keeps_pure ⟨⟨_, hself₃⟩, id, rfl⟩

theorem runsOn_mqttClientDisconnect
    (hself : Setup (netWan netFuel) pahoRecvBuffSize sendSize 0 connected self) :
    RunsOn (Setup (netWan netFuel) pahoRecvBuffSize sendSize 0 false)
      (mqttClientDisconnect P self) :=
  ((sendKeeps_runsOn netFuel).leaves.mqttClientDisconnect runsOn_readClock
    (fun _ _ _ ↦ trivial) hself).keeps

/-- The options of the component turn the keep-alive off. -/
theorem runsOn_mqttClientConnect (hP : P.paho.Sturdy) {options : ConnectData}
    (hoptions : options.keepAliveInterval = 0)
    (hself : Setup (netWan netFuel) pahoRecvBuffSize sendSize 0 connected self) :
    RunsOn (fun _ ↦ True) (mqttClientConnect P fuel self (some options) ⟨0, 0⟩ none) := by
  have hawait : RunsOn (fun _ ↦ True) (awaitConnack P fuel self options none) := by
    apply (runsOn_readClock.bind fun _ _ ↦ keeps_pure trivial : RunsOn (fun _ ↦ True)
      (timerCountdown options.keepAliveInterval)).bind
    intro timerLastSend _
    have hset : Setup (netWan netFuel) pahoRecvBuffSize sendSize 0 connected { self with
        keepAliveIntervalMs := options.keepAliveInterval, timerLastSend := timerLastSend } :=
      { hself with keepAliveIntervalMs := hoptions }
    apply (runsOn_sendSerialized _ hset).bind
    rintro ⟨ret, client⟩ hclient
    refine keeps_ite (fun _ ↦ keeps_pure trivial) fun _ ↦ ?_
    exact (runsOn_waitForSpecificPacket hP.encodes (by decide) (by decide) fuel hclient none).bind
      fun _ _ ↦ keeps_pure trivial
  refine keeps_ite (fun _ ↦ keeps_pure trivial) fun _ ↦ ?_
  apply hawait.bind
  rintro ⟨ret, client⟩ _
  exact keeps_ite (fun _ ↦ keeps_pure trivial) fun _ ↦
    keeps_ite (fun _ ↦ keeps_pure trivial) fun _ ↦ keeps_pure trivial

end Sending

/-! ## Messages of the sensor -/

/-- A tame message is no CONNECT. If it is a PUBLISH it is malformed, or it ends within the read
buffer with a payload that does not begin behind its end, whatever was received before. -/
structure Tame (P : Platform) (sensorPort : SensorPort) : Prop where
  not_connect : headerType (sensorPort.bytes.headD 0) ≠ PacketType.connect.code
  publish : headerType (sensorPort.bytes.headD 0) = PacketType.publish.code →
    ∀ msg topic msg', msg.payloadlen < 2 ^ 32 →
      P.paho.deserializePublish MqttMessage.out (sensorPort.bytes.take pahoRecvBuffSize) msg =
        (1, topic, msg') →
      ∃ packetEnd, DeclaresEnd (sensorPort.bytes.take pahoRecvBuffSize) packetEnd ∧
        packetEnd ≤ pahoRecvBuffSize ∧ MqttMessage.out.payload.load msg' ≤ packetEnd

/-- What is relied on of the other libraries. -/
structure Platform.Sturdy (P : Platform) : Prop extends P.ProcessesPackets where
  paho : P.paho.Sturdy
  deserializes : P.paho.DeserializesWithin
  checks : P.ChecksBuffers

/-- A PUBLISH that lies in the read buffer as a whole is tame when the bytes that are skipped
behind its topic are there. -/
theorem tame_of_publish {P : Platform} (hP : P.paho.DeserializesPublish)
    {sensorPort : SensorPort} {p : Packet} {packetId : UInt16} {topic payload rest : List UInt8}
    (hport : sensorPort.bytes.take pahoRecvBuffSize = p.bytes ++ rest)
    (hpublish : IsPublish p packetId topic payload)
    (hskip : skippedLen p ≤ (behindTopic p packetId payload).length) : Tame P sensorPort where
  not_connect := by
    rw [headD_take (by decide) hport]
    exact fun h ↦ absurd (hpublish.type.symm.trans h) (by decide)
  publish := by
    intro _ msg topic' msg' hpayloadlen hout
    have hlength : (sensorPort.bytes.take pahoRecvBuffSize).length = pahoRecvBuffSize := by
      rw [List.length_take, sensorPort.length_bytes]
      decide
    have hlayout := hpublish.length_layout hlength hport
    obtain ⟨msg'', hout', hpayload, -⟩ :=
      deserializePublish_eq rest hP hpublish (by omega) hpayloadlen
    rw [hport] at hout ⊢
    obtain ⟨-, rfl⟩ := Prod.mk.inj (Prod.mk.inj (hout.symm.trans hout')).2
    refine ⟨p.bytes.length, ⟨p.header, p.lenBytes, p.payload ++ rest, by simp [Packet.bytes],
      p.isEncoding, p.length_lenBytes_le, ?_⟩, ?_, ?_⟩
    · rw [p.value_lenBytes, Packet.bytes, List.length_cons, List.length_append]
      omega
    · rw [← hlength, hport, List.length_append]
      omega
    · have hload : MqttMessage.out.payload.load msg' =
          1 + p.lenBytes.length + 2 + topic.length + skippedLen p :=
        MqttMessage.load_payload hpayload
      rw [hload, hpublish.bytes_eq]
      simp only [List.length_append, List.length_cons, length_u16]
      omega

theorem Platform.declared_sturdy (assertions : Bool) : (Platform.declared assertions).Sturdy where
  toProcessesPackets := Platform.declared_processesPackets assertions
  paho := ⟨Paho.reference.encodesLength, Paho.reference_reportsAckType⟩
  deserializes := Paho.declared.deserializesWithin
  checks := Platform.reference_checksBuffers assertions

/-- A message that can be sent on is tame. -/
theorem Deliverable.tame {P : Platform} (hP : P.paho.DeserializesPublish) {m : Message}
    {sensorPort : SensorPort} (h : Deliverable m sensorPort) : Tame P sensorPort := by
  obtain ⟨p, id, rest, hport, hpublish, -, hflags⟩ := h.publish
  exact tame_of_publish hP hport hpublish (skippedLen_le_iff.mpr fun h ↦ absurd h hflags)

section Messages

variable {P : Platform} {netFuel fuel : ℕ} {self : CcFsm} {sensorPort : SensorPort}

theorem runsOn_doProcessPublish (hP : P.Sturdy) (hself : self.Ready netFuel)
    (hport : Tame P sensorPort)
    (htype : headerType (sensorPort.bytes.headD 0) = PacketType.publish.code) :
    RunsOn (fun r : ℤ × CcFsm ↦ r.2.Ready netFuel ∧ r.2.client = self.client ∧
        (r.1 = 0 → r.2.tmpDataPublish.msg.qos = 1))
      (doProcessPublish P (self.receiving sensorPort)) := by
  intro s _
  have hready := hself.receiving sensorPort
  have hread : (self.receiving sensorPort).serverReadBuff.length < 2 ^ 32 - 1 := by
    rw [hready.serverReadBuff]
    decide
  obtain ⟨ret, topic, msg, hout⟩ : ∃ ret topic msg,
      (self.receiving sensorPort).deserialized P = (ret, topic, msg) := ⟨_, _, _, rfl⟩
  have hholds : ret = 1 → (∃ offset, msg.payload = .serverReadBuff offset) ∧
      (self.receiving sensorPort).HoldsParts P topic msg := by
    rintro rfl
    obtain ⟨hpayload, hiff⟩ := holdsParts_iff hP.toProcessesPackets hP.deserializes hready hout
    exact ⟨hpayload, hiff.mpr (hport.publish htype _ _ _ hready.payloadlen hout)⟩
  obtain ⟨r, hrun, -⟩ := returns_of_holdsParts hP.appends (fun _ ↦ hP.checks) hread hholds s
  have hrun : doProcessPublish P (self.receiving sensorPort) s = .ok r s :=
    (congrFun (doProcessPublish_eq hout) s).trans hrun
  obtain ⟨-, hprocessed, hqos⟩ :=
    (post_doProcessPublish hP.appends hP.stores hread hready.payloadlen s).ok hrun
  exact (post_of_ok hrun).mpr ⟨⟨hready.of_processed hprocessed, hprocessed.client, hqos⟩, trivial⟩

theorem drawnId_le (client : MqttClient World) : drawnId client ≤ maxPacketId := by
  unfold drawnId maxPacketId
  split_ifs <;> omega

theorem runsOn_relayPublish (hP : P.paho.Sturdy) (hself : self.Ready netFuel)
    (hqos : self.tmpDataPublish.msg.qos = 1) (hcount : self.client.nextPacketId ≤ maxPacketId) :
    RunsOn (fun r : ℤ × CcFsm ↦ r.2.client.nextPacketId ≤ maxPacketId)
      (relayPublish P fuel self) := by
  apply ((runsOn_mqttClientPublish hP hqos hcount hself.client none).and_yields
    (yields_mqttClientPublish_nextPacketId _ _ _ _ _)).bind
  rintro ⟨ret, msg, client⟩ ⟨⟨⟨connected, hclient⟩, -⟩, hdrawn⟩
  have hcount' : client.nextPacketId ≤ maxPacketId := by
    dsimp only at hdrawn
    split_ifs at hdrawn
    · exact hdrawn.2.trans_le (drawnId_le _)
    · exact hdrawn.trans_le hcount
  refine keeps_ite (fun _ ↦ ?_) fun _ ↦ keeps_pure hcount'
  apply ((runsOn_mqttClientDisconnect hclient).and_yields
    (yields_mqttClientDisconnect_nextPacketId client)).bind
  rintro client' ⟨-, hcounter⟩
  exact keeps_pure (hcounter.trans_le hcount')

theorem runsOn_processMessage (hP : P.Sturdy) (hself : self.Ready netFuel)
    (hcount : self.client.nextPacketId ≤ maxPacketId) (hport : Tame P sensorPort) :
    RunsOn (fun r : ℤ × CcFsm ↦ r.2.client.nextPacketId ≤ maxPacketId)
      (processMessage P fuel self sensorPort) := by
  intro s hs
  by_cases htype : headerType (sensorPort.bytes.headD 0) = PacketType.publish.code
  · rw [Post, processMessage_of_publish hself htype]
    have hrelay : RunsOn (fun r : ℤ × CcFsm ↦ r.2.client.nextPacketId ≤ maxPacketId)
        (doProcessPublish P (self.receiving sensorPort) >>= fun r ↦
          if r.1 ≠ 0 then pure (0, r.2) else relayPublish P fuel r.2) := by
      apply (runsOn_doProcessPublish hP hself hport htype).bind
      rintro ⟨ret, self'⟩ ⟨hready, hclient, hqos⟩
      have hcount' : self'.client.nextPacketId ≤ maxPacketId := hclient ▸ hcount
      exact keeps_ite (fun _ ↦ keeps_pure hcount') fun hret ↦
        runsOn_relayPublish hP.paho hready (hqos (not_not.mp hret)) hcount'
    exact hrelay s hs
  · rw [Post, processMessage_eq hself]
    exact post_dispatchPacket htype (fun h ↦ absurd h hport.not_connect) ⟨hcount, trivial⟩

end Messages

/-! ## Both threads -/

/-- The control thread takes a step, or the sensor leaves a tame message. -/
def Turn.Tame (P : Platform) : Turn → Prop
  | .control _ => True
  | .rpc _ sensorPort => DemoIotApp.Tame P sensorPort

section Steps

variable {P : Platform} {netFuel fuel : ℕ} {self : CcFsm} {options : ConnectData}

/-- The world goes on to answer with settings that end inside their arrays. -/
theorem callKeeps_settingsEnd :
    CallKeeps (fun s ↦ s.world.answers.SettingsEnd) fun e _ ↦ e = .unfinished :=
  ⟨fun _ _ hs ↦ hs, fun _ _ _ _ hs ↦ hs, fun _ _ ↦ rfl, fun _ hs hend ↦ absurd hs hend⟩

theorem runsOn_semPost : RunsOn (fun _ ↦ True) semPost := by
  intro s _
  obtain ⟨ret, -, hrun⟩ := semPost_eq_ok s
  exact (post_of_ok hrun).mpr ⟨trivial, trivial⟩

theorem runsOn_ccFsmCtor :
    RunsOn (fun r : ℤ × CcFsm ↦ r.2.client.nextPacketId ≤ maxPacketId) (ccFsmCtor fuel) := by
  have hcall : RunsOn (fun _ ↦ True) (osCall .initConfigHandle) := fun _ _ ↦ ⟨trivial, trivial⟩
  apply hcall.bind
  intro err _
  exact keeps_ite (fun _ ↦ keeps_pure (Nat.zero_le _)) fun _ ↦
    keeps_pure (show 1 ≤ maxPacketId by decide)

theorem semPost_answers {s t : Sys World} {ret : ℤ} (h : semPost s = .ok ret t) :
    t.world.answers = s.world.answers := by
  obtain ⟨ret', -, hpost⟩ := semPost_eq_ok s
  obtain ⟨-, rfl⟩ := Outcome.ok.inj (h.symm.trans hpost)
  rfl

/-- The CONNECT is made of strings that end. -/
theorem post_doMqttConnect_waits (hP : P.paho.Sturdy) (hoptions : options.keepAliveInterval = 0)
    (hself : self.Ready netFuel) {s : Sys World} (hends : s.world.answers.SettingsEnd) :
    Post (doMqttConnect P fuel self.client options) s
      (fun r _ ↦ r.2.nextPacketId = self.client.nextPacketId) fun e _ ↦ e = .unfinished := by
  rw [Post, doMqttConnect, bind_eq_of_ok (readConnectSettings_apply hends self.client)]
  have hconnect : RunsOn (fun _ ↦ True)
      (mqttClientConnect P fuel self.client (some options) ⟨0, 0⟩ none) :=
    runsOn_mqttClientConnect hP hoptions hself.client
  have hcounter := hconnect.and_yields
    (yields_mqttClientConnect_nextPacketId self.client (some options) ⟨0, 0⟩ none)
  exact (hcounter s trivial).bind fun _ _ h ↦ h.1.2

/-- The steps before the CONNECT ask other components only. -/
theorem post_initStep_waits (hP : P.Sturdy) {step : InitStep} (hself : self.Ready netFuel)
    (hcount : self.client.nextPacketId ≤ maxPacketId)
    (hoptions : step = .mqttConnect → options.keepAliveInterval = 0) {s : Sys World}
    (hends : s.world.answers.SettingsEnd) :
    Post (step.run P fuel self options) s (fun r _ ↦ r.2.1.client.nextPacketId ≤ maxPacketId)
      fun e _ ↦ e = .unfinished := by
  have C := callKeeps_settingsEnd
  have hcall : ∀ {α : Type} {m : Prog Stop (Sys World) α} {V : α → Prop}
      {f : α → ℤ × CcFsm × ConnectData},
      Keeps (fun s ↦ s.world.answers.SettingsEnd) (fun e _ ↦ e = .unfinished) V m →
      (∀ a, (f a).2.1 = self) → Post (m >>= fun a ↦ pure (f a)) s
        (fun r _ ↦ r.2.1.client.nextPacketId ≤ maxPacketId) fun e _ ↦ e = .unfinished := by
    intro α m V f hm hf
    refine (hm s hends).bind fun a t _ ↦ ?_
    show (f a).2.1.client.nextPacketId ≤ maxPacketId
    rw [hf a]
    exact hcount
  cases step with
  | serverIp => exact hcall (C.getConfigParameter _) fun _ ↦ rfl
  | serverPort => exact hcall (C.getConfigParameter _) fun _ ↦ rfl
  | serverCert => exact hcall (C.getConfigParameter _) fun _ ↦ rfl
  | mqttOptions => exact hcall (C.setMqttOptions _) fun _ ↦ rfl
  | tlsInit =>
      rw [Post, InitStep.run, bind_eq_of_ok (readSetting_apply hends (by decide))]
      exact hcall C.glueTlsInit fun _ ↦ rfl
  | tlsHandshake => exact hcall C.doTlsHandshake fun _ ↦ rfl
  | semPost => exact (runsOn_semPost s trivial).bind fun _ _ _ ↦ hcount
  | mqttConnect =>
      apply (post_doMqttConnect_waits hP.paho (hoptions rfl) hself hends).bind
      exact fun r _ hr ↦ hr.trans_le hcount

end Steps

namespace Threads

/-- A turn stops as the call does that it makes. -/
theorem post_call {α : Type} {m : Prog Stop (Sys World) α} {f : α → Prog Stop Threads Unit}
    {threads : Threads} {Q : Unit → Threads → Prop} {A : Stop → Prop}
    (h : Post m threads.sys (fun a t ↦ Post (f a) { threads with sys := t } Q fun e _ ↦ A e)
      fun e _ ↦ A e) : Post (call m >>= f) threads Q fun e _ ↦ A e :=
  post_bind.mpr (post_zoom.mpr h)

section Interleave

variable {P : Platform} {threads : Threads}

/-- The client of the component has not counted too far. -/
def Counts (threads : Threads) : Prop := threads.self.client.nextPacketId ≤ maxPacketId

/-- The run has not got to its end, or a thread waits for the other one. -/
def Waits (e : Stop) : Prop := e = .unfinished ∨ e = .blocked

/-- The world answers in every turn as it did in the first one. -/
theorem answers_step (hP : P.ProcessesPackets) (hinv : threads.Inv) {turn : Turn}
    {threads' : Threads} (hstep : Threads.step P () turn threads = .ok () threads') :
    threads'.sys.world.answers = threads.sys.world.answers := by
  generalize hanswers : threads.sys.world.answers = answers
  cases turn with
  | control fuel =>
      rcases controlStep_eq_ok hstep with ⟨ret, self, t, hcontrol, hctor, rfl⟩ |
        ⟨step, steps, ret, self, options, t, hcontrol, hrun, rfl⟩
      · exact ((keeps_ccFsmCtor_fixed (fun given _ ↦ given = answers) fuel _ hanswers).ok hctor).2
      · by_cases hsem : step = .semPost
        · subst hsem
          obtain ⟨rc, u, hpost, hreturn⟩ := bind_eq_ok_iff.mp hrun
          obtain ⟨-, rfl⟩ := Outcome.ok.inj hreturn
          exact (semPost_answers hpost).trans hanswers
        · obtain ⟨netFuel, hready⟩ := hinv.ready _ hcontrol
          obtain ⟨done, hdone, hset⟩ := hinv.options _ hcontrol
          have hoptions : step = .mqttConnect → threads.options.keepAliveInterval = 0 :=
            fun heq ↦ hset (InitStep.mqttOptions_mem (heq ▸ hdone))
          exact ((InitStep.keeps_run (fun given _ ↦ given = answers) hready hsem hoptions _
            hanswers).ok hrun).2
  | rpc fuel sensorPort =>
      rcases rpcStep_eq_ok hstep with ⟨ret, t, hrpc, hsem, rfl⟩ |
        ⟨taken, ret, self, t, hrpc, hprocess, rfl⟩ | ⟨taken, ret, t, hrpc, hpost, rfl⟩
      · obtain ⟨-, -, rfl⟩ := (post_semWait _).ok hsem
        exact hanswers
      · obtain ⟨netFuel, hready⟩ := hinv.ready _ (hinv.gated taken (Or.inl hrpc)).2
        exact ((keeps_processMessage_fixed (fun given _ ↦ given = answers) hP fuel hready
          sensorPort _ hanswers).ok hprocess).2
      · exact (semPost_answers hpost).trans hanswers

theorem post_controlStep_waits (hP : P.Sturdy) (fuel : ℕ) (hinv : threads.Inv)
    (hcount : threads.Counts) (hends : threads.sys.world.answers.SettingsEnd) :
    Post (controlStep P fuel) threads (fun _ threads' ↦ threads'.Counts) fun e _ ↦ Waits e := by
  rw [Post, controlStep, bind_eq_of_ok (get_apply threads)]
  cases hcontrol : threads.control with
  | start =>
      apply post_call
      exact (runsOn_ccFsmCtor threads.sys trivial).mono (fun _ _ h ↦ h.1) fun _ _ h ↦ Or.inl h
  | init steps =>
      cases steps with
      | nil => exact Or.inr rfl
      | cons step steps =>
          obtain ⟨netFuel, hready⟩ := hinv.ready _ hcontrol
          obtain ⟨done, hdone, hset⟩ := hinv.options _ hcontrol
          have hoptions : step = .mqttConnect → threads.options.keepAliveInterval = 0 :=
            fun heq ↦ hset (InitStep.mqttOptions_mem (heq ▸ hdone))
          apply post_call
          exact (post_initStep_waits hP hready hcount hoptions hends).mono
            (fun _ _ h ↦ h) fun _ _ h ↦ Or.inl h
  | failed => exact Or.inr rfl

/-- Only a call that has taken the token handles a message, and then the component is ready. -/
theorem post_rpcStep_waits (hP : P.Sturdy) (fuel : ℕ) {sensorPort : SensorPort}
    (hport : Tame P sensorPort) (hinv : threads.Inv) (hcount : threads.Counts) :
    Post (rpcStep P fuel sensorPort) threads (fun _ threads' ↦ threads'.Counts)
      fun e _ ↦ Waits e := by
  rw [Post, rpcStep, bind_eq_of_ok (get_apply threads)]
  cases hrpc : threads.rpc with
  | idle =>
      apply post_call
      exact (post_semWait threads.sys).mono (fun _ _ _ ↦ hcount) fun _ _ h ↦ Or.inr h.2.2.1
  | handling taken =>
      obtain ⟨netFuel, hready⟩ := hinv.ready _ (hinv.gated taken (Or.inl hrpc)).2
      apply post_call
      exact (runsOn_processMessage hP hready hcount hport threads.sys trivial).mono
        (fun _ _ h ↦ h.1) fun _ _ h ↦ Or.inl h
  | posting taken =>
      apply post_call
      exact (runsOn_semPost threads.sys trivial).mono (fun _ _ _ ↦ hcount) fun _ _ h ↦ Or.inl h

theorem post_interleave_waits (hP : P.Sturdy) {w : World} (hends : w.answers.SettingsEnd)
    {turns : List Turn} (hturns : ∀ turn ∈ turns, turn.Tame P)
    (hwaits : WaitsSucceed P turns (initial w)) :
    Post (interleave P turns) (initial w) (fun _ threads ↦ threads.Inv ∧ threads.Counts ∧
      threads.sys.world.answers.SettingsEnd) fun e _ ↦ Waits e := by
  refine post_foldlM (I := fun _ threads ↦ threads.Inv ∧ threads.Counts ∧
      threads.sys.world.answers.SettingsEnd)
    (E := fun e _ ↦ Waits e) ?_ turns () (initial w)
    ⟨inv_initial w, Nat.zero_le _, hends⟩ (hwaits.and_mem hturns)
  · rintro _ threads turn ⟨hinv, hcount, hends⟩ ⟨hwait, hturn⟩
    have hstep : Post (step P () turn) threads (fun _ threads' ↦ threads'.Counts)
        fun e _ ↦ Waits e := by
      cases turn with
      | control fuel => exact post_controlStep_waits hP fuel hinv hcount hends
      | rpc fuel sensorPort => exact post_rpcStep_waits hP fuel hturn hinv hcount
    refine post_intro (fun _ threads' hok ↦ ?_) fun e threads' hstop ↦ hstep.stop hstop
    refine ⟨hinv.step hP.toProcessesPackets hwait hok, hstep.ok hok, ?_⟩
    rw [answers_step hP.toProcessesPackets hinv hok]
    exact hends

/-- Whatever the network and the other components do: as long as the settings end inside their
arrays, the sensor sends tame messages and no `sem_wait` fails, no interleaving comes to a null
pointer, to a store or load outside an object or to a failed assertion. -/
theorem interleave_waits (hP : P.Sturdy) {w : World} (hends : w.answers.SettingsEnd)
    {turns : List Turn} (hturns : ∀ turn ∈ turns, turn.Tame P)
    (hwaits : WaitsSucceed P turns (initial w)) :
    Post (interleave P turns) (initial w) (fun _ _ ↦ True) fun e _ ↦ Waits e :=
  (post_interleave_waits hP hends hturns hwaits).mono (fun _ _ _ ↦ trivial) fun _ _ h ↦ h

end Interleave

/-- The broker accepts the connection and says nothing more. The assertions are checked. -/
theorem interleave_waits_initialiseAndPublish :
    ∃ e threads, interleave (Platform.declared true) initialiseAndPublish
        (initial (World.steady [0x20, 2, 0, 0])) = .stop e threads ∧ Waits e := by
  have hturns : ∀ turn ∈ initialiseAndPublish, turn.Tame (Platform.declared true) := by
    intro turn hturn
    rcases List.mem_append.mp hturn with hturn | hturn
    · rw [List.eq_of_mem_replicate hturn]
      trivial
    · rw [List.eq_of_mem_replicate hturn]
      exact deliverable_smallPublish.tame Paho.declared.deserializesPublish
  have hwaits : WaitsSucceed (Platform.declared true) initialiseAndPublish
      (initial (World.steady [0x20, 2, 0, 0])) := by decide +kernel
  have hreason : (interleave (Platform.declared true) initialiseAndPublish
      (initial (World.steady [0x20, 2, 0, 0]))).reason? = some .unfinished := by decide +kernel
  obtain ⟨threads, hrun⟩ := Outcome.reason?_eq_some_iff.mp hreason
  refine ⟨_, threads, hrun, ?_⟩
  -- the run itself is not to be looked at any more
  have hends : (World.steady [0x20, 2, 0, 0]).answers.SettingsEnd := settingsEnd_steady
  generalize World.steady [0x20, 2, 0, 0] = w at hwaits hrun hends
  exact (post_of_stop hrun).mp
    (interleave_waits (Platform.declared_sturdy true) hends hturns hwaits)

end Threads

end DemoIotApp
