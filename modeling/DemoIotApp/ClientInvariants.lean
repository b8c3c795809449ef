import DemoIotApp.MqttClient

/-!
# Invariants of the client

Whatever a property of the system state is, the client keeps it as soon as
reading the clock, receiving a packet and sending a packet keep it. The
functions of the client are walked through once for all such properties.
-/

namespace DemoIotApp

open Library Prog

variable {W : Type}

/-! ## The setup of a client -/

/-- What a client is set up with before it waits for packets. -/
structure Setup (n : Network W) (size sendSize keepAliveMs : ℕ) (connected : Bool)
    (client : MqttClient W) : Prop where
  net : client.net = some n
  readbuf : client.readbuf.length = size
  sendbuf : client.sendbuf.length = sendSize
  keepAliveIntervalMs : client.keepAliveIntervalMs = keepAliveMs
  isConnected : client.isConnected = connected

theorem Setup.current {n : Network W} {size sendSize keepAliveMs : ℕ} {connected : Bool}
    {self : MqttClient W} (h : Setup n size sendSize keepAliveMs connected self) :
    Setup n size sendSize keepAliveMs self.isConnected self :=
  { h with isConnected := rfl }

theorem Setup.closeSession {n : Network W} {size sendSize keepAliveMs : ℕ} {connected : Bool}
    {self : MqttClient W} (h : Setup n size sendSize keepAliveMs connected self) :
    Setup n size sendSize keepAliveMs false (DemoIotApp.closeSession self) :=
  { h with isConnected := rfl }

theorem Setup.serialized {n : Network W} {size sendSize keepAliveMs : ℕ} {connected : Bool}
    {self : MqttClient W} (h : Setup n size sendSize keepAliveMs connected self)
    (serialize : Serializer) : Setup n size sendSize keepAliveMs connected
      { self with sendbuf := (serialize self.sendbuf).2 } :=
  { h with sendbuf := (serialize.length_run _).trans h.sendbuf }

variable [Clock W]

/-! ## Reading a packet -/

/-- A property that every read from the network keeps. -/
structure ReadKeeps (n : Network W) (I : Sys W → Prop) (E : Stop → Sys W → Prop) : Prop where
  read : ∀ buffer timer, buffer ≠ [] →
    Keeps I E (fun r ↦ r.2.length = buffer.length) (mqttNetworkRead n buffer timer)
  overrun : ∀ s, I s → E .overrun s

namespace ReadKeeps

variable {n : Network W} {I : Sys W → Prop} {E : Stop → Sys W → Prop}

theorem storeAt (R : ReadKeeps n I E) (buffer : List UInt8) (offset : ℕ) (bytes : List UInt8) :
    Keeps I E (fun b ↦ b.length = buffer.length) (DemoIotApp.storeAt buffer offset bytes) := by
  refine keeps_ite (fun hle ↦ keeps_pure ?_) fun _ ↦ keeps_stop R.overrun
  simp only [List.length_append, List.length_take, List.length_drop]
  omega

theorem readInto (R : ReadKeeps n I E) (buffer : List UInt8) {offset len : ℕ} (hlen : 0 < len)
    (timer : Option Timer) :
    Keeps I E (fun r ↦ r.2.length = buffer.length)
      (DemoIotApp.readInto n buffer offset len timer) := by
  refine keeps_ite (fun hfit ↦ ?_) fun _ ↦ keeps_stop R.overrun
  have hpart : ((buffer.drop offset).take len).length = len := by
    simp only [List.length_take, List.length_drop]
    omega
  apply (R.read _ timer (List.ne_nil_of_length_pos (by omega))).bind
  rintro ⟨rc, bytes⟩ hbytes
  apply keeps_pure
  dsimp only at hbytes
  simp only [List.length_append, List.length_take, List.length_drop, hbytes, hpart]
  omega

theorem readLengthBytes (R : ReadKeeps n I E) (timer : Option Timer) (bytesLeft : ℕ) :
    ∀ shift tmpPacketLen cntBytes, Keeps I E (fun _ ↦ True)
      (DemoIotApp.readLengthBytes n timer bytesLeft shift tmpPacketLen cntBytes) := by
  induction bytesLeft with
  | zero => exact fun _ _ _ ↦ keeps_pure trivial
  | succ bytesLeft ih =>
      intro shift tmpPacketLen cntBytes
      apply (R.read [0] timer (by simp)).bind
      rintro ⟨rc, bytes⟩ _
      refine keeps_ite (fun _ ↦ keeps_pure trivial) fun _ ↦ ?_
      exact keeps_ite (fun _ ↦ keeps_pure trivial) fun _ ↦ ih _ _ _

theorem readPayload (R : ReadKeeps n I E) (buffer : List UInt8) (bufferSize offset payloadLen : ℕ)
    (timer : Option Timer) :
    Keeps I E (fun r ↦ r.2.length = buffer.length)
      (DemoIotApp.readPayload n buffer bufferSize offset payloadLen timer) := by
  refine keeps_ite (fun hpos ↦ ?_) fun _ ↦ keeps_pure rfl
  refine keeps_ite (fun _ ↦ keeps_pure rfl) fun _ ↦ ?_
  apply (R.readInto buffer hpos timer).bind
  rintro ⟨rc, buffer'⟩ hbuffer'
  exact keeps_ite (fun _ ↦ keeps_pure hbuffer') fun _ ↦ keeps_pure hbuffer'

theorem readBody (R : ReadKeeps n I E) (P : Paho) (buffer : List UInt8) (bufferSize : ℕ)
    (timer : Option Timer) :
    Keeps I E (fun r ↦ r.2.length = buffer.length)
      (DemoIotApp.readBody P n buffer bufferSize timer) := by
  apply (R.readLengthBytes timer 4 0 0 0).bind
  rintro ⟨rc, payloadLen⟩ _
  refine keeps_ite (fun _ ↦ keeps_pure rfl) fun _ ↦ ?_
  apply (R.storeAt buffer 1 (P.packetEncode payloadLen)).bind
  intro buffer' hbuffer'
  exact (R.readPayload buffer' _ _ payloadLen timer).mono fun r hr ↦ hr.trans hbuffer'

theorem mqttNetworkReadPacket (R : ReadKeeps n I E) (P : Paho) (buffer : List UInt8)
    (timer : Option Timer) :
    Keeps I E (fun r ↦ r.2.length = buffer.length)
      (DemoIotApp.mqttNetworkReadPacket P n buffer timer) := by
  apply (R.readInto buffer Nat.one_pos timer).bind
  rintro ⟨rc, buffer'⟩ hbuffer'
  refine keeps_ite (fun _ ↦ keeps_pure hbuffer') fun _ ↦ ?_
  exact (R.readBody P buffer' _ timer).mono fun r hr ↦ hr.trans hbuffer'

end ReadKeeps

/-! ## What waiting and sending keep -/

/-- A property that the wait loop of a client keeps. Packets are sent by it
only to keep the session alive. -/
structure WaitKeeps (P : Platform) (n : Network W) (size keepAliveMs : ℕ) (I : Sys W → Prop)
    (E : Stop → Sys W → Prop) : Prop where
  clock : Keeps I E (fun _ ↦ True) readClock
  receive : ∀ readbuf timer, readbuf.length = size → Keeps I E (fun r ↦ r.2.length = size)
    (Sys.observed .readPacket (mqttNetworkReadPacket P.paho n readbuf timer))
  ping : keepAliveMs ≠ 0 → ∀ packet timer,
    Keeps I E (fun _ ↦ True) (mqttNetworkSendPacket n packet timer)
  unfinished : ∀ s, I s → E .unfinished s
  assertion : ∀ s, I s → E .assertion s

/-- Sending a packet in `Q` from a state with `I` leaves `J`, and `K` as well when
all of it was sent. -/
structure SendLeaves (n : Network W) (Q : List UInt8 → Prop) (I J K : Sys W → Prop)
    (E : Stop → Sys W → Prop) : Prop where
  before : ∀ s, I s → J s
  after : ∀ s, K s → J s
  send : ∀ packet timer, Q packet → Leaves I J K E (fun _ ↦ True) (fun rc ↦ rc = mqttSuccess)
    (mqttNetworkSendPacket n packet timer)

/-- A property that every packet in `Q` keeps when it is sent on the network. -/
def SendKeeps (n : Network W) (Q : List UInt8 → Prop) (I : Sys W → Prop)
    (E : Stop → Sys W → Prop) : Prop :=
  ∀ packet timer, Q packet → Keeps I E (fun _ ↦ True) (mqttNetworkSendPacket n packet timer)

theorem SendKeeps.leaves {n : Network W} {Q : List UInt8 → Prop} {I : Sys W → Prop}
    {E : Stop → Sys W → Prop} (h : SendKeeps n Q I E) : SendLeaves n Q I I I E :=
  ⟨fun _ hs ↦ hs, fun _ hs ↦ hs, fun packet timer hQ ↦
    (h packet timer hQ).leaves fun _ hs ↦ hs⟩

/-- Whatever the serialiser writes into a buffer of that size is in `Q`. -/
def WritesOnly (Q : List UInt8 → Prop) (sendSize : ℕ) (serialize : Serializer) : Prop :=
  ∀ buf, buf.length = sendSize → 0 < (serialize buf).1 →
    Q ((serialize buf).2.take (serialize buf).1.toNat)

theorem Serializes.writesOnly {Q : List UInt8 → Prop} {packet : List UInt8}
    {serialize : Serializer} (h : Serializes serialize packet) (hQ : Q packet) (sendSize : ℕ) :
    WritesOnly Q sendSize serialize := by
  intro buf _ hpos
  rwa [((h buf).1 hpos).take]

theorem keeps_sendTimer {I : Sys W → Prop} {E : Stop → Sys W → Prop}
    (hclock : Keeps I E (fun _ ↦ True) readClock) (timeoutMs : ℕ) :
    Keeps I E (fun _ ↦ True) (sendTimer timeoutMs) := by
  have hcountdown : Keeps I E (fun _ ↦ True) (timerCountdown timeoutMs) :=
    hclock.bind fun _ _ ↦ keeps_pure trivial
  exact keeps_ite (fun _ ↦ hcountdown.bind fun _ _ ↦ keeps_pure trivial) fun _ ↦ keeps_pure trivial

namespace SendLeaves

variable {n : Network W} {size sendSize keepAliveMs : ℕ} {connected : Bool}
  {Q : List UInt8 → Prop} {I J K : Sys W → Prop} {E : Stop → Sys W → Prop} {self : MqttClient W}

theorem sendWithTimeout (hsend : SendLeaves n Q I J K E)
    (hclock : Keeps I E (fun _ ↦ True) readClock) (timeoutMs : ℕ) {packet : List UInt8}
    (hQ : Q packet) :
    Leaves I J K E (fun _ ↦ True) (fun rc ↦ rc = mqttSuccess)
      (DemoIotApp.sendWithTimeout (some n) timeoutMs packet) :=
  (keeps_sendTimer hclock timeoutMs).bind_leaves fun timer _ ↦ hsend.send packet timer hQ

theorem sendPacket (hsend : SendLeaves n Q I J K E)
    (hclock : Keeps I E (fun _ ↦ True) readClock) (hself : self.net = some n) {length : ℕ}
    (hQ : Q (self.sendbuf.take length)) :
    Leaves I J K E (fun _ ↦ True) (fun rc ↦ rc = mqttSuccess)
      (DemoIotApp.sendPacket self length) := by
  unfold DemoIotApp.sendPacket
  rw [hself]
  exact hsend.sendWithTimeout hclock _ hQ

theorem sendSerialized (hsend : SendLeaves n Q I J K E)
    (hclock : Keeps I E (fun _ ↦ True) readClock) {serialize : Serializer}
    (hQ : WritesOnly Q sendSize serialize)
    (hself : Setup n size sendSize keepAliveMs connected self) :
    Leaves I J K E (fun r ↦ Setup n size sendSize keepAliveMs connected r.2)
      (fun r ↦ r.1 = mqttSuccess) (DemoIotApp.sendSerialized serialize self) := by
  have hself' := hself.serialized serialize
  refine leaves_ite (fun _ ↦ leaves_pure_of_not hself' mqttFailure_ne_mqttSuccess hsend.before)
    fun hpos ↦ ?_
  have hpacket := hQ self.sendbuf hself.sendbuf (Int.not_le.mp hpos)
  apply (hsend.sendPacket hclock hself'.net hpacket).bind
  · exact fun _ _ _ ↦ leaves_pure hself' hsend.after
  · exact fun rc _ hrc ↦ ⟨_, rfl, hself', fun h ↦
      absurd ((if_pos hrc).symm.trans h) mqttFailure_ne_mqttSuccess⟩

/-- The session is closed whether all of the packet was sent or not. -/
theorem mqttClientDisconnect {P : Platform} (hsend : SendLeaves n Q I J K E)
    (hclock : Keeps I E (fun _ ↦ True) readClock)
    (hdisconnect : WritesOnly Q sendSize P.paho.serializeDisconnect)
    (hself : Setup n size sendSize keepAliveMs connected self) :
    Leaves I J K E (Setup n size sendSize keepAliveMs false) (fun _ ↦ False)
      (DemoIotApp.mqttClientDisconnect P self) := by
  have hself' := hself.serialized P.paho.serializeDisconnect
  have hdisc : Leaves I J K E (fun r ↦ Setup n size sendSize keepAliveMs connected r.2)
      (fun _ ↦ False) (sendDisconnect P self) := by
    refine leaves_ite (fun _ ↦ leaves_pure_of_not hself' id hsend.before) fun hpos ↦ ?_
    have hpacket := hdisconnect self.sendbuf hself.sendbuf (Int.not_le.mp hpos)
    apply (hsend.sendPacket hclock hself'.net hpacket).bind
    · exact fun _ _ _ ↦ leaves_pure hself' hsend.after
    · exact fun _ _ _ ↦ ⟨_, rfl, hself', id⟩
  exact hdisc.bind (fun _ _ h ↦ h.elim) fun r hr _ ↦ ⟨_, rfl, hr.closeSession, id⟩

end SendLeaves

namespace WaitKeeps

variable {P : Platform} {n : Network W} {size sendSize keepAliveMs : ℕ} {connected : Bool}
  {Q Q₀ : List UInt8 → Prop} {I I₀ J : Sys W → Prop} {E : Stop → Sys W → Prop} {self : MqttClient W}

/-! ## Timers and sending -/

theorem timerIsExpired (K : WaitKeeps P n size keepAliveMs I E) (timer : Timer) :
    Keeps I E (fun _ ↦ True) (DemoIotApp.timerIsExpired timer) :=
  K.clock.bind fun _ _ ↦ keeps_pure trivial

theorem isTimedOut (K : WaitKeeps P n size keepAliveMs I E) (timer : Option Timer) :
    Keeps I E (fun _ ↦ True) (DemoIotApp.isTimedOut timer) := by
  cases timer with
  | none => exact keeps_pure trivial
  | some timer => exact K.timerIsExpired timer

theorem debugAssert (K : WaitKeeps P n size keepAliveMs I E) (enabled : Bool) (c : Prop)
    [Decidable c] : Keeps I E (fun _ ↦ True) (DemoIotApp.debugAssert enabled c) :=
  keeps_ite (fun _ ↦ keeps_stop K.assertion) fun _ ↦ keeps_pure trivial

theorem sendPingReq (K : WaitKeeps P n size keepAliveMs I E) (hka : keepAliveMs ≠ 0)
    (hself : Setup n size sendSize keepAliveMs connected self) :
    Keeps I E (fun r ↦ Setup n size sendSize keepAliveMs connected r.2)
      (DemoIotApp.sendPingReq P self) := by
  have hsend : SendKeeps n (fun _ ↦ True) I E := fun packet timer _ ↦ K.ping hka packet timer
  apply (hsend.leaves.sendSerialized K.clock (fun _ _ _ ↦ trivial) hself).keeps.bind
  rintro ⟨ret, self'⟩ hself'
  exact keeps_ite (fun _ ↦ keeps_pure hself') fun _ ↦ keeps_pure { hself' with }

/-! ## Receiving -/

theorem receivePacket (K : WaitKeeps P n size keepAliveMs I E)
    (hself : Setup n size sendSize keepAliveMs connected self) (timer : Option Timer) :
    Keeps I E (fun r ↦ Setup n size sendSize keepAliveMs connected r.2)
      (DemoIotApp.receivePacket P self timer) := by
  unfold DemoIotApp.receivePacket
  split
  · rename_i hnet
    simp [hself.net] at hnet
  · rename_i n' hnet
    obtain rfl : n = n' := Option.some.inj (hself.net.symm.trans hnet)
    apply (K.receive self.readbuf timer hself.readbuf).bind
    rintro ⟨ret, readbuf⟩ hreadbuf
    exact keeps_pure { hself with readbuf := hreadbuf }

theorem keepAlive (K : WaitKeeps P n size keepAliveMs I E)
    (hself : Setup n size sendSize keepAliveMs connected self) (packetType : ℤ) :
    Keeps I E (fun r ↦ Setup n size sendSize keepAliveMs connected r.2)
      (DemoIotApp.keepAlive P self packetType) := by
  have hexpired : Keeps I E (fun expired ↦ expired = true → keepAliveMs ≠ 0)
      (keepAliveExpired self) := by
    refine keeps_ite (fun hne ↦ ?_) fun _ ↦ keeps_pure (by simp)
    rw [hself.keepAliveIntervalMs] at hne
    exact (K.timerIsExpired _).mono fun _ _ _ ↦ hne
  apply hexpired.bind
  intro expired hka
  refine keeps_ite (fun hexp ↦ ?_) fun _ ↦ keeps_pure hself
  refine keeps_ite (fun _ ↦ keeps_pure hself) fun _ ↦ ?_
  apply (K.sendPingReq (hka hexp) hself).bind
  rintro ⟨ret, self'⟩ hself'
  exact keeps_ite (fun _ ↦ keeps_pure hself') fun _ ↦ keeps_pure hself'

theorem waitForNextPacket (K : WaitKeeps P n size keepAliveMs I E)
    (hself : Setup n size sendSize keepAliveMs connected self) (timer : Option Timer) :
    Keeps I E (fun r ↦ Setup n size sendSize keepAliveMs connected r.2)
      (DemoIotApp.waitForNextPacket P self timer) := by
  apply (K.receivePacket hself timer).bind
  rintro ⟨ret, self'⟩ hself'
  have hanswered : Setup n size sendSize keepAliveMs connected
      { self' with isPingOutstanding := false } := { hself' with }
  refine keeps_ite (fun _ ↦ K.keepAlive hself' _) fun _ ↦ ?_
  exact keeps_ite (fun _ ↦ K.keepAlive hanswered _) fun _ ↦ K.keepAlive hself' _

theorem waitForSpecificPacket (K : WaitKeeps P n size keepAliveMs I E) (packetType : ℤ)
    (timer : Option Timer) (fuel : ℕ) (hself : Setup n size sendSize keepAliveMs connected self) :
    Keeps I E (fun r ↦ Setup n size sendSize keepAliveMs connected r.2)
      (DemoIotApp.waitForSpecificPacket P packetType timer fuel self) := by
  induction fuel generalizing self with
  | zero => exact keeps_stop K.unfinished
  | succ fuel ih =>
      apply (K.isTimedOut timer).bind
      intro timedOut _
      refine keeps_ite (fun _ ↦ keeps_pure hself) fun _ ↦ ?_
      apply (K.waitForNextPacket hself timer).bind
      rintro ⟨ret, self'⟩ hself'
      refine keeps_ite (fun _ ↦ keeps_pure hself') fun _ ↦ ?_
      exact keeps_ite (fun _ ↦ keeps_pure hself') fun _ ↦ ih hself'

theorem waitAndReadSpecificAckPacket (K : WaitKeeps P n size keepAliveMs I E) (fuel : ℕ)
    (hself : Setup n size sendSize keepAliveMs connected self) (ackPacketType : PacketType)
    (data : AckData) (timer : Option Timer) :
    Keeps I E (fun r ↦ Setup n size sendSize keepAliveMs connected r.2.2)
      (DemoIotApp.waitAndReadSpecificAckPacket P fuel self ackPacketType data timer) := by
  apply (K.waitForSpecificPacket ackPacketType.code timer fuel hself).bind
  rintro ⟨ret, self'⟩ hself'
  exact keeps_ite (fun _ ↦ keeps_pure hself') fun _ ↦ keeps_pure hself'

theorem expectAck (K : WaitKeeps P n size keepAliveMs I E) (fuel : ℕ)
    (hself : Setup n size sendSize keepAliveMs connected self) (ackPacketType : PacketType)
    (data : AckData) (timer : Option Timer) :
    Keeps I E (fun r ↦ Setup n size sendSize keepAliveMs connected r.2.2)
      (DemoIotApp.expectAck P fuel self ackPacketType data timer) := by
  apply (K.waitAndReadSpecificAckPacket fuel hself ackPacketType data timer).bind
  rintro ⟨ret, data', self'⟩ hself'
  refine keeps_ite (fun _ ↦ keeps_pure hself') fun _ ↦ ?_
  exact (K.debugAssert _ _).bind fun _ _ ↦ keeps_pure hself'

/-! ## The interface -/

theorem checkPublishQos (K : WaitKeeps P n size keepAliveMs I E) (hsend : SendLeaves n Q I J I E)
    (hack : ∀ packetId, WritesOnly Q sendSize (P.paho.serializeAck .pubrel 0 packetId))
    (fuel : ℕ) (hself : Setup n size sendSize keepAliveMs connected self) (qos : UInt8)
    (timer : Option Timer) :
    Leaves I J I E (fun r ↦ Setup n size sendSize keepAliveMs connected r.2)
      (fun r ↦ r.1 = mqttSuccess) (DemoIotApp.checkPublishQos P fuel self qos timer) := by
  refine leaves_ite (fun _ ↦ leaves_pure hself hsend.before) fun _ ↦
    leaves_ite (fun _ ↦ ?_) fun _ ↦ leaves_ite (fun _ ↦ ?_) fun _ ↦
      leaves_pure hself hsend.before
  · exact (K.expectAck fuel hself .puback _ timer).bind_leaves fun _ hself' ↦
      leaves_pure hself' hsend.before
  · apply (K.expectAck fuel hself .pubrec _ timer).bind_leaves
    rintro ⟨ret, ackData, self₁⟩ hself₁
    refine leaves_ite (fun _ ↦ leaves_pure hself₁ hsend.before) fun _ ↦ ?_
    apply (hsend.sendSerialized K.clock (hack ackData.packetId) hself₁).bind
    · rintro ⟨ret, self₂⟩ hself₂ hret
      refine leaves_ite (fun h ↦ absurd hret h) fun _ ↦ ?_
      exact (K.expectAck fuel hself₂ .pubcomp _ timer).bind_leaves fun _ hself' ↦
        leaves_pure hself' hsend.before
    · exact fun r hself₂ hret ↦ ⟨_, if_pos hret, hself₂, mqttFailure_ne_mqttSuccess⟩

theorem assignPacketId (K : WaitKeeps P n size keepAliveMs I E)
    (hself : Setup n size sendSize keepAliveMs connected self) (msg : MqttMessage) :
    Keeps I E (fun r ↦ Setup n size sendSize keepAliveMs connected r.2 ∧
        ∃ id, r.1 = { msg with id := id } ∧ (msg.qos = 1 ∨ msg.qos = 2 → id = publishId self))
      (DemoIotApp.assignPacketId P self msg) := by
  refine keeps_ite (fun _ ↦ ?_) fun hqos ↦
    keeps_pure ⟨hself, msg.id, rfl, fun h ↦ absurd h hqos⟩
  have hid : Keeps I E (fun r ↦ Setup n size sendSize keepAliveMs connected r.2 ∧
      UInt16.ofNat r.1 = publishId self) (getNextPacketId P self) :=
    (K.debugAssert _ _).bind fun _ _ ↦ keeps_pure ⟨{ hself with }, rfl⟩
  exact hid.bind fun r hr ↦ keeps_pure ⟨hr.1, _, rfl, fun _ ↦ hr.2⟩

/-- A connected client stays connected exactly when the publish succeeds. What holds
before the PUBLISH need not hold behind it. -/
theorem mqttClientPublish (K₀ : WaitKeeps P n size keepAliveMs I₀ E)
    (K : WaitKeeps P n size keepAliveMs I E) (hpub : SendLeaves n Q₀ I₀ J I E)
    (hsend : SendLeaves n Q I J I E) (fuel : ℕ) (memory : Ptr → List UInt8)
    (hself : Setup n size sendSize keepAliveMs connected self) (topicName : Ptr)
    (msg : MqttMessage)
    (hpublish : ∀ id, (msg.qos = 1 ∨ msg.qos = 2 → id = publishId self) → WritesOnly Q₀ sendSize
      (P.paho.serializePublish (publishArgs memory topicName { msg with id := id })))
    (hack : ∀ packetId, WritesOnly Q sendSize (P.paho.serializeAck .pubrel 0 packetId))
    (timer : Option Timer) :
    Leaves I₀ J I E
      (fun r ↦ Setup n size sendSize keepAliveMs (connected && decide (r.1 = mqttSuccess)) r.2.2 ∧
        ∃ id, r.2.1 = { msg with id := id })
      (fun r ↦ r.1 = mqttSuccess)
      (DemoIotApp.mqttClientPublish P fuel memory self topicName msg timer) := by
  have hclosed : ∀ {self' : MqttClient W}, Setup n size sendSize keepAliveMs connected self' →
      Setup n size sendSize keepAliveMs (connected && decide (mqttFailure = mqttSuccess))
        (DemoIotApp.closeSession self') := by
    intro self' hself'
    have hfalse : (connected && decide (mqttFailure = mqttSuccess)) = false := by
      rw [decide_eq_false (by decide), Bool.and_false]
    rw [hfalse]
    exact hself'.closeSession
  refine leaves_ite (fun _ ↦ leaves_pure_of_not ⟨hclosed hself, msg.id, rfl⟩
    mqttFailure_ne_mqttSuccess hpub.before) fun _ ↦ ?_
  apply (K₀.assignPacketId hself msg).bind_leaves
  rintro ⟨msg₁, self₁⟩ ⟨hself₁, id, rfl, hid⟩
  apply (hpub.sendSerialized K₀.clock (hpublish id hid) hself₁).bind
  · rintro ⟨ret, self₂⟩ hself₂ hret
    refine leaves_ite (fun h ↦ absurd hret h) fun _ ↦ ?_
    apply (K.checkPublishQos hsend hack fuel hself₂ msg.qos timer).bind
    · rintro ⟨ret, self₃⟩ hself₃ hret
      refine leaves_ite (fun h ↦ absurd hret h) fun _ ↦ leaves_pure ⟨?_, id, rfl⟩ hsend.before
      simpa using hself₃
    · exact fun r hself₃ hret ↦ ⟨_, if_pos hret, ⟨hclosed hself₃, id, rfl⟩,
        mqttFailure_ne_mqttSuccess⟩
  · exact fun r hself₂ hret ↦ ⟨_, if_pos hret, ⟨hclosed hself₂, id, rfl⟩,
      mqttFailure_ne_mqttSuccess⟩

/-- What holds before the CONNECT need not hold behind it. -/
theorem awaitConnack (K : WaitKeeps P n size keepAliveMs I E)
    (hclock : Keeps I₀ E (fun _ ↦ True) readClock) (hsend : SendLeaves n Q I₀ J I E)
    (hconnect : ∀ options, WritesOnly Q sendSize (P.paho.serializeConnect options)) (fuel : ℕ)
    (hself : Setup n size sendSize keepAliveMs connected self) {options : ConnectData}
    (hoptions : options.keepAliveInterval = keepAliveMs) (timer : Option Timer) :
    Leaves I₀ J I E (fun r ↦ Setup n size sendSize keepAliveMs connected r.2)
      (fun r ↦ r.1 = mqttSuccess) (DemoIotApp.awaitConnack P fuel self options timer) := by
  have hcountdown : Keeps I₀ E (fun _ ↦ True)
      (DemoIotApp.timerCountdown options.keepAliveInterval) :=
    hclock.bind fun _ _ ↦ keeps_pure trivial
  apply hcountdown.bind_leaves
  intro timerLastSend _
  have hself₁ : Setup n size sendSize keepAliveMs connected { self with
      keepAliveIntervalMs := options.keepAliveInterval, timerLastSend := timerLastSend } :=
    { hself with keepAliveIntervalMs := hoptions }
  apply (hsend.sendSerialized hclock (hconnect options) hself₁).bind
  · rintro ⟨ret, self₂⟩ hself₂ hret
    refine leaves_ite (fun h ↦ absurd hret h) fun _ ↦ ?_
    exact (K.waitForSpecificPacket _ timer fuel hself₂).bind_leaves fun _ hself₃ ↦
      leaves_pure hself₃ hsend.after
  · exact fun r hself₂ hret ↦ ⟨_, if_pos hret, hself₂, mqttFailure_ne_mqttSuccess⟩

theorem mqttClientConnect (K : WaitKeeps P n size keepAliveMs I E)
    (hclock : Keeps I₀ E (fun _ ↦ True) readClock) (hsend : SendLeaves n Q I₀ J I E)
    (hconnect : ∀ options, WritesOnly Q sendSize (P.paho.serializeConnect options)) (fuel : ℕ)
    (hself : Setup n size sendSize keepAliveMs connected self) {options : ConnectData}
    (hoptions : options.keepAliveInterval = keepAliveMs) (data : ConnackData)
    (timer : Option Timer) :
    Leaves I₀ J I E
      (fun r ↦ Setup n size sendSize keepAliveMs (connected || decide (r.1 = mqttSuccess)) r.2.2)
      (fun r ↦ r.1 = mqttSuccess)
      (DemoIotApp.mqttClientConnect P fuel self (some options) data timer) := by
  have hfailed : ∀ {self' : MqttClient W}, Setup n size sendSize keepAliveMs connected self' →
      Setup n size sendSize keepAliveMs (connected || decide (mqttFailure = mqttSuccess))
        self' := by
    intro self' hself'
    rw [decide_eq_false mqttFailure_ne_mqttSuccess, Bool.or_false]
    exact hself'
  refine leaves_ite (fun _ ↦ leaves_pure_of_not (hfailed hself) mqttFailure_ne_mqttSuccess
    hsend.before) fun _ ↦ ?_
  apply (K.awaitConnack hclock hsend hconnect fuel hself hoptions timer).bind
  · rintro ⟨ret, self'⟩ hself' hret
    refine leaves_ite (fun h ↦ absurd hret h) fun _ ↦ ?_
    refine leaves_ite (fun _ ↦ leaves_pure (hfailed hself') hsend.after) fun _ ↦
      leaves_pure ?_ hsend.after
    rw [decide_eq_true rfl, Bool.or_true]
    exact { hself' with isConnected := rfl }
  · exact fun r hself' hret ↦ ⟨_, if_pos hret, hfailed hself', mqttFailure_ne_mqttSuccess⟩

end WaitKeeps

end DemoIotApp
