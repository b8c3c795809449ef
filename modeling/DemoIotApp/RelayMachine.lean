import DemoIotApp.Library.Machine
import DemoIotApp.PacketIds
import DemoIotApp.RelayOrder

/-!
# The relay as a machine

What the component is for, without its buffers and its loops: as long as it is open it sends
every message of the sensor on, each with the next packet identifier. The first message that
does not go through closes it, and from then on every further message is answered to the cloud
with a DISCONNECT.
-/

namespace DemoIotApp

open Library Prog

/-! ## The machine -/

/-- A message of the sensor that is worth sending on. -/
structure Message where
  retained : ℕ
  topic : List UInt8
  payload : List UInt8

/-- The PUBLISH for the `n`-th message of a session, with quality of service 1. -/
def Message.publish (m : Message) (n : ℕ) : List UInt8 :=
  publishPacket 0 1 m.retained (UInt16.ofNat (idAfter n)) m.topic m.payload

inductive RelayState where
  /-- So many identifiers were drawn. -/
  | opened (drawn : ℕ)
  | closed

inductive RelayStep : RelayState → Option Message → RelayState → List (List UInt8) → Prop
  | ignored (a : RelayState) : RelayStep a none a []
  | delivered (n : ℕ) (m : Message) (hfits : (m.publish (n + 1)).length ≤ pahoSendBuffSize) :
      RelayStep (.opened n) (some m) (.opened (n + 1)) [m.publish (n + 1)]
  | lost (n : ℕ) (m : Message) (hfits : (m.publish (n + 1)).length ≤ pahoSendBuffSize) :
      RelayStep (.opened n) (some m) .closed [m.publish (n + 1), disconnectPacket]
  | refused (n : ℕ) (m : Message) (hlong : pahoSendBuffSize < (m.publish (n + 1)).length) :
      RelayStep (.opened n) (some m) .closed [disconnectPacket]
  | rejected (m : Message) : RelayStep .closed (some m) .closed [disconnectPacket]

/-- The specification of the component between its initialisation and its end. -/
def relayMachine : Machine RelayState (Option Message) (List UInt8) := ⟨RelayStep⟩

/-! ## What the component passes to the machine -/

/-- The accepted message, as the client would serialise it. -/
def CcFsm.message (self : CcFsm) : Message where
  retained := self.tmpDataPublish.msg.retained.toNat
  topic := cString (self.memory self.tmpDataPublish.szTopic)
  payload := (self.memory self.tmpDataPublish.msg.payload).take
    (toCInt self.tmpDataPublish.msg.payloadlen).toNat

/-- The message that is accepted in a call of the sensor. -/
def takenMessage (P : Platform) (self : CcFsm) (s : Sys World) (sensorPort : SensorPort) :
    Option Message :=
  match takeMessage P self sensorPort s with
  | .ok (some self) _ => some self.message
  | .ok none _ => none
  | .stop _ _ => none

/-- The messages that are accepted in a run. -/
def takenMessages (P : Platform) (fuel : ℕ) (messages : List SensorPort) (self : CcFsm)
    (s : Sys World) : List (Option Message) :=
  Machine.inputsAlong (serveMessage P fuel) (takenMessage P) messages self s

/-- The machine is open as long as the client is connected, and counts its identifiers. -/
def InState (self : CcFsm) : RelayState → Prop
  | .opened n => self.client.isConnected = true ∧ HasDrawn n self.client
  | .closed => self.client.isConnected = false

/-- A component that is set up, or one whose constructor has failed, is in this state of the
machine. -/
def Relays (self : CcFsm) (_ : Sys World) (a : RelayState) : Prop :=
  (self = CcFsm.zeroed ∨ ∃ netFuel, self.Ready netFuel) ∧ InState self a

theorem relayed_eq_publish {self : CcFsm} {n : ℕ} (hqos : self.tmpDataPublish.msg.qos = 1)
    (hdrawn : HasDrawn n self.client) : self.relayed = self.message.publish (n + 1) := by
  have hid : publishId self.client = UInt16.ofNat (idAfter (n + 1)) :=
    congrArg UInt16.ofNat hdrawn.drawnId
  rw [CcFsm.relayed, PublishArgs.packet, Message.publish, ← hid]
  show publishPacket 0 self.tmpDataPublish.msg.qos.toNat _ _ _ _ = _
  rw [hqos]
  rfl

theorem CcFsm.message_of_carries {self : CcFsm} {id : UInt16} {m : Message}
    (h : Carries (self.outgoing id) m.retained m.topic m.payload) : self.message = m :=
  congr (congrArg₂ Message.mk h.retained h.topic) h.payload

theorem Unsent.trans {s t u : Sys World} (h : Unsent s t) (h' : Unsent t u) : Unsent s u :=
  ⟨h'.wire.trans h.wire, h.trace.trans h'.trace⟩

/-! ## Sending one packet -/

section Send

variable {P : Platform} {fuel netFuel : ℕ} {s t : Sys World}

/-- A packet that is handed to the connection to the cloud is in the trace, whatever comes of it. -/
theorem post_sendWithTimeout_sent (timeoutMs : ℕ) (packet : List UInt8) (s : Sys World) :
    Post (sendWithTimeout (some (netWan netFuel)) timeoutMs packet) s
      (fun _ t ↦ sentPackets t.trace = sentPackets s.trace ++ [packet])
      fun _ t ↦ sentPackets t.trace = sentPackets s.trace ++ [packet] := by
  have htimer : Keeps (fun t : Sys World ↦ t.trace = s.trace) (fun _ _ ↦ False) (fun _ ↦ True)
      (sendTimer timeoutMs) :=
    keeps_sendTimer (fun t ht ↦ ⟨trivial, ht⟩) timeoutMs
  refine Post.bind ((htimer s rfl).mono (fun _ _ h ↦ h) fun _ _ h ↦ h.elim) ?_
  rintro timer u ⟨-, hu⟩
  apply (post_mqttNetworkSendPacket netFuel packet timer u).mono
  · intro rc t ht
    rw [ht.sentPackets, hu]
  · rintro e t ⟨-, ht⟩
    rw [ht.sentPackets, hu]

/-- The packet is handed over if it could be serialised. -/
theorem post_sendSerialized_sent {self : MqttClient World} {serialize : Serializer}
    {packet : List UInt8} (hnet : self.net = some (netWan netFuel))
    (hserialized : Serialized packet self.sendbuf (serialize self.sendbuf))
    (hpos : 0 < (serialize self.sendbuf).1) (s : Sys World) :
    Post (sendSerialized serialize self) s
      (fun _ t ↦ sentPackets t.trace = sentPackets s.trace ++ [packet])
      fun _ t ↦ sentPackets t.trace = sentPackets s.trace ++ [packet] := by
  unfold sendSerialized
  rw [if_neg (Int.not_le.mpr hpos)]
  have hsend : Post (sendPacket { self with sendbuf := (serialize self.sendbuf).2 }
      (serialize self.sendbuf).1.toNat) s
      (fun _ t ↦ sentPackets t.trace = sentPackets s.trace ++ [packet])
      fun _ t ↦ sentPackets t.trace = sentPackets s.trace ++ [packet] := by
    rw [sendPacket, hnet, hserialized.take]
    exact post_sendWithTimeout_sent _ _ s
  exact hsend.bind fun _ _ ht ↦ ht

/-- A DISCONNECT always fits. -/
theorem post_mqttClientDisconnect_sent (hpaho : P.paho.SerializesDisconnect)
    {self : MqttClient World} {connected : Bool} {keepAliveMs : ℕ}
    (hself : Setup (netWan netFuel) pahoRecvBuffSize pahoSendBuffSize keepAliveMs connected self)
    (s : Sys World) :
    Post (mqttClientDisconnect P self) s
      (fun client t ↦ sentPackets t.trace = sentPackets s.trace ++ [disconnectPacket] ∧
        Setup (netWan netFuel) pahoRecvBuffSize pahoSendBuffSize keepAliveMs false client)
      fun _ t ↦ sentPackets t.trace = sentPackets s.trace ++ [disconnectPacket] := by
  have hpos : 0 < (P.paho.serializeDisconnect self.sendbuf).1 := by
    apply (hpaho self.sendbuf).2
    rw [hself.sendbuf]
    decide
  have hself' := hself.serialized P.paho.serializeDisconnect
  have hdisc : Post (sendDisconnect P self) s
      (fun r t ↦ sentPackets t.trace = sentPackets s.trace ++ [disconnectPacket] ∧
        Setup (netWan netFuel) pahoRecvBuffSize pahoSendBuffSize keepAliveMs connected r.2)
      fun _ t ↦ sentPackets t.trace = sentPackets s.trace ++ [disconnectPacket] := by
    unfold sendDisconnect
    rw [if_neg (Int.not_le.mpr hpos)]
    have hsend : Post (sendPacket
        { self with sendbuf := (P.paho.serializeDisconnect self.sendbuf).2 }
        (P.paho.serializeDisconnect self.sendbuf).1.toNat) s
        (fun _ t ↦ sentPackets t.trace = sentPackets s.trace ++ [disconnectPacket])
        fun _ t ↦ sentPackets t.trace = sentPackets s.trace ++ [disconnectPacket] := by
      rw [sendPacket, hself.net, ((hpaho self.sendbuf).1 hpos).take]
      exact post_sendWithTimeout_sent _ _ s
    exact hsend.bind fun _ _ ht ↦ ⟨ht, hself'⟩
  exact hdisc.bind fun _ _ ht ↦ ⟨ht.1, ht.2.closeSession⟩

end Send

/-! ## Publishing one message -/

section Publish

variable {P : Platform} {fuel netFuel n : ℕ} {self self' : CcFsm} {s t : Sys World}

/-- An accepted message has all of its payload in the temporary buffer. -/
theorem payload_of_accepted (hB : P.managedBuffer.Appends) (hself : self.Ready netFuel)
    (h : doProcessPublish P self s = .ok (0, self') t) (id : UInt16) :
    0 ≤ (self'.outgoing id).payloadLen ∧
      (self'.outgoing id).payloadLen ≤ (self'.outgoing id).payload.length := by
  generalize hout : P.paho.deserializePublish MqttMessage.out self.serverReadBuff
    self.tmpDataPublish.msg = out
  obtain ⟨ret, topic, msg⟩ := out
  have hends := copyEnds_of_accepted hB (by rw [hself.serverReadBuff]; decide) hout h
  have hmsg := self.withMessage_msg msg
  generalize hzero : (0 : ℤ) = ret at hends
  cases hends with
  | tooLong => exact absurd hzero (by decide)
  | copied topicBytes payloadBytes unused htopic htopicLen hpayload hpayloadLen hlen =>
      have hpayloadLen : payloadBytes.length = msg.payloadlen := by rw [hpayloadLen, hmsg]
      have hlen : topicBytes.length + 1 + payloadBytes.length + unused.length = 1024 :=
        hlen.trans hself.buffer
      obtain ⟨hpayload, hpayloadLen', -⟩ :=
        outgoing_copied self topicBytes unused hpayloadLen (by omega) id
      rw [hpayload, hpayloadLen', List.length_append]
      omega

/-- The client can serialise it exactly when it fits the send buffer. -/
theorem serializePublish_pos_iff (hpaho : P.paho.SerializesPublish) {args : PublishArgs}
    (hargs : 0 ≤ args.payloadLen ∧ args.payloadLen ≤ args.payload.length) (buf : List UInt8) :
    0 < (P.paho.serializePublish args buf).1 ↔ args.packet.length ≤ buf.length :=
  ⟨fun hpos ↦ ((hpaho args buf).1 hpos).1, (hpaho args buf).2 hargs.1 hargs.2⟩

/-- The identifier is drawn before anything is sent. -/
theorem mqttClientPublish_of_drawn (hqos : self.tmpDataPublish.msg.qos = 1)
    (hopen : self.client.isConnected = true) (hdrawn : HasDrawn n self.client) :
    mqttClientPublish P fuel self.memory self.client self.tmpDataPublish.szTopic
        self.tmpDataPublish.msg none s =
      (sendPublish P { self.client with nextPacketId := idAfter (n + 1) }
          (self.outgoing (publishId self.client)) >>= fun r ↦
        if r.1 ≠ mqttSuccess then
          pure (mqttFailure, { self.tmpDataPublish.msg with id := publishId self.client },
            closeSession r.2)
        else checkPublishQos P fuel r.2 self.tmpDataPublish.msg.qos none >>= fun r' ↦
          if r'.1 ≠ mqttSuccess then
            pure (mqttFailure, { self.tmpDataPublish.msg with id := publishId self.client },
              closeSession r'.2)
          else pure (mqttSuccess, { self.tmpDataPublish.msg with id := publishId self.client },
            r'.2)) s := by
  have hid : publishId self.client = UInt16.ofNat (idAfter (n + 1)) :=
    congrArg UInt16.ofNat hdrawn.drawnId
  have hassign : assignPacketId P self.client self.tmpDataPublish.msg s =
      .ok ({ self.tmpDataPublish.msg with id := publishId self.client },
        { self.client with nextPacketId := idAfter (n + 1) }) s := by
    rw [assignPacketId, if_pos (Or.inl hqos), bind_eq_of_ok (hdrawn.getNextPacketId P s), hid]
    rfl
  rw [mqttClientPublish, if_neg (not_not.mpr hopen), bind_eq_of_ok hassign]
  rfl

/-- A message that does not fit is given up without a trace. -/
theorem mqttClientPublish_of_long (hserialize : ¬0 <
      (P.paho.serializePublish (self.outgoing (publishId self.client)) self.client.sendbuf).1)
    (hqos : self.tmpDataPublish.msg.qos = 1) (hopen : self.client.isConnected = true)
    (hdrawn : HasDrawn n self.client) :
    ∃ r, mqttClientPublish P fuel self.memory self.client self.tmpDataPublish.szTopic
      self.tmpDataPublish.msg none s = .ok r s ∧ r.1 = mqttFailure := by
  rw [mqttClientPublish_of_drawn hqos hopen hdrawn, sendPublish, sendSerialized,
    if_pos (Int.not_lt.mp hserialize)]
  exact ⟨_, rfl, rfl⟩

/-- A message that fits is handed over once, and nothing else is. -/
theorem post_mqttClientPublish_sent (hpaho : P.paho.SerializesPublish)
    (hself : self.Ready netFuel) (hserialize : 0 <
      (P.paho.serializePublish (self.outgoing (publishId self.client)) self.client.sendbuf).1)
    (hqos : self.tmpDataPublish.msg.qos = 1) (hopen : self.client.isConnected = true)
    (hdrawn : HasDrawn n self.client) (s : Sys World) :
    Post (mqttClientPublish P fuel self.memory self.client self.tmpDataPublish.szTopic
        self.tmpDataPublish.msg none) s
      (fun _ t ↦ sentPackets t.trace = sentPackets s.trace ++ [self.relayed])
      fun _ t ↦ sentPackets t.trace = sentPackets s.trace ++ [self.relayed] := by
  have hclient : Setup (netWan netFuel) pahoRecvBuffSize pahoSendBuffSize 0
      self.client.isConnected { self.client with nextPacketId := idAfter (n + 1) } :=
    { hself.client with }
  have hwritten := (hpaho (self.outgoing (publishId self.client)) self.client.sendbuf).1 hserialize
  have hsend : Post (sendPublish P { self.client with nextPacketId := idAfter (n + 1) }
      (self.outgoing (publishId self.client))) s
      (fun r t ↦ sentPackets t.trace = sentPackets s.trace ++ [self.relayed] ∧
        Setup (netWan netFuel) pahoRecvBuffSize pahoSendBuffSize 0 self.client.isConnected r.2)
      fun _ t ↦ sentPackets t.trace = sentPackets s.trace ++ [self.relayed] := by
    have hpost := (post_sendSerialized_sent hclient.net hwritten hserialize s).and
      (post_intro (E := fun _ _ ↦ True) (fun r t h ↦ (sendSerialized_eq_ok h).2)
        fun _ _ _ ↦ trivial)
    refine hpost.mono (fun r t ⟨ht, hr⟩ ↦ ⟨ht, ?_⟩) fun _ _ h ↦ h.1
    rw [hr]
    exact hclient.serialized _
  have K : WaitKeeps P (netWan netFuel) pahoRecvBuffSize 0
      (fun t ↦ sentPackets t.trace = sentPackets s.trace ++ [self.relayed])
      fun _ t ↦ sentPackets t.trace = sentPackets s.trace ++ [self.relayed] :=
    ReceiveKeeps.waitKeeps ⟨fun t u ht htu ↦ htu.unsent.sentPackets.trans ht,
      fun _ _ _ ht ↦ ht⟩ P netFuel pahoRecvBuffSize
  rw [Post, mqttClientPublish_of_drawn hqos hopen hdrawn]
  apply hsend.bind
  rintro ⟨ret, client⟩ t ⟨ht, hclient'⟩
  refine post_ite (fun _ ↦ ht) fun _ ↦ ?_
  have hcheck : Keeps (fun t ↦ sentPackets t.trace = sentPackets s.trace ++ [self.relayed])
      (fun _ t ↦ sentPackets t.trace = sentPackets s.trace ++ [self.relayed]) (fun _ ↦ True)
      (checkPublishQos P fuel client self.tmpDataPublish.msg.qos none) := by
    rw [hqos]
    exact (K.expectAck fuel hclient' .puback ⟨0, 0, 0⟩ none).bind fun _ _ ↦ keeps_pure trivial
  apply (hcheck t ht).bind
  rintro ⟨ret', client'⟩ u ⟨-, hu⟩
  exact post_ite (fun _ ↦ hu) fun _ ↦ hu

end Publish

/-! ## One message -/

section Message

variable {P : Platform} {fuel netFuel n : ℕ} {self self' : CcFsm} {a a' : RelayState}
  {accepted : Option Message} {out : List (List UInt8)} {s t : Sys World}

/-- A step of the machine from `s` to `t`. -/
def MachineStep (a : RelayState) (accepted : Option Message) (s : Sys World) (self : CcFsm)
    (t : Sys World) : Prop :=
  ∃ a' out, RelayStep a accepted a' out ∧ sentPackets t.trace = sentPackets s.trace ++ out ∧
    Relays self t a'

/-- A part of a step of the machine from `s` to `t`. -/
def MachineStepPart (a : RelayState) (accepted : Option Message) (s t : Sys World) : Prop :=
  ∃ a' out sent, RelayStep a accepted a' out ∧
    sentPackets t.trace = sentPackets s.trace ++ sent ∧ sent <+: out

theorem MachineStep.of_unsent {u : Sys World} (h : MachineStep a accepted s self t)
    (htu : Unsent t u) : MachineStep a accepted s self u := by
  obtain ⟨a', out, hstep, hsent, hself⟩ := h
  exact ⟨a', out, hstep, htu.sentPackets.trans hsent, hself⟩

theorem machineStep_ignored (hself : Relays self t a) (hst : Unsent s t) :
    MachineStep a none s self t :=
  ⟨a, [], .ignored a, by rw [hst.sentPackets, List.append_nil], hself⟩

/-- The machine always has a step, and at first nothing of it is done. -/
theorem machineStepPart_of_unsent (a : RelayState) (accepted : Option Message)
    (hst : Unsent s t) : MachineStepPart a accepted s t := by
  have hstep : ∃ a' out, RelayStep a accepted a' out := by
    cases accepted with
    | none => exact ⟨_, _, .ignored a⟩
    | some m =>
        cases a with
        | closed => exact ⟨_, _, .rejected m⟩
        | opened n =>
            rcases Nat.lt_or_ge pahoSendBuffSize (m.publish (n + 1)).length with hlong | hfits
            · exact ⟨_, _, .refused n m hlong⟩
            · exact ⟨_, _, .delivered n m hfits⟩
  obtain ⟨a', out, hstep⟩ := hstep
  exact ⟨a', out, [], hstep, by rw [hst.sentPackets, List.append_nil], List.nil_prefix⟩

theorem MachineStep.from_unsent {u : Sys World} (h : MachineStep a accepted t self u)
    (hst : Unsent s t) : MachineStep a accepted s self u := by
  obtain ⟨a', out, hstep, hsent, hself⟩ := h
  exact ⟨a', out, hstep, by rw [hsent, hst.sentPackets], hself⟩

theorem MachineStepPart.from_unsent {u : Sys World} (h : MachineStepPart a accepted t u)
    (hst : Unsent s t) : MachineStepPart a accepted s u := by
  obtain ⟨a', out, sent, hstep, hsent, hprefix⟩ := h
  exact ⟨a', out, sent, hstep, by rw [hsent, hst.sentPackets], hprefix⟩

/-- A publish that has failed ends with a DISCONNECT. -/
theorem post_disconnect_step (hpaho : P.paho.SerializesDisconnect) (hself : self.Ready netFuel)
    {client : MqttClient World} {connected : Bool}
    (hclient : Setup (netWan netFuel) pahoRecvBuffSize pahoSendBuffSize 0 connected client)
    (id : UInt16) {before : List (List UInt8)}
    (ht : sentPackets t.trace = sentPackets s.trace ++ before)
    (hstep : RelayStep a accepted .closed (before ++ [disconnectPacket])) :
    Post (do
        let client ← mqttClientDisconnect P client
        return ((-1, { self with
          client := client
          tmpDataPublish := { self.tmpDataPublish with
            msg := { self.tmpDataPublish.msg with id := id } } }) : ℤ × CcFsm)) t
      (fun r u ↦ MachineStep a accepted s r.2 u) fun _ u ↦ MachineStepPart a accepted s u := by
  refine Post.bind ((post_mqttClientDisconnect_sent hpaho hclient t).mono (fun _ _ h ↦ h) ?_) ?_
  · intro e u hu
    exact ⟨_, _, _, hstep, by rw [hu, ht, List.append_assoc], List.prefix_rfl⟩
  · rintro client' u ⟨hu, hclient'⟩
    exact ⟨_, _, hstep, by rw [hu, ht, List.append_assoc],
      Or.inr ⟨netFuel, hself.withMessage hclient' id⟩, hclient'.isConnected⟩

/-- What the client is like when `MQTT_client_publish` returns. -/
theorem post_mqttClientPublish_client (hself : self.Ready netFuel)
    (hqos : self.tmpDataPublish.msg.qos = 1) (hopen : self.client.isConnected = true)
    (hdrawn : HasDrawn n self.client) (s : Sys World) :
    Post (mqttClientPublish P fuel self.memory self.client self.tmpDataPublish.szTopic
        self.tmpDataPublish.msg none) s
      (fun r _ ↦ Setup (netWan netFuel) pahoRecvBuffSize pahoSendBuffSize 0
          (decide (r.1 = mqttSuccess)) r.2.2 ∧
        (∃ id, r.2.1 = { self.tmpDataPublish.msg with id := id }) ∧ HasDrawn (n + 1) r.2.2)
      fun _ _ ↦ True := by
  have K := receiveKeeps_true.waitKeeps P netFuel pahoRecvBuffSize
  have hsend := (sendKeeps_true (netWan netFuel)).leaves
  have hleaves := K.mqttClientPublish K hsend hsend fuel self.memory hself.client
    self.tmpDataPublish.szTopic self.tmpDataPublish.msg (fun _ _ _ _ _ ↦ trivial)
    (fun _ _ _ _ ↦ trivial) none
  have hids : Yields _ (mqttClientPublish P fuel self.memory self.client
      self.tmpDataPublish.szTopic self.tmpDataPublish.msg none) :=
    yields_mqttClientPublish_nextPacketId self.memory self.client self.tmpDataPublish.szTopic
      self.tmpDataPublish.msg none
  refine ((hleaves s trivial).and (hids.post s)).mono ?_ fun _ _ _ ↦ trivial
  rintro r t ⟨⟨⟨hclient, hid⟩, -⟩, hnext⟩
  rw [hopen, Bool.true_and] at hclient
  rw [if_pos ⟨hopen, Or.inl hqos⟩, hdrawn.drawnId] at hnext
  exact ⟨hclient, hid, hnext.2⟩

theorem relayPublish_of_closed (hclosed : self.client.isConnected = false) :
    relayPublish P fuel self = (do
      let client ← mqttClientDisconnect P (closeSession self.client)
      return (-1, { self with client := client })) := by
  have hpublish : mqttClientPublish P fuel self.memory self.client self.tmpDataPublish.szTopic
      self.tmpDataPublish.msg none =
        pure (mqttFailure, self.tmpDataPublish.msg, closeSession self.client) := by
    rw [mqttClientPublish, if_pos (by simp [hclosed])]
  rw [relayPublish, hpublish, pure_bind]
  rfl

/-- What the relay does with an accepted message is a step of the machine. -/
theorem post_relayPublish_step (hpaho : P.paho.SerializesSession) (hself : self.Ready netFuel)
    (hqos : self.tmpDataPublish.msg.qos = 1)
    (hargs : ∀ id, 0 ≤ (self.outgoing id).payloadLen ∧
      (self.outgoing id).payloadLen ≤ (self.outgoing id).payload.length)
    (ha : InState self a) (s : Sys World) :
    Post (relayPublish P fuel self) s (fun r t ↦ MachineStep a (some self.message) s r.2 t)
      fun _ t ↦ MachineStepPart a (some self.message) s t := by
  cases a with
  | closed =>
      rw [relayPublish_of_closed ha]
      exact post_disconnect_step hpaho.disconnect hself hself.client.closeSession
        self.tmpDataPublish.msg.id (List.append_nil _).symm (.rejected _)
  | opened n =>
      obtain ⟨hopen, hdrawn⟩ := ha
      have hrelayed := relayed_eq_publish hqos hdrawn
      have hclient : Post (mqttClientPublish P fuel self.memory self.client
          self.tmpDataPublish.szTopic self.tmpDataPublish.msg none) s _ _ :=
        post_mqttClientPublish_client hself hqos hopen hdrawn s
      have hfits := (serializePublish_pos_iff hpaho.publish (hargs (publishId self.client))
        self.client.sendbuf).trans (show _ ↔ self.relayed.length ≤ pahoSendBuffSize by
          rw [hself.client.sendbuf]; rfl)
      rw [hrelayed] at hfits
      by_cases hserialize : 0 < (P.paho.serializePublish
          (self.outgoing (publishId self.client)) self.client.sendbuf).1
      · have hsent : Post (mqttClientPublish P fuel self.memory self.client
            self.tmpDataPublish.szTopic self.tmpDataPublish.msg none) s _ _ :=
          post_mqttClientPublish_sent hpaho.publish hself hserialize hqos hopen hdrawn s
        rw [hrelayed] at hsent
        refine Post.bind ((hclient.and hsent).mono (fun _ _ h ↦ h) ?_) ?_
        · rintro e t ⟨-, ht⟩
          exact ⟨_, _, _, .delivered n _ (hfits.mp hserialize), ht, List.prefix_rfl⟩
        · rintro ⟨ret, msg, client⟩ t ⟨⟨hclient, ⟨id, rfl⟩, hdrawn'⟩, ht⟩
          refine post_ite (fun _ ↦ ?_) fun hret ↦ ?_
          · exact post_disconnect_step hpaho.disconnect hself hclient id ht
              (.lost n _ (hfits.mp hserialize))
          · rw [decide_eq_true (not_not.mp hret)] at hclient
            exact ⟨_, _, .delivered n _ (hfits.mp hserialize), ht,
              Or.inr ⟨netFuel, hself.withMessage hclient id⟩, hclient.isConnected, hdrawn'⟩
      · obtain ⟨⟨ret, msg, client⟩, hpublish, rfl⟩ : ∃ r, mqttClientPublish P fuel self.memory
            self.client self.tmpDataPublish.szTopic self.tmpDataPublish.msg none s = .ok r s ∧ _ :=
          mqttClientPublish_of_long hserialize hqos hopen hdrawn
        obtain ⟨hclient, ⟨id, rfl⟩, -⟩ := hclient.ok hpublish
        have hlong := Nat.not_le.mp (mt hfits.mpr hserialize)
        rw [Post, relayPublish, bind_eq_of_ok hpublish]
        exact post_disconnect_step hpaho.disconnect hself hclient id (List.append_nil _).symm
          (.refused n _ hlong)

theorem post_processMessage_step (hP : P.ProcessesPackets) (hpaho : P.paho.SerializesSession)
    (hself : self.Ready netFuel) (ha : InState self a) (sensorPort : SensorPort)
    (haccepted : accepted = match acceptMessage P self sensorPort s with
      | .ok (some self) _ => some self.message
      | _ => none) :
    Post (processMessage P fuel self sensorPort) s
      (fun r t ↦ MachineStep a accepted s r.2 t) fun _ t ↦ MachineStepPart a accepted s t := by
  have hstate : ∀ {self' : CcFsm}, self'.client = self.client → InState self' a := by
    intro self' hclient
    cases a with
    | closed => exact (congrArg MqttClient.isConnected hclient).trans ha
    | opened n =>
        rw [InState, hclient]
        exact ha
  have hnone : Unsent s s := ⟨rfl, Extends.refl _ s⟩
  apply post_processMessage hP hself sensorPort (machineStepPart_of_unsent a accepted hnone)
    (machineStepPart_of_unsent a accepted hnone)
  · intro self' haccept hself' hclient
    rw [haccept] at haccepted
    rw [haccepted]
    exact machineStep_ignored ⟨Or.inr ⟨netFuel, hself'⟩, hstate hclient⟩ hnone
  · intro htype
    have haccept : acceptMessage P self sensorPort s = .ok none s := by
      rw [acceptMessage, if_neg (by rw [htype]; decide)]
      rfl
    rw [haccept] at haccepted
    have hlan : SendKeeps (Network.unset .lan) (fun _ ↦ True) (Unsent s) fun _ ↦ Unsent s :=
      sendKeeps_unset .lan (fun t ht ↦ ht.trans ⟨rfl, Extends.of_trace_eq rfl⟩)
        fun t packet before ht ↦ ht.trans
          (unsent_log (e := .sendPacket .lan packet before t.world none) rfl t)
    have hkeeps := keeps_handleMqttConnect (P := P)
      (fun t ht ↦ ⟨trivial, ht.trans ⟨rfl, Extends.of_trace_eq rfl⟩⟩) hlan
      (hself.withReadBuff sensorPort)
    refine (hkeeps s hnone).mono ?_ fun _ t ht ↦ machineStepPart_of_unsent a accepted ht
    rintro r t ⟨⟨hself', hclient⟩, ht⟩
    rw [haccepted]
    exact machineStep_ignored ⟨Or.inr ⟨netFuel, hself'⟩, hstate hclient⟩ ht
  · intro self' haccept hself' hclient
    rw [haccept] at haccepted
    obtain ⟨-, hqos⟩ := ((post_acceptMessage hP sensorPort hself.payloadlen s).ok haccept).2 self'
      rfl
    obtain ⟨-, hprocess⟩ := acceptMessage_eq_some haccept
    rw [haccepted]
    exact post_relayPublish_step hpaho hself' hqos
      (payload_of_accepted hP.appends (hself.receiving sensorPort) hprocess) (hstate hclient) s

/-- One call of the sensor is one step of the machine. -/
theorem refines_serveMessage (hP : P.ProcessesPackets) (hpaho : P.paho.SerializesSession) :
    relayMachine.Refines (serveMessage P fuel) (takenMessage P) (fun s ↦ sentPackets s.trace)
      Relays := by
  rintro self s sensorPort a ⟨hself, ha⟩
  suffices hserve : Post (serveMessage P fuel self sensorPort) s
      (fun self' t ↦ MachineStep a (takenMessage P self s sensorPort) s self' t)
      fun _ t ↦ MachineStepPart a (takenMessage P self s sensorPort) s t from hserve
  refine post_serveMessage (fun e t _ hsent ↦ machineStepPart_of_unsent a _ hsent)
    (fun self' t u ht hsent ↦ ht.of_unsent hsent) fun rc t hwait hsent ↦ ?_
  rcases hself with rfl | ⟨netFuel, hself⟩
  · rw [post_of_stop (processMessage_zeroed sensorPort t)]
    exact machineStepPart_of_unsent a _ hsent
  have htake : takeMessage P self sensorPort s = acceptMessage P self sensorPort t :=
    bind_eq_of_ok hwait
  have haccepted : takenMessage P self s sensorPort =
      match acceptMessage P self sensorPort t with
      | .ok (some self) _ => some self.message
      | _ => none := by
    rw [takenMessage, htake]
    cases acceptMessage P self sensorPort t with
    | ok accepted u => cases accepted <;> rfl
    | stop e u => rfl
  exact (post_processMessage_step hP hpaho hself ha sensorPort haccepted).mono
    (fun _ _ h ↦ h.from_unsent hsent) fun _ _ h ↦ h.from_unsent hsent

end Message

end DemoIotApp
