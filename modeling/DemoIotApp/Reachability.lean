import DemoIotApp.ProcessPublish
import DemoIotApp.Reference
import DemoIotApp.TlsInvariants

/-!
# The states of the component

Once the constructor has succeeded the objects stay wired up as it left them,
whatever the sensor and the network do. As for the client, the functions of the
component are walked through once for all properties of the system state.
-/

namespace DemoIotApp

open Library Prog

/-! ## What the constructor sets up -/

structure CcFsm.Ready (netFuel : ℕ) (component : CcFsm) : Prop where
  client : Setup (netWan netFuel) pahoRecvBuffSize pahoSendBuffSize 0
    component.client.isConnected component.client
  net : component.server.net = some (Network.unset .lan)
  readbuf : component.server.readbuf = .serverReadBuff 0
  sendbuf : component.server.sendbuf.length = pahoSendBuffSize
  serverReadBuff : component.serverReadBuff.length = pahoRecvBuffSize
  buffer : component.tmpDataPublish.buffer.length = pahoRecvBuffSize
  payloadlen : component.tmpDataPublish.msg.payloadlen < 2 ^ 32

namespace CcFsm.Ready

variable {netFuel : ℕ} {component : CcFsm}

theorem withClient (h : component.Ready netFuel) {client : MqttClient World} {connected : Bool}
    (hclient : Setup (netWan netFuel) pahoRecvBuffSize pahoSendBuffSize 0 connected client) :
    CcFsm.Ready netFuel { component with client := client } :=
  { h with client := hclient.current }

theorem withMessage (h : component.Ready netFuel) {client : MqttClient World} {connected : Bool}
    (hclient : Setup (netWan netFuel) pahoRecvBuffSize pahoSendBuffSize 0 connected client)
    (id : UInt16) : CcFsm.Ready netFuel { component with
      client := client
      tmpDataPublish := { component.tmpDataPublish with
        msg := { component.tmpDataPublish.msg with id := id } } } :=
  { h with client := hclient.current }

theorem withReadBuff (h : component.Ready netFuel) (sensorPort : SensorPort) :
    CcFsm.Ready netFuel
      { component with serverReadBuff := sensorPort.bytes.take pahoRecvBuffSize } :=
  { h with
    serverReadBuff := by
      rw [List.length_take, sensorPort.length_bytes]
      decide }

theorem of_processed {component' : CcFsm} (h : component.Ready netFuel)
    (h' : component.Processed component') : component'.Ready netFuel where
  client := by
    rw [h'.client]
    exact h.client
  net := h'.server ▸ h.net
  readbuf := h'.server ▸ h.readbuf
  sendbuf := h'.server ▸ h.sendbuf
  serverReadBuff := h'.serverReadBuff ▸ h.serverReadBuff
  buffer := h'.buffer ▸ h.buffer
  payloadlen := h'.payloadlen

end CcFsm.Ready

/-- What the component relies on when it processes the packets of the sensor. -/
structure Platform.ProcessesPackets (P : Platform) : Prop where
  appends : P.managedBuffer.Appends
  stores : P.paho.StoresThroughPointers
  connack : P.paho.SerializesConnack

/-- Whatever the client serialises is in `Q`. -/
structure Paho.SendsOnly (P : Paho) (Q : List UInt8 → Prop) : Prop where
  connect : ∀ options, WritesOnly Q pahoSendBuffSize (P.serializeConnect options)
  disconnect : WritesOnly Q pahoSendBuffSize P.serializeDisconnect
  publish : ∀ args, WritesOnly Q pahoSendBuffSize (P.serializePublish args)
  pubrel : ∀ packetId, WritesOnly Q pahoSendBuffSize (P.serializeAck .pubrel 0 packetId)

theorem Paho.sendsOnly_true (P : Paho) : P.SendsOnly fun _ ↦ True :=
  ⟨fun _ _ _ _ ↦ trivial, fun _ _ _ ↦ trivial, fun _ _ _ _ ↦ trivial, fun _ _ _ _ ↦ trivial⟩

/-! ## Messages of the sensor -/

/-- The state in which a PUBLISH of the sensor is processed. -/
def CcFsm.receiving (self : CcFsm) (sensorPort : SensorPort) : CcFsm :=
  { self with
    serverReadBuff := sensorPort.bytes.take pahoRecvBuffSize
    cnt := { self.cnt with publish := self.cnt.publish + 1 } }

/-- What is left of a message that is a PUBLISH and accepted. -/
def acceptMessage (P : Platform) (self : CcFsm) (sensorPort : SensorPort) :
    Prog Stop (Sys World) (Option CcFsm) :=
  if headerType (sensorPort.bytes.headD 0) = PacketType.publish.code then do
    let (ret, self) ← doProcessPublish P (self.receiving sensorPort)
    return if ret ≠ 0 then none else some self
  else
    return none

section Messages

variable {P : Platform} {netFuel fuel : ℕ} {Q : List UInt8 → Prop} {I J : Sys World → Prop}
  {E : Stop → Sys World → Prop} {self : CcFsm}

theorem CcFsm.Ready.receiving (hself : self.Ready netFuel) (sensorPort : SensorPort) :
    (self.receiving sensorPort).Ready netFuel :=
  { hself.withReadBuff sensorPort with }

/-- Accepting a message changes neither the client nor the system. -/
theorem post_acceptMessage (hP : P.ProcessesPackets) (sensorPort : SensorPort)
    (hpayloadlen : self.tmpDataPublish.msg.payloadlen < 2 ^ 32) (s : Sys World) :
    Post (acceptMessage P self sensorPort) s
      (fun accepted t ↦ t = s ∧ ∀ self' ∈ accepted,
        (self.receiving sensorPort).Processed self' ∧ self'.tmpDataPublish.msg.qos = 1)
      fun e t ↦ t = s ∧ (e = .overread ∨ e = .assertion) := by
  have hread : (self.receiving sensorPort).serverReadBuff.length < 2 ^ 32 - 1 := by
    simp only [CcFsm.receiving, List.length_take, sensorPort.length_bytes]
    decide
  refine post_ite (fun _ ↦ ?_) fun _ ↦ ⟨rfl, by simp⟩
  apply (post_doProcessPublish hP.appends hP.stores hread hpayloadlen s).bind
  rintro ⟨ret, self'⟩ t ⟨rfl, hprocessed, hqos⟩
  refine ⟨rfl, fun self'' hmem ↦ ?_⟩
  by_cases hret : ret ≠ 0
  · simp [hret] at hmem
  · obtain rfl : self' = self'' := by simpa [hret] using hmem
    exact ⟨hprocessed, hqos (not_not.mp hret)⟩

theorem acceptMessage_eq_some {self' : CcFsm} {sensorPort : SensorPort} {s t : Sys World}
    (h : acceptMessage P self sensorPort s = .ok (some self') t) :
    headerType (sensorPort.bytes.headD 0) = PacketType.publish.code ∧
      doProcessPublish P (self.receiving sensorPort) s = .ok (0, self') t := by
  unfold acceptMessage at h
  split_ifs at h with htype
  · obtain ⟨⟨ret, self₁⟩, u, hrun, hreturn⟩ := bind_eq_ok_iff.mp h
    obtain ⟨hsome, rfl⟩ := Outcome.ok.inj hreturn
    split_ifs at hsome with hret
    obtain rfl := Option.some.inj hsome
    obtain rfl := not_not.mp hret
    exact ⟨htype, hrun⟩
  · exact absurd (Outcome.ok.inj h).1 (by simp)

/-- `handle_CC_FSM_NEW_MESSAGE` finds the packet type in the first byte. -/
theorem processMessage_eq (hself : self.Ready netFuel) (sensorPort : SensorPort) (s : Sys World) :
    processMessage P fuel self sensorPort s =
      dispatchPacket P fuel { self with serverReadBuff := sensorPort.bytes.take pahoRecvBuffSize }
        (headerType (sensorPort.bytes.headD 0)) s := by
  obtain ⟨header, rest, hbytes⟩ := List.exists_cons_of_length_pos
    (show 0 < sensorPort.bytes.length by rw [sensorPort.length_bytes]; decide)
  unfold processMessage mqttServerReadType
  simp only [hself.readbuf, CcFsm.memory, List.drop_zero, hbytes]
  rfl

theorem processMessage_of_publish {P : Platform} {netFuel fuel : ℕ} {self : CcFsm}
    (hself : self.Ready netFuel) {sensorPort : SensorPort}
    (htype : headerType (sensorPort.bytes.headD 0) = PacketType.publish.code) (s : Sys World) :
    processMessage P fuel self sensorPort s =
      (doProcessPublish P (self.receiving sensorPort) >>= fun r ↦
        if r.1 ≠ 0 then pure (0, r.2) else relayPublish P fuel r.2) s := by
  rw [processMessage_eq hself, htype]
  rfl

/-- A PUBLISH is ignored or relayed, or it runs into a read outside its object or a failed
assertion. -/
theorem post_processMessage_of_publish (hP : P.ProcessesPackets) (hself : self.Ready netFuel)
    {sensorPort : SensorPort} {s : Sys World} {R : ℤ × CcFsm → Sys World → Prop}
    (hpublish : headerType (sensorPort.bytes.headD 0) = PacketType.publish.code)
    (hover : E .overread s) (hassert : E .assertion s)
    (hignored : ∀ self', acceptMessage P self sensorPort s = .ok none s → self'.Ready netFuel →
      self'.client = self.client → R (0, self') s)
    (hrelay : ∀ self', acceptMessage P self sensorPort s = .ok (some self') s →
      self'.Ready netFuel → self'.client = self.client → Post (relayPublish P fuel self') s R E) :
    Post (processMessage P fuel self sensorPort) s R E := by
  have hreceiving := hself.receiving sensorPort
  have hread : (self.receiving sensorPort).serverReadBuff.length < 2 ^ 32 - 1 := by
    rw [hreceiving.serverReadBuff]
    decide
  have hprocess := post_doProcessPublish hP.appends hP.stores hread hreceiving.payloadlen s
  unfold Post
  rw [processMessage_of_publish hself hpublish]
  cases hrun : doProcessPublish P (self.receiving sensorPort) s with
  | ok r t =>
      obtain ⟨rfl, hprocessed, -⟩ := hprocess.ok hrun
      have hready := hreceiving.of_processed hprocessed
      rw [bind_eq_of_ok hrun]
      have haccept : acceptMessage P self sensorPort t =
          .ok (if r.1 ≠ 0 then none else some r.2) t := by
        rw [acceptMessage, if_pos hpublish, bind_eq_of_ok hrun]
        rfl
      refine post_ite (fun hret ↦ ?_) fun hret ↦ ?_
      · rw [if_pos hret] at haccept
        exact hignored r.2 haccept hready hprocessed.client
      · rw [if_neg hret] at haccept
        exact hrelay r.2 haccept hready hprocessed.client
  | stop e t =>
      rw [bind_eq_of_stop hrun]
      obtain ⟨rfl, rfl | rfl⟩ := hprocess.stop hrun
      · exact hover
      · exact hassert

/-- Of the other packets only a CONNECT is answered. -/
theorem post_dispatchPacket {packetType : ℕ} {s : Sys World} {R : ℤ × CcFsm → Sys World → Prop}
    (hpublish : packetType ≠ PacketType.publish.code)
    (hconnect : packetType = PacketType.connect.code → Post (handleMqttConnect P self) s R E)
    (hignored : R (if (PacketType.ofCode packetType).isSome then 0 else -1, self) s) :
    Post (dispatchPacket P fuel self packetType) s R E := by
  unfold dispatchPacket
  split
  · rename_i hcode
    exact hconnect (PacketType.ofCode_eq_some_iff.mp hcode)
  · rename_i hcode
    rw [hcode] at hignored
    exact hignored
  · rename_i hcode
    exact absurd (PacketType.ofCode_eq_some_iff.mp hcode) hpublish
  all_goals
    rename_i hcode
    rw [hcode] at hignored
    exact hignored

/-- What comes of a message: it is ignored, answered or relayed, or it runs into a
read outside its object or a failed assertion. -/
theorem post_processMessage (hP : P.ProcessesPackets) (hself : self.Ready netFuel)
    (sensorPort : SensorPort) {s : Sys World} {R : ℤ × CcFsm → Sys World → Prop}
    (hover : E .overread s) (hassert : E .assertion s)
    (hignored : ∀ self', acceptMessage P self sensorPort s = .ok none s → self'.Ready netFuel →
      self'.client = self.client →
        R (if (PacketType.ofCode (headerType (sensorPort.bytes.headD 0))).isSome then 0 else -1,
          self') s)
    (hconnect : headerType (sensorPort.bytes.headD 0) = PacketType.connect.code →
      Post (handleMqttConnect P
        { self with serverReadBuff := sensorPort.bytes.take pahoRecvBuffSize }) s R E)
    (hrelay : ∀ self', acceptMessage P self sensorPort s = .ok (some self') s →
      self'.Ready netFuel → self'.client = self.client → Post (relayPublish P fuel self') s R E) :
    Post (processMessage P fuel self sensorPort) s R E := by
  by_cases hpublish : headerType (sensorPort.bytes.headD 0) = PacketType.publish.code
  · have hknown : PacketType.ofCode (headerType (sensorPort.bytes.headD 0)) =
        some .publish := PacketType.ofCode_eq_some_iff.mpr hpublish
    rw [hknown] at hignored
    exact post_processMessage_of_publish hP hself hpublish hover hassert hignored hrelay
  · have haccept : acceptMessage P self sensorPort s = .ok none s := by
      rw [acceptMessage, if_neg hpublish]
      rfl
    have hends := hignored _ haccept (hself.withReadBuff sensorPort) rfl
    unfold Post
    rw [processMessage_eq hself]
    exact post_dispatchPacket hpublish hconnect hends

/-- Relaying sends a PUBLISH and what belongs to it, and a DISCONNECT when that
has failed. -/
theorem post_relayPublish {Q₀ Q' : List UInt8 → Prop} {I₀ L : Sys World → Prop}
    (K₀ : WaitKeeps P (netWan netFuel) pahoRecvBuffSize 0 I₀ E)
    (K : WaitKeeps P (netWan netFuel) pahoRecvBuffSize 0 I E)
    (hclock : Keeps L E (fun _ ↦ True) readClock)
    (hpub : SendLeaves (netWan netFuel) Q₀ I₀ J I E)
    (hsend : SendLeaves (netWan netFuel) Q I J I E)
    (hclose : SendLeaves (netWan netFuel) Q' L J J E)
    (hpublish : ∀ id, (self.tmpDataPublish.msg.qos = 1 ∨ self.tmpDataPublish.msg.qos = 2 →
      id = publishId self.client) → WritesOnly Q₀ pahoSendBuffSize (P.paho.serializePublish
        (publishArgs self.memory self.tmpDataPublish.szTopic
          { self.tmpDataPublish.msg with id := id })))
    (hpubrel : ∀ id, WritesOnly Q pahoSendBuffSize (P.paho.serializeAck .pubrel 0 id))
    (hdisconnect : WritesOnly Q' pahoSendBuffSize P.paho.serializeDisconnect)
    (hself : self.Ready netFuel) {s : Sys World} (hJ : J s)
    (hI : self.client.isConnected = true → I₀ s)
    (hfailed : ∀ r t, mqttClientPublish P fuel self.memory self.client
      self.tmpDataPublish.szTopic self.tmpDataPublish.msg none s = .ok r t →
        r.1 ≠ mqttSuccess → J t → L t) :
    Post (relayPublish P fuel self) s
      (fun r t ↦ r.2.Ready netFuel ∧ J t ∧ (r.1 = 0 → I t) ∧
        (r.2.client.isConnected = true → r.1 = 0)) E := by
  have hpublished : Post (mqttClientPublish P fuel self.memory self.client
      self.tmpDataPublish.szTopic self.tmpDataPublish.msg none) s
      (fun r t ↦ (∃ connected, Setup (netWan netFuel) pahoRecvBuffSize pahoSendBuffSize 0
          connected r.2.2) ∧ (∃ id, r.2.1 = { self.tmpDataPublish.msg with id := id }) ∧
        J t ∧ (r.1 = mqttSuccess → I t)) E := by
    by_cases hconnected : self.client.isConnected = true
    · have hleaves := K₀.mqttClientPublish K hpub hsend fuel self.memory hself.client
        self.tmpDataPublish.szTopic self.tmpDataPublish.msg hpublish hpubrel none
      exact (hleaves s (hI hconnected)).mono (fun _ _ h ↦ ⟨⟨_, h.1.1⟩, h.1.2, h.2⟩)
        fun _ _ h ↦ h
    · -- nothing is sent on a closed session
      unfold mqttClientPublish
      rw [if_pos hconnected]
      exact ⟨⟨false, hself.client.closeSession⟩, ⟨_, rfl⟩, hJ,
        fun h ↦ absurd h mqttFailure_ne_mqttSuccess⟩
  have hcases := hpublished.and (post_intro (Q := fun r t ↦ r.1 ≠ mqttSuccess → J t → L t)
    (E := fun _ _ ↦ True) hfailed fun _ _ _ ↦ trivial)
  refine Post.bind (hcases.mono (fun _ _ h ↦ h) fun _ _ h ↦ h.1) ?_
  rintro ⟨ret, msg, client⟩ t ⟨⟨⟨connected, hclient⟩, ⟨id, rfl⟩, hJ, hI⟩, hfailed⟩
  have hself' := hself.withMessage hclient id
  refine post_ite (fun hret ↦ ?_) fun hret ↦
    ⟨hself', hJ, fun _ ↦ hI (not_not.mp hret), fun _ ↦ rfl⟩
  apply (hclose.mqttClientDisconnect hclock hdisconnect hclient t (hfailed hret hJ)).bind
  rintro client' u ⟨hclient', hJ, -⟩
  have hne : (-1 : ℤ) ≠ 0 := by decide
  refine ⟨hself'.withClient hclient', hJ, fun h ↦ absurd h hne, fun hconnected ↦ ?_⟩
  exact absurd (hclient'.isConnected.symm.trans hconnected) (by decide)

theorem relayPublish_eq_ok {s t : Sys World} {r : ℤ × CcFsm}
    (h : relayPublish P fuel self s = .ok r t) :
    ∃ pr u, mqttClientPublish P fuel self.memory self.client self.tmpDataPublish.szTopic
        self.tmpDataPublish.msg none s = .ok pr u ∧ (r.1 = 0 ↔ pr.1 = mqttSuccess) := by
  obtain ⟨⟨ret, msg, client⟩, u, hpublish, hrest⟩ := bind_eq_ok_iff.mp h
  refine ⟨_, u, hpublish, ?_⟩
  dsimp only at hrest ⊢
  by_cases hret : ret ≠ mqttSuccess
  · rw [if_pos hret] at hrest
    obtain ⟨client', _, -, hreturn⟩ := bind_eq_ok_iff.mp hrest
    obtain ⟨rfl, -⟩ := Outcome.ok.inj hreturn
    exact iff_of_false (by simp) hret
  · rw [if_neg hret] at hrest
    obtain ⟨rfl, -⟩ := Outcome.ok.inj hrest
    exact iff_of_true rfl (not_not.mp hret)

theorem serializeConnack_pos (hP : P.ProcessesPackets) (hself : self.Ready netFuel) :
    0 < (P.paho.serializeConnack 0 0 self.server.sendbuf).1 := by
  apply (hP.connack 0 0 _).2
  rw [hself.sendbuf]
  decide

theorem keeps_handleMqttConnect (hclock : Keeps I E (fun _ ↦ True) readClock)
    (hlan : SendKeeps (Network.unset .lan) (fun _ ↦ True) I E) (hself : self.Ready netFuel) :
    Keeps I E (fun r ↦ r.2.Ready netFuel ∧ r.2.client = self.client)
      (handleMqttConnect P self) := by
  have hconnack : Keeps I E (fun r ↦ r.2.net = self.server.net ∧
      r.2.readbuf = self.server.readbuf ∧ r.2.sendbuf.length = self.server.sendbuf.length)
      (mqttServerSendConnAck P self.server 0 0) := by
    have hlen := (P.paho.serializeConnack 0 0).length_run self.server.sendbuf
    refine keeps_ite (fun _ ↦ keeps_pure ⟨rfl, rfl, hlen⟩) fun _ ↦ ?_
    unfold mqttServerSendPacket
    dsimp only
    rw [hself.net]
    exact (hlan.leaves.sendWithTimeout hclock _ trivial).keeps.bind fun _ _ ↦
      keeps_pure ⟨rfl, rfl, hlen⟩
  apply hconnack.bind
  rintro ⟨ret, server⟩ ⟨hnet, hreadbuf, hsendbuf⟩
  exact keeps_pure ⟨{ hself with
    net := hnet.trans hself.net
    readbuf := hreadbuf.trans hself.readbuf
    sendbuf := hsendbuf.trans hself.sendbuf }, rfl⟩

theorem keeps_processMessage (fuel : ℕ)
    (K : WaitKeeps P (netWan netFuel) pahoRecvBuffSize 0 I E)
    (hP : P.ProcessesPackets) (hover : ∀ s, I s → E .overread s)
    (hsend : SendKeeps (netWan netFuel) Q I E) (hQ : P.paho.SendsOnly Q) (sensorPort : SensorPort)
    (hlan : headerType (sensorPort.bytes.headD 0) = PacketType.connect.code →
      SendKeeps (Network.unset .lan) (fun _ ↦ True) I E)
    (hself : self.Ready netFuel) :
    Keeps I E (fun r ↦ r.2.Ready netFuel) (processMessage P fuel self sensorPort) := by
  intro s hs
  apply post_processMessage hP hself sensorPort (hover s hs) (K.assertion s hs)
  · exact fun _ _ hself' _ ↦ ⟨hself', hs⟩
  · exact fun htype ↦ ((keeps_handleMqttConnect K.clock (hlan htype)
      (hself.withReadBuff sensorPort)).mono fun _ h ↦ h.1) s hs
  · intro self' _ hself' _
    apply (post_relayPublish K K K.clock hsend.leaves hsend.leaves hsend.leaves
      (fun _ _ ↦ hQ.publish _) hQ.pubrel hQ.disconnect hself' hs (fun _ ↦ hs)
      fun _ _ _ _ h ↦ h).mono
    · exact fun r t h ↦ ⟨h.1, h.2.1⟩
    · exact fun _ _ h ↦ h

end Messages

/-! ## Initialisation -/

/-- The settings that are read as C strings end inside their arrays. The port is a number. -/
def Answers.SettingsEnd (answers : Answers) : Prop :=
  ∀ parameter, parameter ≠ .serverPort → 0 ∈ answers.parameter parameter

theorem readSetting_apply {s : Sys World} (h : s.world.answers.SettingsEnd)
    {parameter : ConfigParameter} (hparameter : parameter ≠ .serverPort) :
    readSetting parameter s = .ok () s :=
  congrFun (if_pos (h parameter hparameter)) s

theorem readConnectSettings_apply {s : Sys World} (h : s.world.answers.SettingsEnd)
    (client : MqttClient World) : readConnectSettings client s = .ok () s := by
  unfold readConnectSettings
  by_cases hconnected : client.isConnected = true
  · rw [if_pos hconnected]
    rfl
  · rw [if_neg hconnected, bind_eq_of_ok (readSetting_apply h (by decide)),
      bind_eq_of_ok (readSetting_apply h (by decide))]
    exact readSetting_apply h (by decide)

/-- A property that the calls to the other components keep, up to the one that
admits the messages of the sensor. -/
structure CallKeeps (I : Sys World → Prop) (E : Stop → Sys World → Prop) : Prop where
  ask : ∀ s calls, I s → I { s with world := { s.world with calls := calls } }
  log : ∀ s call rc, call ≠ .semPost → I s → I { s with trace := s.trace ++ [.call call rc] }
  unfinished : ∀ s, I s → E .unfinished s
  overread : ∀ s, I s → ¬s.world.answers.SettingsEnd → E .overread s

theorem keeps_readSetting {I : Sys World → Prop} {E : Stop → Sys World → Prop}
    (hover : ∀ s, I s → ¬s.world.answers.SettingsEnd → E .overread s)
    {parameter : ConfigParameter} (hparameter : parameter ≠ .serverPort) :
    Keeps I E (fun _ ↦ True) (readSetting parameter) := by
  intro s hs
  refine post_ite (fun _ ↦ ⟨trivial, hs⟩) fun hend ↦ hover s hs fun h ↦ ?_
  exact hend (h parameter hparameter)

theorem keeps_readConnectSettings {I : Sys World → Prop} {E : Stop → Sys World → Prop}
    (hover : ∀ s, I s → ¬s.world.answers.SettingsEnd → E .overread s)
    (client : MqttClient World) :
    Keeps I E (fun _ ↦ True) (readConnectSettings client) := by
  refine keeps_ite (fun _ ↦ keeps_pure trivial) fun _ ↦ ?_
  apply (keeps_readSetting hover (by decide)).bind
  intro _ _
  apply (keeps_readSetting hover (by decide)).bind
  exact fun _ _ ↦ keeps_readSetting hover (by decide)

namespace CallKeeps

variable {P : Platform} {netFuel fuel : ℕ} {Q : List UInt8 → Prop} {I : Sys World → Prop}
  {E : Stop → Sys World → Prop}

theorem onWorld_ask (C : CallKeeps I E) {α : Type} (question : Answers → ℕ → α) :
    Keeps I E (fun _ ↦ True) (Sys.onWorld (World.ask question)) :=
  fun s hs ↦ ⟨trivial, C.ask s _ hs⟩

theorem osCall (C : CallKeeps I E) (call : Call) (hcall : call ≠ .semPost) :
    Keeps I E (fun _ ↦ True) (DemoIotApp.osCall call) := by
  apply (C.onWorld_ask _).bind
  exact fun ret _ s hs ↦ ⟨trivial, C.log s call ret hcall hs⟩

theorem waitForNetworkStackInit (C : CallKeeps I E) :
    Keeps I E (fun _ ↦ True) (DemoIotApp.waitForNetworkStackInit P fuel) := by
  induction fuel with
  | zero => exact keeps_stop C.unfinished
  | succ fuel ih =>
      apply (C.onWorld_ask _).bind
      intro state _
      cases state with
      | running => exact keeps_pure trivial
      | fatalError => exact keeps_pure trivial
      | other => exact ih

theorem waitForConnection (C : CallKeeps I E) (handleId : ℤ) :
    Keeps I E (fun _ ↦ True) (DemoIotApp.waitForConnection P handleId fuel) := by
  induction fuel with
  | zero => exact keeps_stop C.unfinished
  | succ fuel ih =>
      apply (C.osCall .socketWait (by decide)).bind
      intro ret _
      refine keeps_ite (fun _ ↦ keeps_pure trivial) fun _ ↦ ?_
      apply (C.osCall .socketGetPendingEvents (by decide)).bind
      intro ret _
      refine keeps_ite (fun _ ↦ keeps_pure trivial) fun _ ↦ ?_
      apply (C.onWorld_ask _).bind
      intro count _
      refine keeps_ite (fun _ ↦ ih) fun _ ↦ keeps_ite (fun _ ↦ keeps_pure trivial) fun _ ↦ ?_
      apply (C.onWorld_ask _).bind
      intro event _
      refine keeps_ite (fun _ ↦ keeps_pure trivial) fun _ ↦ ?_
      refine keeps_ite (fun _ ↦ keeps_pure trivial) fun _ ↦ ?_
      refine keeps_ite (fun _ ↦ keeps_pure trivial) fun _ ↦ ?_
      refine keeps_ite (fun _ ↦ keeps_pure trivial) fun _ ↦ ?_
      exact keeps_ite (fun _ ↦ keeps_pure trivial) fun _ ↦ ih

theorem connectSocket (C : CallKeeps I E) :
    Keeps I E (fun _ ↦ True) (DemoIotApp.connectSocket P fuel) := by
  have hclose : ∀ handleId ret : ℤ, Keeps I E (fun _ ↦ True) (do
      let _ ← DemoIotApp.osCall (.socketClose handleId)
      return ret) :=
    fun handleId ret ↦ (C.osCall (.socketClose handleId) (by simp)).bind fun _ _ ↦
      keeps_pure trivial
  apply (C.osCall .socketCreate (by decide)).bind
  intro ret _
  refine keeps_ite (fun _ ↦ keeps_pure trivial) fun _ ↦ ?_
  apply (C.onWorld_ask _).bind
  intro handleId _
  apply (C.osCall (.socketConnect handleId) (by simp)).bind
  intro ret _
  refine keeps_ite (fun _ ↦ hclose handleId ret) fun _ ↦ ?_
  apply (C.waitForConnection handleId).bind
  intro ret _
  exact keeps_ite (fun _ ↦ hclose handleId ret) fun _ ↦ keeps_pure trivial

theorem glueTlsInit (C : CallKeeps I E) :
    Keeps I E (fun _ ↦ True) (DemoIotApp.glueTlsInit P fuel) := by
  apply (C.osCall .cryptoInit (by decide)).bind
  intro ret _
  refine keeps_ite (fun _ ↦ keeps_pure trivial) fun _ ↦ ?_
  apply (keeps_readSetting C.overread (by decide)).bind
  intro _ _
  apply (C.osCall .tlsInit (by decide)).bind
  intro ret _
  refine keeps_ite (fun _ ↦ keeps_pure trivial) fun _ ↦ ?_
  apply C.waitForNetworkStackInit.bind
  intro ret _
  refine keeps_ite (fun _ ↦ keeps_pure trivial) fun _ ↦ ?_
  apply C.connectSocket.bind
  intro ret _
  exact keeps_ite (fun _ ↦ keeps_pure trivial) fun _ ↦ keeps_pure trivial

theorem doTlsHandshake (C : CallKeeps I E) :
    Keeps I E (fun _ ↦ True) DemoIotApp.doTlsHandshake := by
  have hhandshake : Keeps I E (fun _ ↦ True) glueTlsHandshake :=
    (C.osCall .tlsHandshake (by decide)).bind fun _ _ ↦
      keeps_ite (fun _ ↦ keeps_pure trivial) fun _ ↦ keeps_pure trivial
  exact hhandshake.bind fun _ _ ↦ keeps_pure trivial

theorem getConfigParameter (C : CallKeeps I E) (parameter : ConfigParameter) :
    Keeps I E (fun _ ↦ True) (DemoIotApp.getConfigParameter parameter) := by
  apply (C.osCall (.getConfigParameter parameter) (by simp)).bind
  exact fun ret _ s hs ↦ ⟨trivial, hs⟩

/-- The options of the component turn the keep-alive off. -/
theorem setMqttOptions (C : CallKeeps I E) (options : ConnectData) :
    Keeps I E (fun r ↦ r.1 = osSuccess → r.2.keepAliveInterval = 0)
      (DemoIotApp.setMqttOptions options) := by
  apply (C.getConfigParameter .iotHub).bind
  rintro ⟨ret, cloudUsername⟩ _
  refine keeps_ite (fun h ↦ keeps_pure fun h' ↦ absurd h' h) fun _ ↦ ?_
  apply (C.getConfigParameter .sharedAccessSignature).bind
  rintro ⟨ret, cloudSAS⟩ _
  refine keeps_ite (fun h ↦ keeps_pure fun h' ↦ absurd h' h) fun _ ↦ ?_
  apply (C.getConfigParameter .iotDevice).bind
  rintro ⟨ret, cloudDeviceName⟩ _
  exact keeps_ite (fun h ↦ keeps_pure fun h' ↦ absurd h' h) fun _ ↦ keeps_pure fun _ ↦ rfl

end CallKeeps

section Init

variable {P : Platform} {netFuel fuel : ℕ} {Q : List UInt8 → Prop} {I I₀ J : Sys World → Prop}
  {E : Stop → Sys World → Prop} {self : CcFsm}

theorem leaves_doMqttConnect (fuel : ℕ)
    (hover : ∀ s, I₀ s → ¬s.world.answers.SettingsEnd → E .overread s)
    (K : WaitKeeps P (netWan netFuel) pahoRecvBuffSize 0 I E)
    (hclock : Keeps I₀ E (fun _ ↦ True) readClock)
    (hsend : SendLeaves (netWan netFuel) Q I₀ J I E)
    (hconnect : ∀ options, WritesOnly Q pahoSendBuffSize (P.paho.serializeConnect options))
    {connected : Bool} {client : MqttClient World}
    (hclient : Setup (netWan netFuel) pahoRecvBuffSize pahoSendBuffSize 0 connected client)
    {options : ConnectData} (hoptions : options.keepAliveInterval = 0) :
    Leaves I₀ J I E (fun r ↦ Setup (netWan netFuel) pahoRecvBuffSize pahoSendBuffSize 0
        (connected || decide (r.1 = 0)) r.2) (fun r ↦ r.1 = 0)
      (doMqttConnect P fuel client options) := by
  apply (keeps_readConnectSettings hover client).bind_leaves
  intro _ _
  apply (K.mqttClientConnect hclock hsend hconnect fuel hclient hoptions _ none).bind
  · rintro ⟨ret, data, client'⟩ hclient' hret
    apply leaves_pure _ hsend.after
    simpa [hret] using hclient'
  · rintro ⟨ret, data, client'⟩ hclient' hret
    exact ⟨_, rfl, by simpa [hret] using hclient', by simp [hret]⟩

/-- A session that was closed before is only open behind a CONNECT that was sent. -/
theorem leaves_openSession
    (hover : ∀ s, I₀ s → ¬s.world.answers.SettingsEnd → E .overread s)
    (K : WaitKeeps P (netWan netFuel) pahoRecvBuffSize 0 I E)
    (hclock : Keeps I₀ E (fun _ ↦ True) readClock)
    (hsend : SendLeaves (netWan netFuel) Q I₀ J I E)
    (hconnect : ∀ options, WritesOnly Q pahoSendBuffSize (P.paho.serializeConnect options))
    (hpost : Keeps I E (fun _ ↦ True) semPost) (hself : self.Ready netFuel)
    {options : ConnectData} (hoptions : options.keepAliveInterval = 0) :
    Leaves I₀ J I E (fun r ↦ r.2.Ready netFuel)
      (fun r ↦ self.client.isConnected = false ∧ r.2.client.isConnected = true)
      (openSession P fuel self options) := by
  apply (leaves_doMqttConnect fuel hover K hclock hsend hconnect hself.client hoptions).bind
  · rintro ⟨ret, client⟩ hclient hret
    refine leaves_ite (fun hne ↦ absurd hret hne) fun _ ↦ ?_
    exact hpost.bind_leaves fun _ _ ↦ leaves_pure (hself.withClient hclient) hsend.after
  · rintro ⟨ret, client⟩ hclient hret
    refine ⟨_, if_pos hret, hself.withClient hclient, ?_⟩
    rintro ⟨hclosed, hopen⟩
    have hconnected := hclient.isConnected.symm.trans hopen
    simp [hclosed, hret] at hconnected

/-- The initialisation fails before it connects, or it ends as the connect does. -/
theorem post_handleCcFsmInit (C : CallKeeps I E) {R : ℤ × CcFsm → Sys World → Prop}
    (hfailed : ∀ ret t, ret ≠ 0 → I t → R (ret, self) t)
    (hopen : ∀ options t, options.keepAliveInterval = 0 → I t →
      Post (openSession P fuel self options) t R E) {s : Sys World} (hs : I s) :
    Post (handleCcFsmInit P fuel self) s R E := by
  have hestablish : ∀ options t, options.keepAliveInterval = 0 → I t →
      Post (establishSession P fuel self options) t R E := by
    intro options t hoptions ht
    apply (keeps_readSetting C.overread (by decide) t ht).bind
    rintro _ t ⟨-, ht⟩
    apply (C.glueTlsInit t ht).bind
    rintro ret t ⟨-, ht⟩
    refine post_ite (fun hne ↦ hfailed ret t hne ht) fun _ ↦ ?_
    apply (C.doTlsHandshake t ht).bind
    rintro ret t ⟨-, ht⟩
    exact post_ite (fun hne ↦ hfailed ret t hne ht) fun _ ↦ hopen options t hoptions ht
  apply (C.getConfigParameter .cloudServiceIP s hs).bind
  rintro ⟨ret, _⟩ t ⟨-, ht⟩
  refine post_ite (fun hne ↦ hfailed ret t hne ht) fun _ ↦ ?_
  apply (C.getConfigParameter .serverPort t ht).bind
  rintro ⟨ret, _⟩ t ⟨-, ht⟩
  refine post_ite (fun hne ↦ hfailed ret t hne ht) fun _ ↦ ?_
  apply (C.getConfigParameter .serverCaCert t ht).bind
  rintro ⟨ret, _⟩ t ⟨-, ht⟩
  refine post_ite (fun hne ↦ hfailed ret t hne ht) fun _ ↦ ?_
  apply (C.setMqttOptions _ t ht).bind
  rintro ⟨ret, options⟩ t ⟨hoptions, ht⟩
  exact post_ite (fun hne ↦ hfailed ret t hne ht) fun hret ↦
    hestablish options t (hoptions (not_not.mp hret)) ht

theorem leaves_handleCcFsmInit (fuel : ℕ) (C : CallKeeps I₀ E)
    (K : WaitKeeps P (netWan netFuel) pahoRecvBuffSize 0 I E)
    (hclock : Keeps I₀ E (fun _ ↦ True) readClock)
    (hsend : SendLeaves (netWan netFuel) Q I₀ J I E)
    (hconnect : ∀ options, WritesOnly Q pahoSendBuffSize (P.paho.serializeConnect options))
    (hpost : Keeps I E (fun _ ↦ True) semPost) (hself : self.Ready netFuel) :
    Leaves I₀ J I E (fun r ↦ r.2.Ready netFuel)
      (fun r ↦ self.client.isConnected = false ∧ r.2.client.isConnected = true)
      (handleCcFsmInit P fuel self) := by
  intro s hs
  refine post_handleCcFsmInit C (fun _ t _ ht ↦ ⟨hself, hsend.before t ht, ?_⟩)
    (fun _ t hoptions ht ↦
      leaves_openSession C.overread K hclock hsend hconnect hpost hself hoptions t ht) hs
  exact fun h ↦ absurd (h.1.symm.trans h.2) (by decide)

theorem keeps_handleCcFsmInit (fuel : ℕ) (C : CallKeeps I E)
    (K : WaitKeeps P (netWan netFuel) pahoRecvBuffSize 0 I E)
    (hsend : SendKeeps (netWan netFuel) Q I E) (hQ : P.paho.SendsOnly Q)
    (hpost : Keeps I E (fun _ ↦ True) semPost) (hself : self.Ready netFuel) :
    Keeps I E (fun r ↦ r.2.Ready netFuel) (handleCcFsmInit P fuel self) :=
  (leaves_handleCcFsmInit fuel C K K.clock hsend.leaves hQ.connect hpost hself).keeps

end Init

/-! ## The semaphore -/

/-- A semaphore call has returned `ret`, and the token is there or not. -/
def afterSem (call : Call) (ret : ℤ) (token : Bool) (s : Sys World) : Sys World where
  world := { s.world with calls := s.world.calls + 1, token := token }
  trace := s.trace ++ [.call call ret]

/-- `sem_wait` takes the token, fails without it or blocks. -/
theorem post_semWait (s : Sys World) :
    Post semWait s
      (fun ret t ↦ ret = s.world.answers.returnCode .semWait s.world.calls ∧
        (ret = 0 → s.world.token = true) ∧
          t = afterSem .semWait ret (if ret = 0 then false else s.world.token) s)
      fun e t ↦ s.world.answers.returnCode .semWait s.world.calls = 0 ∧
        s.world.token = false ∧ e = .blocked ∧
          t = { s with world := { s.world with calls := s.world.calls + 1 } } := by
  refine Post.bind (Q := fun ret t ↦ ret = s.world.answers.returnCode .semWait s.world.calls ∧
    t = { s with world := { s.world with calls := s.world.calls + 1 } }) ⟨rfl, rfl⟩ ?_
  rintro ret t ⟨hret, rfl⟩
  by_cases hzero : ret = 0
  · simp only [if_pos hzero]
    cases htoken : s.world.token with
    | true =>
        rw [post_bind, post_get]
        exact ⟨hret, fun _ ↦ rfl, by rw [if_pos hzero]; rfl⟩
    | false =>
        rw [post_bind, post_get]
        exact ⟨hret.symm.trans hzero, rfl, rfl, rfl⟩
  · simp only [if_neg hzero]
    exact ⟨hret, fun h ↦ absurd h hzero, by rw [afterSem, if_neg hzero]⟩

theorem semPost_eq_ok (s : Sys World) :
    ∃ ret, ret = s.world.answers.returnCode .semPost s.world.calls ∧
      semPost s = .ok ret (afterSem .semPost ret (if ret = 0 then true else s.world.token) s) := by
  refine ⟨s.world.answers.returnCode .semPost s.world.calls, rfl, ?_⟩
  have hask : Sys.onWorld (World.ask fun answers k ↦ answers.returnCode .semPost k) s =
      .ok (s.world.answers.returnCode .semPost s.world.calls)
        { s with world := { s.world with calls := s.world.calls + 1 } } := rfl
  unfold semPost
  rw [bind_eq_of_ok hask]
  by_cases hret : s.world.answers.returnCode .semPost s.world.calls = 0
  · simp only [if_pos hret]
    rfl
  · simp only [if_neg hret]
    rfl

/-! ## Reachable states -/

/-- The states after a constructor that returned `ret`, with any messages and
initialisations since, each of them in a world of its own. -/
inductive Reachable (P : Platform) (ret : ℤ) : CcFsm → Prop
  | ctor {fuel : ℕ} {s t : Sys World} {self : CcFsm} (h : ccFsmCtor fuel s = .ok (ret, self) t) :
      Reachable P ret self
  | init {fuel : ℕ} {s t : Sys World} {self self' : CcFsm} {ret' : ℤ}
      (hself : Reachable P ret self) (hret : ret = 0)
      (h : handleCcFsmInit P fuel self s = .ok (ret', self') t) : Reachable P ret self'
  | rpcWrite {fuel : ℕ} {s t : Sys World} {self self' : CcFsm} {sensorPort : SensorPort} {ret' : ℤ}
      (hself : Reachable P ret self)
      (h : cloudConnectorRpcWrite P fuel self sensorPort s = .ok (ret', self') t) :
      Reachable P ret self'

section Reachable

variable {P : Platform} {netFuel fuel : ℕ} {self self' : CcFsm} {s t : Sys World} {ret : ℤ}

theorem ccFsmCtor_eq_ok (h : ccFsmCtor fuel s = .ok (ret, self) t) :
    ret = 0 ∧ self.Ready fuel ∧ self.client.isConnected = false ∨
      ret ≠ 0 ∧ self = CcFsm.zeroed := by
  obtain ⟨err, u, -, hrest⟩ := bind_eq_ok_iff.mp h
  by_cases hne : err ≠ osSuccess
  · rw [if_pos hne] at hrest
    obtain ⟨rfl, rfl⟩ := Prod.mk.inj (Outcome.ok.inj hrest).1
    exact Or.inr ⟨by decide, rfl⟩
  · rw [if_neg hne] at hrest
    obtain ⟨rfl, rfl⟩ := Prod.mk.inj (Outcome.ok.inj hrest).1
    refine Or.inl ⟨rfl, ⟨⟨rfl, ?_, ?_, rfl, rfl⟩, rfl, rfl, ?_, ?_, ?_, Nat.two_pow_pos 32⟩, rfl⟩
    all_goals exact List.length_replicate ..

theorem cloudConnectorRpcWrite_eq_ok {sensorPort : SensorPort}
    (h : cloudConnectorRpcWrite P fuel self sensorPort s = .ok (ret, self') t) :
    ∃ u r v, processMessage P fuel self sensorPort u = .ok (r, self') v := by
  obtain ⟨_, u, -, hwrite⟩ := bind_eq_ok_iff.mp h
  obtain ⟨⟨_, self₁⟩, _, hnew, hreturn⟩ := bind_eq_ok_iff.mp hwrite
  obtain ⟨-, rfl⟩ := Prod.mk.inj (Outcome.ok.inj hreturn).1
  obtain ⟨⟨r, self₂⟩, v, hprocess, hpost⟩ := bind_eq_ok_iff.mp hnew
  obtain ⟨_, _, -, hreturn'⟩ := bind_eq_ok_iff.mp hpost
  obtain ⟨-, rfl⟩ := Prod.mk.inj (Outcome.ok.inj hreturn').1
  exact ⟨u, r, v, hprocess⟩

/-- The semaphore never stops a message. -/
theorem handleCcFsmNewMessage_eq_stop {sensorPort : SensorPort} {e : Stop}
    (h : handleCcFsmNewMessage P fuel self sensorPort s = .stop e t) :
    ∃ u, processMessage P fuel self sensorPort s = .stop e u := by
  cases hprocess : processMessage P fuel self sensorPort s with
  | ok r u =>
      obtain ⟨ret, -, hpost⟩ := semPost_eq_ok u
      have hok := (bind_eq_of_ok hprocess).symm.trans h
      exact nomatch (bind_eq_of_ok hpost).symm.trans hok
  | stop e' u =>
      have hstop := (bind_eq_of_stop hprocess).symm.trans h
      obtain ⟨rfl, -⟩ := Outcome.stop.inj hstop
      exact ⟨u, rfl⟩

/-- In zeroed memory there is no read buffer to look into. -/
theorem processMessage_zeroed (sensorPort : SensorPort) (s : Sys World) :
    processMessage P fuel CcFsm.zeroed sensorPort s = .stop .nullDeref s := rfl

theorem receiveKeeps_true : ReceiveKeeps (fun _ ↦ True) fun _ _ ↦ True :=
  ⟨fun _ _ _ _ ↦ trivial, fun _ _ _ _ ↦ trivial⟩

theorem sendKeeps_true {W : Type} [Clock W] (n : Network W) :
    SendKeeps n (fun _ ↦ True) (fun _ ↦ True) fun _ _ ↦ True :=
  fun _ _ _ _ _ ↦ post_intro (fun _ _ _ ↦ ⟨trivial, trivial⟩) fun _ _ _ ↦ trivial

theorem Reachable.ready (hP : P.ProcessesPackets) (h : Reachable P 0 self) :
    ∃ netFuel, self.Ready netFuel := by
  have K := fun netFuel ↦ receiveKeeps_true.waitKeeps P netFuel pahoRecvBuffSize
  have C : CallKeeps (fun _ ↦ True) fun _ _ ↦ True :=
    ⟨fun _ _ _ ↦ trivial, fun _ _ _ _ _ ↦ trivial, fun _ _ ↦ trivial, fun _ _ _ ↦ trivial⟩
  generalize hzero : (0 : ℤ) = ret at h
  induction h with
  | ctor h =>
      rcases ccFsmCtor_eq_ok h with ⟨-, hready, -⟩ | ⟨hne, -⟩
      · exact ⟨_, hready⟩
      · exact absurd hzero.symm hne
  | @init fuel _ _ _ _ _ hself hret h ih =>
      obtain ⟨netFuel, hready⟩ := ih
      have hpost : Keeps (fun _ ↦ True) (fun _ _ ↦ True) (fun _ ↦ True) semPost :=
        fun _ _ ↦ post_intro (fun _ _ _ ↦ ⟨trivial, trivial⟩) fun _ _ _ ↦ trivial
      have hkeeps := keeps_handleCcFsmInit fuel C (K netFuel) (sendKeeps_true _)
        P.paho.sendsOnly_true hpost hready
      exact ⟨netFuel, ((hkeeps _ trivial).ok h).1⟩
  | @rpcWrite fuel _ _ _ _ sensorPort _ hself h ih =>
      obtain ⟨netFuel, hready⟩ := ih
      obtain ⟨u, r, v, hprocess⟩ := cloudConnectorRpcWrite_eq_ok h
      have hkeeps := keeps_processMessage fuel (K netFuel) hP (fun _ _ ↦ trivial) (sendKeeps_true _)
        P.paho.sendsOnly_true sensorPort (fun _ ↦ sendKeeps_true _) hready
      exact ⟨netFuel, ((hkeeps u trivial).ok hprocess).1⟩

theorem Reachable.eq_zeroed (hret : ret ≠ 0) (h : Reachable P ret self) :
    self = CcFsm.zeroed := by
  induction h with
  | ctor h =>
      rcases ccFsmCtor_eq_ok h with ⟨rfl, -⟩ | ⟨-, hzeroed⟩
      · exact absurd rfl hret
      · exact hzeroed
  | init hself hzero h ih => exact absurd hzero hret
  | rpcWrite hself h ih =>
      obtain ⟨u, r, v, hprocess⟩ := cloudConnectorRpcWrite_eq_ok h
      rw [ih, processMessage_zeroed] at hprocess
      exact nomatch hprocess

end Reachable

/-! ## Fixed states and inputs -/

/-- The component right after its constructor. -/
def CcFsm.constructed (fuel : ℕ) : CcFsm :=
  { CcFsm.zeroed with
    client := mqttClientInit CcFsm.zeroed.client (netWan fuel) pahoTimeoutMsCommand
      (zeros pahoSendBuffSize) (zeros pahoRecvBuffSize)
    server := mqttServerInit CcFsm.zeroed.server (Network.unset .lan) pahoTimeoutMsCommand
      (zeros pahoSendBuffSize) (.serverReadBuff 0) }

theorem reachable_constructed (P : Platform) (fuel : ℕ) :
    Reachable P 0 (CcFsm.constructed fuel) :=
  .ctor (s := ⟨World.steady [], []⟩) rfl

/-- The dataport with these bytes at its start and zeros behind them. -/
def sensorPortOf (bytes : List UInt8) : SensorPort :=
  ⟨(bytes ++ zeros 4096).take 4096, by
    rw [List.length_take, List.length_append, zeros, List.length_replicate]
    omega⟩

theorem sensorPortOf_take {bytes : List UInt8} (h : bytes.length ≤ pahoRecvBuffSize) :
    (sensorPortOf bytes).bytes.take pahoRecvBuffSize =
      bytes ++ zeros (pahoRecvBuffSize - bytes.length) := by
  have hzeros : (zeros 4096).take (pahoRecvBuffSize - bytes.length) =
      zeros (pahoRecvBuffSize - bytes.length) := by
    rw [zeros, List.take_replicate, zeros, Nat.min_eq_left]
    exact (Nat.sub_le _ _).trans (by decide)
  rw [sensorPortOf, List.take_take, Nat.min_eq_left (by decide), List.take_append,
    List.take_of_length_le h, hzeros]

/-- The topic is one character and the payload one byte. -/
def smallPublish : SensorPort := sensorPortOf [0x32, 6, 0, 1, 0x74, 0, 7, 9]

theorem Platform.reference_processesPackets (assertions : Bool) :
    (Platform.reference assertions).ProcessesPackets :=
  ⟨ManagedBufferLib.reference_appends, Paho.reference.storesThroughPointers,
    Paho.reference.serializesConnack⟩

theorem Platform.declared_processesPackets (assertions : Bool) :
    (Platform.declared assertions).ProcessesPackets :=
  ⟨ManagedBufferLib.reference_appends, Paho.declared.storesThroughPointers,
    Paho.reference.serializesConnack⟩

end DemoIotApp
