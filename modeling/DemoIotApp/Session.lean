import DemoIotApp.Reachability

/-!
# What is sent on the connection to the cloud

A session is opened by a CONNECT, and an accepted message is published on it.
When that fails the session is closed with a DISCONNECT. A run of the component
is followed with two properties: `Open` holds as long as the session may be used,
and `Any` also behind a packet that went wrong.
-/

namespace DemoIotApp

open Library Prog

/-! ## Packets -/

/-- A packet that was handed to the connection to the cloud. -/
def Event.wanPacket {W : Type} : Event W → Option (List UInt8)
  | .sendPacket .wan packet _ _ _ => some packet
  | _ => none

/-- Nothing was handed to the connection to the cloud. -/
structure Unsent (s t : Sys World) : Prop where
  wire : t.world.wire = s.world.wire
  trace : Extends (fun e ↦ e.wanPacket = none) s t

theorem Receives.unsent {s t : Sys World} (h : Receives s t) : Unsent s t := by
  obtain ⟨htrace, calls, rx, hworld⟩ := h
  refine ⟨by rw [hworld], htrace.mono fun e he ↦ ?_⟩
  cases e <;> first | exact he.elim | rfl

theorem unsent_log {e : Event World} (he : e.wanPacket = none) (s : Sys World) :
    Unsent s { s with trace := s.trace ++ [e] } :=
  ⟨rfl, [e], rfl, by simpa using he⟩

theorem unsent_afterSem (call : Call) (ret : ℤ) (token : Bool) (s : Sys World) :
    Unsent s (afterSem call ret token s) :=
  ⟨rfl, [_], rfl, by simp [Event.wanPacket]⟩

/-- What the client relies on when it serialises the packets of a session. -/
structure Paho.SerializesSession (P : Paho) : Prop where
  connect : P.SerializesConnect
  publish : P.SerializesPublish
  ack : P.SerializesAck
  disconnect : P.SerializesDisconnect

/-- A complete packet of that type. -/
def IsPacket (type : PacketType) (bytes : List UInt8) : Prop :=
  ∃ p : Packet, p.bytes = bytes ∧ p.type = type.code

theorem IsPacket.packetType {type : PacketType} {bytes : List UInt8} (h : IsPacket type bytes) :
    DemoIotApp.packetType bytes = some type := by
  obtain ⟨p, rfl, htype⟩ := h
  exact PacketType.ofCode_eq_some_iff.mpr htype

theorem isPacket_of_length {type : PacketType} {header : UInt8} {body : List UInt8}
    (hheader : headerType header = type.code)
    (hlen : (header :: (Varint.encode body.length ++ body)).length ≤ pahoSendBuffSize) :
    IsPacket type (header :: (Varint.encode body.length ++ body)) := by
  have hbody : body.length < 2 ^ 28 := by
    have hbuf : pahoSendBuffSize < 2 ^ 28 := by decide
    simp only [List.length_cons, List.length_append] at hlen
    omega
  exact ⟨Packet.ofPayload header body hbody, rfl, hheader⟩

namespace Paho.SerializesSession

variable {P : Paho} (hP : P.SerializesSession)

include hP

theorem writes_connect (options : ConnectData) :
    WritesOnly (IsPacket .connect) pahoSendBuffSize (P.serializeConnect options) := by
  intro buf hbuf hpos
  obtain ⟨header, body, hheader, hwritten⟩ := hP.connect options buf hpos
  rw [hwritten.take]
  exact isPacket_of_length hheader (hwritten.1.trans_eq hbuf)

theorem writes_publish (args : PublishArgs) :
    WritesOnly (IsPacket .publish) pahoSendBuffSize (P.serializePublish args) := by
  intro buf hbuf hpos
  have hwritten := (hP.publish args buf).1 hpos
  rw [hwritten.take]
  exact isPacket_of_length (headerType_publishHeader _ _ _) (hwritten.1.trans_eq hbuf)

theorem writes_pubrel (packetId : UInt16) :
    WritesOnly (IsPacket .pubrel) pahoSendBuffSize (P.serializeAck .pubrel 0 packetId) := by
  refine (hP.ack .pubrel 0 packetId).writesOnly ?_ _
  exact ⟨Packet.ofPayload (ackHeader .pubrel 0) (u16 packetId.toNat) (by simp [u16]), rfl,
    headerType_ackHeader_pubrel⟩

theorem writes_disconnect :
    WritesOnly (IsPacket .disconnect) pahoSendBuffSize P.serializeDisconnect :=
  hP.disconnect.writesOnly ⟨Packet.ofPayload 0xE0 [] (by decide), rfl, by decide⟩ _

end Paho.SerializesSession

theorem Paho.reference_serializesSession : Paho.reference.SerializesSession :=
  ⟨Paho.reference.serializesConnect, Paho.reference.serializesPublish,
    Paho.reference.serializesAck, Paho.reference.serializesDisconnect⟩

/-! ## What a session keeps -/

/-- A packet of that type leads from `I` to `J`, and to `K` as well when all of it
was sent. -/
def Sends (type : PacketType) (I J K : Sys World → Prop) : Prop :=
  ∀ packet s t rc, IsPacket type packet → I s → Sent packet s t rc →
    J t ∧ (rc = some mqttSuccess → K t)

/-- Before the CONNECT of a session there is `New`, behind it there is `Open`, and `Any`
holds in both cases. -/
structure OpensSession (New Open Any : Sys World → Prop) : Prop where
  any_of_new : ∀ s, New s → Any s
  any_of_open : ∀ s, Open s → Any s
  new_unsent : ∀ s t, New s → Unsent s t → New t
  open_unsent : ∀ s t, Open s → Unsent s t → Open t
  connect : Sends .connect New Any Open

/-- Before the CONNECT of a session there is `New`. `Open` allows the packets of
the session, and `Any` holds in all cases. Only packets matter. -/
structure SessionKeeps (New Open Any : Sys World → Prop) : Prop where
  any_of_new : ∀ s, New s → Any s
  any_of_open : ∀ s, Open s → Any s
  new_unsent : ∀ s t, New s → Unsent s t → New t
  open_unsent : ∀ s t, Open s → Unsent s t → Open t
  any_unsent : ∀ s t, Any s → Unsent s t → Any t
  connect : Sends .connect New Any Open
  publish : Sends .publish Open Any Open
  pubrel : Sends .pubrel Open Any Open
  disconnect : Sends .disconnect Open Any Any

namespace SessionKeeps

variable {P : Platform} {netFuel fuel : ℕ} {New Open Any : Sys World → Prop} {self : CcFsm}
  {s : Sys World}

theorem opensSession (S : SessionKeeps New Open Any) : OpensSession New Open Any :=
  { S with }

theorem waitKeeps (S : SessionKeeps New Open Any) (P : Platform) (netFuel : ℕ) :
    WaitKeeps P (netWan netFuel) pahoRecvBuffSize 0 Open fun _ ↦ Any :=
  ReceiveKeeps.waitKeeps ⟨fun s t hs hst ↦ S.open_unsent s t hs hst.unsent,
    fun _ s _ hs ↦ S.any_of_open s hs⟩ P netFuel pahoRecvBuffSize

theorem post_relayPublish (S : SessionKeeps New Open Any) (hP : P.paho.SerializesSession)
    (hself : self.Ready netFuel) (hany : Any s) (hopen : self.client.isConnected = true → Open s)
    (hfailed : ∀ r t, mqttClientPublish P fuel self.memory self.client
      self.tmpDataPublish.szTopic self.tmpDataPublish.msg none s = .ok r t →
        r.1 ≠ mqttSuccess → Any t → Open t) :
    Post (relayPublish P fuel self) s
      (fun r t ↦ r.2.Ready netFuel ∧ Any t ∧ (r.2.client.isConnected = true → Open t))
      fun _ ↦ Any := by
  have hsend : SendLeaves (netWan netFuel) (fun p ↦ IsPacket .publish p ∨ IsPacket .pubrel p)
      Open Any Open fun _ ↦ Any := by
    refine sendLeaves_netWan netFuel S.any_of_open S.any_of_open ?_ fun _ hs ↦ hs
    rintro packet s t rc (hpacket | hpacket)
    · exact S.publish packet s t rc hpacket
    · exact S.pubrel packet s t rc hpacket
  have hclose : SendLeaves (netWan netFuel) (IsPacket .disconnect) Open Any Any fun _ ↦ Any :=
    sendLeaves_netWan netFuel S.any_of_open (fun _ hs ↦ hs) S.disconnect fun _ hs ↦ hs
  have K := S.waitKeeps P netFuel
  apply (DemoIotApp.post_relayPublish K K K.clock hsend hsend hclose
    (fun _ _ buf hbuf hpos ↦ Or.inl (hP.writes_publish _ buf hbuf hpos))
    (fun id buf hbuf hpos ↦ Or.inr (hP.writes_pubrel id buf hbuf hpos))
    hP.writes_disconnect hself hany hopen hfailed).mono
  · exact fun r t h ↦ ⟨h.1, h.2.1, fun hconnected ↦ h.2.2.1 (h.2.2.2 hconnected)⟩
  · exact fun _ _ h ↦ h

end SessionKeeps

/-! ## One message -/

section Message

variable (P : Platform) (fuel : ℕ)

/-- A call of the sensor up to where an accepted message is relayed. -/
def takeMessage (self : CcFsm) (sensorPort : SensorPort) :
    Prog Stop (Sys World) (Option CcFsm) := do
  let _ ← semWait
  acceptMessage P self sensorPort

/-- A call of the sensor up to the return of `MQTT_client_publish`. -/
def publishMessage (self : CcFsm) (sensorPort : SensorPort) : Prog Stop (Sys World) ℤ := do
  match ← takeMessage P self sensorPort with
  | none => return mqttSuccess
  | some self =>
      let (ret, _, _) ← mqttClientPublish P fuel self.memory self.client
        self.tmpDataPublish.szTopic self.tmpDataPublish.msg none
      return ret

variable {P fuel} {self self' : CcFsm} {sensorPort : SensorPort} {s t u : Sys World}

theorem publishMessage_eq_ok {rc : ℤ} {r : ℤ × MqttMessage × MqttClient World}
    (hwait : semWait s = .ok rc t)
    (haccept : acceptMessage P self sensorPort t = .ok (some self') t)
    (hpublish : mqttClientPublish P fuel self'.memory self'.client
      self'.tmpDataPublish.szTopic self'.tmpDataPublish.msg none t = .ok r u) :
    publishMessage P fuel self sensorPort s = .ok r.1 u := by
  have htake : takeMessage P self sensorPort s = .ok (some self') t :=
    (bind_eq_of_ok hwait).trans haccept
  exact (bind_eq_of_ok htake).trans (bind_eq_of_ok hpublish)

/-- Taking a message sends nothing and leaves the client alone. -/
theorem post_takeMessage (hP : P.ProcessesPackets) (sensorPort : SensorPort)
    (hpayloadlen : self.tmpDataPublish.msg.payloadlen < 2 ^ 32) (s : Sys World) :
    Post (takeMessage P self sensorPort) s
      (fun accepted t ↦ Unsent s t ∧ ∀ self' ∈ accepted,
        (self.receiving sensorPort).Processed self')
      fun _ _ ↦ True := by
  have hwait : Post semWait s (fun _ t ↦ Unsent s t) fun _ _ ↦ True := by
    apply (post_semWait s).mono _ fun _ _ _ ↦ trivial
    rintro ret t ⟨-, -, rfl⟩
    exact unsent_afterSem _ _ _ s
  refine hwait.bind fun _ t ht ↦ ?_
  apply (post_acceptMessage hP sensorPort hpayloadlen t).mono _ fun _ _ _ ↦ trivial
  rintro accepted u ⟨rfl, haccepted⟩
  exact ⟨ht, fun self' hmem ↦ (haccepted self' hmem).1⟩

/-- A call of the sensor is the processing of its message between two calls of the
semaphore, which send nothing. -/
theorem post_serveMessage {R : CcFsm → Sys World → Prop} {E : Stop → Sys World → Prop}
    (hblocked : ∀ e t, semWait s = .stop e t → Unsent s t → E e t)
    (hposted : ∀ self' t u, R self' t → Unsent t u → R self' u)
    (hprocess : ∀ rc t, semWait s = .ok rc t → Unsent s t →
      Post (processMessage P fuel self sensorPort) t (fun r ↦ R r.2) E) :
    Post (serveMessage P fuel self sensorPort) s R E := by
  have hwait : Post semWait s (fun rc t ↦ semWait s = .ok rc t ∧ Unsent s t) E := by
    refine post_intro (fun rc t h ↦ ⟨h, ?_⟩) fun e t h ↦ hblocked e t h ?_
    · obtain ⟨-, -, rfl⟩ := (post_semWait s).ok h
      exact unsent_afterSem _ _ _ s
    · obtain ⟨-, -, -, rfl⟩ := (post_semWait s).stop h
      exact ⟨rfl, Extends.of_trace_eq rfl⟩
  have hnew : ∀ rc t, semWait s = .ok rc t → Unsent s t →
      Post (handleCcFsmNewMessage P fuel self sensorPort) t (fun r ↦ R r.2) E := by
    intro rc t hwait hsent
    apply (hprocess rc t hwait hsent).bind
    rintro ⟨ret, self'⟩ u hu
    obtain ⟨ret', -, hpost⟩ := semPost_eq_ok u
    rw [post_bind, post_of_ok hpost]
    exact hposted self' u _ hu (unsent_afterSem _ _ _ u)
  have hwrite : Post (cloudConnectorRpcWrite P fuel self sensorPort) s (fun r ↦ R r.2) E := by
    apply hwait.bind
    rintro rc t ⟨hwait, hsent⟩
    apply (hnew rc t hwait hsent).bind
    rintro ⟨ret, self'⟩ u hu
    exact hu
  apply hwrite.bind
  rintro ⟨ret, self'⟩ u hu
  exact hu

end Message

/-! ## Runs -/

/-- A component that may relay messages, or one whose constructor has failed. -/
def InSession (Open Any : Sys World → Prop) (self : CcFsm) (s : Sys World) : Prop :=
  Any s ∧ (self = CcFsm.zeroed ∨
    ∃ netFuel, self.Ready netFuel ∧ (self.client.isConnected = true → Open s))

section Runs

variable {P : Platform} {fuel : ℕ} {New Open Any : Sys World → Prop} {self : CcFsm}
  {s : Sys World}

/-- The control thread opens the session or leaves it closed. It only succeeds behind
a constructor that has succeeded. -/
theorem OpensSession.post_run (S : OpensSession New Open Any)
    (hpaho : P.paho.SerializesSession) (hs : New s) : Post (run P fuel) s
      (fun r t ↦ InSession Open Any r.2 t ∧ (r.1 = 0 → ∃ netFuel, r.2.Ready netFuel))
      fun _ ↦ Any := by
  have C : CallKeeps New fun _ ↦ Any :=
    { ask := fun t calls ht ↦ S.new_unsent t _ ht ⟨rfl, Extends.of_trace_eq rfl⟩
      log := fun t call rc _ ht ↦ S.new_unsent t _ ht (unsent_log rfl t)
      unfinished := fun t ht ↦ S.any_of_new t ht
      overread := fun t ht _ ↦ S.any_of_new t ht }
  have hctor : Post (ccFsmCtor fuel) s (fun _ t ↦ New t) fun _ ↦ Any :=
    (C.osCall .initConfigHandle (by decide) s hs).bind fun _ t ht ↦
      post_ite (fun _ ↦ ht.2) fun _ ↦ ht.2
  have hends := hctor.and (post_intro (E := fun _ _ ↦ True)
    (fun (r : ℤ × CcFsm) t (h : _ = Outcome.ok (r.1, r.2) t) ↦ ccFsmCtor_eq_ok h)
    fun _ _ _ ↦ trivial)
  refine Post.bind (hends.mono (fun _ _ h ↦ h) fun _ _ h ↦ h.1) ?_
  rintro ⟨ret, self⟩ t ⟨ht, ⟨rfl, hready, hclosed⟩ | ⟨hne, rfl⟩⟩
  · have hclock : Keeps New (fun _ ↦ Any) (fun _ ↦ True) readClock :=
      fun u hu ↦ ⟨trivial, S.new_unsent u _ hu ⟨rfl, Extends.of_trace_eq rfl⟩⟩
    have hsend : SendLeaves (netWan fuel) (IsPacket .connect) New Any Open fun _ ↦ Any :=
      sendLeaves_netWan fuel S.any_of_new S.any_of_open S.connect fun _ hs ↦ hs
    have hpost : Keeps Open (fun _ ↦ Any) (fun _ ↦ True) semPost := by
      intro u hu
      obtain ⟨ret, -, hpost⟩ := semPost_eq_ok u
      rw [post_of_ok hpost]
      exact ⟨trivial, S.open_unsent u _ hu (unsent_afterSem _ _ _ u)⟩
    have K : WaitKeeps P (netWan fuel) pahoRecvBuffSize 0 Open fun _ ↦ Any :=
      ReceiveKeeps.waitKeeps ⟨fun u v hu huv ↦ S.open_unsent u v hu huv.unsent,
        fun _ u _ hu ↦ S.any_of_open u hu⟩ P fuel pahoRecvBuffSize
    have hinit := leaves_handleCcFsmInit fuel C K hclock hsend hpaho.writes_connect hpost
      hready t ht
    refine post_ite (fun hne ↦ absurd rfl hne) fun _ ↦ hinit.bind ?_
    rintro ⟨ret, self'⟩ u ⟨hready, hany, hopen⟩
    exact ⟨⟨hany, Or.inr ⟨fuel, hready, fun h ↦ hopen ⟨hclosed, h⟩⟩⟩, fun _ ↦ ⟨fuel, hready⟩⟩
  · refine post_ite (fun _ ↦ ⟨⟨S.any_of_new t ht, Or.inl rfl⟩, fun hzero ↦ ?_⟩) fun hzero ↦
      absurd hne hzero
    exact absurd hzero (by decide)

end Runs

namespace SessionKeeps

variable {P : Platform} {fuel : ℕ} {New Open Any : Sys World → Prop} {self : CcFsm}
  {s : Sys World}

theorem post_handleMqttConnect {netFuel : ℕ} (S : SessionKeeps New Open Any)
    (hself : self.Ready netFuel) (hany : Any s)
    (hopen : self.client.isConnected = true → Open s) :
    Post (handleMqttConnect P self) s
      (fun r t ↦ r.2.Ready netFuel ∧ Any t ∧ (r.2.client.isConnected = true → Open t))
      fun _ ↦ Any := by
  have hunsent : ∀ t u, (Any t ∧ (self.client.isConnected = true → Open t)) → Unsent t u →
      Any u ∧ (self.client.isConnected = true → Open u) :=
    fun t u ht htu ↦ ⟨S.any_unsent t u ht.1 htu, fun h ↦ S.open_unsent t u (ht.2 h) htu⟩
  have hclock : ∀ t : Sys World, Unsent t (afterClock t) :=
    fun t ↦ ⟨rfl, Extends.of_trace_eq rfl⟩
  have hlan : SendKeeps (Network.unset .lan) (fun _ ↦ True)
      (fun t ↦ Any t ∧ (self.client.isConnected = true → Open t)) fun _ ↦ Any :=
    sendKeeps_unset .lan (fun t ht ↦ hunsent t _ ht (hclock t)) fun t packet before ht ↦
      (hunsent t _ ht (unsent_log (e := .sendPacket .lan packet before t.world none) rfl t)).1
  have hkeeps := keeps_handleMqttConnect (P := P)
    (fun t ht ↦ ⟨trivial, hunsent t _ ht (hclock t)⟩) hlan hself
  apply (hkeeps s ⟨hany, hopen⟩).mono _ fun _ _ h ↦ h
  rintro ⟨ret, self'⟩ t ⟨⟨hready, hclient⟩, hany, hopen⟩
  exact ⟨hready, hany, fun h ↦ hopen (by rwa [← hclient])⟩

theorem post_serveMessage (S : SessionKeeps New Open Any) (hP : P.ProcessesPackets)
    (hpaho : P.paho.SerializesSession) {sensorPort : SensorPort} (h : InSession Open Any self s)
    (hfailed : Post (publishMessage P fuel self sensorPort) s
      (fun ret t ↦ ret ≠ mqttSuccess → Any t → Open t) fun _ _ ↦ True) :
    Post (serveMessage P fuel self sensorPort) s (InSession Open Any) fun _ ↦ Any := by
  obtain ⟨hany, hself⟩ := h
  refine DemoIotApp.post_serveMessage (fun e t _ hsent ↦ S.any_unsent s t hany hsent)
    (fun self' t u ht hsent ↦ ?_) fun rc t hwait hsent ↦ ?_
  · refine ⟨S.any_unsent t u ht.1 hsent, ht.2.imp_right ?_⟩
    rintro ⟨netFuel, hready, hopen⟩
    exact ⟨netFuel, hready, fun h ↦ S.open_unsent t u (hopen h) hsent⟩
  have hany := S.any_unsent s t hany hsent
  rcases hself with rfl | ⟨netFuel, hready, hopen⟩
  · -- there is no read buffer
    rw [post_of_stop (processMessage_zeroed sensorPort t)]
    exact hany
  · have hopen := fun h ↦ S.open_unsent s t (hopen h) hsent
    have hprocess : Post (processMessage P fuel self sensorPort) t
        (fun r u ↦ r.2.Ready netFuel ∧ Any u ∧ (r.2.client.isConnected = true → Open u))
        fun _ ↦ Any := by
      apply post_processMessage hP hready sensorPort hany hany
      · rintro self' - hself' hclient
        exact ⟨hself', hany, fun h ↦ hopen (by rwa [← hclient])⟩
      · exact fun _ ↦ S.post_handleMqttConnect (hready.withReadBuff sensorPort) hany hopen
      · intro self' haccept hself' hclient
        refine S.post_relayPublish hpaho hself' hany (fun h ↦ hopen (by rwa [← hclient])) ?_
        exact fun r u hrun ↦ hfailed.ok (publishMessage_eq_ok hwait haccept hrun)
    exact hprocess.mono (fun r u h ↦ ⟨h.2.1, Or.inr ⟨netFuel, h.1, h.2.2⟩⟩) fun _ _ h ↦ h

theorem post_run (S : SessionKeeps New Open Any) (hpaho : P.paho.SerializesSession)
    (hs : New s) : Post (run P fuel) s (fun r t ↦ InSession Open Any r.2 t) fun _ ↦ Any :=
  (S.opensSession.post_run hpaho hs).mono (fun _ _ h ↦ h.1) fun _ _ h ↦ h

/-- The run rule: `C` is to keep a session open on which a publish has failed. -/
theorem post_runAndServe (S : SessionKeeps New Open Any) (hP : P.ProcessesPackets)
    (hpaho : P.paho.SerializesSession) {C : CcFsm → Sys World → SensorPort → Prop}
    (hC : ∀ self s sensorPort, InSession Open Any self s → C self s sensorPort →
      Post (publishMessage P fuel self sensorPort) s
        (fun ret t ↦ ret ≠ mqttSuccess → Any t → Open t) fun _ _ ↦ True)
    {messages : List SensorPort} (hs : New s)
    (hmessages : Post (run P fuel) s
      (fun r t ↦ Along C (serveMessage P fuel) messages r.2 t) fun _ _ ↦ True) :
    Any (runAndServe P fuel messages s).state := by
  have hrun := (S.post_run hpaho hs).and hmessages
  have hserve : Post (runAndServe P fuel messages) s (fun _ ↦ Any) fun _ ↦ Any := by
    refine Post.bind (hrun.mono (fun _ _ h ↦ h) fun _ _ h ↦ h.1) ?_
    rintro ⟨ret, self⟩ t ⟨ht, halong⟩
    exact (post_foldlM (fun self u sensorPort hu hc ↦
      S.post_serveMessage hP hpaho hu (hC self u sensorPort hu hc)) messages self t ht halong).mono
      (fun _ _ h ↦ h.1) fun _ _ h ↦ h
  cases hend : runAndServe P fuel messages s with
  | ok self t => exact hserve.ok hend
  | stop e t => exact hserve.stop hend

end SessionKeeps

end DemoIotApp
