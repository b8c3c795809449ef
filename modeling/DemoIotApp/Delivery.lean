import DemoIotApp.ClientDelivery
import DemoIotApp.PacketBounds
import DemoIotApp.SessionLanguage

/-!
# Every message arrives

Safety says what the packets of the component are, and would be satisfied by none. Over a
connection that stays up, with a broker that acknowledges what it gets, none is missing: every
message that can be sent on is sent on, in its turn and for as long as the component runs.
-/

namespace DemoIotApp

open Library Prog

/-! ## Publishing a message -/

/-- A packet with an identifier and nothing else. -/
def IsShortAck (p : Packet) : Prop := ∃ id : UInt16, p.payload = u16 id.toNat

/-- The component is connected and has drawn so many identifiers. -/
structure CcFsm.Online (netFuel n : ℕ) (component : CcFsm) : Prop where
  ready : component.Ready netFuel
  client : component.client.Live netFuel n true

section Publish

variable {P : Platform} {patience tick netFuel fuel n : ℕ} {self : CcFsm} {s : Sys World}
  {p : Packet} {before : List Packet} {rest : List UInt8}

/-- A message that fits is sent, and its acknowledgement is read. -/
theorem post_relayPublish_prompt (hpaho : P.paho.SerializesPublish)
    (hencode : P.paho.EncodesLength) (hack : P.paho.DeserializesAck)
    (h : s.world.answers.Prompt patience tick) (hself : self.Online netFuel n)
    (hqos : self.tmpDataPublish.msg.qos = 1)
    (hargs : ∀ id, 0 ≤ (self.outgoing id).payloadLen ∧
      (self.outgoing id).payloadLen ≤ (self.outgoing id).payload.length)
    (hfits : (self.message.publish (n + 1)).length ≤ pahoSendBuffSize)
    (hbrings : Brings .puback before p) (hshort : IsShortAck p)
    (hrx : s.world.rx = stream (before ++ [p]) ++ rest) (hfuel : before.length < fuel)
    (hnetFuel : (patience + 1) * pahoSendBuffSize < netFuel) :
    Post (relayPublish P fuel self) s
      (fun r t ↦ r.2.Online netFuel (n + 1) ∧
        Transfers s t (stream (before ++ [p])) [self.message.publish (n + 1)])
      fun _ _ ↦ False := by
  obtain ⟨id, hpayload⟩ := hshort
  have hanswered : Answered self.tmpDataPublish.msg.qos (before ++ [p]) [] :=
    hqos ▸ .atLeastOnce id hbrings hpayload
  have hnumbered : publishArgs self.memory self.tmpDataPublish.szTopic
      (self.tmpDataPublish.msg.numbered n) = self.outgoing (publishId self.client) := by
    rw [MqttMessage.numbered, if_pos (Or.inl hqos), ← hself.client.drawn.drawnId]
    rfl
  have hpacket : (publishArgs self.memory self.tmpDataPublish.szTopic
      (self.tmpDataPublish.msg.numbered n)).packet = self.message.publish (n + 1) := by
    rw [hnumbered]
    exact relayed_eq_publish hqos hself.client.drawn
  have hdrawn : drawnWith self.tmpDataPublish.msg.qos n = n + 1 := if_pos (Or.inl hqos)
  have hlength : (before ++ [p]).length ≤ fuel := by
    rw [List.length_append, List.length_singleton]
    exact hfuel
  have hpublish := post_mqttClientPublish_prompt hpaho hencode hack
    (fun htwo ↦ absurd (hqos.symm.trans htwo) (by decide)) hanswered
    (hnumbered ▸ hargs (publishId self.client)) (hpacket ▸ hfits) h hself.client hrx hlength
    hnetFuel
  rw [hpacket, hdrawn] at hpublish
  apply hpublish.bind
  rintro ⟨ret, msg, client⟩ t ⟨hret, hmsg, hlive, htransfers⟩
  dsimp only at hret hmsg hlive
  rw [MqttMessage.numbered, if_pos (Or.inl hqos)] at hmsg
  subst hmsg
  refine post_ite (fun hne ↦ absurd hret hne) fun _ ↦ ?_
  exact ⟨⟨hself.ready.withMessage hlive.setup _, hlive⟩, htransfers⟩

end Publish

/-! ## Accepting a message -/

section Accept

variable {P : Platform} {netFuel : ℕ} {self : CcFsm} {s : Sys World} {p : Packet} {id : UInt16}
  {topic payload rest : List UInt8}

/-- A PUBLISH that lies in the read buffer and whose parts fit together is accepted. -/
theorem doProcessPublish_of_fits (hB : P.managedBuffer.Appends)
    (hdeserialize : P.paho.DeserializesPublish)
    (hassert : P.assertions = true → P.ChecksBuffers) (hself : self.Ready netFuel)
    (hread : self.serverReadBuff = p.bytes ++ rest) (hpublish : IsPublish p id topic payload)
    (hskip : skippedLen p ≤ (behindTopic p id payload).length) (s : Sys World) :
    ∃ self', doProcessPublish P self s = .ok (0, self') s := by
  have hsize := hpublish.length_layout hself.serverReadBuff hread
  have hbuffer := hself.buffer
  have hreadbuf := hself.serverReadBuff
  rw [pahoRecvBuffSize] at hbuffer hreadbuf
  obtain ⟨msg, hout, hmsgPayload, hmsgLen, -, hdup⟩ :=
    deserializePublish_eq rest hdeserialize hpublish (by omega) hself.payloadlen
  rw [← hread] at hout
  have hpayloadlen : msg.payloadlen = (behindTopic p id payload).length - skippedLen p := by omega
  have htopic : P.sizeT (topic.length : ℤ) = topic.length := P.sizeT_natCast (by omega)
  have hpayload : MqttMessage.out.payload.load msg =
      1 + p.lenBytes.length + 2 + topic.length + skippedLen p :=
    MqttMessage.load_payload hmsgPayload
  have hholds : self.HoldsParts P ⟨1 + p.lenBytes.length + 2, topic.length⟩ msg := by
    refine ⟨?_, ?_⟩
    · dsimp only
      rw [htopic]
      omega
    · rw [hpayload]
      omega
  have hmsg := self.withMessage_msg msg
  have hlimit : self.serverReadBuff.length < 2 ^ 32 - 1 := by omega
  have hparts : (1 : ℤ) = 1 → (∃ offset, msg.payload = .serverReadBuff offset) ∧
      self.HoldsParts P ⟨1 + p.lenBytes.length + 2, topic.length⟩ msg :=
    fun _ ↦ ⟨⟨_, hmsgPayload⟩, hholds⟩
  obtain ⟨⟨ret, self'⟩, hrun, -⟩ := returns_of_holdsParts hB hassert hlimit hparts s
  obtain ⟨-, hcheck⟩ := (post_checkPublish hB 1 ⟨1 + p.lenBytes.length + 2, topic.length⟩
    (Or.inl hlimit) msg s).ok hrun
  rw [doProcessPublish_eq hout, hrun]
  dsimp only at hcheck
  cases hcheck with
  | malformed hret => exact absurd rfl hret
  | duplicate _ _ hne => exact absurd hdup hne
  | copied _ _ _ _ _ hends =>
      cases hends with
      | copied => exact ⟨_, rfl⟩
      | tooLong szTopic buffer _ hlong =>
          have htmp : (self.withMessage msg).tmpDataPublish.buffer.length = 1024 := hbuffer
          rw [htmp, hmsg, htopic] at hlong
          dsimp only at hlong
          omega

/-- The port holds a PUBLISH of this message, which can be sent on. -/
structure Deliverable (m : Message) (port : SensorPort) : Prop where
  publish : ∃ p id rest, port.bytes.take pahoRecvBuffSize = p.bytes ++ rest ∧
    IsPublish p id m.topic m.payload ∧ m.retained = headerRetain p.header ∧
      ¬(headerQos p.header = 0 ∧ headerRetain p.header = 1)
  topic : 0 ∉ m.topic
  fits : ∀ n, (m.publish n).length ≤ pahoSendBuffSize

theorem Message.length_publish (m : Message) (n : ℕ) :
    (m.publish n).length = 1 + ((Varint.encode (m.topic.length + m.payload.length + 4)).length +
      (m.topic.length + m.payload.length + 4)) := by
  have hbody : (publishBody 1 (UInt16.ofNat (idAfter n)) m.topic m.payload).length =
      m.topic.length + m.payload.length + 4 := by
    simp only [publishBody, List.length_append, length_u16, Nat.zero_lt_one, if_true]
    omega
  rw [Message.publish, publishPacket, List.length_cons, List.length_append, hbody]
  omega

theorem headD_take {l bytes rest : List UInt8} {n : ℕ} {b : UInt8} (hn : 0 < n)
    (h : l.take n = b :: bytes ++ rest) : l.headD 0 = b := by
  obtain ⟨n, rfl⟩ := Nat.exists_eq_add_one.mpr hn
  cases l with
  | nil => exact nomatch h
  | cons a l => exact (List.cons.inj h).1

/-- Such a message is accepted as it is. -/
theorem acceptMessage_of_deliverable (hP : P.ProcessesPackets)
    (hdeserialize : P.paho.DeserializesPublish)
    (hassert : P.assertions = true → P.ChecksBuffers) (hself : self.Ready netFuel) {m : Message}
    {port : SensorPort} (h : Deliverable m port) (s : Sys World) :
    ∃ self', acceptMessage P self port s = .ok (some self') s ∧ self'.Ready netFuel ∧
      self'.client = self.client ∧ self'.message = m ∧ self'.tmpDataPublish.msg.qos = 1 ∧
        ∀ id, 0 ≤ (self'.outgoing id).payloadLen ∧
          (self'.outgoing id).payloadLen ≤ (self'.outgoing id).payload.length := by
  obtain ⟨p, id, rest, hread, hpublish, hretained, hflags⟩ := h.publish
  have hskip : skippedLen p ≤ (behindTopic p id m.payload).length :=
    skippedLen_le_iff.mpr fun h ↦ absurd h hflags
  obtain ⟨self', hprocess⟩ := doProcessPublish_of_fits hP.appends hdeserialize hassert
    (hself.receiving port) hread hpublish hskip s
  have htype : headerType (port.bytes.headD 0) = PacketType.publish.code := by
    rw [headD_take (by decide) hread]
    exact hpublish.type
  have haccept : acceptMessage P self port s = .ok (some self') s := by
    rw [acceptMessage, if_pos htype, bind_eq_of_ok hprocess]
    rfl
  obtain ⟨-, haccepted⟩ := (post_acceptMessage hP port hself.payloadlen s).ok haccept
  obtain ⟨hprocessed, hqos⟩ := haccepted self' rfl
  obtain ⟨-, -, -, hcarries⟩ := outgoing_of_accepted hP.appends hdeserialize
    (hself.receiving port) hread hpublish hprocess 0
  rw [behindTopic_drop, if_neg hflags, cString_eq_self_iff.mpr h.topic, ← hretained] at hcarries
  exact ⟨self', haccept, (hself.receiving port).of_processed hprocessed, hprocessed.client,
    CcFsm.message_of_carries hcarries, hqos,
    payload_of_accepted hP.appends (hself.receiving port) hprocess⟩

end Accept

/-! ## One message after the other -/

/-- A call of the sensor, and what the broker sends when it has got the message. -/
structure Exchange where
  port : SensorPort
  message : Message
  before : List Packet
  puback : Packet

namespace Exchange

def incoming (x : Exchange) : List UInt8 := stream (x.before ++ [x.puback])

/-- The broker acknowledges the message. -/
structure Acknowledged (x : Exchange) : Prop where
  brings : Brings .puback x.before x.puback
  short : IsShortAck x.puback

/-- The message can be sent on, and it is acknowledged. -/
structure Succeeds (x : Exchange) : Prop extends x.Acknowledged where
  deliverable : Deliverable x.message x.port

end Exchange

section Run

variable {P : Platform} {patience tick netFuel fuel n : ℕ} {self : CcFsm} {s : Sys World}
  {rest : List UInt8}

/-- What the results of this section rely on. -/
structure Platform.Delivers (P : Platform) : Prop where
  processes : P.ProcessesPackets
  deserializes : P.paho.DeserializesPublish
  checks : P.assertions = true → P.ChecksBuffers
  publish : P.paho.SerializesPublish
  encodes : P.paho.EncodesLength
  acks : P.paho.DeserializesAck

/-- A run has read these bytes and handed over these packets, and all of them are out. The token
may be elsewhere than before. -/
structure Exchanged (s t : Sys World) (received : List UInt8) (packets : List (List UInt8)) :
    Prop where
  answers : t.world.answers = s.world.answers
  rx : s.world.rx = received ++ t.world.rx
  wire : t.world.wire = s.world.wire ++ packets.flatten
  sentPackets : sentPackets t.trace = sentPackets s.trace ++ packets

section Exchanged

variable {t u : Sys World} {received received' : List UInt8} {packets packets' : List (List UInt8)}

theorem Exchanged.refl (s : Sys World) : Exchanged s s [] [] :=
  ⟨rfl, rfl, (List.append_nil _).symm, (List.append_nil _).symm⟩

theorem Exchanged.trans (h : Exchanged s t received packets)
    (h' : Exchanged t u received' packets') :
    Exchanged s u (received ++ received') (packets ++ packets') where
  answers := h'.answers.trans h.answers
  rx := by rw [h.rx, h'.rx, List.append_assoc]
  wire := by rw [h'.wire, h.wire, List.flatten_append, List.append_assoc]
  sentPackets := by rw [h'.sentPackets, h.sentPackets, List.append_assoc]

theorem Exchanged.rx_eq (h : Exchanged s t received packets)
    (hrx : s.world.rx = received ++ rest) : t.world.rx = rest :=
  List.append_cancel_left (h.rx.symm.trans hrx)

theorem Exchanged.afterSem (h : Exchanged s t received packets) (call : Call) (ret : ℤ)
    (token : Bool) : Exchanged s (afterSem call ret token t) received packets where
  answers := h.answers
  rx := h.rx
  wire := h.wire
  sentPackets := (unsent_afterSem call ret token t).sentPackets.trans h.sentPackets

theorem Transfers.exchanged (h : Transfers s t received packets) :
    Exchanged s t received packets :=
  ⟨h.moved.answers, h.moved.rx, h.moved.wire, h.sentPackets⟩

end Exchanged

/-- In a call of the sensor the message goes out, its acknowledgement comes in, and the token
is given back. -/
theorem post_serveMessage_prompt (hP : P.Delivers) (h : s.world.answers.Prompt patience tick)
    (hposts : ∀ k, s.world.answers.returnCode .semPost k = 0) (htoken : s.world.token = true)
    (hself : self.Online netFuel n) {x : Exchange} (hx : x.Succeeds)
    (hrx : s.world.rx = x.incoming ++ rest) (hfuel : x.before.length < fuel)
    (hnetFuel : (patience + 1) * pahoSendBuffSize < netFuel) :
    Post (serveMessage P fuel self x.port) s
      (fun self' t ↦ self'.Online netFuel (n + 1) ∧ t.world.token = true ∧
        Exchanged s t x.incoming [x.message.publish (n + 1)]) fun _ _ ↦ False := by
  have hwait : Post semWait s (fun _ t ↦ Exchanged s t [] []) fun _ _ ↦ False := by
    refine (post_semWait s).mono ?_ ?_
    · rintro ret t ⟨-, -, rfl⟩
      exact (Exchanged.refl s).afterSem _ _ _
    · rintro e t ⟨-, hnone, -⟩
      exact absurd (hnone.symm.trans htoken) Bool.false_ne_true
  have hwrite : Post (cloudConnectorRpcWrite P fuel self x.port) s
      (fun r t ↦ r.2.Online netFuel (n + 1) ∧ t.world.token = true ∧
        Exchanged s t x.incoming [x.message.publish (n + 1)]) fun _ _ ↦ False := by
    apply hwait.bind
    rintro _ t ht
    obtain ⟨self', haccept, hready, hclient, hmessage, hqos, hargs⟩ := acceptMessage_of_deliverable
      hP.processes hP.deserializes hP.checks hself.ready hx.deliverable t
    have hself' : self'.Online netFuel n := ⟨hready, hclient ▸ hself.client⟩
    have hrelay := post_relayPublish_prompt hP.publish hP.encodes hP.acks (ht.answers ▸ h) hself'
      hqos hargs (hmessage ▸ hx.deliverable.fits (n + 1)) hx.brings hx.short (ht.rx_eq hrx) hfuel
      hnetFuel
    rw [hmessage, Post, ← processMessage_of_accepted hself.ready haccept] at hrelay
    have hnew : Post (handleCcFsmNewMessage P fuel self x.port) t
        (fun r u ↦ r.2.Online netFuel (n + 1) ∧ u.world.token = true ∧
          Exchanged s u x.incoming [x.message.publish (n + 1)]) fun _ _ ↦ False := by
      apply Post.bind hrelay
      rintro r u ⟨honline, htransfers⟩
      obtain ⟨ret, hret, hpost⟩ := semPost_eq_ok u
      have hzero : ret = 0 := by
        rw [hret, htransfers.moved.answers, ht.answers]
        exact hposts _
      rw [post_bind, post_of_ok hpost, if_pos hzero]
      exact ⟨honline, rfl, (ht.trans htransfers.exchanged).afterSem _ _ _⟩
    exact hnew.bind fun r u hu ↦ hu
  exact hwrite.bind fun r t ht ↦ ht

/-- All messages go out in their order, however many there are. -/
theorem post_serveMessages_prompt (hP : P.Delivers) {xs : List Exchange}
    (h : s.world.answers.Prompt patience tick)
    (hposts : ∀ k, s.world.answers.returnCode .semPost k = 0) (htoken : s.world.token = true)
    (hself : self.Online netFuel n) (hxs : ∀ x ∈ xs, x.Succeeds)
    (hrx : s.world.rx = xs.flatMap Exchange.incoming ++ rest)
    (hfuel : ∀ x ∈ xs, x.before.length < fuel)
    (hnetFuel : (patience + 1) * pahoSendBuffSize < netFuel) :
    Post (serveMessages P fuel self (xs.map Exchange.port)) s
      (fun self' t ↦ self'.Online netFuel (n + xs.length) ∧ t.world.token = true ∧
        Exchanged s t (xs.flatMap Exchange.incoming) (publishes n (xs.map Exchange.message)))
      fun _ _ ↦ False := by
  induction xs generalizing s self n with
  | nil => exact ⟨hself, htoken, .refl s⟩
  | cons x xs ih =>
      rw [List.flatMap_cons, List.append_assoc] at hrx
      show Post (serveMessage P fuel self x.port >>= _) s _ _
      apply (post_serveMessage_prompt hP h hposts htoken hself (hxs x List.mem_cons_self) hrx
        (hfuel x List.mem_cons_self) hnetFuel).bind
      rintro self' t ⟨hself', htoken', hexchanged⟩
      have hrest := ih (hexchanged.answers ▸ h) (hexchanged.answers ▸ hposts) htoken' hself'
        (fun x' hx' ↦ hxs x' (List.mem_cons_of_mem x hx')) (hexchanged.rx_eq hrx)
        fun x' hx' ↦ hfuel x' (List.mem_cons_of_mem x hx')
      refine Post.mono hrest ?_ fun _ _ h ↦ h
      rintro self'' u ⟨hself'', htoken'', hexchanged'⟩
      refine ⟨?_, htoken'', hexchanged.trans hexchanged'⟩
      rw [List.length_cons, Nat.add_comm xs.length, ← Nat.add_assoc]
      exact hself''

end Run

end DemoIotApp
