import DemoIotApp.Library.InOrder
import DemoIotApp.Reference
import DemoIotApp.WaitLoop

/-!
# Acknowledged publishing

A publish that reports success has gone through the handshake of its quality
of service. The identifier is part of what is sent, but it is never looked at
in what is received, so that the handshake was about this very message exactly
when the broker sends nothing else.
-/

namespace DemoIotApp

open Library Prog

variable {W : Type}

/-! ## The handshake -/

/-- A well-formed acknowledgement of that type with that identifier. -/
def IsAck (type : PacketType) (packetId : UInt16) (buffer : List UInt8) : Prop :=
  ∃ header rest, headerType header = type.code ∧
    buffer = header :: 2 :: (u16 packetId.toNat ++ rest)

namespace Event

/-- The packet was handed over and the transport took all of it. -/
def Sends (packet : List UInt8) : Event W → Prop
  | .sendPacket _ packet' _ _ rc => packet' = packet ∧ rc = some mqttSuccess
  | _ => False

def SendsPublish (packetId : UInt16) (e : Event W) : Prop :=
  ∃ dup qos retained topic payload, 0 < qos ∧
    e.Sends (publishPacket dup qos retained packetId topic payload)

def SendsPubrel (packetId : UInt16) (e : Event W) : Prop :=
  e.Sends (ackPacket .pubrel 0 packetId)

def ReceivesAck (type : PacketType) (packetId : UInt16) (e : Event W) : Prop :=
  ∃ buffer, e.received = some ((type.code : ℤ), buffer) ∧ IsAck type packetId buffer

end Event

/-- What the protocol asks for after a PUBLISH of each quality of service. -/
def handshake (qos : UInt8) (packetId : UInt16) : List (Event W → Prop) :=
  if qos = 1 then [Event.SendsPublish packetId, Event.ReceivesAck .puback packetId]
  else if qos = 2 then
    [Event.SendsPublish packetId, Event.ReceivesAck .pubrec packetId,
      Event.SendsPubrel packetId, Event.ReceivesAck .pubcomp packetId]
  else []

theorem publishPacket_ne_pubrel (dup qos retained : ℕ) (packetId packetId' : UInt16)
    (topic payload : List UInt8) :
    publishPacket dup qos retained packetId topic payload ≠ ackPacket .pubrel 0 packetId' := by
  intro h
  have hheader := congrArg headerType (List.cons.inj h).1
  rw [headerType_publishHeader, headerType_ackHeader_pubrel] at hheader
  omega

theorem pingreqPacket_ne_pubrel (packetId : UInt16) :
    pingreqPacket ≠ ackPacket .pubrel 0 packetId := by
  intro h
  exact absurd (List.cons.inj h).1 (by decide)

/-! ## What the steps of a publish leave in the trace -/

section Steps

variable [Clock W] {P : Platform} {self self' : MqttClient W} {timer : Option Timer} {s t : Sys W}

omit [Clock W] in
theorem succeeds_of_ite {β : Type} {ret : ℤ} {b b' : β} {m : Prog Stop (Sys W) (ℤ × β)}
    (h : (if ret ≠ mqttSuccess then pure (mqttFailure, b) else m) s =
      .ok (mqttSuccess, b') t) : ret = mqttSuccess ∧ m s = .ok (mqttSuccess, b') t := by
  by_cases hne : ret ≠ mqttSuccess
  · rw [if_pos hne] at h
    exact absurd (Prod.mk.inj (Outcome.ok.inj h).1).1 (by decide)
  · rw [if_neg hne] at h
    exact ⟨not_not.mp hne, h⟩

theorem sendWithTimeout_trace {net : Option (Network W)} {timeoutMs : ℕ} {packet : List UInt8}
    {rc : ℤ} (h : sendWithTimeout net timeoutMs packet s = .ok rc t) :
    ∃ link before, t.trace =
      s.trace ++ [.sendPacket link packet before t.world (some rc)] := by
  obtain ⟨myTimer, u, htimer, hsend⟩ := bind_eq_ok_iff.mp h
  have hquiet : Emits (fun _ ↦ False) (sendTimer timeoutMs : Prog Stop (Sys W) (Option Timer)) :=
    Emits.ite ((Emits.timerCountdown timeoutMs).bind fun _ ↦ Emits.pure _) (Emits.pure _)
  cases net with
  | none => simp [Prog.stop] at hsend
  | some n =>
      refine ⟨n.link, u.world, ?_⟩
      rw [mqttNetworkSendPacket_trace hsend, (hquiet.ok htimer).trace_eq]

/-- Nothing was serialised, or the packet was handed to the network, and its result decides. -/
theorem sendSerialized_trace {serialize : Serializer} {ret : ℤ}
    (h : sendSerialized serialize self s = .ok (ret, self') t) :
    ret = mqttFailure ∧ t.trace = s.trace ∨
      0 < (serialize self.sendbuf).1 ∧ ∃ link before rc,
        ret = (if rc ≠ mqttSuccess then mqttFailure else mqttSuccess) ∧
        t.trace = s.trace ++ [.sendPacket link
          ((serialize self.sendbuf).2.take (serialize self.sendbuf).1.toNat) before t.world
            (some rc)] := by
  unfold sendSerialized at h
  by_cases hle : (serialize self.sendbuf).1 ≤ 0
  · simp only [if_pos hle] at h
    obtain ⟨hr, rfl⟩ := Outcome.ok.inj h
    exact Or.inl ⟨(Prod.mk.inj hr).1.symm, rfl⟩
  · simp only [if_neg hle] at h
    obtain ⟨rc, u, hsend, hrest⟩ := bind_eq_ok_iff.mp h
    obtain ⟨hr, rfl⟩ := Outcome.ok.inj hrest
    obtain ⟨link, before, htrace⟩ := sendWithTimeout_trace hsend
    exact Or.inr ⟨Int.not_le.mp hle, link, before, rc, (Prod.mk.inj hr).1.symm, htrace⟩

theorem sendSerialized_sends {serialize : Serializer} {packet : List UInt8}
    (hserialize : 0 < (serialize self.sendbuf).1 →
      Serialized packet self.sendbuf (serialize self.sendbuf))
    (h : sendSerialized serialize self s = .ok (mqttSuccess, self') t) :
    ∃ e, t.trace = s.trace ++ [e] ∧ e.Sends packet := by
  rcases sendSerialized_trace h with ⟨hfailed, -⟩ | ⟨hpos, link, before, rc, hret, htrace⟩
  · exact absurd hfailed (by decide)
  · have hrc : rc = mqttSuccess := by
      by_contra hne
      exact absurd (hret.trans (if_pos hne)) (by decide)
    exact ⟨_, htrace, (hserialize hpos).take, congrArg some hrc⟩

/-- An acknowledgement is expected successfully when the wait for its type
succeeds and the library accepts the packet, as one of that type if assertions
are compiled in. -/
theorem expectAck_eq_ok_iff {fuel : ℕ} {type : PacketType} {data data' : AckData} :
    expectAck P fuel self type data timer s = .ok (mqttSuccess, data', self') t ↔
      waitForSpecificPacket P type.code timer fuel self s = .ok (mqttSuccess, self') t ∧
        P.paho.deserializeAck self'.readbuf = (1, data') ∧
          ¬(P.assertions = true ∧ ¬type.code = data'.type) := by
  unfold expectAck waitAndReadSpecificAckPacket
  simp only [bind_eq_ok_iff, Prod.exists]
  constructor
  · rintro ⟨ret, data₁, self₁, u, ⟨ret₁, self₂, v, hwait, hread⟩, hrest⟩
    by_cases hret₁ : ret₁ ≠ mqttSuccess
    · rw [if_pos hret₁] at hread
      obtain ⟨rfl, -⟩ := Prod.mk.inj (Outcome.ok.inj hread).1
      rw [if_pos (by decide)] at hrest
      exact absurd (Prod.mk.inj (Outcome.ok.inj hrest).1).1 (by decide)
    · rw [if_neg hret₁] at hread
      obtain ⟨hret, hr, rfl⟩ := Outcome.ok_pair_inj hread
      obtain ⟨rfl, rfl⟩ := Prod.mk.inj hr
      subst hret
      by_cases hlen : (P.paho.deserializeAck self₂.readbuf).1 ≠ 1
      · rw [if_pos hlen, if_pos (by decide)] at hrest
        exact absurd (Prod.mk.inj (Outcome.ok.inj hrest).1).1 (by decide)
      · rw [if_neg hlen, if_neg (by simp), bind_eq_ok_iff] at hrest
        obtain ⟨_, v, hassert, hrest⟩ := hrest
        obtain ⟨hr, rfl⟩ := Outcome.ok.inj hrest
        obtain ⟨rfl, rfl⟩ := Prod.mk.inj (Prod.mk.inj hr).2
        obtain ⟨rfl, hcond⟩ := (post_debugAssert _ _ _).ok hassert
        refine ⟨not_not.mp hret₁ ▸ hwait, ?_, fun h ↦ h.2 (hcond h.1)⟩
        exact Prod.ext (not_not.mp hlen) rfl
  · rintro ⟨hwait, hdata, hcond⟩
    refine ⟨mqttSuccess, data', self', t, ⟨mqttSuccess, self', t, hwait, ?_⟩, ?_⟩
    · rw [if_neg (by simp)]
      simp only [hdata]
      rfl
    · rw [if_neg (by simp), bind_eq_ok_iff]
      refine ⟨(), t, ?_, rfl⟩
      rw [debugAssert, if_neg hcond]
      rfl

/-- The acknowledgement is the first packet of its type that was received. -/
theorem expectAck_received (hP : P.paho.SerializesPingreq) {fuel : ℕ} {type : PacketType}
    {data data' : AckData}
    (h : expectAck P fuel self type data timer s = .ok (mqttSuccess, data', self') t) :
    ∃ es packets, t.trace = s.trace ++ es ∧ (∀ e ∈ es, e.IsWaitEvent) ∧
      received es = packets ++ [((type.code : ℤ), self'.readbuf)] ∧
      ∀ packet ∈ packets, packet.1 ≠ type.code := by
  have hwait := (expectAck_eq_ok_iff.mp h).1
  have hpos : (0 : ℤ) < type.code := by cases type <;> decide
  obtain ⟨es, packets, htrace, hreceived, hothers⟩ := waitForSpecificPacket_received hpos hwait
  obtain ⟨es', htrace', hes'⟩ := (emits_waitForSpecificPacket (fun _ he ↦ he.isWaitEvent)
    (emits_sendPingReq hP) type.code timer fuel self).ok hwait
  obtain rfl : es = es' := List.append_cancel_left (htrace.symm.trans htrace')
  exact ⟨es, packets, htrace, hes', hreceived, hothers⟩

theorem checkPublishQos_one_eq_ok {fuel : ℕ}
    (h : checkPublishQos P fuel self 1 timer s = .ok (mqttSuccess, self') t) :
    ∃ data', expectAck P fuel self .puback ⟨0, 0, 0⟩ timer s =
      .ok (mqttSuccess, data', self') t := by
  obtain ⟨⟨ret, data', self₁⟩, u, hack, hrest⟩ := bind_eq_ok_iff.mp h
  obtain ⟨hret, rfl, rfl⟩ := Outcome.ok_pair_inj hrest
  by_cases hne : ret ≠ mqttSuccess
  · exact absurd ((if_pos hne).symm.trans hret) (by decide)
  · exact ⟨data', not_not.mp hne ▸ hack⟩

theorem checkPublishQos_two_eq_ok {fuel : ℕ}
    (h : checkPublishQos P fuel self 2 timer s = .ok (mqttSuccess, self') t) :
    ∃ data₁ self₁ s₁ self₂ s₂ data₂,
      expectAck P fuel self .pubrec ⟨0, 0, 0⟩ timer s = .ok (mqttSuccess, data₁, self₁) s₁ ∧
        sendAck P self₁ .pubrel 0 data₁.packetId s₁ = .ok (mqttSuccess, self₂) s₂ ∧
          expectAck P fuel self₂ .pubcomp data₁ timer s₂ = .ok (mqttSuccess, data₂, self') t := by
  obtain ⟨⟨ret, data₁, self₁⟩, s₁, hrec, hrest⟩ := bind_eq_ok_iff.mp h
  dsimp only at hrest
  obtain ⟨rfl, hrest⟩ := succeeds_of_ite hrest
  obtain ⟨⟨ret, self₂⟩, s₂, hrel, hrest⟩ := bind_eq_ok_iff.mp hrest
  dsimp only at hrest
  obtain ⟨rfl, hrest⟩ := succeeds_of_ite hrest
  obtain ⟨⟨ret, data₂, self₃⟩, s₃, hcomp, hrest⟩ := bind_eq_ok_iff.mp hrest
  obtain ⟨hret, rfl, rfl⟩ := Outcome.ok_pair_inj hrest
  by_cases hne : ret ≠ mqttSuccess
  · exact absurd ((if_pos hne).symm.trans hret) (by decide)
  · exact ⟨data₁, self₁, s₁, self₂, s₂, data₂, hrec, hrel, not_not.mp hne ▸ hcomp⟩

omit [Clock W] in
theorem assignPacketId_eq_ok {msg msg' : MqttMessage}
    (h : assignPacketId P self msg s = .ok (msg', self') t) :
    t = s ∧ msg'.qos = msg.qos ∧ self'.keepAliveIntervalMs = self.keepAliveIntervalMs ∧
      (msg.qos = 1 ∨ msg.qos = 2 → msg'.id = publishId self) := by
  unfold assignPacketId at h
  by_cases hqos : msg.qos = 1 ∨ msg.qos = 2
  · rw [if_pos hqos] at h
    obtain ⟨⟨id, self₁⟩, u, hid, hrest⟩ := bind_eq_ok_iff.mp h
    obtain ⟨rfl, rfl, rfl⟩ := Outcome.ok_pair_inj hrest
    obtain ⟨_, v, hassert, hrest⟩ := bind_eq_ok_iff.mp hid
    obtain ⟨rfl, rfl, rfl⟩ := Outcome.ok_pair_inj hrest
    obtain rfl := ((post_debugAssert _ _ _).ok hassert).1
    exact ⟨rfl, rfl, rfl, fun _ ↦ rfl⟩
  · rw [if_neg hqos] at h
    obtain ⟨rfl, rfl, rfl⟩ := Outcome.ok_pair_inj h
    exact ⟨rfl, rfl, rfl, fun hqos' ↦ absurd hqos' hqos⟩

theorem mqttClientPublish_eq_ok {fuel : ℕ} {memory : Ptr → List UInt8} {topicName : Ptr}
    {msg msg' : MqttMessage}
    (h : mqttClientPublish P fuel memory self topicName msg timer s =
      .ok (mqttSuccess, msg', self') t) :
    ∃ self₁ self₂ s₁, assignPacketId P self msg s = .ok (msg', self₁) s ∧
      sendPublish P self₁ (publishArgs memory topicName msg') s = .ok (mqttSuccess, self₂) s₁ ∧
        checkPublishQos P fuel self₂ msg'.qos timer s₁ = .ok (mqttSuccess, self') t := by
  unfold mqttClientPublish at h
  by_cases hconnected : ¬self.isConnected = true
  · rw [if_pos hconnected] at h
    exact absurd (Prod.mk.inj (Outcome.ok.inj h).1).1 (by decide)
  rw [if_neg hconnected] at h
  obtain ⟨⟨msg₁, self₁⟩, u, hassign, hrest⟩ := bind_eq_ok_iff.mp h
  obtain rfl := (assignPacketId_eq_ok hassign).1
  obtain ⟨⟨ret, self₂⟩, s₁, hsend, hrest⟩ := bind_eq_ok_iff.mp hrest
  dsimp only at hrest
  obtain ⟨rfl, hrest⟩ := succeeds_of_ite hrest
  obtain ⟨⟨ret, self₃⟩, s₂, hcheck, hrest⟩ := bind_eq_ok_iff.mp hrest
  dsimp only at hrest
  obtain ⟨rfl, hrest⟩ := succeeds_of_ite hrest
  obtain ⟨-, hr, rfl⟩ := Outcome.ok_pair_inj hrest
  obtain ⟨rfl, rfl⟩ := Prod.mk.inj hr
  exact ⟨self₁, self₂, s₁, hassign, hsend, hcheck⟩

end Steps

/-! ## The identifiers that the broker sends -/

/-- The first packet of that type. -/
def firstOf (type : PacketType) (packets : List (ℤ × List UInt8)) : Option (List UInt8) :=
  (packets.find? fun packet ↦ packet.1 = (type.code : ℤ)).map Prod.snd

/-- What follows the first packet of that type. -/
def behindFirst (type : PacketType) (packets : List (ℤ × List UInt8)) :
    List (ℤ × List UInt8) :=
  (packets.dropWhile fun packet ↦ packet.1 ≠ (type.code : ℤ)).tail

/-- The broker answers with the identifier of the message: in the first PUBACK,
or in the first PUBREC and in the first PUBCOMP behind it. -/
def AcksCarryId (qos : UInt8) (packetId : UInt16) (packets : List (ℤ × List UInt8)) : Prop :=
  if qos = 1 then ∀ buffer ∈ firstOf .puback packets, IsAck .puback packetId buffer
  else if qos = 2 then
    (∀ buffer ∈ firstOf .pubrec packets, IsAck .pubrec packetId buffer) ∧
      ∀ buffer ∈ firstOf .pubcomp (behindFirst .pubrec packets), IsAck .pubcomp packetId buffer
  else True

section Packets

variable {type : PacketType} {packets rest : List (ℤ × List UInt8)} {buffer : List UInt8}
  (hothers : ∀ packet ∈ packets, packet.1 ≠ type.code)

include hothers

theorem firstOf_eq_some :
    firstOf type (packets ++ ((type.code : ℤ), buffer) :: rest) = some buffer := by
  have hnone : packets.find? (fun packet ↦ packet.1 = (type.code : ℤ)) = none :=
    List.find?_eq_none.mpr fun packet hpacket ↦ by simpa using hothers packet hpacket
  simp [firstOf, List.find?_append, hnone]

theorem behindFirst_eq :
    behindFirst type (packets ++ ((type.code : ℤ), buffer) :: rest) = rest := by
  rw [behindFirst, List.dropWhile_append_of_pos fun packet hpacket ↦ by
    simpa using hothers packet hpacket]
  simp

/-- An acknowledgement with that identifier was received exactly when the only
packet of its type is one. -/
theorem receivesAck_iff {es : List (Event W)} {packetId : UInt16}
    (hreceived : received es = packets ++ [((type.code : ℤ), buffer)]) :
    (∃ e ∈ es, e.ReceivesAck type packetId) ↔ IsAck type packetId buffer := by
  constructor
  · rintro ⟨e, he, buffer', hbuffer', hack⟩
    have hmem : ((type.code : ℤ), buffer') ∈ received es :=
      List.mem_filterMap.mpr ⟨e, he, hbuffer'⟩
    rw [hreceived] at hmem
    rcases List.mem_append.mp hmem with hmem | hmem
    · exact absurd rfl (hothers _ hmem)
    · exact (Prod.mk.inj (List.mem_singleton.mp hmem)).2 ▸ hack
  · intro hack
    have hmem : ((type.code : ℤ), buffer) ∈ received es := by simp [hreceived]
    obtain ⟨e, he, hreceived⟩ := List.mem_filterMap.mp hmem
    exact ⟨e, he, buffer, hreceived, hack⟩

end Packets

/-! ## The handshake of a successful publish -/

section Publish

variable [Clock W] {P : Platform} {self self' : MqttClient W} {timer : Option Timer} {s t : Sys W}

omit [Clock W] in
theorem Event.SendsPublish.received {packetId : UInt16} {e : Event W}
    (h : e.SendsPublish packetId) : e.received = none := by
  obtain ⟨dup, qos, retained, topic, payload, -, hsends⟩ := h
  cases e <;> first | exact hsends.elim | rfl

omit [Clock W] in
theorem Event.SendsPublish.not_sendsPubrel {packetId packetId' : UInt16} {e : Event W}
    (h : e.SendsPublish packetId) : ¬e.SendsPubrel packetId' := by
  obtain ⟨dup, qos, retained, topic, payload, -, hsends⟩ := h
  intro hpubrel
  cases e <;> first
    | exact hsends.elim
    | exact publishPacket_ne_pubrel _ _ _ _ _ _ _ (hsends.1.symm.trans hpubrel.1)

omit [Clock W] in
theorem Event.IsWaitEvent.not_sendsPubrel {packetId : UInt16} {e : Event W}
    (h : e.IsWaitEvent) : ¬e.SendsPubrel packetId := by
  intro hsends
  cases e with
  | sendPacket link packet before after rc =>
      obtain rfl : packet = pingreqPacket := h
      exact pingreqPacket_ne_pubrel packetId hsends.1
  | _ => exact hsends

omit [Clock W] in
theorem exists_receivesAck_of_inOrder {type : PacketType} {packetId packetId' : UInt16}
    {e : Event W} {es : List (Event W)} (he : e.SendsPublish packetId')
    (h : InOrder [Event.SendsPublish packetId, Event.ReceivesAck type packetId] (e :: es)) :
    ∃ e' ∈ es, e'.ReceivesAck type packetId := by
  obtain ⟨e', hmem, hack⟩ := h.exists_mem (p := Event.ReceivesAck type packetId) (by simp)
  rcases List.mem_cons.mp hmem with rfl | hmem
  · obtain ⟨buffer, hreceived, -⟩ := hack
    exact absurd (hreceived.symm.trans he.received) (by simp)
  · exact ⟨e', hmem, hack⟩

theorem sendPublish_sends (hP : P.paho.SerializesPublish) {args : PublishArgs}
    (h : sendPublish P self args s = .ok (mqttSuccess, self') t) :
    ∃ e, t.trace = s.trace ++ [e] ∧ e.Sends args.packet :=
  sendSerialized_sends (hP args self.sendbuf).1 h

theorem sendAck_sends (hP : P.paho.SerializesAck) {type : PacketType} {dup : ℕ}
    {packetId : UInt16}
    (h : sendAck P self type dup packetId s = .ok (mqttSuccess, self') t) :
    ∃ e, t.trace = s.trace ++ [e] ∧ e.Sends (ackPacket type dup packetId) :=
  sendSerialized_sends (hP type dup packetId self.sendbuf).1 h

section Handshake

variable (hping : P.paho.SerializesPingreq) {fuel : ℕ} {packetId : UInt16} {e₀ : Event W}
  {es : List (Event W)} (he₀ : e₀.SendsPublish packetId)

include hping he₀

theorem handshake_one_iff
    (h : checkPublishQos P fuel self 1 timer s = .ok (mqttSuccess, self') t)
    (htrace : t.trace = s.trace ++ es) :
    InOrder (handshake 1 packetId) (e₀ :: es) ↔ AcksCarryId 1 packetId (received es) := by
  obtain ⟨data, hexpect⟩ := checkPublishQos_one_eq_ok h
  obtain ⟨es₁, packets, htrace₁, -, hreceived, hothers⟩ := expectAck_received hping hexpect
  obtain rfl : es = es₁ := List.append_cancel_left (htrace.symm.trans htrace₁)
  rw [handshake, if_pos rfl, AcksCarryId, if_pos rfl, hreceived, firstOf_eq_some hothers]
  constructor
  · rintro hinOrder buffer hbuffer
    obtain rfl := Option.some.inj hbuffer
    exact (receivesAck_iff hothers hreceived).mp (exists_receivesAck_of_inOrder he₀ hinOrder)
  · intro hcarry
    have hack := (receivesAck_iff hothers hreceived).mpr (hcarry _ rfl)
    have hpublish : InOrder [Event.SendsPublish packetId] [e₀] :=
      inOrder_singleton.mpr ⟨e₀, by simp, he₀⟩
    exact hpublish.append (inOrder_singleton.mpr hack)

/-- The PUBREL parts the two waits, and it carries what was in the PUBREC. -/
theorem handshake_two_iff (hack : P.paho.SerializesAck) (hdeserialize : P.paho.DeserializesAck)
    (h : checkPublishQos P fuel self 2 timer s = .ok (mqttSuccess, self') t)
    (htrace : t.trace = s.trace ++ es) :
    InOrder (handshake 2 packetId) (e₀ :: es) ↔ AcksCarryId 2 packetId (received es) := by
  obtain ⟨data₁, self₁, s₁, self₂, s₂, data₂, hrec, hrel, hcomp⟩ := checkPublishQos_two_eq_ok h
  obtain ⟨es₁, packets₁, htrace₁, hwait₁, hreceived₁, hothers₁⟩ := expectAck_received hping hrec
  obtain ⟨e₁, htrace₂, hpubrel⟩ := sendAck_sends hack hrel
  obtain ⟨es₂, packets₂, htrace₃, hwait₂, hreceived₂, hothers₂⟩ := expectAck_received hping hcomp
  obtain rfl : es = es₁ ++ e₁ :: es₂ := by
    apply List.append_cancel_left (htrace.symm.trans _)
    rw [htrace₃, htrace₂, htrace₁]
    simp
  have hnone : e₁.received = none := by
    cases e₁ <;> first | exact hpubrel.elim | rfl
  have hreceived : received (es₁ ++ e₁ :: es₂) =
      packets₁ ++ ((PacketType.pubrec.code : ℤ), self₁.readbuf) ::
        (packets₂ ++ [((PacketType.pubcomp.code : ℤ), self'.readbuf)]) := by
    have hes₂ : received (e₁ :: es₂) = received es₂ := List.filterMap_cons_none hnone
    rw [received_append, hreceived₁, hes₂, hreceived₂, List.append_assoc]
    rfl
  rw [hreceived, handshake, if_neg (by decide), if_pos rfl, AcksCarryId, if_neg (by decide),
    if_pos rfl, firstOf_eq_some hothers₁, behindFirst_eq hothers₁, firstOf_eq_some hothers₂]
  have hbefore : ∀ e ∈ e₀ :: es₁, ¬e.SendsPubrel packetId := by
    rintro e he
    rcases List.mem_cons.mp he with rfl | he
    · exact he₀.not_sendsPubrel
    · exact (hwait₁ e he).not_sendsPubrel
  have hafter : ∀ e ∈ es₂, ¬e.SendsPubrel packetId :=
    fun e he ↦ (hwait₂ e he).not_sendsPubrel
  constructor
  · intro hinOrder
    have hsplit : InOrder ([Event.SendsPublish packetId, Event.ReceivesAck .pubrec packetId] ++
        Event.SendsPubrel packetId :: [Event.ReceivesAck .pubcomp packetId])
        ((e₀ :: es₁) ++ e₁ :: es₂) := hinOrder
    obtain ⟨hfirst, hlast⟩ := hsplit.split_at hbefore hafter
    refine ⟨?_, ?_⟩
    · rintro buffer hbuffer
      obtain rfl := Option.some.inj hbuffer
      exact (receivesAck_iff hothers₁ hreceived₁).mp (exists_receivesAck_of_inOrder he₀ hfirst)
    · rintro buffer hbuffer
      obtain rfl := Option.some.inj hbuffer
      exact (receivesAck_iff hothers₂ hreceived₂).mp (inOrder_singleton.mp hlast)
  · rintro ⟨hcarry₁, hcarry₂⟩
    have hisAck := hcarry₁ _ rfl
    have hrecAck := (receivesAck_iff hothers₁ hreceived₁).mpr hisAck
    have hcompAck := (receivesAck_iff hothers₂ hreceived₂).mpr (hcarry₂ _ rfl)
    have hpubrel' : e₁.SendsPubrel packetId := by
      obtain ⟨header, rest, -, hbuffer⟩ := hisAck
      have hdata := (expectAck_eq_ok_iff.mp hrec).2.1
      rw [hbuffer, hdeserialize] at hdata
      have hid : packetId = data₁.packetId := congrArg AckData.packetId (Prod.mk.inj hdata).2
      rw [hid]
      exact hpubrel
    have hpublish : InOrder [Event.SendsPublish packetId] [e₀] :=
      inOrder_singleton.mpr ⟨e₀, by simp, he₀⟩
    have hpubrelOrder : InOrder [Event.SendsPubrel packetId] [e₁] :=
      inOrder_singleton.mpr ⟨e₁, by simp, hpubrel'⟩
    exact (hpublish.append (inOrder_singleton.mpr hrecAck)).append
      (hpubrelOrder.append (inOrder_singleton.mpr hcompAck))

end Handshake

/-- A publish that reports success has gone through the handshake of its
message exactly when the broker answered with the identifier of the message. -/
theorem handshake_iff_acksCarryId (hpublish : P.paho.SerializesPublish)
    (hack : P.paho.SerializesAck) (hping : P.paho.SerializesPingreq)
    (hdeserialize : P.paho.DeserializesAck) {fuel : ℕ} {memory : Ptr → List UInt8}
    {topicName : Ptr} {msg msg' : MqttMessage} {es : List (Event W)}
    (h : mqttClientPublish P fuel memory self topicName msg timer s =
      .ok (mqttSuccess, msg', self') t) (htrace : t.trace = s.trace ++ es) :
    InOrder (handshake msg.qos msg'.id) es ↔
      AcksCarryId msg.qos (publishId self) (received es) := by
  obtain ⟨self₁, self₂, s₁, hassign, hsend, hcheck⟩ := mqttClientPublish_eq_ok h
  obtain ⟨-, hqos, -, hid⟩ := assignPacketId_eq_ok hassign
  obtain ⟨e₀, htrace₀, hsends⟩ := sendPublish_sends hpublish hsend
  rw [hqos] at hcheck
  obtain ⟨es₁, htrace₁⟩ : ∃ es₁, t.trace = s₁.trace ++ es₁ := by
    have hemits : Emits (fun _ ↦ True) (checkPublishQos P fuel self₂ msg.qos timer) :=
      emits_checkPublishQos (fun _ _ ↦ trivial)
        (fun self ↦ (emits_sendPingReq_isSend self).mono fun _ _ ↦ trivial)
        (fun type dup packetId self ↦ emits_sendSerialized self fun _ _ _ _ _ _ _ ↦ trivial)
        fuel self₂ msg.qos timer
    obtain ⟨es₁, htrace₁, -⟩ := hemits.ok hcheck
    exact ⟨es₁, htrace₁⟩
  obtain rfl : es = e₀ :: es₁ := by
    apply List.append_cancel_left (htrace.symm.trans _)
    rw [htrace₁, htrace₀]
    simp
  have he₀ : 0 < msg.qos.toNat → e₀.SendsPublish msg'.id := by
    intro hpos
    refine ⟨_, _, _, _, _, ?_, hsends⟩
    show 0 < msg'.qos.toNat
    rwa [hqos]
  have hreceived : received (e₀ :: es₁) = received es₁ :=
    List.filterMap_cons_none (by cases e₀ <;> first | exact hsends.elim | rfl)
  rw [hreceived]
  by_cases hone : msg.qos = 1
  · rw [← hid (Or.inl hone)]
    rw [hone] at hcheck he₀ ⊢
    exact handshake_one_iff hping (he₀ (by decide)) hcheck htrace₁
  by_cases htwo : msg.qos = 2
  · rw [← hid (Or.inr htwo)]
    rw [htwo] at hcheck he₀ ⊢
    exact handshake_two_iff hping (he₀ (by decide)) hack hdeserialize hcheck htrace₁
  · rw [handshake, if_neg hone, if_neg htwo, AcksCarryId, if_neg hone, if_neg htwo]
    simp

end Publish

/-! ## Runs on fixed streams -/

/-- A connected client that gives the identifier 2 to the next message. -/
def connectedClient : MqttClient World :=
  { smallClient with
    isConnected := true, nextPacketId := 1, sendbuf := List.replicate 16 0, sendTimeoutMs := 1000 }

def topicMemory : Ptr → List UInt8
  | .tmpBuffer offset => [97, 0].drop offset
  | _ => []

/-- It publishes a message without payload while the broker sends these bytes. -/
def publishRun (rx : List UInt8) :
    Outcome Stop (Sys World) (ℤ × MqttMessage × MqttClient World) :=
  mqttClientPublish (Platform.reference false) 4 topicMemory connectedClient (.tmpBuffer 0)
    { MqttMessage.zeroed with qos := 1, payload := .tmpBuffer 1 } none ⟨World.steady rx, []⟩

/-- The return code, the identifier and the packets received. -/
def publishResult (r : ℤ × MqttMessage × MqttClient World) (s : Sys World) :
    ℤ × UInt16 × List (ℤ × List UInt8) :=
  (r.1, r.2.1.id, received s.trace)

/-- The broker acknowledges the identifier 2. -/
theorem handshake_of_matching_puback :
    ∃ msg self t, publishRun [0x40, 2, 0, 2] = .ok (mqttSuccess, msg, self) t ∧
      InOrder (handshake 1 msg.id) t.trace := by
  have hview : (publishRun [0x40, 2, 0, 2]).view? publishResult =
      some (mqttSuccess, 2, [(4, [0x40, 2, 0, 2, 0])]) := by decide +kernel
  obtain ⟨⟨ret, msg, self⟩, t, hrun, hresult⟩ := Outcome.view?_eq_some_iff.mp hview
  obtain ⟨rfl, hresult⟩ := Prod.mk.inj hresult
  refine ⟨msg, self, t, hrun, (handshake_iff_acksCarryId Paho.reference.serializesPublish
    Paho.reference.serializesAck Paho.reference.serializesPingreq Paho.reference.deserializesAck
    hrun (List.nil_append _).symm).mpr ?_⟩
  rw [(Prod.mk.inj hresult).2]
  rintro buffer hbuffer
  obtain rfl : buffer = [0x40, 2, 0, 2, 0] := (Option.some.inj hbuffer).symm
  exact ⟨0x40, [0], rfl, rfl⟩

/-- The broker acknowledges the identifier 7, and the publish succeeds. -/
theorem not_handshake_of_stale_puback :
    connectedClient.isConnected = true ∧
      ∃ msg self t, publishRun [0x40, 2, 0, 7] = .ok (mqttSuccess, msg, self) t ∧
        msg.id = 2 ∧ ¬InOrder (handshake 1 msg.id) t.trace := by
  have hview : (publishRun [0x40, 2, 0, 7]).view? publishResult =
      some (mqttSuccess, 2, [(4, [0x40, 2, 0, 7, 0])]) := by decide +kernel
  obtain ⟨⟨ret, msg, self⟩, t, hrun, hresult⟩ := Outcome.view?_eq_some_iff.mp hview
  obtain ⟨rfl, hresult⟩ := Prod.mk.inj hresult
  obtain ⟨hid, hreceived⟩ := Prod.mk.inj hresult
  dsimp only at hid
  refine ⟨rfl, msg, self, t, hrun, hid, fun h ↦ ?_⟩
  obtain ⟨e, he, buffer, hbuffer, header, rest, -, hack⟩ :=
    h.exists_mem (p := Event.ReceivesAck .puback msg.id) (by simp [handshake])
  have hmem : ((4 : ℤ), buffer) ∈ received t.trace := List.mem_filterMap.mpr ⟨e, he, hbuffer⟩
  rw [hreceived] at hmem
  obtain rfl : buffer = [0x40, 2, 0, 7, 0] := (Prod.mk.inj (List.mem_singleton.mp hmem)).2
  simp [hid, u16] at hack

end DemoIotApp
