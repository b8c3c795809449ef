import DemoIotApp.Library.Forward
import DemoIotApp.Relay
import DemoIotApp.SessionOrder

/-!
# The order of the relayed messages

The component forwards the messages that it accepts. It is open as long as its client is
connected, and a publish that fails closes it. The initialisation sends no PUBLISH, and no
handler but the one for a PUBLISH does.
-/

namespace DemoIotApp

open Library Prog

/-! ## Accepted and relayed messages -/

/-- The PUBLISH that the client makes of an accepted message. -/
def CcFsm.relayed (self : CcFsm) : List UInt8 :=
  (self.outgoing (publishId self.client)).packet

/-- The PUBLISH packets that were handed to the connection to the cloud. -/
def publishPackets (es : List (Event World)) : List (List UInt8) :=
  (sentPackets es).filter fun p ↦ packetType p = some .publish

section Log

variable (P : Platform) (fuel : ℕ)

/-- `MQTT_client_publish` returns success for the accepted message. -/
def publishSucceeds (self : CcFsm) (s : Sys World) : Bool :=
  (mqttClientPublish P fuel self.memory self.client self.tmpDataPublish.szTopic
    self.tmpDataPublish.msg none s).view? (fun r _ ↦ r.1) = some mqttSuccess

/-- What `do_process_publish` accepts in a call of the sensor, and whether it is published. -/
def acceptedMessage (self : CcFsm) (sensorPort : SensorPort) (s : Sys World) :
    Option (CcFsm × Bool) :=
  match takeMessage P self sensorPort s with
  | .ok (some self) t => some (self, publishSucceeds P fuel self t)
  | .ok none _ => none
  | .stop _ _ => none

/-- The messages that are accepted in one call of the sensor after the other. -/
def acceptedMessages : List SensorPort → CcFsm → Sys World → List (CcFsm × Bool)
  | [], _, _ => []
  | sensorPort :: messages, self, s =>
      (acceptedMessage P fuel self sensorPort s).toList ++
        match serveMessage P fuel self sensorPort s with
        | .ok self t => acceptedMessages messages self t
        | .stop _ _ => []

end Log

/-- A part of a run is what a forwarder does with what was accepted. -/
def Forwards (accepted : Option (CcFsm × Bool)) (before after : Bool) (s t : Sys World) : Prop :=
  ∃ packets, publishPackets t.trace = publishPackets s.trace ++ packets ∧
    ForwardStep CcFsm.relayed accepted before after packets

/-! ## What is sent -/

section Packets

variable {s t u : Sys World} {packet : List UInt8} {rc : Option ℤ}

theorem Unsent.publishPackets (h : Unsent s t) :
    DemoIotApp.publishPackets t.trace = DemoIotApp.publishPackets s.trace := by
  rw [DemoIotApp.publishPackets, h.sentPackets, DemoIotApp.publishPackets]

theorem Sent.publishPackets (h : Sent packet s t rc)
    (hpacket : packetType packet = some .publish) :
    DemoIotApp.publishPackets t.trace = DemoIotApp.publishPackets s.trace ++ [packet] := by
  rw [DemoIotApp.publishPackets, h.sentPackets, List.filter_append, DemoIotApp.publishPackets]
  simp [hpacket]

theorem Sent.publishPackets_of_ne (h : Sent packet s t rc)
    (hpacket : packetType packet ≠ some .publish) :
    DemoIotApp.publishPackets t.trace = DemoIotApp.publishPackets s.trace := by
  rw [DemoIotApp.publishPackets, h.sentPackets, List.filter_append, DemoIotApp.publishPackets]
  simp [hpacket]

theorem forwards_none {connected : Bool}
    (h : publishPackets t.trace = publishPackets s.trace) :
    Forwards none connected connected s t :=
  ⟨[], by rw [h, List.append_nil], .ignored connected⟩

theorem Forwards.of_unsent {accepted : Option (CcFsm × Bool)} {before after : Bool}
    (h : Forwards accepted before after s t) (hsent : Unsent t u) :
    Forwards accepted before after s u := by
  obtain ⟨packets, hpackets, hstep⟩ := h
  exact ⟨packets, hsent.publishPackets.trans hpackets, hstep⟩

theorem Forwards.from_unsent {accepted : Option (CcFsm × Bool)} {before after : Bool}
    (h : Forwards accepted before after t u) (hsent : Unsent s t) :
    Forwards accepted before after s u := by
  obtain ⟨packets, hpackets, hstep⟩ := h
  exact ⟨packets, by rw [hpackets, hsent.publishPackets], hstep⟩

end Packets

/-! ## One message -/

section Message

variable {P : Platform} {fuel netFuel : ℕ} {self self' : CcFsm} {sensorPort : SensorPort}
  {s t u : Sys World}

theorem publishSucceeds_eq_true_iff :
    publishSucceeds P fuel self s = true ↔ ∃ r t, mqttClientPublish P fuel self.memory
      self.client self.tmpDataPublish.szTopic self.tmpDataPublish.msg none s = .ok r t ∧
        r.1 = mqttSuccess := by
  rw [publishSucceeds, decide_eq_true_iff, Outcome.view?_eq_some_iff]

/-- With quality of service 1 the client serialises the relayed packet and nothing else. -/
theorem writes_relayed (hpaho : P.paho.SerializesPublish)
    (hqos : self.tmpDataPublish.msg.qos = 1) {id : UInt16}
    (hid : self.tmpDataPublish.msg.qos = 1 ∨ self.tmpDataPublish.msg.qos = 2 →
      id = publishId self.client) :
    WritesOnly (fun packet ↦ packet = self.relayed ∧ IsPacket .publish packet) pahoSendBuffSize
      (P.paho.serializePublish (self.outgoing id)) := by
  intro buf hbuf hpos
  have hwritten := (hpaho (self.outgoing id) buf).1 hpos
  rw [hwritten.take]
  refine ⟨by rw [hid (Or.inl hqos)]; rfl, ?_⟩
  exact isPacket_of_length (headerType_publishHeader _ _ _) (hwritten.1.trans_eq hbuf)

/-- The component is open, and the message was not handed over yet. -/
def Pending (self : CcFsm) (s t : Sys World) : Prop :=
  self.client.isConnected = true ∧ publishPackets t.trace = publishPackets s.trace

/-- The component is open, and the message was handed over. -/
def HandedOver (self : CcFsm) (s t : Sys World) : Prop :=
  self.client.isConnected = true ∧
    publishPackets t.trace = publishPackets s.trace ++ [self.relayed]

/-- The message was handed over once or not at all. -/
def AtMostOnce (self : CcFsm) (s t : Sys World) : Prop :=
  publishPackets t.trace = publishPackets s.trace ∨ HandedOver self s t

theorem Pending.trans (h : Pending self s t)
    (htu : publishPackets u.trace = publishPackets t.trace) : Pending self s u :=
  ⟨h.1, htu.trans h.2⟩

theorem HandedOver.trans (h : HandedOver self s t)
    (htu : publishPackets u.trace = publishPackets t.trace) : HandedOver self s u :=
  ⟨h.1, htu.trans h.2⟩

theorem AtMostOnce.trans (h : AtMostOnce self s t)
    (htu : publishPackets u.trace = publishPackets t.trace) : AtMostOnce self s u :=
  h.imp (fun h ↦ htu.trans h) fun h ↦ h.trans htu

/-- A publish that has failed leaves the message behind or breaks the session with it. -/
theorem AtMostOnce.forwards (h : AtMostOnce self s t) :
    Forwards (some (self, false)) self.client.isConnected false s t := by
  rcases h with hsame | ⟨hopen, hpackets⟩
  · exact ⟨[], by rw [hsame, List.append_nil], .refused self _⟩
  · exact ⟨_, hpackets, hopen ▸ .broken self⟩

theorem HandedOver.forwards (h : HandedOver self s t) (connected : Bool) :
    Forwards (some (self, true)) self.client.isConnected connected s t := by
  rw [h.1]
  exact ⟨_, h.2, .forwarded self connected⟩

/-- Relaying hands the message over when it succeeds, and closes the session otherwise. -/
theorem post_relayPublish_atMostOnce (hpaho : P.paho.SerializesSession)
    (hself : self.Ready netFuel) (hqos : self.tmpDataPublish.msg.qos = 1) (s : Sys World) :
    Post (relayPublish P fuel self) s
      (fun r t ↦ r.2.Ready netFuel ∧ AtMostOnce self s t ∧ (r.1 = 0 → HandedOver self s t) ∧
        (r.2.client.isConnected = true → r.1 = 0))
      fun _ t ↦ AtMostOnce self s t := by
  have K₀ : WaitKeeps P (netWan netFuel) pahoRecvBuffSize 0 (Pending self s)
      fun _ ↦ AtMostOnce self s :=
    ReceiveKeeps.waitKeeps ⟨fun t u ht htu ↦ ht.trans htu.unsent.publishPackets,
      fun _ t _ ht ↦ Or.inl ht.2⟩ P netFuel pahoRecvBuffSize
  have K : WaitKeeps P (netWan netFuel) pahoRecvBuffSize 0 (HandedOver self s)
      fun _ ↦ AtMostOnce self s :=
    ReceiveKeeps.waitKeeps ⟨fun t u ht htu ↦ ht.trans htu.unsent.publishPackets,
      fun _ t _ ht ↦ Or.inr ht⟩ P netFuel pahoRecvBuffSize
  have hclock : Keeps (AtMostOnce self s) (fun _ ↦ AtMostOnce self s) (fun _ ↦ True) readClock :=
    fun t ht ↦ ⟨trivial, ht.trans rfl⟩
  have hpub : SendLeaves (netWan netFuel)
      (fun packet ↦ packet = self.relayed ∧ IsPacket .publish packet) (Pending self s)
      (AtMostOnce self s) (HandedOver self s) fun _ ↦ AtMostOnce self s := by
    refine sendLeaves_netWan netFuel (fun _ ht ↦ Or.inl ht.2) (fun _ ht ↦ Or.inr ht) ?_
      fun _ ht ↦ ht
    rintro _ t u rc ⟨rfl, hpacket⟩ ht hsent
    have hu : HandedOver self s u :=
      ⟨ht.1, by rw [hsent.publishPackets hpacket.packetType, ht.2]⟩
    exact ⟨Or.inr hu, fun _ ↦ hu⟩
  have hpubrel : SendLeaves (netWan netFuel) (IsPacket .pubrel) (HandedOver self s)
      (AtMostOnce self s) (HandedOver self s) fun _ ↦ AtMostOnce self s := by
    refine sendLeaves_netWan netFuel (fun _ ht ↦ Or.inr ht) (fun _ ht ↦ Or.inr ht) ?_
      fun _ ht ↦ ht
    intro packet t u rc hpacket ht hsent
    have hu := ht.trans (hsent.publishPackets_of_ne (by simp [hpacket.packetType]))
    exact ⟨Or.inr hu, fun _ ↦ hu⟩
  have hclose : SendLeaves (netWan netFuel) (IsPacket .disconnect) (AtMostOnce self s)
      (AtMostOnce self s) (AtMostOnce self s) fun _ ↦ AtMostOnce self s := by
    refine sendLeaves_netWan netFuel (fun _ ht ↦ ht) (fun _ ht ↦ ht) ?_ fun _ ht ↦ ht
    intro packet t u rc hpacket ht hsent
    have hu := ht.trans (hsent.publishPackets_of_ne (by simp [hpacket.packetType]))
    exact ⟨hu, fun _ ↦ hu⟩
  exact post_relayPublish K₀ K hclock hpub hpubrel hclose
    (fun _ hid ↦ writes_relayed hpaho.publish hqos hid) hpaho.writes_pubrel
    hpaho.writes_disconnect hself (Or.inl rfl) (fun hopen ↦ ⟨hopen, rfl⟩) fun _ _ _ _ h ↦ h

theorem post_relayPublish_forwards (hpaho : P.paho.SerializesSession)
    (hself : self.Ready netFuel) (hqos : self.tmpDataPublish.msg.qos = 1) (s : Sys World) :
    Post (relayPublish P fuel self) s
      (fun r t ↦ r.2.Ready netFuel ∧ Forwards (some (self, publishSucceeds P fuel self s))
        self.client.isConnected r.2.client.isConnected s t)
      fun _ t ↦ ∃ connected, Forwards (some (self, publishSucceeds P fuel self s))
        self.client.isConnected connected s t := by
  have hrelay : Post (relayPublish P fuel self) s _ _ :=
    post_relayPublish_atMostOnce hpaho hself hqos s
  refine post_intro (fun r t hrun ↦ ?_) fun e t hrun ↦ ?_
  · obtain ⟨hready, hmost, hdone, hopen⟩ := hrelay.ok hrun
    obtain ⟨pr, u, hpublish, hret⟩ := relayPublish_eq_ok hrun
    refine ⟨hready, ?_⟩
    by_cases hzero : r.1 = 0
    · have hsucceeds : publishSucceeds P fuel self s = true :=
        publishSucceeds_eq_true_iff.mpr ⟨pr, u, hpublish, hret.mp hzero⟩
      rw [hsucceeds]
      exact (hdone hzero).forwards _
    · have hfails : publishSucceeds P fuel self s = false := by
        rw [← Bool.not_eq_true, publishSucceeds_eq_true_iff]
        rintro ⟨pr', u', hpublish', hsuccess⟩
        obtain ⟨rfl, -⟩ := Outcome.ok.inj (hpublish.symm.trans hpublish')
        exact hzero (hret.mpr hsuccess)
      have hclosed : r.2.client.isConnected = false :=
        Bool.not_eq_true _ ▸ fun h ↦ hzero (hopen h)
      rw [hfails, hclosed]
      exact hmost.forwards
  · have hfails : publishSucceeds P fuel self s = false := by
      rw [← Bool.not_eq_true, publishSucceeds_eq_true_iff]
      rintro ⟨⟨ret, msg, client⟩, u, hpublish, rfl⟩
      exact nomatch (bind_eq_of_ok hpublish).symm.trans hrun
    rw [hfails]
    exact ⟨false, (hrelay.stop hrun).forwards⟩

theorem processMessage_of_accepted (hself : self.Ready netFuel)
    (h : acceptMessage P self sensorPort s = .ok (some self') s) :
    processMessage P fuel self sensorPort s = relayPublish P fuel self' s := by
  obtain ⟨htype, hrun⟩ := acceptMessage_eq_some h
  rw [processMessage_of_publish hself htype, bind_eq_of_ok hrun]
  rfl

/-- A message that is not accepted makes the component send no PUBLISH. -/
theorem post_processMessage_of_not_accepted (hP : P.ProcessesPackets)
    (hself : self.Ready netFuel)
    (h : ∀ self', acceptMessage P self sensorPort s ≠ .ok (some self') s) :
    Post (processMessage P fuel self sensorPort) s
      (fun r t ↦ r.2.Ready netFuel ∧
        Forwards none self.client.isConnected r.2.client.isConnected s t)
      fun _ t ↦ ∃ connected, Forwards none self.client.isConnected connected s t := by
  have hsame : ∀ {connected : Bool}, Forwards none connected connected s s := forwards_none rfl
  apply post_processMessage hP hself sensorPort ⟨_, hsame⟩ ⟨_, hsame⟩
  · intro self' _ hself' hclient
    rw [hclient]
    exact ⟨hself', hsame⟩
  · intro _
    have hlan : SendKeeps (Network.unset .lan) (fun _ ↦ True)
        (fun t ↦ publishPackets t.trace = publishPackets s.trace)
        fun _ t ↦ publishPackets t.trace = publishPackets s.trace :=
      sendKeeps_unset .lan (fun t ht ↦ ht) fun t packet before ht ↦ by
        have hlog := unsent_log (e := .sendPacket .lan packet before t.world none) rfl t
        exact hlog.publishPackets.trans ht
    have hkeeps := keeps_handleMqttConnect (P := P) (fun t ht ↦ ⟨trivial, ht⟩) hlan
      (hself.withReadBuff sensorPort)
    apply (hkeeps s rfl).mono
    · rintro ⟨ret, self'⟩ t ⟨⟨hself', hclient⟩, ht⟩
      refine ⟨hself', ?_⟩
      rw [hclient]
      exact forwards_none ht
    · exact fun e t ht ↦ ⟨_, forwards_none ht⟩
  · exact fun self' haccept ↦ absurd haccept (h self')

/-- One call of the sensor is a step of the forwarder. -/
theorem post_serveMessage_forwards (hP : P.ProcessesPackets) (hpaho : P.paho.SerializesSession)
    (hself : self.Ready netFuel) (sensorPort : SensorPort) (s : Sys World) :
    Post (serveMessage P fuel self sensorPort) s
      (fun self' t ↦ self'.Ready netFuel ∧ Forwards (acceptedMessage P fuel self sensorPort s)
        self.client.isConnected self'.client.isConnected s t)
      fun _ t ↦ ∃ connected, Forwards (acceptedMessage P fuel self sensorPort s)
        self.client.isConnected connected s t := by
  refine post_serveMessage (fun e t hwait hsent ↦ ?_) (fun self' t u ht hsent ↦ ?_)
    fun rc t hwait hsent ↦ ?_
  · have hnone : acceptedMessage P fuel self sensorPort s = none := by
      rw [acceptedMessage, takeMessage, bind_eq_of_stop hwait]
    rw [hnone]
    exact ⟨_, forwards_none hsent.publishPackets⟩
  · exact ⟨ht.1, ht.2.of_unsent hsent⟩
  have htake : takeMessage P self sensorPort s = acceptMessage P self sensorPort t :=
    bind_eq_of_ok hwait
  have haccept := post_acceptMessage hP sensorPort hself.payloadlen t
  suffices hprocess : Post (processMessage P fuel self sensorPort) t
      (fun r u ↦ r.2.Ready netFuel ∧ Forwards (acceptedMessage P fuel self sensorPort s)
        self.client.isConnected r.2.client.isConnected t u)
      fun _ u ↦ ∃ connected, Forwards (acceptedMessage P fuel self sensorPort s)
        self.client.isConnected connected t u from
    hprocess.mono (fun r u hu ↦ ⟨hu.1, hu.2.from_unsent hsent⟩)
      fun e u hu ↦ hu.imp fun _ h ↦ h.from_unsent hsent
  rw [acceptedMessage, htake]
  cases hrun : acceptMessage P self sensorPort t with
  | stop e u =>
      exact post_processMessage_of_not_accepted hP hself fun _ h ↦ nomatch hrun.symm.trans h
  | ok accepted u =>
      obtain ⟨rfl, haccepted⟩ := haccept.ok hrun
      cases accepted with
      | none =>
          exact post_processMessage_of_not_accepted hP hself fun _ h ↦ nomatch hrun.symm.trans h
      | some self' =>
          obtain ⟨hprocessed, hqos⟩ := haccepted self' rfl
          have hself' := (hself.receiving sensorPort).of_processed hprocessed
          have hclient : self'.client = self.client := hprocessed.client
          have hrelay : Post (relayPublish P fuel self') u _ _ :=
            post_relayPublish_forwards hpaho hself' hqos u
          rw [Post, processMessage_of_accepted hself hrun, ← hclient]
          exact hrelay

end Message

/-! ## Runs -/

section Runs

variable {P : Platform} {fuel netFuel : ℕ} {self : CcFsm}

/-- The messages of the sensor are a run of the forwarder. -/
theorem forwardRun_serveMessages (hP : P.ProcessesPackets) (hpaho : P.paho.SerializesSession)
    (messages : List SensorPort) (hself : self.Ready netFuel) (s : Sys World) :
    ∃ packets, publishPackets (serveMessages P fuel self messages s).state.trace =
        publishPackets s.trace ++ packets ∧
      ForwardRun CcFsm.relayed self.client.isConnected
        (acceptedMessages P fuel messages self s) packets := by
  induction messages generalizing self s with
  | nil => exact ⟨[], (List.append_nil _).symm, .nil _⟩
  | cons sensorPort messages ih =>
      have hstep : Post (serveMessage P fuel self sensorPort) s _ _ :=
        post_serveMessage_forwards hP hpaho hself sensorPort s
      rw [serveMessages, List.foldlM_cons, acceptedMessages]
      cases hrun : serveMessage P fuel self sensorPort s with
      | ok self' t =>
          obtain ⟨hself', packets, hpackets, hforward⟩ := hstep.ok hrun
          obtain ⟨packets', hpackets', hrest⟩ := ih hself' t
          refine ⟨packets ++ packets', ?_, .cons hforward hrest⟩
          rw [bind_eq_of_ok hrun, ← List.append_assoc, ← hpackets]
          exact hpackets'
      | stop e t =>
          obtain ⟨connected, packets, hpackets, hforward⟩ := hstep.stop hrun
          refine ⟨packets, ?_, ?_⟩
          · rw [bind_eq_of_stop hrun]
            exact hpackets
          · rw [List.append_nil]
            exact hforward.run

theorem opensSession_unpublished :
    OpensSession (fun s ↦ publishPackets s.trace = []) (fun s ↦ publishPackets s.trace = [])
      fun s ↦ publishPackets s.trace = [] where
  any_of_new _ hs := hs
  any_of_open _ hs := hs
  new_unsent _ _ hs hst := hst.publishPackets.trans hs
  open_unsent _ _ hs hst := hst.publishPackets.trans hs
  connect packet s t rc hpacket hs hsent := by
    have ht := (hsent.publishPackets_of_ne (by simp [hpacket.packetType])).trans hs
    exact ⟨ht, fun _ ↦ ht⟩

/-- Behind every successful initialisation the PUBLISH packets belong, one by one and in
order, to a prefix of the accepted messages. It ends at the first one that cannot be
published. -/
theorem forwardsPrefix_of_run (hP : P.ProcessesPackets) (hpaho : P.paho.SerializesSession)
    (fuel : ℕ) (w : World) (messages : List SensorPort) :
    Post (run P fuel) ⟨w, []⟩
      (fun r t ↦ r.1 = 0 → ForwardsPrefix CcFsm.relayed (acceptedMessages P fuel messages r.2 t)
        (publishPackets (serveMessages P fuel r.2 messages t).state.trace))
      fun _ _ ↦ True := by
  have hrun : Post (run P fuel) ⟨w, []⟩ _ _ := opensSession_unpublished.post_run hpaho rfl
  apply hrun.mono _ fun _ _ _ ↦ trivial
  rintro r t ⟨⟨hnone, -⟩, hready⟩ hret
  obtain ⟨netFuel, hself⟩ := hready hret
  obtain ⟨packets, hpackets, hforward⟩ := forwardRun_serveMessages hP hpaho messages hself t
  rw [hpackets, hnone, List.nil_append]
  exact hforward.forwardsPrefix

end Runs

/-- The broker acknowledges the CONNECT and one PUBLISH, and two messages follow. -/
theorem forwardsPrefix_of_one_ack :
    ∃ self t, run (Platform.reference false) 8
        ⟨World.steady [0x20, 2, 0, 0, 0x40, 2, 0, 2], []⟩ = .ok (0, self) t ∧
      ForwardsPrefix CcFsm.relayed
        (acceptedMessages (Platform.reference false) 8 [smallPublish, smallPublish] self t)
        (publishPackets (serveMessages (Platform.reference false) 8 self
          [smallPublish, smallPublish] t).state.trace) := by
  have hview : (run (Platform.reference false) 8
      ⟨World.steady [0x20, 2, 0, 0, 0x40, 2, 0, 2], []⟩).view? (fun r _ ↦ r.1) = some 0 := by
    decide +kernel
  obtain ⟨⟨ret, self⟩, t, hrun, hret⟩ := Outcome.view?_eq_some_iff.mp hview
  obtain rfl : ret = 0 := hret
  exact ⟨self, t, hrun, (forwardsPrefix_of_run (Platform.reference_processesPackets false)
    Paho.reference_serializesSession 8 _ _).ok hrun rfl⟩

end DemoIotApp
