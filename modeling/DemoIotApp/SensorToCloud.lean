import DemoIotApp.Robustness
import DemoIotApp.SensorMessage

/-!
# From the settings of the sensor to the cloud

The sensor makes one packet of its two settings and leaves it in the port in every turn. The
component takes the packet apart and makes another one of it. What the broker gets are the
settings again, in every interleaving of the threads, however the connection behaves.
-/

namespace DemoIotApp

open Library Prog

/-! ## What is in the port -/

namespace Sensor

variable {S : Sensor} {topic payload : List UInt8} {fuel : ℕ}

/-- The two settings can be read, and both are strings that end inside their arrays. -/
structure Configured (S : Sensor) (fuel : ℕ) (topic payload : List UInt8) : Prop where
  initialized : S.initializeSensor = osSuccess
  delivers_topic : S.config.Delivers fuel domainSensor mqttTopicName topic
  delivers_payload : S.config.Delivers fuel domainSensor mqttPayloadName payload
  topicFits : FitsAsString topic
  payloadFits : FitsAsString payload

theorem Configured.run_eq (h : S.Configured fuel topic payload)
    (hpaho : S.platform.paho.SerializesPublish) (turns : ℕ) :
    S.run fuel turns = S.sendForever (sensorPacket topic payload ++
      S.serializedMsg.drop (sensorPacket topic payload).length)
      (sensorPacket topic payload).length turns := by
  obtain ⟨htopicZero, -⟩ := (fitsAsString_iff h.topicFits.1.le).mp h.topicFits
  obtain ⟨hpayloadZero, -⟩ := (fitsAsString_iff h.payloadFits.1.le).mp h.payloadFits
  exact (run_eq_publishForever h.initialized h.payloadFits.1.le h.topicFits.1.le
    h.delivers_payload h.delivers_topic turns).trans (publishForever_eq_sendForever hpaho
      h.payloadFits.1.le h.topicFits.1.le hpayloadZero htopicZero turns)

theorem length_packet_of_settings (htopic : FitsAsString topic) (hpayload : FitsAsString payload) :
    (sensorPacket topic payload).length ≤ 320 := by
  refine length_sensorPacket_le ?_ ?_
  · rw [cString_eq_self_iff.mpr htopic.2]
    exact htopic.1
  · rw [cString_eq_self_iff.mpr hpayload.2]
    exact hpayload.1

/-- In every call the port begins with the packet of the two settings. -/
theorem Configured.sent (h : S.Configured fuel topic payload)
    (hpaho : S.platform.paho.SerializesPublish) (turns : ℕ) {s : SensorState} (hs : s.sent = []) :
    ∀ w ∈ (S.run fuel turns s).state.sent,
      w.2.take (sensorPacket topic payload).length = sensorPacket topic payload := by
  obtain ⟨t, new, hsend, hnew, -, hall⟩ := sendForever_packet (S := S)
    (S.serializedMsg.drop (sensorPacket topic payload).length)
    (length_packet_of_settings h.topicFits h.payloadFits) turns s
  intro w hw
  rw [h.run_eq hpaho, hsend, Outcome.state_stop, hnew, hs, List.nil_append] at hw
  exact (hall w hw).2

theorem Configured.packet_of_sent (h : S.Configured fuel topic payload)
    (hpaho : S.platform.paho.SerializesPublish) {turns : ℕ} {s : SensorState} (hs : s.sent = [])
    {port : SensorPort} (hport : ∃ w ∈ (S.run fuel turns s).state.sent, w.2 = port.bytes) :
    port.bytes.take (sensorPacket topic payload).length = sensorPacket topic payload := by
  obtain ⟨w, hw, hbytes⟩ := hport
  rw [← hbytes]
  exact h.sent hpaho turns hs w hw

theorem Configured.length_sent (h : S.Configured fuel topic payload)
    (hpaho : S.platform.paho.SerializesPublish) (turns : ℕ) {s : SensorState} (hs : s.sent = []) :
    (S.run fuel turns s).state.sent.length = turns := by
  obtain ⟨t, new, hsend, hnew, hlength, -⟩ := sendForever_packet (S := S)
    (S.serializedMsg.drop (sensorPacket topic payload).length)
    (length_packet_of_settings h.topicFits h.payloadFits) turns s
  rw [h.run_eq hpaho, hsend, Outcome.state_stop, hnew, hs, List.nil_append, hlength]

/-- A call hands over what is in the port. -/
theorem post_write_port (msg : List UInt8) (len : ℤ) (s : SensorState) :
    Post (S.write msg len) s (fun _ t ↦ ∃ w ∈ t.sent, w.2 = t.port.bytes) fun _ t ↦ t = s := by
  unfold write
  dsimp only
  split_ifs with hread hfits
  · exact rfl
  · exact ⟨_, List.mem_append_right _ (List.mem_singleton_self _), rfl⟩
  · exact rfl

theorem sendForever_port {msg : List UInt8} {len : ℤ} {turns : ℕ} {s : SensorState}
    (hs : ∃ w ∈ s.sent, w.2 = s.port.bytes) :
    ∃ w ∈ (S.sendForever msg len turns s).state.sent,
      w.2 = (S.sendForever msg len turns s).state.port.bytes := by
  induction turns generalizing s with
  | zero => exact hs
  | succ turns ih =>
      rw [sendForever]
      cases hwrite : S.write msg len s with
      | ok code t =>
          rw [bind_eq_of_ok hwrite]
          exact ih ((post_write_port msg len s).ok hwrite)
      | stop e t =>
          rw [bind_eq_of_stop hwrite, Outcome.state_stop, (post_write_port msg len s).stop hwrite]
          exact hs

/-- What the sensor has handed over last is still in the port. -/
theorem Configured.port (h : S.Configured fuel topic payload)
    (hpaho : S.platform.paho.SerializesPublish) {turns : ℕ} (hturns : 0 < turns)
    (s : SensorState) :
    ∃ w ∈ (S.run fuel turns s).state.sent, w.2 = (S.run fuel turns s).state.port.bytes := by
  obtain ⟨turns, rfl⟩ := Nat.exists_eq_add_one_of_ne_zero hturns.ne'
  obtain ⟨code, t, hwrite, -⟩ := write_packet (S := S)
    (S.serializedMsg.drop (sensorPacket topic payload).length)
    (length_packet_of_settings h.topicFits h.payloadFits) s
  rw [h.run_eq hpaho, sendForever, bind_eq_of_ok hwrite]
  exact sendForever_port ((post_write_port _ _ s).ok hwrite)

end Sensor

/-! ## What is made of it -/

section Taken

variable {P : Platform} {fuel netFuel : ℕ} {self : CcFsm} {sensorPort : SensorPort} {s : Sys World}
  {topic payload : List UInt8}

/-- Handling a message keeps the component set up. -/
theorem post_serveMessage_ready (hP : P.ProcessesPackets) (hself : self.Ready netFuel)
    (sensorPort : SensorPort) (s : Sys World) :
    Post (serveMessage P fuel self sensorPort) s (fun self' _ ↦ self'.Ready netFuel)
      fun _ _ ↦ True := by
  have K := receiveKeeps_true.waitKeeps P netFuel pahoRecvBuffSize
  have hprocess := keeps_processMessage fuel K hP (fun _ _ ↦ trivial) (sendKeeps_true _)
    P.paho.sendsOnly_true sensorPort (fun _ ↦ sendKeeps_true _) hself
  exact post_serveMessage (fun _ _ _ _ ↦ trivial) (fun _ _ _ h _ ↦ h) fun _ t _ _ ↦
    (hprocess t trivial).mono (fun _ _ h ↦ h.1) fun _ _ h ↦ h

/-- The packet that the sensor makes is a PUBLISH of the two settings. -/
theorem exists_packet_of_settings (htopic : FitsAsString topic) (hpayload : FitsAsString payload) :
    ∃ p : Packet, p.bytes = sensorPacket topic payload ∧ IsPublish p 1 topic payload ∧
      p.header = publishHeader 0 1 0 := by
  have hbody : (publishBody 1 1 topic payload).length < 2 ^ 28 := by
    have htopicLength := htopic.1
    have hpayloadLength := hpayload.1
    simp only [publishBody, List.length_append, length_u16, Nat.zero_lt_one, if_true]
    omega
  have hqos : headerQos (publishHeader 0 1 0) = 1 := by decide
  refine ⟨.ofPayload (publishHeader 0 1 0) (publishBody 1 1 topic payload) hbody, ?_,
    ⟨headerType_publishHeader 0 1 0, ?_⟩, rfl⟩
  · rw [sensorPacket, cString_eq_self_iff.mpr htopic.2, cString_eq_self_iff.mpr hpayload.2]
    rfl
  · show publishBody 1 1 topic payload =
      publishBody (headerQos (publishHeader 0 1 0)) 1 topic payload
    rw [hqos]

/-- The component reads enough of the port to get all of the packet. -/
theorem exists_read_of_settings (htopic : FitsAsString topic) (hpayload : FitsAsString payload)
    (hport : sensorPort.bytes.take (sensorPacket topic payload).length =
      sensorPacket topic payload) :
    ∃ rest, sensorPort.bytes.take pahoRecvBuffSize = sensorPacket topic payload ++ rest := by
  have hlong : (sensorPacket topic payload).length ≤ pahoRecvBuffSize :=
    (Sensor.length_packet_of_settings htopic hpayload).trans (by decide)
  have hprefix := List.take_prefix_take_left (l := sensorPort.bytes) hlong
  rw [hport] at hprefix
  obtain ⟨rest, h⟩ := hprefix
  exact ⟨rest, h.symm⟩

/-- The packet of the sensor, if it is accepted, is taken for the message that was put in. -/
theorem takenMessage_of_settings (hP : P.ProcessesPackets)
    (hdeserialize : P.paho.DeserializesPublish) (hself : self.Ready netFuel)
    (htopic : FitsAsString topic) (hpayload : FitsAsString payload)
    (hport : sensorPort.bytes.take (sensorPacket topic payload).length =
      sensorPacket topic payload) :
    ∀ m ∈ takenMessage P self s sensorPort, m = ⟨0, topic, payload⟩ := by
  intro m hm
  obtain ⟨p, hbytes, hpublish, hheader⟩ := exists_packet_of_settings htopic hpayload
  obtain ⟨rest, hread⟩ := exists_read_of_settings htopic hpayload hport
  rw [← hbytes] at hread
  rw [takenMessage] at hm
  cases htake : takeMessage P self sensorPort s with
  | stop e t =>
      rw [htake] at hm
      cases hm
  | ok accepted t =>
      rw [htake] at hm
      cases accepted with
      | none => cases hm
      | some self' =>
          obtain rfl : self'.message = m := Option.some.inj hm
          obtain ⟨rc, u, -, haccept⟩ := bind_eq_ok_iff.mp htake
          obtain ⟨-, hprocess⟩ := acceptMessage_eq_some haccept
          obtain ⟨-, -, -, hcarries⟩ := outgoing_of_accepted hP.appends hdeserialize
            (hself.receiving sensorPort) hread hpublish hprocess 0
          rw [behindTopic_drop, hheader, if_neg (by decide),
            cString_eq_self_iff.mpr htopic.2] at hcarries
          exact CcFsm.message_of_carries (m := ⟨0, topic, payload⟩) hcarries

/-- All that an open session is given are the messages of the sensor. -/
theorem takenInRun_of_settings (hP : P.ProcessesPackets)
    (hdeserialize : P.paho.DeserializesPublish) (htopic : FitsAsString topic)
    (hpayload : FitsAsString payload) {messages : List SensorPort}
    (hports : ∀ sensorPort ∈ messages,
      sensorPort.bytes.take (sensorPacket topic payload).length = sensorPacket topic payload)
    {n : ℕ} (hbegun : ∀ r t, run P fuel s = .ok r t → Relays r.2 t (.opened n)) :
    (takenInRun P fuel messages s).reduceOption =
      List.replicate (takenInRun P fuel messages s).reduceOption.length ⟨0, topic, payload⟩ := by
  refine List.eq_replicate_of_mem fun m hm ↦ ?_
  rw [List.reduceOption_mem_iff, takenInRun] at hm
  cases hrun : run P fuel s with
  | stop e t =>
      rw [hrun] at hm
      exact nomatch hm
  | ok r t =>
      rw [hrun] at hm
      obtain ⟨hself, hopen, -⟩ := hbegun r t hrun
      have hready : ∃ netFuel, r.2.Ready netFuel := by
        rcases hself with hzeroed | hready
        · rw [hzeroed] at hopen
          exact nomatch hopen
        · exact hready
      refine Machine.mem_inputsAlong (I := fun self _ ↦ ∃ netFuel, self.Ready netFuel)
        (K := fun accepted ↦ ∀ m ∈ accepted, m = ⟨0, topic, payload⟩) ?_ ?_ hready (some m) hm m rfl
      · rintro self u sensorPort ⟨netFuel, hself⟩
        exact (post_serveMessage_ready hP hself sensorPort u).mono (fun _ _ h ↦ ⟨netFuel, h⟩)
          fun _ _ h ↦ h
      · rintro self u sensorPort hmem ⟨netFuel, hself⟩
        exact takenMessage_of_settings hP hdeserialize hself htopic hpayload (hports _ hmem)

theorem Serves.settings (hP : P.ProcessesPackets) (hdeserialize : P.paho.DeserializesPublish)
    (htopic : FitsAsString topic) (hpayload : FitsAsString payload) {messages : List SensorPort}
    (hports : ∀ sensorPort ∈ messages,
      sensorPort.bytes.take (sensorPacket topic payload).length = sensorPacket topic payload)
    {packets : List (List UInt8)} {b : RelayState} (h : Serves P fuel messages s packets b) :
    ∃ k, SessionLanguage (List.replicate k ⟨0, topic, payload⟩) packets := by
  have hlanguage := h.sessionLanguage
  obtain ⟨connects, a, outs, rfl, ha, hbegun, houts⟩ := h
  cases a with
  | opened n =>
      rw [takenInRun_of_settings hP hdeserialize htopic hpayload hports hbegun] at hlanguage
      exact ⟨_, hlanguage⟩
  | closed =>
      obtain ⟨-, rfl⟩ := run_closed houts
      refine ⟨(takenInRun P fuel messages s).reduceOption.length, connects, [], _, rfl,
        ha.imp_left fun h ↦ ⟨h, rfl⟩, List.nil_prefix, ?_⟩
      rw [List.length_nil, Nat.zero_add, List.length_replicate]
      exact Nat.le_succ _

end Taken

/-! ## The whole way -/

namespace Threads

section Whole

variable {P : Platform} {S : Sensor} {fuel configFuel n : ℕ} {topic payload : List UInt8}
  {ports : List SensorPort} {start : SensorState}

/-- From the settings to the broker: when the ports are what the sensor has left in them, then in
every interleaving in which no `sem_wait` fails the packets are at most one CONNECT, PUBLISH
packets of just these two settings, numbered one after the other, and then DISCONNECT packets. -/
theorem interleave_settings (hP : P.ProcessesPackets) (hpaho : P.paho.SerializesSession)
    (hdeserialize : P.paho.DeserializesPublish) (hsensor : S.platform.paho.SerializesPublish)
    (hconfigured : S.Configured configFuel topic payload) (hstart : start.sent = [])
    (hports : ∀ port ∈ ports, ∃ w ∈ (S.run configFuel n start).state.sent, w.2 = port.bytes)
    (w : World) {turns : List Turn} (hturns : ∀ turn ∈ turns, turn.Within fuel ports)
    (hwaits : WaitsSucceed P turns (initial w)) :
    Post (interleave P turns) (initial w)
      (fun _ threads ↦ ∃ k, SessionLanguage (List.replicate k ⟨0, topic, payload⟩)
        (sentPackets threads.sys.trace))
      fun _ threads ↦ ∃ k, SessionLanguage (List.replicate k ⟨0, topic, payload⟩)
        (sentPackets threads.sys.trace) := by
  have hpacket : ∀ port ∈ ports, port.bytes.take (sensorPacket topic payload).length =
      sensorPacket topic payload :=
    fun port hport ↦ hconfigured.packet_of_sent hsensor hstart (hports port hport)
  have hlanguage : ∀ {messages : List SensorPort} {s : Sys World}, messages ⊆ ports →
      (∃ b packets, Serves P fuel messages (initial w).sys packets b ∧
        sentPackets s.trace <+: packets) →
      ∃ k, SessionLanguage (List.replicate k ⟨0, topic, payload⟩) (sentPackets s.trace) := by
    rintro messages s hmessages ⟨b, packets, hb, hprefix⟩
    obtain ⟨k, hk⟩ := hb.settings hP hdeserialize hconfigured.topicFits hconfigured.payloadFits
      fun port hport ↦ hpacket port (hmessages hport)
    exact ⟨k, hk.of_prefix hprefix⟩
  exact (post_interleave_sequential hP w hturns hwaits).mono
    (fun _ _ h ↦ hlanguage h.subset (h.serves hP hpaho))
    fun _ _ ⟨_, _, h⟩ ↦ hlanguage h.subset (h.serves hP hpaho)

end Whole

/-- A sensor with two short texts goes through one turn. -/
def sendShortTexts : Outcome Stop SensorState ℤ :=
  (Sensor.ofSettings (asciiBytes "20") (asciiBytes "temperature")).run 2 1 Sensor.emptyPort

/-- What it leaves in its port. -/
def shortTexts : SensorPort := sendShortTexts.state.port

/-- The initialisation runs through, and then the sensor calls once. -/
def initialiseAndSend : List Turn :=
  List.replicate 9 (.control 5) ++ List.replicate 3 (.rpc 5 shortTexts)

theorem configured_shortTexts :
    (Sensor.ofSettings (asciiBytes "20") (asciiBytes "temperature")).Configured 2
      (asciiBytes "temperature") (asciiBytes "20") :=
  ⟨rfl, (Sensor.delivers_ofSettings _ _).2, (Sensor.delivers_ofSettings _ _).1, by decide,
    by decide⟩

theorem sent_shortTexts : ∃ w ∈ sendShortTexts.state.sent, w.2 = shortTexts.bytes := by
  rw [shortTexts, sendShortTexts]
  exact configured_shortTexts.port Paho.reference.serializesPublish Nat.one_pos Sensor.emptyPort

theorem within_initialiseAndSend : ∀ turn ∈ initialiseAndSend, turn.Within 5 [shortTexts] := by
  intro turn hturn
  rcases List.mem_append.mp hturn with hturn | hturn
  · rw [List.eq_of_mem_replicate hturn]
    rfl
  · rw [List.eq_of_mem_replicate hturn]
    exact ⟨rfl, List.mem_singleton_self _⟩

/-- The two texts are sent and acknowledged. -/
theorem interleave_settings_initialiseAndSend :
    ∃ threads k, interleave (Platform.reference false) initialiseAndSend
        (initial (World.steady [0x20, 2, 0, 0, 0x40, 2, 0, 2])) = .ok () threads ∧
      (sentPackets threads.sys.trace).map packetType = [some .connect, some .publish] ∧
      threads.self.client.isConnected = true ∧
      SessionLanguage (List.replicate k ⟨0, asciiBytes "temperature", asciiBytes "20"⟩)
        (sentPackets threads.sys.trace) := by
  have hview : (interleave (Platform.reference false) initialiseAndSend
      (initial (World.steady [0x20, 2, 0, 0, 0x40, 2, 0, 2]))).view? (fun _ threads ↦
        ((sentPackets threads.sys.trace).map packetType, threads.self.client.isConnected)) =
          some ([some .connect, some .publish], true) := by
    decide +kernel
  obtain ⟨_, threads, hrun, hresult⟩ := Outcome.view?_eq_some_iff.mp hview
  obtain ⟨hpackets, hopen⟩ := Prod.mk.inj hresult
  have hports : ∀ port ∈ [shortTexts], ∃ w ∈ sendShortTexts.state.sent, w.2 = port.bytes := by
    intro port hport
    rw [List.mem_singleton.mp hport]
    exact sent_shortTexts
  obtain ⟨k, hlanguage⟩ := (interleave_settings (Platform.reference_processesPackets false)
    Paho.reference_serializesSession Paho.reference.deserializesPublish
    Paho.reference.serializesPublish configured_shortTexts rfl hports _
    (by exact within_initialiseAndSend) (by decide +kernel)).ok hrun
  exact ⟨threads, k, hrun, hpackets, hopen, hlanguage⟩

end Threads

/-! ## Nothing is lost -/

section Delivery

variable {P : Platform} {S : Sensor} {configFuel n patience tick turns : ℕ}
  {topic payload : List UInt8} {start : SensorState}

/-- What the sensor leaves in its port can be sent on. -/
theorem deliverable_of_settings (htopic : FitsAsString topic) (hpayload : FitsAsString payload)
    {sensorPort : SensorPort}
    (hport : sensorPort.bytes.take (sensorPacket topic payload).length =
      sensorPacket topic payload) : Deliverable ⟨0, topic, payload⟩ sensorPort where
  publish := by
    obtain ⟨p, hbytes, hpublish, hheader⟩ := exists_packet_of_settings htopic hpayload
    obtain ⟨rest, hread⟩ := exists_read_of_settings htopic hpayload hport
    refine ⟨p, 1, rest, hbytes ▸ hread, hpublish, ?_, ?_⟩
    · rw [hheader]
      exact (by decide : 0 = headerRetain (publishHeader 0 1 0))
    · rw [hheader]
      decide
  topic := htopic.2
  fits k := by
    have htopicLength := htopic.1
    have hpayloadLength := hpayload.1
    have hencode := Varint.length_encode_le (k := 4) (n := topic.length + payload.length + 4)
      (by omega) (by omega)
    rw [Message.length_publish, pahoSendBuffSize]
    dsimp only
    omega

/-- Exchanges over what the sensor has left in its port succeed once they are acknowledged, and
their messages are those of the settings. -/
theorem succeeds_of_settings (hsensor : S.platform.paho.SerializesPublish)
    (hconfigured : S.Configured configFuel topic payload) (hstart : start.sent = [])
    {xs : List Exchange} (hports : xs.map (fun x ↦ x.port.bytes) =
      (S.run configFuel n start).state.sent.map Prod.snd)
    (hxs : ∀ x ∈ xs, x.message = ⟨0, topic, payload⟩ ∧ x.Acknowledged) :
    (∀ x ∈ xs, x.Succeeds) ∧ xs.map Exchange.message = List.replicate n ⟨0, topic, payload⟩ := by
  refine ⟨fun x hx ↦ ?_, List.eq_replicate_iff.mpr ⟨?_, ?_⟩⟩
  · have hbytes : x.port.bytes ∈ (S.run configFuel n start).state.sent.map Prod.snd :=
      hports ▸ List.mem_map_of_mem hx
    obtain ⟨call, hcall, hport⟩ := List.mem_map.mp hbytes
    have hpacket := hconfigured.sent hsensor n hstart call hcall
    rw [hport] at hpacket
    refine ⟨(hxs x hx).2, ?_⟩
    rw [(hxs x hx).1]
    exact deliverable_of_settings hconfigured.topicFits hconfigured.payloadFits hpacket
  · have hlength := congrArg List.length hports
    rw [List.length_map, List.length_map, hconfigured.length_sent hsensor n hstart] at hlength
    rw [List.length_map, hlength]
  · intro m hm
    obtain ⟨x, hx, rfl⟩ := List.mem_map.mp hm
    exact (hxs x hx).1

/-- When nothing goes wrong between the sensor and the broker, so many turns of the sensor make so
many PUBLISH packets of its settings, and no other packets but the CONNECT before them. -/
theorem run_delivers_settings (hP : P.Connects) (hsensor : S.platform.paho.SerializesPublish)
    (hconfigured : S.Configured configFuel topic payload) (hstart : start.sent = []) {w : World}
    (h : w.answers.Favour P patience tick turns) {connack : Packet} {before : List Packet}
    (hbrings : Brings .connack before connack) (hconnack : IsConnackPacket connack)
    {xs : List Exchange} (hports : xs.map (fun x ↦ x.port.bytes) =
      (S.run configFuel n start).state.sent.map Prod.snd)
    (hxs : ∀ x ∈ xs, x.message = ⟨0, topic, payload⟩ ∧ x.Acknowledged) {rest : List UInt8}
    (hrx : w.rx = stream (before ++ [connack]) ++ (xs.flatMap Exchange.incoming ++ rest)) :
    ∃ k, ∀ fuel ≥ k, ∃ self t, runAndServe P fuel (xs.map Exchange.port) ⟨w, []⟩ = .ok self t ∧
      DeliversAll P fuel w rest (List.replicate n ⟨0, topic, payload⟩) self t := by
  obtain ⟨hsucceeds, hmessages⟩ := succeeds_of_settings hsensor hconfigured hstart hports hxs
  obtain ⟨k, henough⟩ := exists_enoughFuel patience turns before xs
  refine ⟨k, fun fuel hfuel ↦ ?_⟩
  rw [← hmessages]
  exact (post_runAndServe_prompt hP h hbrings hconnack hsucceeds hrx
    (henough fuel hfuel)).exists_ok

end Delivery

/-- The two texts are acknowledged in the same way as the small message. -/
def shortTextsExchange : Exchange :=
  { smallExchange 2 with
    port := Threads.shortTexts
    message := ⟨0, asciiBytes "temperature", asciiBytes "20"⟩ }

theorem acknowledged_shortTextsExchange : shortTextsExchange.Acknowledged :=
  ⟨(succeeds_smallExchange 2).brings, (succeeds_smallExchange 2).short⟩

/-- A turn of the sensor makes a PUBLISH packet. The rest of what the broker sends stays unread. -/
theorem run_delivers_settings_dribbling :
    ∃ k, ∀ fuel ≥ k, ∃ self t, runAndServe (Platform.reference true) fuel
        ([shortTextsExchange].map Exchange.port) ⟨World.dribbling, []⟩ = .ok self t ∧
      DeliversAll (Platform.reference true) fuel World.dribbling [0xD0, 0, 0x40, 2, 0, 3]
        (List.replicate 1 ⟨0, asciiBytes "temperature", asciiBytes "20"⟩) self t := by
  have hports : [shortTextsExchange].map (fun x ↦ x.port.bytes) =
      ((Sensor.ofSettings (asciiBytes "20") (asciiBytes "temperature")).run 2 1
        Sensor.emptyPort).state.sent.map Prod.snd := by
    have hlength := Threads.configured_shortTexts.length_sent Paho.reference.serializesPublish 1
      (s := Sensor.emptyPort) rfl
    obtain ⟨call, hcall⟩ := List.length_eq_one_iff.mp hlength
    obtain ⟨call', hmem, hbytes⟩ := Threads.sent_shortTexts
    rw [Threads.sendShortTexts, hcall, List.mem_singleton] at hmem
    rw [hcall, List.map_singleton, List.map_singleton, ← hmem, hbytes, shortTextsExchange]
  have hxs : ∀ x ∈ [shortTextsExchange],
      x.message = ⟨0, asciiBytes "temperature", asciiBytes "20"⟩ ∧ x.Acknowledged := by
    intro x hx
    rw [List.mem_singleton.mp hx]
    exact ⟨rfl, acknowledged_shortTextsExchange⟩
  exact run_delivers_settings (Platform.reference_connects true)
    Paho.reference.serializesPublish Threads.configured_shortTexts rfl (favour_dribbling true)
    brings_acceptingConnack ⟨0, 0, rfl⟩ hports hxs (by decide)

/-! ## Nothing breaks -/

namespace Threads

/-- The sensor itself sends only what the component can take: when the settings of both end inside
their arrays, then whatever the network and the other components do, no interleaving in which no
`sem_wait` fails comes to a null pointer, to a store or load outside an object or to a failed
assertion. -/
theorem interleave_settings_waits {P : Platform} {S : Sensor} {configFuel n : ℕ}
    {topic payload : List UInt8} {start : SensorState} (hP : P.Sturdy)
    (hdeserialize : P.paho.DeserializesPublish) (hsensor : S.platform.paho.SerializesPublish)
    (hconfigured : S.Configured configFuel topic payload) (hstart : start.sent = []) {w : World}
    (hends : w.answers.SettingsEnd) {turns : List Turn}
    (hports : ∀ fuel port, Turn.rpc fuel port ∈ turns →
      ∃ w ∈ (S.run configFuel n start).state.sent, w.2 = port.bytes)
    (hwaits : WaitsSucceed P turns (initial w)) :
    Post (interleave P turns) (initial w) (fun _ _ ↦ True) fun e _ ↦ Waits e := by
  have htame : ∀ turn ∈ turns, turn.Tame P := by
    intro turn hturn
    cases turn with
    | control fuel => trivial
    | rpc fuel sensorPort =>
        have hpacket := hconfigured.packet_of_sent hsensor hstart (hports fuel sensorPort hturn)
        have hdeliverable := deliverable_of_settings hconfigured.topicFits
          hconfigured.payloadFits hpacket
        exact hdeliverable.tame hdeserialize
  exact (post_interleave_waits hP hends htame hwaits).mono (fun _ _ _ ↦ trivial) fun _ _ h ↦ h

/-- The broker accepts the connection and does not acknowledge the texts. -/
theorem interleave_settings_waits_initialiseAndSend :
    ∃ e threads, interleave (Platform.declared true) initialiseAndSend
        (initial (World.steady [0x20, 2, 0, 0])) = .stop e threads ∧ Waits e := by
  have hports : ∀ fuel port, Turn.rpc fuel port ∈ initialiseAndSend →
      ∃ w ∈ sendShortTexts.state.sent, w.2 = port.bytes := by
    intro fuel port hturn
    rcases List.mem_append.mp hturn with hturn | hturn
    · cases List.eq_of_mem_replicate hturn
    · obtain ⟨-, hport⟩ := Turn.rpc.inj (List.eq_of_mem_replicate hturn)
      rw [hport]
      exact sent_shortTexts
  have hwaits : WaitsSucceed (Platform.declared true) initialiseAndSend
      (initial (World.steady [0x20, 2, 0, 0])) := by decide +kernel
  have hreason : (interleave (Platform.declared true) initialiseAndSend
      (initial (World.steady [0x20, 2, 0, 0]))).reason? = some .unfinished := by decide +kernel
  obtain ⟨threads, hrun⟩ := Outcome.reason?_eq_some_iff.mp hreason
  refine ⟨_, threads, hrun, ?_⟩
  have hends : (World.steady [0x20, 2, 0, 0]).answers.SettingsEnd := settingsEnd_steady
  generalize World.steady [0x20, 2, 0, 0] = w at hwaits hrun hends
  exact (post_of_stop hrun).mp (interleave_settings_waits (Platform.declared_sturdy true)
    Paho.declared.deserializesPublish Paho.reference.serializesPublish configured_shortTexts rfl
    hends hports hwaits)

end Threads

end DemoIotApp
