import DemoIotApp.Session
import Mathlib.Data.List.Chain

/-!
# The order of the packets of a session

A session begins with a CONNECT and ends with a DISCONNECT. The component closes
the session whenever an accepted message cannot be published, and on a session
that is already closed no message can.
-/

namespace DemoIotApp

open Library Prog

/-! ## Packets in order -/

/-- The packets that were handed to the connection to the cloud. -/
def sentPackets (es : List (Event World)) : List (List UInt8) := es.filterMap Event.wanPacket

/-- A CONNECT comes first, and behind a DISCONNECT only another one. -/
structure SessionOrder (packets : List (List UInt8)) : Prop where
  first : ∀ p ∈ packets.head?, packetType p = some .connect
  next : packets.IsChain fun p q ↦
    packetType p = some .disconnect → packetType q = some .connect

/-- The last packet exists and is not a DISCONNECT. -/
def EndsOpen (packets : List (List UInt8)) : Prop :=
  ∃ p ∈ packets.getLast?, packetType p ≠ some .disconnect

instance (packets : List (List UInt8)) : Decidable (EndsOpen packets) :=
  decidable_of_iff (packets.getLast?.any fun p ↦ packetType p ≠ some .disconnect) (by
    simp [EndsOpen, Option.any_eq_true])

section Order

variable {packets : List (List UInt8)} {p : List UInt8}

theorem sessionOrder_nil : SessionOrder [] := ⟨by simp, List.isChain_nil⟩

theorem sessionOrder_singleton (hp : packetType p = some .connect) : SessionOrder [p] :=
  ⟨by simpa using hp, List.isChain_singleton p⟩

theorem SessionOrder.append (h : SessionOrder packets) (hopen : EndsOpen packets) :
    SessionOrder (packets ++ [p]) := by
  obtain ⟨q, hlast, hq⟩ := hopen
  have hne : packets ≠ [] := by
    rintro rfl
    simp at hlast
  refine ⟨fun p' hp' ↦ h.first p' ?_, ?_⟩
  · rwa [List.head?_append_of_ne_nil _ hne] at hp'
  · refine List.isChain_append.mpr ⟨h.next, List.isChain_singleton p, ?_⟩
    intro q' hq' p' _ hdisconnect
    obtain rfl : q' = q := Option.mem_unique hq' hlast
    exact absurd hdisconnect hq

theorem endsOpen_append (hp : packetType p ≠ some .disconnect) :
    EndsOpen (packets ++ [p]) :=
  ⟨p, by simp, hp⟩

end Order

/-! ## Along a session -/

/-- The packets so far are in order. -/
def Ordered (s : Sys World) : Prop := SessionOrder (sentPackets s.trace)

/-- They are in order and have not ended with a DISCONNECT. -/
def OrderedOpen (s : Sys World) : Prop := Ordered s ∧ EndsOpen (sentPackets s.trace)

theorem Unsent.sentPackets {s t : Sys World} (h : Unsent s t) :
    DemoIotApp.sentPackets t.trace = DemoIotApp.sentPackets s.trace := by
  obtain ⟨es, htrace, hes⟩ := h.trace
  rw [htrace, DemoIotApp.sentPackets, List.filterMap_append,
    List.filterMap_eq_nil_iff.mpr hes, List.append_nil, DemoIotApp.sentPackets]

theorem Sent.sentPackets {s t : Sys World} {packet : List UInt8} {rc : Option ℤ}
    (h : Sent packet s t rc) :
    DemoIotApp.sentPackets t.trace = DemoIotApp.sentPackets s.trace ++ [packet] := by
  rw [h.trace, DemoIotApp.sentPackets, List.filterMap_append]
  rfl

theorem sends_orderedOpen {type : PacketType} (htype : type ≠ .disconnect) :
    Sends type OrderedOpen OrderedOpen OrderedOpen := by
  rintro packet s t rc hpacket ⟨hordered, hopen⟩ hsent
  have hpackets := hsent.sentPackets
  have hne : packetType packet ≠ some .disconnect := by
    rw [hpacket.packetType]
    exact fun h ↦ htype (Option.some.inj h)
  have ht : OrderedOpen t := by
    rw [OrderedOpen, Ordered, hpackets]
    exact ⟨hordered.append hopen, endsOpen_append hne⟩
  exact ⟨ht, fun _ ↦ ht⟩

theorem sessionKeeps_ordered :
    SessionKeeps (fun s ↦ sentPackets s.trace = []) OrderedOpen Ordered where
  any_of_new s hs := by
    rw [Ordered, hs]
    exact sessionOrder_nil
  any_of_open _ hs := hs.1
  new_unsent _ _ hs hst := hst.sentPackets.trans hs
  open_unsent _ _ hs hst := by
    rwa [OrderedOpen, Ordered, hst.sentPackets]
  any_unsent _ _ hs hst := by
    rwa [Ordered, hst.sentPackets]
  connect packet s t rc hpacket hs hsent := by
    have hpackets := hsent.sentPackets
    rw [hs, List.nil_append] at hpackets
    have hconnect := hpacket.packetType
    have ht : OrderedOpen t := by
      rw [OrderedOpen, Ordered, hpackets]
      exact ⟨sessionOrder_singleton hconnect, packet, rfl, by simp [hconnect]⟩
    exact ⟨ht.1, fun _ ↦ ht⟩
  publish packet s t rc hpacket hs hsent :=
    (sends_orderedOpen (by decide) packet s t rc hpacket hs hsent).imp_left And.left
  pubrel packet s t rc hpacket hs hsent :=
    (sends_orderedOpen (by decide) packet s t rc hpacket hs hsent).imp_left And.left
  disconnect packet s t rc hpacket hs hsent := by
    have ht : Ordered t := by
      rw [Ordered, hsent.sentPackets]
      exact hs.1.append hs.2
    exact ⟨ht, fun _ ↦ ht⟩

/-! ## Runs -/

section Runs

variable {P : Platform} {fuel : ℕ} {self : CcFsm} {s : Sys World}

theorem InSession.payloadlen_lt {Open Any : Sys World → Prop} (h : InSession Open Any self s) :
    self.tmpDataPublish.msg.payloadlen < 2 ^ 32 := by
  obtain ⟨-, rfl | ⟨netFuel, hready, -⟩⟩ := h
  · exact Nat.two_pow_pos 32
  · exact hready.payloadlen

/-- Publishing on a session that may be used leaves it so, and on a closed one it
sends nothing. -/
theorem post_mqttClientPublish_orderedOpen (hpaho : P.paho.SerializesSession) {netFuel : ℕ}
    (hself : self.client.isConnected = true → self.Ready netFuel) (hs : OrderedOpen s) :
    Post (mqttClientPublish P fuel self.memory self.client self.tmpDataPublish.szTopic
      self.tmpDataPublish.msg none) s (fun _ ↦ OrderedOpen) fun _ _ ↦ True := by
  by_cases hconnected : self.client.isConnected = true
  · have R : ReceiveKeeps OrderedOpen fun _ _ ↦ True :=
      ⟨fun s t hs hst ↦ sessionKeeps_ordered.open_unsent s t hs hst.unsent,
        fun _ _ _ _ ↦ trivial⟩
    have hsend : SendKeeps (netWan netFuel) (fun p ↦ IsPacket .publish p ∨ IsPacket .pubrel p)
        OrderedOpen fun _ _ ↦ True := by
      refine sendKeeps_netWan netFuel ?_ fun _ _ ↦ trivial
      rintro packet s t rc (hpacket | hpacket) hs hsent
      · exact (sends_orderedOpen (by decide) packet s t rc hpacket hs hsent).1
      · exact (sends_orderedOpen (by decide) packet s t rc hpacket hs hsent).1
    have K := R.waitKeeps P netFuel pahoRecvBuffSize
    have hkeeps := K.mqttClientPublish K hsend.leaves hsend.leaves fuel self.memory
      (hself hconnected).client self.tmpDataPublish.szTopic self.tmpDataPublish.msg
      (fun _ _ buf hbuf hpos ↦ Or.inl (hpaho.writes_publish _ buf hbuf hpos))
      (fun id buf hbuf hpos ↦ Or.inr (hpaho.writes_pubrel id buf hbuf hpos)) none
    exact (hkeeps s hs).mono (fun _ _ h ↦ h.2.1) fun _ _ _ ↦ trivial
  · unfold mqttClientPublish
    rw [if_pos hconnected]
    exact hs

/-- A message is only accepted on an open session, or as long as the last packet
was not a DISCONNECT. -/
def AcceptsOpen (P : Platform) (self : CcFsm) (s : Sys World) (sensorPort : SensorPort) : Prop :=
  Post (takeMessage P self sensorPort) s (fun accepted _ ↦ accepted.isSome = true →
    self.client.isConnected = true ∨ EndsOpen (sentPackets s.trace)) fun _ _ ↦ True

instance (P : Platform) (self : CcFsm) (s : Sys World) (sensorPort : SensorPort) :
    Decidable (AcceptsOpen P self s sensorPort) :=
  inferInstanceAs (Decidable (Post _ _ _ _))

theorem AcceptsOpen.publishMessage (hP : P.ProcessesPackets) (hpaho : P.paho.SerializesSession)
    {sensorPort : SensorPort} (h : AcceptsOpen P self s sensorPort)
    (hself : InSession OrderedOpen Ordered self s) :
    Post (publishMessage P fuel self sensorPort) s
      (fun ret t ↦ ret ≠ mqttSuccess → Ordered t → OrderedOpen t) fun _ _ ↦ True := by
  have htake := h.and (post_takeMessage hP sensorPort hself.payloadlen_lt s)
  refine Post.bind (htake.mono (fun _ _ h ↦ h) fun _ _ _ ↦ trivial) ?_
  rintro (_ | self') t ⟨hopen, hsent, haccepted⟩
  · exact fun h ↦ absurd rfl h
  have hprocessed := haccepted self' rfl
  have hclient : self'.client = self.client := hprocessed.client
  obtain ⟨hordered, hready⟩ := hself
  have hs : OrderedOpen s := by
    rcases hopen rfl with hconnected | hends
    · rcases hready with rfl | ⟨-, -, hready⟩
      · exact nomatch hconnected
      · exact hready hconnected
    · exact ⟨hordered, hends⟩
  have ht := sessionKeeps_ordered.open_unsent s t hs hsent
  have hpublish : Post (mqttClientPublish P fuel self'.memory self'.client
      self'.tmpDataPublish.szTopic self'.tmpDataPublish.msg none) t (fun _ ↦ OrderedOpen)
      fun _ _ ↦ True := by
    rcases hready with rfl | ⟨netFuel, hready, -⟩
    · have hready : self'.client.isConnected = true → self'.Ready 0 := by
        intro hconnected
        rw [hclient] at hconnected
        exact nomatch hconnected
      exact post_mqttClientPublish_orderedOpen hpaho hready ht
    · exact post_mqttClientPublish_orderedOpen hpaho
        (fun _ ↦ (hready.receiving sensorPort).of_processed hprocessed) ht
  apply hpublish.bind
  rintro ⟨ret, msg, client⟩ u hu
  exact fun _ _ ↦ hu

/-- In every run whose messages are only accepted on an open session or behind a
packet that was not a DISCONNECT, the packets are in order. -/
theorem sessionOrder_of_acceptsOpen (hP : P.ProcessesPackets)
    (hpaho : P.paho.SerializesSession) (fuel : ℕ) (w : World) (messages : List SensorPort)
    (hmessages : Post (run P fuel) ⟨w, []⟩
      (fun r s ↦ Along (AcceptsOpen P) (serveMessage P fuel) messages r.2 s) fun _ _ ↦ True) :
    SessionOrder (sentPackets (runAndServe P fuel messages ⟨w, []⟩).state.trace) :=
  sessionKeeps_ordered.post_runAndServe hP hpaho
    (fun _ _ _ hself haccepts ↦ haccepts.publishMessage hP hpaho hself) rfl hmessages

end Runs

/-- A publish fails and the session is closed. -/
theorem sessionOrder_of_one_message :
    SessionOrder (sentPackets (runAndServe (Platform.reference false) 5 [smallPublish]
      ⟨World.cutting (.error (-1)), []⟩).state.trace) :=
  sessionOrder_of_acceptsOpen (Platform.reference_processesPackets false)
    Paho.reference_serializesSession 5 _ _ (by decide +kernel)

/-- The next message closes the session again. -/
theorem not_sessionOrder_of_two_messages :
    ¬SessionOrder (sentPackets (runAndServe (Platform.reference false) 5
      [smallPublish, smallPublish] ⟨World.cutting (.error (-1)), []⟩).state.trace) := by
  have hpackets : (sentPackets (runAndServe (Platform.reference false) 5
      [smallPublish, smallPublish] ⟨World.cutting (.error (-1)), []⟩).state.trace).drop 2 =
        [disconnectPacket, disconnectPacket] := by decide +kernel
  intro h
  have hnext := h.next.drop 2
  rw [hpackets] at hnext
  exact absurd ((List.isChain_cons_cons.mp hnext).1 rfl) (by decide)

end DemoIotApp
