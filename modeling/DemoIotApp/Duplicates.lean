import DemoIotApp.Relay

/-!
# Messages with the DUP flag

The flag is stored before the quality of service, which is stored as an `int` and covers
it. The test that is to drop a duplicate therefore finds a zero in every message.
-/

namespace DemoIotApp

open Library Prog

/-- A packet with DUP is dropped and nothing is sent on, and in a packet without it the test
finds no DUP. -/
structure DropsDuplicate (P : Platform) (component : CcFsm) (sensorPort : SensorPort)
    (p : Packet) : Prop where
  rejects : headerDup p.header ≠ 0 → ∀ s,
    ∃ self', doProcessPublish P (component.receiving sensorPort) s = .ok (-1, self') s
  silent : headerDup p.header ≠ 0 → ∀ fuel s, ∃ self', handleMqttPublish P fuel
    { component with serverReadBuff := sensorPort.bytes.take pahoRecvBuffSize } s = .ok (0, self') s
  passes : headerDup p.header = 0 → ∀ topic msg, P.paho.deserializePublish MqttMessage.out
      (component.receiving sensorPort).serverReadBuff component.tmpDataPublish.msg =
        (1, topic, msg) → msg.dup = 0

section Process

variable {P : Platform} {self : CcFsm} {p : Packet} {packetId : UInt16}
  {topic payload rest : List UInt8} {netFuel : ℕ}

/-- A well-formed packet passes the DUP test and its topic is copied. What comes of it is
decided by the length of the payload behind the skipped bytes. -/
theorem post_doProcessPublish_of_publish (hP : P.ProcessesPackets) (hchecks : P.ChecksBuffers)
    (hdeserialize : P.paho.DeserializesPublish) (hself : self.Ready netFuel)
    (hread : self.serverReadBuff = p.bytes ++ rest)
    (hpublish : IsPublish p packetId topic payload) (s : Sys World) :
    Post (doProcessPublish P self) s
      (fun r t ↦ t = s ∧ (skippedLen p ≤ (behindTopic p packetId payload).length ∧ r.1 = 0 ∨
        (behindTopic p packetId payload).length < skippedLen p ∧ P.assertions = false ∧ r.1 = -1))
      fun _ _ ↦ (behindTopic p packetId payload).length < skippedLen p ∧ P.assertions = true := by
  have hsize := hpublish.length_layout hself.serverReadBuff hread
  have hskip := skippedLen_le_two p
  obtain ⟨msg, hout, hpayload, hlen, -, hdup⟩ :=
    deserializePublish_eq rest hdeserialize hpublish (by omega) hself.payloadlen
  rw [← hread] at hout
  have hmsg := self.withMessage_msg msg
  have hlenT : P.sizeT (topic.length : ℤ) = topic.length := P.sizeT_natCast (by omega)
  have hbuffer : (self.withMessage msg).tmpDataPublish.buffer.length = 1024 := hself.buffer
  have hreadLen : (self.withMessage msg).serverReadBuff.length = 1024 := hself.serverReadBuff
  have hmemory : ((self.withMessage msg).memory msg.payload).length =
      1024 - (1 + p.lenBytes.length + 2 + topic.length + skippedLen p) := by
    rw [hpayload, ← hreadLen]
    exact List.length_drop ..
  have hload : MqttMessage.out.payload.load msg =
      1 + p.lenBytes.length + 2 + topic.length + skippedLen p :=
    MqttMessage.load_payload hpayload
  have hfits : 1 + p.lenBytes.length + 2 + topic.length + skippedLen p + msg.payloadlen ≤ 1024 ↔
      skippedLen p ≤ (behindTopic p packetId payload).length := by omega
  have hfails : self.FailsAssertion P ⟨1 + p.lenBytes.length + 2, topic.length⟩ msg ↔
      P.assertions = true ∧ (behindTopic p packetId payload).length < skippedLen p := by
    unfold CcFsm.FailsAssertion
    rw [hchecks, hchecks, hload, hlenT, hself.serverReadBuff, ← Nat.not_le, ← hfits]
    have htopic : 1 + p.lenBytes.length + 2 + topic.length ≤ pahoRecvBuffSize :=
      show _ ≤ 1024 by omega
    tauto
  rw [doProcessPublish_eq hout]
  apply (post_checkPublish hP.appends 1 _ (Or.inl (by rw [hself.serverReadBuff]; decide)) msg
    s).mono
  · rintro ⟨ret, self'⟩ t ⟨rfl, hends⟩
    refine ⟨rfl, ?_⟩
    dsimp only at hends ⊢
    cases hends with
    | malformed hret => exact absurd rfl hret
    | duplicate _ _ hne => exact absurd hdup hne
    | copied _ hassert _ _ _ hends =>
        rw [hfails] at hassert
        cases hends with
        | tooLong _ _ _ hlong =>
            rw [hbuffer, hlenT, hmsg] at hlong
            have hlong : 1024 < topic.length + 1 + msg.payloadlen := hlong
            have hshort : (behindTopic p packetId payload).length < skippedLen p := by omega
            exact Or.inr ⟨hshort, Bool.not_eq_true _ ▸ fun h ↦ hassert ⟨h, hshort⟩, rfl⟩
        | copied _ payloadBytes _ _ htopicLen _ hpayloadLen hall =>
            rw [hmsg] at hpayloadLen
            have hpayloadLen : payloadBytes.length = msg.payloadlen := hpayloadLen
            exact Or.inl ⟨by omega, rfl⟩
  · rintro e t ⟨-, hstops⟩
    cases hstops with
    | assertion _ h => exact (hfails.mp h).symm
    | overread _ _ _ hmisses =>
        unfold CcFsm.MissesBytes at hmisses
        rw [hbuffer, hreadLen, hlenT, hmsg] at hmisses
        have hmisses : _ ∨ topic.length + 1 + msg.payloadlen ≤ 1024 ∧
          ((self.withMessage msg).memory msg.payload).length < msg.payloadlen := hmisses
        dsimp only at hmisses
        omega

/-- A duplicate is relayed like any other message. It is only dropped when the bytes that
are skipped behind its topic make the length of its payload negative. -/
theorem dropsDuplicate_iff (hP : P.ProcessesPackets) (hchecks : P.ChecksBuffers)
    (hdeserialize : P.paho.DeserializesPublish) (hself : Reachable P 0 self)
    {sensorPort : SensorPort} (hport : sensorPort.bytes.take pahoRecvBuffSize = p.bytes ++ rest)
    (hpublish : IsPublish p packetId topic payload) :
    DropsDuplicate P self sensorPort p ↔ headerDup p.header = 0 ∨
      headerQos p.header = 0 ∧ headerRetain p.header = 1 ∧ payload.length < 2 ∧
        P.assertions = false := by
  obtain ⟨netFuel, hready⟩ := hself.receiving_ready hP sensorPort
  have hends := post_doProcessPublish_of_publish hP hchecks hdeserialize hready hport hpublish
  have hskip : (behindTopic p packetId payload).length < skippedLen p ↔
      headerQos p.header = 0 ∧ headerRetain p.header = 1 ∧ payload.length < 2 := by
    rw [← Nat.not_le, skippedLen_le_iff]
    simp only [Classical.not_imp, Nat.not_le, and_assoc]
  rw [hskip] at hends
  constructor
  · intro h
    by_cases hdup : headerDup p.header = 0
    · exact Or.inl hdup
    obtain ⟨self', hrun⟩ := h.rejects hdup ⟨World.steady [], []⟩
    obtain ⟨-, ⟨-, hzero⟩ | ⟨⟨hqos, hretain, hlen⟩, hassert, -⟩⟩ := (hends _).ok hrun
    · exact absurd hzero (by simp)
    · exact Or.inr ⟨hqos, hretain, hlen, hassert⟩
  · intro h
    have hsize := hpublish.length_layout hready.serverReadBuff hport
    obtain ⟨msg, hout, -, -, -, hzero⟩ :=
      deserializePublish_eq rest hdeserialize hpublish (by omega) hready.payloadlen
    have hrejects : headerDup p.header ≠ 0 → ∀ s,
        ∃ self', doProcessPublish P (self.receiving sensorPort) s = .ok (-1, self') s := by
      intro hdup s
      obtain ⟨hqos, hretain, hlen, hassert⟩ := h.resolve_left hdup
      cases hrun : doProcessPublish P (self.receiving sensorPort) s with
      | ok r t =>
          obtain ⟨rfl, ⟨hle, -⟩ | ⟨-, -, hret⟩⟩ := (hends s).ok hrun
          · exact absurd ⟨hqos, hretain, hlen⟩ (hskip.not.mp (Nat.not_lt.mpr hle))
          · exact ⟨r.2, by rw [← hret]⟩
      | stop e t => exact absurd ((hends s).stop hrun).2 (by simp [hassert])
    refine ⟨hrejects, fun hdup fuel s ↦ ?_, fun _ topic' msg' hout' ↦ ?_⟩
    · obtain ⟨self', hrun⟩ := hrejects hdup s
      exact ⟨self', bind_eq_of_ok hrun⟩
    · rw [← hport] at hout
      obtain ⟨-, -, rfl⟩ := hout.symm.trans hout'
      exact hzero

end Process

/-- With quality of service 0 and RETAIN a payload of one byte is too short. -/
theorem dropsDuplicate_of_short_payload :
    DropsDuplicate (Platform.reference false) (CcFsm.constructed 4)
      (sensorPortOf (publishOf 0x39 0 [1] (by decide)).bytes)
      (publishOf 0x39 0 [1] (by decide)) :=
  (dropsDuplicate_iff (Platform.reference_processesPackets false)
    (Platform.reference_checksBuffers false) Paho.reference.deserializesPublish
    (reachable_constructed _ 4) (sensorPortOf_take (by decide)) ⟨rfl, rfl⟩).mpr
    (Or.inr ⟨by decide, by decide, by decide, rfl⟩)

/-- A duplicate of quality of service 1 is accepted. -/
theorem not_dropsDuplicate_of_qos_one :
    Reachable (Platform.reference false) 0 (CcFsm.constructed 4) ∧
      IsPublish (publishOf 0x3A 7 [1, 2, 3] (by decide)) 7 [116] [1, 2, 3] ∧
      headerDup 0x3A = 1 ∧
      ¬DropsDuplicate (Platform.reference false) (CcFsm.constructed 4)
        (sensorPortOf (publishOf 0x3A 7 [1, 2, 3] (by decide)).bytes)
        (publishOf 0x3A 7 [1, 2, 3] (by decide)) := by
  have hview : (acceptRun (publishOf 0x3A 7 [1, 2, 3] (by decide))).view? (fun r _ ↦ r.1) =
      some 0 := by decide +kernel
  obtain ⟨r, t, hrun, hret⟩ := Outcome.view?_eq_some_iff.mp hview
  refine ⟨reachable_constructed _ 4, ⟨rfl, rfl⟩, by decide, fun h ↦ ?_⟩
  obtain ⟨self', hreject⟩ := h.rejects (by decide) ⟨World.steady [], []⟩
  obtain rfl : r = (-1, self') := (Outcome.ok.inj (hrun.symm.trans hreject)).1
  exact absurd hret (by simp)

end DemoIotApp
