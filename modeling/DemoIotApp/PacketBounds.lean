import DemoIotApp.Reachability

/-!
# Reading inside the packet

The topic and the payload are copied from where the deserialiser says they are. It follows the
remaining length of the packet, which the sensor chooses, and not the size of the buffer.
-/

namespace DemoIotApp

open Library Prog

/-- The same platform, built with or without assertions. -/
def Platform.build (P : Platform) (assertions : Bool) : Platform :=
  { P with assertions := assertions }

/-- What the deserialiser makes of the packet in the read buffer. -/
def CcFsm.deserialized (P : Platform) (self : CcFsm) : ℤ × LenString × MqttMessage :=
  P.paho.deserializePublish MqttMessage.out self.serverReadBuff self.tmpDataPublish.msg

/-- In both builds the packet is processed without a failed assertion and without a read behind
the read buffer, and it is rejected when it is malformed. -/
def StaysInside (P : Platform) (self : CcFsm) : Prop :=
  ∀ (assertions : Bool) (s : Sys World),
    ∃ r, doProcessPublish (P.build assertions) self s = .ok r s ∧
      ((self.deserialized P).1 ≠ 1 → r.1 = -1)

section Bounds

variable {P : Platform} {self : CcFsm}

/-- The parts that the deserialiser reports lie in the read buffer. -/
def CcFsm.HoldsParts (P : Platform) (self : CcFsm) (topic : LenString) (msg : MqttMessage) : Prop :=
  topic.data + P.sizeT topic.len ≤ self.serverReadBuff.length ∧
    MqttMessage.out.payload.load msg + msg.payloadlen ≤ self.serverReadBuff.length

theorem failsAssertion_iff (hchecks : P.ChecksBuffers) {topic : LenString} {msg : MqttMessage} :
    self.FailsAssertion P topic msg ↔ P.assertions = true ∧ ¬self.HoldsParts P topic msg := by
  unfold CcFsm.FailsAssertion CcFsm.HoldsParts
  rw [hchecks, hchecks]

/-- Parts that lie in the buffer are copied without a read behind it. -/
theorem CcFsm.HoldsParts.not_misses {topic : LenString} {msg : MqttMessage} {offset : ℕ}
    (h : self.HoldsParts P topic msg) (hpayload : msg.payload = .serverReadBuff offset) :
    ¬(self.withMessage msg).MissesBytes P topic := by
  have hmsg := self.withMessage_msg msg
  obtain ⟨htopic, hload⟩ := h
  rw [MqttMessage.load_payload hpayload] at hload
  unfold MissesBytes
  rw [hmsg]
  rintro (⟨-, hshort⟩ | ⟨-, hshort⟩)
  · exact absurd htopic (Nat.not_le.mpr hshort)
  · have hdrop : ((self.withMessage msg).memory msg.payload).length =
        self.serverReadBuff.length - offset := by
      rw [hpayload]
      exact List.length_drop ..
    have hshort : ((self.withMessage msg).memory msg.payload).length < msg.payloadlen := hshort
    omega

section Parts

variable {ret : ℤ} {topic : LenString} {msg : MqttMessage} {s t : Sys World}

theorem holdsParts_of_returns (hB : P.managedBuffer.Appends) (hchecks : P.ChecksBuffers)
    (hread : self.serverReadBuff.length < 2 ^ 32 - 1) (hassert : P.assertions = true)
    {r : ℤ × CcFsm} (h : checkPublish P self ret topic msg s = .ok r t) (hret : ret = 1) :
    self.HoldsParts P topic msg := by
  have hends := ((post_checkPublish hB ret topic (Or.inl hread) msg s).ok h).2
  have hfails : self.FailsAssertion P topic msg ↔
      P.assertions = true ∧ ¬self.HoldsParts P topic msg := failsAssertion_iff hchecks
  obtain ⟨ret', self'⟩ := r
  dsimp only at hends
  cases hends with
  | malformed hne => exact absurd hret hne
  | duplicate _ hpassed => exact not_not.mp fun hout ↦ hpassed (hfails.mpr ⟨hassert, hout⟩)
  | copied _ hpassed => exact not_not.mp fun hout ↦ hpassed (hfails.mpr ⟨hassert, hout⟩)

theorem returns_of_holdsParts (hB : P.managedBuffer.Appends)
    (hchecks : P.assertions = true → P.ChecksBuffers)
    (hread : self.serverReadBuff.length < 2 ^ 32 - 1)
    (h : ret = 1 →
      (∃ offset, msg.payload = .serverReadBuff offset) ∧ self.HoldsParts P topic msg)
    (s : Sys World) :
    ∃ r, checkPublish P self ret topic msg s = .ok r s ∧ (ret ≠ 1 → r.1 = -1) := by
  have hpost := post_checkPublish hB ret topic (Or.inl hread) msg s
  cases hrun : checkPublish P self ret topic msg s with
  | ok r t =>
      obtain ⟨rfl, hends⟩ := hpost.ok hrun
      obtain ⟨ret', self'⟩ := r
      refine ⟨_, rfl, fun hret ↦ ?_⟩
      dsimp only at hends ⊢
      cases hends with
      | malformed => rfl
      | duplicate hone => exact absurd hone hret
      | copied hone => exact absurd hone hret
  | stop e t =>
      cases (hpost.stop hrun).2 with
      | assertion hone hfails =>
          have hmissing := (failsAssertion_iff (hchecks hfails.1)).mp hfails
          exact absurd (h hone).2 hmissing.2
      | overread hone _ _ hmisses =>
          obtain ⟨⟨offset, hpayload⟩, hholds⟩ := h hone
          exact absurd hmisses (hholds.not_misses hpayload)

end Parts

/-- The reported parts lie in the buffer exactly when the declared end does and the length of
the payload is not negative. -/
theorem holdsParts_iff (hP : P.ProcessesPackets) (hdeserialize : P.paho.DeserializesWithin)
    {netFuel : ℕ} (hself : self.Ready netFuel) {topic : LenString} {msg : MqttMessage}
    (hout : self.deserialized P = (1, topic, msg)) :
    (∃ offset, msg.payload = .serverReadBuff offset) ∧
      (self.HoldsParts P topic msg ↔ ∃ packetEnd, DeclaresEnd self.serverReadBuff packetEnd ∧
        packetEnd ≤ pahoRecvBuffSize ∧ MqttMessage.out.payload.load msg ≤ packetEnd) := by
  obtain ⟨start, topicLen, offset, packetEnd, flags, rfl, hend, htopic, hoffset, hmsg⟩ :=
    hdeserialize _ _ _ _ _ hout
  have hpayload : msg.payload = .serverReadBuff offset := by rw [hmsg]; rfl
  have hload : MqttMessage.out.payload.load msg = offset := MqttMessage.load_payload hpayload
  have hlt := hend.lt
  have hsmall : msg.payloadlen < 2 ^ 32 := by
    have hstored := hP.stores _ _ MqttMessage.out_keeps_payloadlen self.serverReadBuff _
      hself.payloadlen
    exact (congrArg (·.2.2.payloadlen) hout).symm.trans_lt hstored
  have hlen : msg.payloadlen = (((packetEnd : ℤ) - offset) % 2 ^ 32).toNat := by
    have hstored : msg.payloadlen = flags.payloadlen / 2 ^ 32 * 2 ^ 32 +
        (((packetEnd : ℤ) - offset) % 2 ^ 32).toNat := by rw [hmsg]; rfl
    omega
  refine ⟨⟨offset, hpayload⟩, ?_⟩
  unfold CcFsm.HoldsParts
  rw [hload, P.sizeT_natCast (by omega), hself.serverReadBuff]
  have hsize : pahoRecvBuffSize = 1024 := rfl
  dsimp only
  constructor
  · rintro ⟨-, hfits⟩
    exact ⟨packetEnd, hend, by omega, by omega⟩
  · rintro ⟨_, hend', hfits, hbehind⟩
    obtain rfl := hend.unique hend'
    exact ⟨by omega, by omega⟩

/-- The function returns in both builds exactly when the packet is malformed, or ends within
the read buffer with a payload that does not begin behind its end. -/
theorem staysInside_iff (hP : P.ProcessesPackets) (hchecks : P.ChecksBuffers)
    (hdeserialize : P.paho.DeserializesWithin) (hself : Reachable P 0 self)
    (sensorPort : SensorPort) :
    StaysInside P (self.receiving sensorPort) ↔ ((self.receiving sensorPort).deserialized P).1 ≠ 1 ∨
      ∃ packetEnd, DeclaresEnd (self.receiving sensorPort).serverReadBuff packetEnd ∧
        packetEnd ≤ pahoRecvBuffSize ∧ MqttMessage.out.payload.load
          ((self.receiving sensorPort).deserialized P).2.2 ≤ packetEnd := by
  obtain ⟨netFuel, hready⟩ := hself.ready hP
  replace hready := hready.receiving sensorPort
  generalize self.receiving sensorPort = self at hready ⊢
  have hread : self.serverReadBuff.length < 2 ^ 32 - 1 := by
    rw [hready.serverReadBuff]
    decide
  obtain ⟨ret, topic, msg, hout⟩ : ∃ ret topic msg, self.deserialized P = (ret, topic, msg) :=
    ⟨_, _, _, rfl⟩
  have hcheck : ∀ assertions s, doProcessPublish (P.build assertions) self s =
      checkPublish (P.build assertions) self ret topic msg s :=
    fun assertions s ↦ congrFun (doProcessPublish_eq (P := P.build assertions) hout) s
  unfold StaysInside
  simp only [hout, hcheck]
  have hparts : ret = 1 → _ := fun hret ↦ holdsParts_iff hP hdeserialize hready (hret ▸ hout)
  constructor
  · intro h
    by_cases hret : ret = 1
    · obtain ⟨r, hrun, -⟩ := h true ⟨World.steady [], []⟩
      have hholds := holdsParts_of_returns (P := P.build true) hP.appends hchecks hread rfl hrun
        hret
      exact Or.inr ((hparts hret).2.mp hholds)
    · exact Or.inl hret
  · intro h assertions s
    refine returns_of_holdsParts (P := P.build assertions) hP.appends (fun _ ↦ hchecks) hread
      (fun hret ↦ ?_) s
    obtain ⟨hpayload, hiff⟩ := hparts hret
    exact ⟨hpayload, hiff.mpr (h.resolve_left (not_not.mpr hret))⟩

end Bounds

/-- The component has received a PUBLISH to the topic `t` with this remaining length, which is
written in two bytes. -/
def receivingDeclared (low high : UInt8) : CcFsm :=
  (CcFsm.constructed 4).receiving (sensorPortOf [0x30, low, high, 0, 1, 0x74])

/-- The packet has a remaining length of 1021 and fills the buffer. -/
theorem staysInside_of_full_buffer :
    StaysInside (Platform.declared false) (receivingDeclared 0xFD 7) := by
  have hread : (receivingDeclared 0xFD 7).serverReadBuff =
      0x30 :: ([0xFD, 7] ++ ([0, 1, 0x74] ++ zeros (pahoRecvBuffSize - 6))) :=
    sensorPortOf_take (by decide)
  have hload : MqttMessage.out.payload.load
      ((receivingDeclared 0xFD 7).deserialized (Platform.declared false)).2.2 ≤ 1024 := by
    decide +kernel
  have hend : DeclaresEnd (receivingDeclared 0xFD 7).serverReadBuff 1024 :=
    ⟨_, _, _, hread, by decide, by decide, by decide⟩
  have hiff := staysInside_iff (Platform.declared_processesPackets false)
    (Platform.reference_checksBuffers false) Paho.declared.deserializesWithin
    (reachable_constructed _ 4) (sensorPortOf [0x30, 0xFD, 7, 0, 1, 0x74])
  rw [← receivingDeclared] at hiff
  exact hiff.mpr (Or.inr ⟨1024, hend, by decide, hload⟩)

/-- With a remaining length of 1022 the packet ends one byte behind the buffer. That byte is
read, or the assertion about the payload fails. -/
theorem not_staysInside_of_one_byte_more :
    Reachable (Platform.declared false) 0 (CcFsm.constructed 4) ∧
      (doProcessPublish (Platform.declared false) (receivingDeclared 0xFE 7)
        ⟨World.steady [], []⟩).reason? = some .overread ∧
      (doProcessPublish (Platform.declared true) (receivingDeclared 0xFE 7)
        ⟨World.steady [], []⟩).reason? = some .assertion ∧
      ¬StaysInside (Platform.declared false) (receivingDeclared 0xFE 7) := by
  have hreason : (doProcessPublish (Platform.declared false) (receivingDeclared 0xFE 7)
      ⟨World.steady [], []⟩).reason? = some .overread := by decide +kernel
  refine ⟨reachable_constructed _ 4, hreason, by decide +kernel, fun h ↦ ?_⟩
  obtain ⟨r, hrun, -⟩ := h false ⟨World.steady [], []⟩
  have hbuild : (Platform.declared false).build false = Platform.declared false := rfl
  rw [hbuild] at hrun
  rw [hrun] at hreason
  exact nomatch hreason

end DemoIotApp
