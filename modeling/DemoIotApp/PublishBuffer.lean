import DemoIotApp.Reachability

/-!
# The temporary buffer of a PUBLISH

The topic, a NUL and the payload are appended to a buffer of 1024 bytes behind two
checks of the space that is left. The lengths come from the packet: the topic has up to
65535 bytes, and a negative payload length arrives as a large unsigned number.
-/

namespace DemoIotApp

open Library Prog

variable {P : Platform} {self : CcFsm}

/-- What `do_process_publish` makes of a message with `topicLen` bytes of topic at `start`
and its payload at `offset` in the read buffer. Only the temporary data change. They keep
their size, and the appends that fit are the only ones whose effect is known. -/
structure FillsBuffer (self : CcFsm) (start topicLen offset : ℕ) (msg : MqttMessage)
    (r : ℤ × CcFsm) : Prop where
  accepts_iff : r.1 = 0 ↔ topicLen + 1 + msg.payloadlen ≤ pahoRecvBuffSize
  rejects : r.1 ≠ 0 → r.1 = -1
  frame : r.2 = { self with tmpDataPublish := r.2.tmpDataPublish }
  length_buffer : r.2.tmpDataPublish.buffer.length = pahoRecvBuffSize
  filled : r.1 = 0 → ∃ topic payload unused,
    topic <+: self.serverReadBuff.drop start ∧ topic.length = topicLen ∧
      payload <+: self.serverReadBuff.drop offset ∧ payload.length = msg.payloadlen ∧
        r.2.tmpDataPublish =
          { msg := { msg with qos := 1, payload := .tmpBuffer (topicLen + 1) }
            szTopic := .tmpBuffer 0
            buffer := topic ++ 0 :: (payload ++ unused) }

/-- The part of the message that is copied reaches behind the memory it lies in. -/
def ReachesBehind (self : CcFsm) (start topicLen offset payloadlen : ℕ) : Prop :=
  topicLen + 1 ≤ pahoRecvBuffSize ∧ self.serverReadBuff.length < start + topicLen ∨
    topicLen + 1 + payloadlen ≤ pahoRecvBuffSize ∧
      self.serverReadBuff.length < offset + payloadlen

section Fill

variable {start topicLen offset : ℕ} {msg : MqttMessage}

theorem fillsBuffer_of_checkEnds (hbuffer : self.tmpDataPublish.buffer.length = pahoRecvBuffSize)
    (hT : topicLen < 65536) (hpayload : msg.payload = .serverReadBuff offset)
    (hdup : msg.dup = 0) {r : ℤ × CcFsm}
    (h : CheckEnds P self 1 ⟨start, topicLen⟩ msg r.1 r.2) :
    FillsBuffer self start topicLen offset msg r := by
  obtain ⟨ret, self'⟩ := r
  have hlen : P.sizeT (topicLen : ℤ) = topicLen := P.sizeT_natCast (by omega)
  have hmsg := self.withMessage_msg msg
  have hbuffer' : (self.withMessage msg).tmpDataPublish.buffer.length = pahoRecvBuffSize := hbuffer
  dsimp only at h
  cases h with
  | malformed hret => exact absurd rfl hret
  | duplicate _ _ hne => exact absurd hdup hne
  | copied _ _ _ _ _ hends =>
      cases hends with
      | tooLong szTopic buffer hsize hlong =>
          have hlong' : pahoRecvBuffSize < topicLen + 1 + msg.payloadlen := by
            rw [hbuffer', hlen, hmsg] at hlong
            exact hlong
          exact ⟨iff_of_false (by simp) (Nat.not_le.mpr hlong'), fun _ ↦ rfl, rfl,
            hsize.trans hbuffer, fun h ↦ absurd h (by simp)⟩
      | copied topic payload unused htopic htopicLen hpayloadEq hpayloadLen hall =>
          have hT' : topic.length = topicLen := htopicLen.trans hlen
          rw [hmsg] at hpayloadEq hpayloadLen
          have hpayloadLen : payload.length = msg.payloadlen := hpayloadLen
          have hsize : topic.length + 1 + payload.length + unused.length = pahoRecvBuffSize :=
            hall.trans hbuffer
          refine ⟨iff_of_true rfl (by omega), fun h ↦ absurd rfl h, rfl, ?_, fun _ ↦
            ⟨topic, payload, unused, htopic ▸ List.take_prefix _ _, hT', ?_, hpayloadLen, ?_⟩⟩
          · simp only [CcFsm.copied, List.length_append, List.length_cons]
            omega
          · rw [hpayloadEq]
            simp only [hpayload]
            exact List.take_prefix _ _
          · simp only [CcFsm.copied, hmsg, hT']

end Fill

/-- A message is accepted exactly when the topic, a NUL and the payload fit together, and
then the buffer holds them one behind the other. Nothing is written behind its end. -/
theorem fillsBuffer (hB : P.managedBuffer.Appends) (hassert : P.assertions = false)
    (hbuffer : self.tmpDataPublish.buffer.length = pahoRecvBuffSize) {start topicLen offset : ℕ}
    (hT : topicLen < 65536) {msg : MqttMessage}
    (hout : P.paho.deserializePublish MqttMessage.out self.serverReadBuff
      self.tmpDataPublish.msg = (1, ⟨start, topicLen⟩, msg))
    (hpayload : msg.payload = .serverReadBuff offset) (hdup : msg.dup = 0) (s : Sys World) :
    Post (doProcessPublish P self) s
      (fun r t ↦ t = s ∧ FillsBuffer self start topicLen offset msg r)
      fun e t ↦ t = s ∧ e = .overread ∧
        ReachesBehind self start topicLen offset msg.payloadlen := by
  have hlen : P.sizeT (topicLen : ℤ) = topicLen := P.sizeT_natCast (by omega)
  have hsucc : P.sizeT ((topicLen : ℤ) + 1) = topicLen + 1 := by
    have hcast : (topicLen : ℤ) + 1 = ((topicLen + 1 : ℕ) : ℤ) := by omega
    rw [hcast, P.sizeT_natCast (by omega)]
  have hwrap : self.AvoidsWrap P ⟨start, topicLen⟩ := Or.inr (by rw [hsucc, hlen])
  rw [doProcessPublish_eq hout]
  apply (post_checkPublish hB 1 ⟨start, topicLen⟩ hwrap msg s).mono
  · exact fun r t h ↦ ⟨h.1, fillsBuffer_of_checkEnds hbuffer hT hpayload hdup h.2⟩
  · rintro e t ⟨rfl, hstops⟩
    cases hstops with
    | assertion _ hfails => exact absurd (hassert.symm.trans hfails.1) (by decide)
    | overread _ _ _ hmisses =>
        refine ⟨rfl, rfl, ?_⟩
        have hmsg := self.withMessage_msg msg
        unfold CcFsm.MissesBytes at hmisses
        rw [hmsg, hlen, hsucc] at hmisses
        rcases hmisses with ⟨hfits, hshort⟩ | ⟨hfits, hshort⟩
        · exact Or.inl ⟨hbuffer ▸ hfits, hshort⟩
        · have hdrop : ((self.withMessage msg).memory msg.payload).length =
              self.serverReadBuff.length - offset := by
            rw [hpayload]
            exact List.length_drop ..
          have hshort : ((self.withMessage msg).memory msg.payload).length < msg.payloadlen :=
            hshort
          exact Or.inr ⟨hbuffer ▸ hfits, by omega⟩

/-- The component has received a PUBLISH with one byte of topic and one of payload. -/
def receivingSmall : CcFsm := (CcFsm.constructed 4).receiving smallPublish

/-- What the deserialiser makes of it. -/
def smallMessage : MqttMessage := ⟨1, 0, 0, 0, 7, .serverReadBuff 7, 1⟩

set_option maxRecDepth 20000 in
theorem fillsBuffer_of_small_publish :
    ∃ r t, doProcessPublish (Platform.reference false) receivingSmall ⟨World.steady [], []⟩ =
        .ok r t ∧
      FillsBuffer receivingSmall 4 1 7 smallMessage r ∧ r.1 = 0 := by
  have hview : (doProcessPublish (Platform.reference false) receivingSmall
      ⟨World.steady [], []⟩).view? (fun r _ ↦ r.1) = some 0 := by decide +kernel
  obtain ⟨r, t, hrun, hret⟩ := Outcome.view?_eq_some_iff.mp hview
  have hout : Paho.reference.deserializePublish MqttMessage.out receivingSmall.serverReadBuff
      receivingSmall.tmpDataPublish.msg = (1, ⟨4, (1 : ℕ)⟩, smallMessage) := by rfl
  have hfills : ∀ s r t, doProcessPublish (Platform.reference false) receivingSmall s = .ok r t →
      FillsBuffer receivingSmall 4 1 7 smallMessage r := fun s r t hrun ↦
    ((fillsBuffer ManagedBufferLib.reference_appends rfl (List.length_replicate ..) (by decide)
      hout rfl rfl s).ok hrun).2
  exact ⟨r, t, hrun, hfills _ r t hrun, hret⟩

end DemoIotApp
