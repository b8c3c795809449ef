import DemoIotApp.CloudConnector

/-!
# What `do_process_publish` leaves behind

The topic and the payload are copied into the temporary buffer one behind the
other, with a NUL between them. The lemmas here say for an arbitrary packet
what the function returns and what it does to the state.
-/

namespace DemoIotApp

open Library Prog

/-! ## The temporary buffer -/

namespace ManagedBufferLib

variable {B : ManagedBufferLib} {mb mb' : B.Handle} {bytes : List UInt8}

theorem Appended.memory_eq (h : B.Appended mb mb' bytes) {written unused : List UInt8}
    (hmem : B.memory mb = written ++ unused) (hptr : B.getFreeSpacePtr mb = written.length) :
    B.memory mb' = (written ++ bytes) ++ unused.drop bytes.length := by
  rw [h.1, hmem, hptr, List.take_left, List.drop_append]
  simp

/-- A string is the first thing in a buffer, with a NUL behind it. -/
theorem Appends.string (hB : B.Appends) {buffer chars : List UInt8}
    (hfit : chars.length + 1 ≤ buffer.length) :
    B.memory (B.appendChar (B.append (B.init buffer) chars) 0) =
        (chars ++ [0]) ++ buffer.drop (chars.length + 1) ∧
      B.getFreeSpacePtr (B.appendChar (B.append (B.init buffer) chars) 0) = chars.length + 1 ∧
      B.getFreeSpace (B.appendChar (B.append (B.init buffer) chars) 0) =
        buffer.length - chars.length - 1 := by
  obtain ⟨hmem, hptr, hspace⟩ := hB.init buffer
  have happend := hB.append (B.init buffer) chars (by omega)
  have hmem₁ := happend.memory_eq (show _ = [] ++ buffer from hmem) hptr
  obtain ⟨-, hptr₁, hspace₁⟩ := happend
  rw [hptr, Nat.zero_add] at hptr₁
  rw [hspace] at hspace₁
  have happendChar := hB.appendChar (B.append (B.init buffer) chars) 0 (by omega)
  have hmem₂ := happendChar.memory_eq hmem₁ hptr₁
  obtain ⟨-, hptr₂, hspace₂⟩ := happendChar
  rw [List.drop_drop] at hmem₂
  rw [hptr₁] at hptr₂
  rw [hspace₁] at hspace₂
  exact ⟨hmem₂, hptr₂, hspace₂⟩

end ManagedBufferLib

/-! ## Copying -/

variable {P : Platform} {self : CcFsm}

/-- The state after both parts were copied. -/
def CcFsm.copied (self : CcFsm) (topicBytes payloadBytes unused : List UInt8) : CcFsm :=
  { self with
    tmpDataPublish :=
      { msg := { self.tmpDataPublish.msg with payload := .tmpBuffer (topicBytes.length + 1) }
        szTopic := .tmpBuffer 0
        buffer := topicBytes ++ 0 :: (payloadBytes ++ unused) } }

/-- The topic with its NUL and the payload do not fit together, or both are in
the temporary buffer. -/
inductive CopyEnds (P : Platform) (self : CcFsm) (topic : LenString) : ℤ → CcFsm → Prop
  | tooLong (szTopic : Ptr) (buffer : List UInt8)
      (hbuffer : buffer.length = self.tmpDataPublish.buffer.length)
      (hlong : self.tmpDataPublish.buffer.length <
        P.sizeT topic.len + 1 + self.tmpDataPublish.msg.payloadlen) :
      CopyEnds P self topic (-1) { self with
        tmpDataPublish := { self.tmpDataPublish with szTopic := szTopic, buffer := buffer } }
  | copied (topicBytes payloadBytes unused : List UInt8)
      (htopic : topicBytes = (self.serverReadBuff.drop topic.data).take (P.sizeT topic.len))
      (htopicLen : topicBytes.length = P.sizeT topic.len)
      (hpayload : payloadBytes = (self.memory self.tmpDataPublish.msg.payload).take
        self.tmpDataPublish.msg.payloadlen)
      (hpayloadLen : payloadBytes.length = self.tmpDataPublish.msg.payloadlen)
      (hlen : topicBytes.length + 1 + payloadBytes.length + unused.length =
        self.tmpDataPublish.buffer.length) :
      CopyEnds P self topic 0 (self.copied topicBytes payloadBytes unused)

theorem post_loadBytes (memory : List UInt8) (len : ℕ) (s : Sys World) :
    Post (loadBytes memory len) s
      (fun bytes t ↦ t = s ∧ bytes = memory.take len ∧ bytes.length = len)
      fun e t ↦ t = s ∧ e = .overread ∧ memory.length < len := by
  refine post_ite (fun hle ↦ ?_) fun hlt ↦ ?_
  · exact ⟨rfl, rfl, List.length_take_of_le hle⟩
  · exact ⟨rfl, rfl, Nat.not_le.mp hlt⟩

/-- The topic or the payload is copied, and does not lie in the memory that it is copied
from. -/
def CcFsm.MissesBytes (P : Platform) (self : CcFsm) (topic : LenString) : Prop :=
  P.sizeT (topic.len + 1) ≤ self.tmpDataPublish.buffer.length ∧
      self.serverReadBuff.length < topic.data + P.sizeT topic.len ∨
    P.sizeT topic.len + 1 + self.tmpDataPublish.msg.payloadlen ≤
        self.tmpDataPublish.buffer.length ∧
      (self.memory self.tmpDataPublish.msg.payload).length < self.tmpDataPublish.msg.payloadlen

/-- `topic->len + 1` does not wrap around, or no buffer is long enough for it to matter. -/
def CcFsm.AvoidsWrap (P : Platform) (self : CcFsm) (topic : LenString) : Prop :=
  self.serverReadBuff.length < 2 ^ 32 - 1 ∨ P.sizeT (topic.len + 1) = P.sizeT topic.len + 1

theorem post_copyPublish (self : CcFsm) (hB : P.managedBuffer.Appends) (topic : LenString)
    (hread : self.AvoidsWrap P topic) (s : Sys World) :
    Post (copyPublish P self topic) s
      (fun r t ↦ t = s ∧ CopyEnds P self topic r.1 r.2)
      fun e t ↦ t = s ∧ e = .overread ∧ self.MissesBytes P topic := by
  obtain ⟨-, hptr, hspace⟩ := hB.init self.tmpDataPublish.buffer
  have hsucc := P.sizeT_succ topic.len
  unfold CcFsm.AvoidsWrap at hread
  unfold copyPublish
  by_cases hfirst : P.managedBuffer.getFreeSpace
      (P.managedBuffer.init self.tmpDataPublish.buffer) < P.sizeT (topic.len + 1)
  · rw [if_pos hfirst]
    rw [hspace] at hfirst
    exact ⟨rfl, .tooLong self.tmpDataPublish.szTopic _ rfl (by omega)⟩
  rw [if_neg hfirst, post_bind]
  rw [hspace] at hfirst
  apply (post_loadBytes _ _ s).mono
  swap
  · rintro e t ⟨rfl, rfl, hlt⟩
    rw [List.length_drop] at hlt
    exact ⟨rfl, rfl, Or.inl ⟨Nat.not_lt.mp hfirst, by omega⟩⟩
  rintro topicBytes t ⟨rfl, htopic, htopicLen⟩
  have hload : topicBytes.length ≤ self.serverReadBuff.length := by
    rw [htopic, List.length_take, List.length_drop]
    omega
  have hfit : topicBytes.length + 1 ≤ self.tmpDataPublish.buffer.length := by omega
  -- the topic and its NUL
  dsimp only
  obtain ⟨hmem, hptrBehind, hspaceBehind⟩ := hB.string hfit
  generalize P.managedBuffer.appendChar (P.managedBuffer.append
    (P.managedBuffer.init self.tmpDataPublish.buffer) topicBytes) 0 = mb
    at hmem hptrBehind hspaceBehind ⊢
  by_cases hsecond : P.managedBuffer.getFreeSpace mb < self.tmpDataPublish.msg.payloadlen
  · rw [if_pos hsecond]
    refine ⟨rfl, .tooLong _ _ ?_ (by omega)⟩
    rw [hmem]
    simp
    omega
  rw [if_neg hsecond, post_bind]
  apply (post_loadBytes _ _ _).mono _ fun _ _ h ↦ ⟨h.1, h.2.1, Or.inr ⟨by omega, h.2.2⟩⟩
  rintro payloadBytes t ⟨rfl, hpayload, hpayloadLen⟩
  -- the payload
  have happendPayload := hB.append mb payloadBytes (by omega)
  have hmem' := happendPayload.memory_eq hmem (by rw [hptrBehind]; simp)
  have hends : CopyEnds P self topic 0 (self.copied topicBytes payloadBytes
      (self.tmpDataPublish.buffer.drop (topicBytes.length + 1 + payloadBytes.length))) := by
    refine .copied _ _ _ htopic htopicLen hpayload hpayloadLen ?_
    rw [List.length_drop]
    omega
  refine ⟨rfl, ?_⟩
  convert hends using 2
  simp [CcFsm.copied, hptr, hptrBehind, hmem', List.drop_drop]

/-! ## The whole function -/

/-- The upper half of the payload length stays clear. -/
theorem MqttMessage.out_keeps_payloadlen :
    MqttMessage.out.Keeps fun msg ↦ msg.payloadlen < 2 ^ 32 where
  dup _ _ h := h
  qos _ _ h := h
  retained _ _ h := h
  packetId _ _ h := h
  payload _ _ h := h
  payloadLen n msg h := by
    show msg.payloadlen / 2 ^ 32 * 2 ^ 32 + (n % 2 ^ 32).toNat < 2 ^ 32
    omega

theorem MqttMessage.load_payload {msg : MqttMessage} {offset : ℕ}
    (h : msg.payload = .serverReadBuff offset) : MqttMessage.out.payload.load msg = offset := by
  simp only [MqttMessage.out, h]

/-- Only the temporary data have changed, and they have kept their size. -/
structure CcFsm.Processed (old new : CcFsm) : Prop where
  client : new.client = old.client
  server : new.server = old.server
  serverReadBuff : new.serverReadBuff = old.serverReadBuff
  buffer : new.tmpDataPublish.buffer.length = old.tmpDataPublish.buffer.length
  payloadlen : new.tmpDataPublish.msg.payloadlen < 2 ^ 32

/-- The message as it is when the copying starts. -/
def CcFsm.withMessage (self : CcFsm) (msg : MqttMessage) : CcFsm :=
  { self with tmpDataPublish := { self.tmpDataPublish with
      msg := if msg.qos ≠ 1 then { msg with qos := 1 } else msg } }

theorem CcFsm.withMessage_msg (self : CcFsm) (msg : MqttMessage) :
    (self.withMessage msg).tmpDataPublish.msg = { msg with qos := 1 } := by
  unfold withMessage
  split_ifs with h
  · rfl
  · rw [← not_not.mp h]

theorem doProcessPublish_eq {ret : ℤ} {topic : LenString} {msg : MqttMessage}
    (h : P.paho.deserializePublish MqttMessage.out self.serverReadBuff self.tmpDataPublish.msg =
      (ret, topic, msg)) : doProcessPublish P self = checkPublish P self ret topic msg := by
  unfold doProcessPublish
  rw [h]

/-- The assertion about the topic or the one about the payload fails. -/
def CcFsm.FailsAssertion (P : Platform) (self : CcFsm) (topic : LenString) (msg : MqttMessage) :
    Prop :=
  P.assertions = true ∧
    ¬(P.isBufferInBuffer topic.data (P.sizeT topic.len) self.serverReadBuff.length = true ∧
      P.isBufferInBuffer (MqttMessage.out.payload.load msg) msg.payloadlen
        self.serverReadBuff.length = true)

/-- The packet is malformed or a duplicate, or the copying decides. -/
inductive CheckEnds (P : Platform) (self : CcFsm) (ret : ℤ) (topic : LenString)
    (msg : MqttMessage) : ℤ → CcFsm → Prop
  | malformed (hret : ret ≠ 1) : CheckEnds P self ret topic msg (-1)
      { self with tmpDataPublish := { self.tmpDataPublish with msg := msg } }
  | duplicate (hret : ret = 1) (hassert : ¬self.FailsAssertion P topic msg)
      (hdup : msg.dup ≠ 0) : CheckEnds P self ret topic msg (-1) (self.withMessage msg)
  | copied (hret : ret = 1) (hassert : ¬self.FailsAssertion P topic msg) (hdup : msg.dup = 0)
      (ret' : ℤ) (self' : CcFsm) (hends : CopyEnds P (self.withMessage msg) topic ret' self') :
      CheckEnds P self ret topic msg ret' self'

/-- Why the function stops instead of returning. -/
inductive CheckStops (P : Platform) (self : CcFsm) (ret : ℤ) (topic : LenString)
    (msg : MqttMessage) : Stop → Prop
  | assertion (hret : ret = 1) (hassert : self.FailsAssertion P topic msg) :
      CheckStops P self ret topic msg .assertion
  | overread (hret : ret = 1) (hassert : ¬self.FailsAssertion P topic msg) (hdup : msg.dup = 0)
      (hmisses : (self.withMessage msg).MissesBytes P topic) :
      CheckStops P self ret topic msg .overread

theorem CheckStops.eq_or {ret : ℤ} {topic : LenString} {msg : MqttMessage} {e : Stop}
    (h : CheckStops P self ret topic msg e) : e = .overread ∨ e = .assertion := by
  cases h with
  | assertion => exact Or.inr rfl
  | overread => exact Or.inl rfl

theorem post_checkPublish (hB : P.managedBuffer.Appends) (ret : ℤ) (topic : LenString)
    (hread : self.AvoidsWrap P topic) (msg : MqttMessage) (s : Sys World) :
    Post (checkPublish P self ret topic msg) s
      (fun r t ↦ t = s ∧ CheckEnds P self ret topic msg r.1 r.2)
      fun e t ↦ t = s ∧ CheckStops P self ret topic msg e := by
  refine post_ite (fun hret ↦ ⟨rfl, .malformed hret⟩) fun hret ↦ ?_
  have hret := not_not.mp hret
  apply ((post_debugAssert _ _ s).mono (fun _ _ h ↦ h) ?_).bind
  swap
  · rintro e t ⟨rfl, rfl, henabled, hfails⟩
    exact ⟨rfl, .assertion hret ⟨henabled, fun h ↦ hfails h.1⟩⟩
  rintro _ t ⟨rfl, htopic⟩
  apply ((post_debugAssert _ _ t).mono (fun _ _ h ↦ h) ?_).bind
  swap
  · rintro e u ⟨rfl, rfl, henabled, hfails⟩
    exact ⟨rfl, .assertion hret ⟨henabled, fun h ↦ hfails h.2⟩⟩
  rintro _ u ⟨rfl, hpayload⟩
  have hassert : ¬self.FailsAssertion P topic msg :=
    fun h ↦ h.2 ⟨htopic h.1, hpayload h.1⟩
  have hdup : (if msg.qos ≠ 1 then { msg with qos := 1 } else msg).dup = msg.dup := by
    split_ifs <;> rfl
  refine post_ite (fun hne ↦ ?_) fun hzero ↦ ?_
  · exact ⟨rfl, .duplicate hret hassert (hdup ▸ hne)⟩
  · have hzero : msg.dup = 0 := hdup ▸ not_not.mp hzero
    apply (post_copyPublish (self.withMessage msg) hB topic hread u).mono
    · exact fun r t h ↦ ⟨h.1, .copied hret hassert hzero r.1 r.2 h.2⟩
    · rintro e t ⟨rfl, rfl, hmisses⟩
      exact ⟨rfl, .overread hret hassert hzero hmisses⟩

theorem copyEnds_of_accepted (hB : P.managedBuffer.Appends)
    (hread : self.serverReadBuff.length < 2 ^ 32 - 1) {ret : ℤ} {topic : LenString}
    {msg : MqttMessage} {self' : CcFsm} {s t : Sys World}
    (hout : P.paho.deserializePublish MqttMessage.out self.serverReadBuff
      self.tmpDataPublish.msg = (ret, topic, msg))
    (h : doProcessPublish P self s = .ok (0, self') t) :
    CopyEnds P (self.withMessage msg) topic 0 self' := by
  rw [doProcessPublish_eq hout] at h
  have hends := ((post_checkPublish hB ret topic (Or.inl hread) msg s).ok h).2
  generalize hzero : (0 : ℤ) = r at hends
  cases hends with
  | malformed => exact absurd hzero (by decide)
  | duplicate => exact absurd hzero (by decide)
  | copied _ _ _ ret' self'' hends => exact hzero ▸ hends

/-- A message is accepted with quality of service 1. -/
theorem post_doProcessPublish (hB : P.managedBuffer.Appends)
    (hstores : P.paho.StoresThroughPointers) (hread : self.serverReadBuff.length < 2 ^ 32 - 1)
    (hpayloadlen : self.tmpDataPublish.msg.payloadlen < 2 ^ 32) (s : Sys World) :
    Post (doProcessPublish P self) s
      (fun r t ↦ t = s ∧ self.Processed r.2 ∧ (r.1 = 0 → r.2.tmpDataPublish.msg.qos = 1))
      fun e t ↦ t = s ∧ (e = .overread ∨ e = .assertion) := by
  have hstored := hstores _ _ MqttMessage.out_keeps_payloadlen self.serverReadBuff _ hpayloadlen
  generalize hout : P.paho.deserializePublish MqttMessage.out self.serverReadBuff
    self.tmpDataPublish.msg = out at hstored
  obtain ⟨ret, topic, msg⟩ := out
  have hstored : msg.payloadlen < 2 ^ 32 := hstored
  have hmsg := self.withMessage_msg msg
  have hprocessed : self.Processed (self.withMessage msg) :=
    ⟨rfl, rfl, rfl, rfl, by rw [hmsg]; exact hstored⟩
  rw [doProcessPublish_eq hout]
  apply (post_checkPublish hB ret topic (Or.inl hread) msg s).mono _ fun _ _ h ↦ ⟨h.1, h.2.eq_or⟩
  rintro ⟨ret', self'⟩ t ⟨rfl, hends⟩
  refine ⟨rfl, ?_⟩
  dsimp only at hends ⊢
  cases hends with
  | malformed =>
      exact ⟨⟨rfl, rfl, rfl, rfl, hstored⟩, fun h ↦ absurd h (by decide)⟩
  | duplicate => exact ⟨hprocessed, fun h ↦ absurd h (by decide)⟩
  | copied _ _ _ _ _ hends =>
      cases hends with
      | tooLong szTopic buffer hbuffer hlong =>
          exact ⟨⟨rfl, rfl, rfl, hbuffer, hprocessed.payloadlen⟩, fun h ↦ absurd h (by decide)⟩
      | copied topicBytes payloadBytes unused htopic htopicLen hpayload hpayloadLen hlen =>
          refine ⟨⟨rfl, rfl, rfl, ?_, hprocessed.payloadlen⟩, fun _ ↦ ?_⟩
          · rw [← hprocessed.buffer, ← hlen]
            simp [CcFsm.copied]
            omega
          · simp [CcFsm.copied, hmsg]

end DemoIotApp
