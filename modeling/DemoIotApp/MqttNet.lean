import DemoIotApp.Environment
import DemoIotApp.Paho

/-!
# `MQTT_net.c`: packets over a byte transport

A `Network` is a pair of function pointers. A read gets the bytes that the
destination holds and returns what is there afterwards, so that its length is
the number of bytes asked for.
-/

namespace DemoIotApp

open Library

variable {W : Type}

/-! ## Return codes -/

def mqttTimeout : ℤ := -3
def mqttBufferOverflow : ℤ := -2
def mqttFailure : ℤ := -1
def mqttSuccess : ℤ := 0

theorem mqttTimeout_neg : mqttTimeout < 0 := by decide

theorem mqttFailure_neg : mqttFailure < 0 := by decide

theorem mqttFailure_ne_mqttSuccess : mqttFailure ≠ mqttSuccess := by decide

/-! ## The transport -/

/-- The function pointers of a `Network`. They are unset in zeroed memory. The
link tells apart the two objects that the source has pointers to. -/
structure Network (W : Type) where
  link : Link
  mqttread : Option (List UInt8 → ℤ → Prog Stop W (ℤ × List UInt8))
  mqttwrite : Option (List UInt8 → ℤ → Prog Stop W ℤ)

def Network.unset (link : Link) : Network W := ⟨link, none, none⟩

section

variable [Clock W]

/-- A null timer means no limit, which the transport gets as `-1`. -/
def timeoutOf : Option Timer → Prog Stop (Sys W) ℤ
  | some timer => timerLeft timer
  | none => pure (-1)

def mqttNetworkRead (n : Network W) (buffer : List UInt8) (timer : Option Timer) :
    Prog Stop (Sys W) (ℤ × List UInt8) :=
  Sys.observed (fun before after r ↦ .read buffer.length before after (r.map Prod.fst)) do
    let timeoutMs ← timeoutOf timer
    match n.mqttread with
    | none => Prog.stop .nullCall
    | some mqttread => Sys.onWorld (mqttread buffer timeoutMs)

def mqttNetworkWrite (n : Network W) (buffer : List UInt8) (timer : Option Timer) :
    Prog Stop (Sys W) ℤ := do
  let timeoutMs ← timeoutOf timer
  match n.mqttwrite with
  | none => Prog.stop .nullCall
  | some mqttwrite => Sys.onWorld (mqttwrite buffer timeoutMs)

def mqttNetworkSendPacket (n : Network W) (buffer : List UInt8) (timer : Option Timer) :
    Prog Stop (Sys W) ℤ :=
  Sys.observed (.sendPacket n.link buffer) do
    mqttNetworkWrite n buffer timer

/-! ## Reading a packet -/

/-- `MQTT_network_read` to `&buffer[offset]`. -/
def readInto (n : Network W) (buffer : List UInt8) (offset len : ℕ) (timer : Option Timer) :
    Prog Stop (Sys W) (ℤ × List UInt8) :=
  if offset + len ≤ buffer.length then do
    let (rc, bytes) ← mqttNetworkRead n ((buffer.drop offset).take len) timer
    return (rc, buffer.take offset ++ (bytes ++ buffer.drop (offset + len)))
  else Prog.stop .overrun

def storeAt (buffer : List UInt8) (offset : ℕ) (bytes : List UInt8) :
    Prog Stop (Sys W) (List UInt8) :=
  if offset + bytes.length ≤ buffer.length then
    pure (buffer.take offset ++ (bytes ++ buffer.drop (offset + bytes.length)))
  else Prog.stop .overrun

/-- The loop of `MQTT_network_readAndDecodePacketLength`. Its parameters are
the local variables, and `tmpPacketLen` is an `unsigned int`. The returned
number is what `*value` holds on return. -/
def readLengthBytes (n : Network W) (timer : Option Timer) :
    (bytesLeft shift tmpPacketLen cntBytes : ℕ) → Prog Stop (Sys W) (ℤ × ℕ)
  | 0, _, _, _ => pure (mqttFailure, 0)
  | bytesLeft + 1, shift, tmpPacketLen, cntBytes => do
      let (rc, bytes) ← mqttNetworkRead n [0] timer
      if rc ≠ mqttSuccess then
        return (rc, 0)
      else
        let lenByte := (bytes.headD 0).toNat
        let tmpPacketLen := tmpPacketLen ||| ((lenByte &&& 127) <<< shift) % 2 ^ 32
        if lenByte &&& 128 = 0 then
          return (((cntBytes + 1 : ℕ) : ℤ), tmpPacketLen)
        else
          readLengthBytes n timer bytesLeft (shift + 7) tmpPacketLen (cntBytes + 1)

def mqttNetworkReadAndDecodePacketLength (n : Network W) (timer : Option Timer) :
    Prog Stop (Sys W) (ℤ × ℕ) :=
  readLengthBytes n timer 4 0 0 0

/-- The end of `MQTT_network_readPacket`. The difference that the payload length
is compared with is an `unsigned int`. -/
def readPayload (n : Network W) (buffer : List UInt8) (bufferSize offset payloadLen : ℕ)
    (timer : Option Timer) : Prog Stop (Sys W) (ℤ × List UInt8) :=
  if 0 < payloadLen then
    if (bufferSize + 2 ^ 32 - offset) % 2 ^ 32 < payloadLen then
      return (mqttBufferOverflow, buffer)
    else do
      let (rc, buffer) ← readInto n buffer offset payloadLen timer
      if rc ≠ mqttSuccess then
        return (rc, buffer)
      else
        return (headerType (buffer.headD 0), buffer)
  else
    return (headerType (buffer.headD 0), buffer)

/-- What `MQTT_network_readPacket` does once it has the header byte. -/
def readBody (P : Paho) (n : Network W) (buffer : List UInt8) (bufferSize : ℕ)
    (timer : Option Timer) : Prog Stop (Sys W) (ℤ × List UInt8) := do
  let (rc, payloadLen) ← mqttNetworkReadAndDecodePacketLength n timer
  if rc ≤ 0 then
    return (rc, buffer)
  else
    let lenBytes := P.packetEncode payloadLen
    let buffer ← storeAt buffer 1 lenBytes
    readPayload n buffer bufferSize (1 + lenBytes.length) payloadLen timer

/-- The buffer size is passed as an `unsigned int` as well. -/
def mqttNetworkReadPacket (P : Paho) (n : Network W) (buffer : List UInt8)
    (timer : Option Timer) : Prog Stop (Sys W) (ℤ × List UInt8) := do
  let bufferSize := buffer.length % 2 ^ 32
  let (rc, buffer) ← readInto n buffer 0 1 timer
  if rc ≠ mqttSuccess then
    return (rc, buffer)
  else
    readBody P n buffer bufferSize timer

end

/-- `MQTT_readHeader` -/
def mqttReadHeader (buffer : List UInt8) : Prog Stop (Sys W) ℕ :=
  match buffer with
  | [] => Prog.stop .nullDeref
  | header :: _ => pure (headerType header)

/-! ## What the calls leave in the trace -/

def Event.IsRead : Event W → Prop
  | .read .. => True
  | _ => False

def Event.IsSend : Event W → Prop
  | .sendPacket .. => True
  | _ => False

theorem Event.IsSend.not_isRead {e : Event W} (h : e.IsSend) : ¬e.IsRead := by
  cases e <;> first | exact h.elim | exact id

section Trace

theorem emits_storeAt {G : Event W → Prop} (buffer : List UInt8) (offset : ℕ)
    (bytes : List UInt8) : Emits G (storeAt buffer offset bytes) :=
  Emits.ite (Emits.pure _) (Emits.stop _)

variable [Clock W]

theorem emits_timeoutOf {G : Event W → Prop} (timer : Option Timer) :
    Emits G (timeoutOf timer : Prog Stop (Sys W) ℤ) := by
  cases timer with
  | none => exact Emits.pure _
  | some timer => exact Emits.timerLeft timer

theorem emits_mqttNetworkRead (n : Network W) (buffer : List UInt8) (timer : Option Timer) :
    Emits Event.IsRead (mqttNetworkRead n buffer timer) := by
  apply Emits.observed _ fun _ _ _ ↦ trivial
  apply (emits_timeoutOf timer).bind
  intro timeoutMs
  cases n.mqttread with
  | none => exact Emits.stop _
  | some mqttread => exact Emits.onWorld _

theorem emits_mqttNetworkSendPacket {G : Event W → Prop} (n : Network W) (buffer : List UInt8)
    (timer : Option Timer) (hG : ∀ before after rc, G (.sendPacket n.link buffer before after rc)) :
    Emits G (mqttNetworkSendPacket n buffer timer) := by
  apply Emits.observed _ hG
  apply (emits_timeoutOf timer).bind
  intro timeoutMs
  cases n.mqttwrite with
  | none => exact Emits.stop _
  | some mqttwrite => exact Emits.onWorld _

theorem emits_readInto (n : Network W) (buffer : List UInt8) (offset len : ℕ)
    (timer : Option Timer) : Emits Event.IsRead (readInto n buffer offset len timer) :=
  Emits.ite ((emits_mqttNetworkRead n _ timer).bind fun _ ↦ Emits.pure _) (Emits.stop _)

theorem emits_readLengthBytes (n : Network W) (timer : Option Timer) :
    ∀ bytesLeft shift tmpPacketLen cntBytes,
      Emits Event.IsRead (readLengthBytes n timer bytesLeft shift tmpPacketLen cntBytes) := by
  intro bytesLeft
  induction bytesLeft with
  | zero => exact fun _ _ _ ↦ Emits.pure _
  | succ bytesLeft ih =>
      intro shift tmpPacketLen cntBytes
      apply (emits_mqttNetworkRead n _ timer).bind
      rintro ⟨rc, bytes⟩
      exact Emits.ite (Emits.pure _) (Emits.ite (Emits.pure _) (ih _ _ _))

theorem emits_readPayload (n : Network W) (buffer : List UInt8)
    (bufferSize offset payloadLen : ℕ) (timer : Option Timer) :
    Emits Event.IsRead (readPayload n buffer bufferSize offset payloadLen timer) := by
  apply Emits.ite _ (Emits.pure _)
  apply Emits.ite (Emits.pure _)
  apply (emits_readInto n buffer _ payloadLen timer).bind
  rintro ⟨rc, buffer⟩
  exact Emits.ite (Emits.pure _) (Emits.pure _)

theorem emits_readBody (P : Paho) (n : Network W) (buffer : List UInt8) (bufferSize : ℕ)
    (timer : Option Timer) : Emits Event.IsRead (readBody P n buffer bufferSize timer) := by
  apply (emits_readLengthBytes n timer 4 0 0 0).bind
  rintro ⟨rc, payloadLen⟩
  apply Emits.ite (Emits.pure _)
  apply (emits_storeAt buffer 1 (P.packetEncode payloadLen)).bind
  exact fun buffer ↦ emits_readPayload n buffer _ _ payloadLen timer

theorem emits_mqttNetworkReadPacket (P : Paho) (n : Network W) (buffer : List UInt8)
    (timer : Option Timer) : Emits Event.IsRead (mqttNetworkReadPacket P n buffer timer) := by
  apply (emits_readInto n buffer 0 1 timer).bind
  rintro ⟨rc, buffer⟩
  exact Emits.ite (Emits.pure _) (emits_readBody P n buffer _ timer)

/-- A read leaves one event, however it ends. -/
theorem post_mqttNetworkRead_trace (n : Network W) (buffer : List UInt8) (timer : Option Timer)
    (s : Sys W) :
    Prog.Post (mqttNetworkRead n buffer timer) s
      (fun r t ↦ t.trace = s.trace ++ [.read buffer.length s.world t.world (some r.1)])
      fun _ t ↦ t.trace = s.trace ++ [.read buffer.length s.world t.world none] := by
  unfold mqttNetworkRead
  rw [Sys.post_observed]
  have hquiet : Emits (fun _ ↦ False) (do
      let timeoutMs ← timeoutOf timer
      match n.mqttread with
      | none => Prog.stop .nullCall
      | some mqttread => Sys.onWorld (mqttread buffer timeoutMs)) := by
    apply (emits_timeoutOf timer).bind
    intro timeoutMs
    cases n.mqttread with
    | none => exact Emits.stop _
    | some mqttread => exact Emits.onWorld _
  refine (Prog.Frame.post hquiet s).mono (fun r t ht ↦ ?_) fun e t ht ↦ ?_
  · rw [ht.trace_eq]
    rfl
  · rw [ht.trace_eq]
    rfl

theorem mqttNetworkRead_trace {n : Network W} {buffer : List UInt8} {timer : Option Timer}
    {s t : Sys W} {r : ℤ × List UInt8} (h : mqttNetworkRead n buffer timer s = .ok r t) :
    t.trace = s.trace ++ [.read buffer.length s.world t.world (some r.1)] :=
  (post_mqttNetworkRead_trace n buffer timer s).ok h

theorem mqttNetworkSendPacket_trace {n : Network W} {buffer : List UInt8} {timer : Option Timer}
    {s t : Sys W} {rc : ℤ} (h : mqttNetworkSendPacket n buffer timer s = .ok rc t) :
    t.trace = s.trace ++ [.sendPacket n.link buffer s.world t.world (some rc)] := by
  have hpost : Prog.Post (mqttNetworkSendPacket n buffer timer) s (fun rc t ↦
      t.trace = s.trace ++ [.sendPacket n.link buffer s.world t.world (some rc)])
      fun _ _ ↦ True := by
    unfold mqttNetworkSendPacket
    rw [Sys.post_observed]
    refine Prog.post_intro (fun r t ht ↦ ?_) fun _ _ _ ↦ trivial
    have hquiet : Emits (fun _ ↦ False) (mqttNetworkWrite n buffer timer) := by
      apply (emits_timeoutOf timer).bind
      intro timeoutMs
      cases n.mqttwrite with
      | none => exact Emits.stop _
      | some mqttwrite => exact Emits.onWorld _
    rw [(hquiet.ok ht).trace_eq]
  exact hpost.ok h

theorem mqttNetworkReadPacket_reads {P : Paho} {n : Network W} {buffer : List UInt8}
    {timer : Option Timer} {s t : Sys W} {r : ℤ × List UInt8}
    (h : mqttNetworkReadPacket P n buffer timer s = .ok r t) :
    ∃ e es, t.trace = s.trace ++ e :: es ∧ ∀ e' ∈ e :: es, e'.IsRead := by
  obtain ⟨⟨rc, buffer₁⟩, u, hread, hrest⟩ := Prog.bind_eq_ok_iff.mp h
  have hbody : Emits Event.IsRead (if rc ≠ mqttSuccess then pure (rc, buffer₁)
      else readBody P n buffer₁ (buffer.length % 2 ^ 32) timer) :=
    Emits.ite (Emits.pure _) (emits_readBody P n buffer₁ _ timer)
  obtain ⟨es, hes, hall⟩ := hbody.ok hrest
  unfold readInto at hread
  split_ifs at hread with hfit
  · obtain ⟨r', v, hv, hvu⟩ := Prog.bind_eq_ok_iff.mp hread
    obtain ⟨-, rfl⟩ := Outcome.ok.inj hvu
    rw [mqttNetworkRead_trace hv, List.append_assoc] at hes
    refine ⟨_, es, hes, ?_⟩
    intro e' he'
    rcases List.mem_cons.mp he' with rfl | he'
    · trivial
    · exact hall e' he'
  · simp [Prog.stop] at hread

end Trace

end DemoIotApp
