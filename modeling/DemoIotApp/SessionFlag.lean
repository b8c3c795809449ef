import DemoIotApp.Reference
import DemoIotApp.WaitLoop

/-!
# The session flag

`isConnected` is the only thing the client remembers of its session. It is set by a
successful connect, cleared by a disconnect and by every publish that fails, and no
other exit of the three functions touches it. The flag therefore tells, after any
sequence of calls, what has become of the last session that was opened.
-/

namespace DemoIotApp

open Library Prog

variable {W : Type}

/-! ## Calls and their results -/

/-- A call of one of the functions that open, use and close a session. -/
inductive SessionCall where
  | connect (options : Option ConnectData) (data : ConnackData) (timer : Option Timer)
  | publish (memory : Ptr → List UInt8) (topicName : Ptr) (msg : MqttMessage)
      (timer : Option Timer)
  | disconnect

/-- What a call has returned. -/
inductive SessionResult where
  | connect (ret : ℤ)
  | publish (ret : ℤ)
  | disconnect
  deriving DecidableEq

/-- After the call a session is open if and only if one was open before. -/
def SessionResult.Passes : SessionResult → Prop
  | .connect ret => ret ≠ mqttSuccess
  | .publish ret => ret = mqttSuccess
  | .disconnect => False

/-- The last successful connect was followed by no disconnect and by no failed publish. -/
def SessionOpen (history : List SessionResult) : Prop :=
  ∃ before after, history = before ++ .connect mqttSuccess :: after ∧ ∀ c ∈ after, c.Passes

theorem not_sessionOpen_nil : ¬SessionOpen [] := by
  rintro ⟨before, after, h, -⟩
  simp at h

theorem sessionOpen_concat {history : List SessionResult} {c : SessionResult} :
    SessionOpen (history ++ [c]) ↔
      c = .connect mqttSuccess ∨ c.Passes ∧ SessionOpen history := by
  constructor
  · rintro ⟨before, after, h, hpasses⟩
    rcases List.eq_nil_or_concat after with rfl | ⟨after, c', rfl⟩
    · exact Or.inl (List.singleton_inj.mp (List.append_inj' h rfl).2)
    · rw [List.concat_eq_append, ← List.cons_append, ← List.append_assoc] at h
      obtain ⟨rfl, hc⟩ := List.append_inj' h rfl
      obtain rfl := List.singleton_inj.mp hc
      refine Or.inr ⟨hpasses c (by simp), before, after, rfl, fun c' hc' ↦ hpasses c' ?_⟩
      simp [hc']
  · rintro (rfl | ⟨hc, before, after, rfl, hpasses⟩)
    · exact ⟨history, [], rfl, by simp⟩
    · refine ⟨before, after ++ [c], by simp, fun c' hc' ↦ ?_⟩
      rcases List.mem_append.mp hc' with hc' | hc'
      · exact hpasses c' hc'
      · exact List.mem_singleton.mp hc' ▸ hc

variable [Clock W]

/-- The history of the calls is kept next to the client. -/
def callSession (P : Platform) (fuel : ℕ) (self : List SessionResult × MqttClient W) :
    SessionCall → Prog Stop (Sys W) (List SessionResult × MqttClient W)
  | .connect options data timer => do
      let (ret, _, client) ← mqttClientConnect P fuel self.2 options data timer
      return (self.1 ++ [.connect ret], client)
  | .publish memory topicName msg timer => do
      let (ret, _, client) ← mqttClientPublish P fuel memory self.2 topicName msg timer
      return (self.1 ++ [.publish ret], client)
  | .disconnect => do
      let client ← mqttClientDisconnect P self.2
      return (self.1 ++ [.disconnect], client)

/-- One call after the other on a client that was just initialised. -/
def callSessions (P : Platform) (fuel : ℕ) (client : MqttClient W) (calls : List SessionCall) :
    Prog Stop (Sys W) (List SessionResult × MqttClient W) :=
  calls.foldlM (callSession P fuel) ([], client)

/-! ## What sending and waiting leave alone -/

/-- The number that is drawn for the next message with quality of service 1 or 2. -/
def drawnId (self : MqttClient W) : ℕ :=
  if maxPacketId ≤ self.nextPacketId then 1 else self.nextPacketId + 1

section Waited

variable {P : Platform}

theorem yields_sendSerialized (serialize : Serializer) (self : MqttClient W) :
    Yields (fun r ↦ Waited self r.2) (sendSerialized serialize self) := by
  have hself : Waited self { self with sendbuf := (serialize self.sendbuf).2 } :=
    ⟨_, _, _, rfl⟩
  refine keeps_ite (fun _ ↦ keeps_pure hself) fun _ ↦ ?_
  exact (yields_true _).bind fun _ _ ↦ keeps_pure hself

theorem yields_sendDisconnect (self : MqttClient W) :
    Yields (fun r ↦ Waited self r.2) (sendDisconnect P self) := by
  have hself : Waited self { self with
      sendbuf := (P.paho.serializeDisconnect self.sendbuf).2 } := ⟨_, _, _, rfl⟩
  refine keeps_ite (fun _ ↦ keeps_pure hself) fun _ ↦ ?_
  exact (yields_true _).bind fun _ _ ↦ keeps_pure hself

theorem yields_waitForSpecificPacket (packetType : ℤ) (timer : Option Timer) (fuel : ℕ)
    (self : MqttClient W) :
    Yields (fun r ↦ Waited self r.2) (waitForSpecificPacket P packetType timer fuel self) :=
  yields_of_ok fun _ _ _ h ↦ waitForSpecificPacket_waited h

theorem yields_expectAck (fuel : ℕ) (self : MqttClient W) (ackPacketType : PacketType)
    (data : AckData) (timer : Option Timer) :
    Yields (fun r ↦ Waited self r.2.2) (expectAck P fuel self ackPacketType data timer) := by
  have hwait : Yields (fun r ↦ Waited self r.2.2)
      (waitAndReadSpecificAckPacket P fuel self ackPacketType data timer) := by
    apply (yields_waitForSpecificPacket _ timer fuel self).bind
    intro r hr
    exact keeps_ite (fun _ ↦ keeps_pure hr) fun _ ↦ keeps_pure hr
  apply hwait.bind
  intro r hr
  exact keeps_ite (fun _ ↦ keeps_pure hr) fun _ ↦ (yields_true _).bind fun _ _ ↦ keeps_pure hr

theorem yields_checkPublishQos (fuel : ℕ) (self : MqttClient W) (qos : UInt8)
    (timer : Option Timer) :
    Yields (fun r ↦ Waited self r.2) (checkPublishQos P fuel self qos timer) := by
  refine keeps_ite (fun _ ↦ keeps_pure (.refl self)) fun _ ↦ keeps_ite (fun _ ↦ ?_) fun _ ↦
    keeps_ite (fun _ ↦ ?_) fun _ ↦ keeps_pure (.refl self)
  · exact (yields_expectAck fuel self _ _ timer).bind fun r hr ↦ keeps_pure hr
  · apply (yields_expectAck fuel self _ _ timer).bind
    intro r hr
    refine keeps_ite (fun _ ↦ keeps_pure hr) fun _ ↦ ?_
    apply (yields_sendSerialized _ r.2.2).bind
    intro r' hr'
    refine keeps_ite (fun _ ↦ keeps_pure (hr.trans hr')) fun _ ↦ ?_
    exact (yields_expectAck fuel r'.2 _ _ timer).bind fun _ hr'' ↦
      keeps_pure ((hr.trans hr').trans hr'')

/-- Before it waits, a connect only sets the timer. -/
theorem yields_awaitConnack (fuel : ℕ) (self : MqttClient W) (options : ConnectData)
    (timer : Option Timer) :
    Yields (fun r ↦ ∃ timerLastSend, Waited { self with
        keepAliveIntervalMs := options.keepAliveInterval, timerLastSend := timerLastSend } r.2)
      (awaitConnack P fuel self options timer) := by
  refine (yields_true _).bind fun timerLastSend _ ↦ ?_
  apply (yields_sendSerialized _ _).bind
  intro r hr
  refine keeps_ite (fun _ ↦ keeps_pure ⟨timerLastSend, hr⟩) fun _ ↦ ?_
  exact (yields_waitForSpecificPacket _ timer fuel r.2).bind fun r' hr' ↦
    keeps_pure ⟨timerLastSend, hr.trans hr'⟩

omit [Clock W] in
/-- The identifier is all that a message gets and all that the client draws for it. -/
theorem yields_assignPacketId (self : MqttClient W) (msg : MqttMessage) :
    Yields (fun r ↦ r = if msg.qos = 1 ∨ msg.qos = 2 then
        ({ msg with id := publishId self }, { self with nextPacketId := drawnId self })
      else (msg, self)) (assignPacketId P self msg) := by
  refine keeps_ite (fun hqos ↦ ?_) fun hqos ↦ keeps_pure (if_neg hqos).symm
  have hnext : Yields (fun r ↦ r = (drawnId self, { self with nextPacketId := drawnId self }))
      (getNextPacketId P self) :=
    (yields_true _).bind fun _ _ ↦ keeps_pure rfl
  apply hnext.bind
  rintro r rfl
  exact keeps_pure (if_pos hqos).symm

end Waited

/-! ## What sets and what clears it -/

section Flag

/-- The functions below return the client with the flag as it was. -/
def HasFlag (connected : Bool) (self : MqttClient W) : Prop := self.isConnected = connected

omit [Clock W] in
theorem HasFlag.waited {connected : Bool} {self self' : MqttClient W}
    (h : HasFlag connected self) (hwaited : Waited self self') : HasFlag connected self' :=
  hwaited.isConnected.trans h

omit [Clock W] in
theorem yields_assignPacketId_hasFlag {P : Platform} {connected : Bool} {self : MqttClient W}
    (h : HasFlag connected self) (msg : MqttMessage) :
    Yields (fun r ↦ HasFlag connected r.2) (assignPacketId P self msg) := by
  refine (yields_assignPacketId self msg).mono ?_
  rintro r rfl
  split_ifs <;> exact h

theorem yields_mqttClientConnect (P : Platform) (fuel : ℕ) (self : MqttClient W)
    (options : Option ConnectData) (data : ConnackData) (timer : Option Timer) :
    Yields (fun r ↦ r.2.2.isConnected = true ↔ r.1 = mqttSuccess ∨ self.isConnected = true)
      (mqttClientConnect P fuel self options data timer) := by
  refine keeps_ite (fun hconnected ↦ keeps_pure ?_) fun hconnected ↦ ?_
  · exact iff_of_true hconnected (Or.inr hconnected)
  have hself : HasFlag false self := eq_false_of_ne_true hconnected
  have hfailed : ∀ client : MqttClient W, HasFlag false client →
      (client.isConnected = true ↔ mqttFailure = mqttSuccess ∨ self.isConnected = true) := by
    intro client hclient
    rw [hclient, hself]
    simp [mqttFailure_ne_mqttSuccess]
  apply (yields_awaitConnack fuel self (options.getD ConnectData.initializer) timer).bind
  rintro r ⟨timerLastSend, hwaited⟩
  have hr : HasFlag false r.2 := HasFlag.waited (by exact hself) hwaited
  refine keeps_ite (fun _ ↦ keeps_pure (hfailed r.2 hr)) fun _ ↦ ?_
  refine keeps_ite (fun _ ↦ keeps_pure (hfailed r.2 hr)) fun _ ↦ keeps_pure ?_
  exact iff_of_true rfl (Or.inl rfl)

theorem yields_mqttClientPublish (P : Platform) (fuel : ℕ) (memory : Ptr → List UInt8)
    (self : MqttClient W) (topicName : Ptr) (msg : MqttMessage) (timer : Option Timer) :
    Yields (fun r ↦ r.2.2.isConnected = true ↔ r.1 = mqttSuccess ∧ self.isConnected = true)
      (mqttClientPublish P fuel memory self topicName msg timer) := by
  have hclosed : ∀ client : MqttClient W, (closeSession client).isConnected = true ↔
      mqttFailure = mqttSuccess ∧ self.isConnected = true :=
    fun client ↦ iff_of_false (by simp [closeSession]) fun h ↦ mqttFailure_ne_mqttSuccess h.1
  refine keeps_ite (fun _ ↦ keeps_pure (hclosed self)) fun hconnected ↦ ?_
  have hself : HasFlag true self := not_not.mp hconnected
  apply (yields_assignPacketId_hasFlag hself msg).bind
  intro r hr
  apply (yields_sendSerialized _ r.2).bind
  intro r' hr'
  refine keeps_ite (fun _ ↦ keeps_pure (hclosed r'.2)) fun _ ↦ ?_
  apply (yields_checkPublishQos fuel r'.2 _ timer).bind
  intro r'' hr''
  refine keeps_ite (fun _ ↦ keeps_pure (hclosed r''.2)) fun _ ↦ keeps_pure ?_
  exact iff_of_true (hr.waited (hr'.trans hr'')) ⟨rfl, hself⟩

theorem yields_mqttClientDisconnect (P : Platform) (self : MqttClient W) :
    Yields (fun client ↦ client.isConnected = false) (mqttClientDisconnect P self) :=
  (yields_true _).bind fun _ _ ↦ keeps_pure rfl

end Flag

/-! ## Runs -/

section Runs

variable (P : Platform) (fuel : ℕ)

theorem yields_callSession {h : List SessionResult × MqttClient W} (call : SessionCall)
    (hflag : h.2.isConnected = true ↔ SessionOpen h.1) :
    Yields (fun h' ↦ h'.2.isConnected = true ↔ SessionOpen h'.1) (callSession P fuel h call) := by
  cases call with
  | connect options data timer =>
      apply (yields_mqttClientConnect P fuel h.2 options data timer).bind
      intro r hr
      apply keeps_pure
      rw [hr, hflag, sessionOpen_concat, SessionResult.connect.injEq, SessionResult.Passes]
      tauto
  | publish memory topicName msg timer =>
      apply (yields_mqttClientPublish P fuel memory h.2 topicName msg timer).bind
      intro r hr
      apply keeps_pure
      rw [hr, hflag, sessionOpen_concat, SessionResult.Passes]
      simp
  | disconnect =>
      apply (yields_mqttClientDisconnect P h.2).bind
      intro client hclient
      apply keeps_pure
      rw [hclient, sessionOpen_concat, SessionResult.Passes]
      simp

/-- After any calls on an initialised client the flag says whether the session that was
opened last is still open. A connect on an open session and a publish without one change
nothing of the system, and the publish draws no packet identifier. -/
theorem isConnected_iff_sessionOpen (self : MqttClient W) (net : Network W) (sendTimeoutMs : ℕ)
    (sendbuf readbuf : List UInt8) (calls : List SessionCall) (s : Sys W) :
    Post (callSessions P fuel (mqttClientInit self net sendTimeoutMs sendbuf readbuf) calls) s
      (fun h _ ↦ h.2.isConnected = true ↔ SessionOpen h.1) (fun _ _ ↦ True) ∧
    (∀ (client : MqttClient W) options data timer, client.isConnected = true →
      mqttClientConnect P fuel client options data timer s = .ok (mqttFailure, data, client) s) ∧
    ∀ (client : MqttClient W) memory topicName msg timer, client.isConnected = false →
      ∃ client', mqttClientPublish P fuel memory client topicName msg timer s =
          .ok (mqttFailure, msg, client') s ∧ client'.nextPacketId = client.nextPacketId := by
  refine ⟨?_, fun client options data timer hconnected ↦ ?_,
    fun client memory topicName msg timer hconnected ↦ ⟨closeSession client, ?_, rfl⟩⟩
  · have hrun := keeps_foldlM (fun h call hflag ↦ yields_callSession P fuel call hflag) calls
      ([], mqttClientInit self net sendTimeoutMs sendbuf readbuf)
      (iff_of_false (by simp [mqttClientInit]) not_sessionOpen_nil)
    exact Yields.post hrun s
  · rw [mqttClientConnect, if_pos hconnected]
    rfl
  · rw [mqttClientPublish, if_pos (by simp [hconnected])]
    rfl

end Runs

/-- The first CONNACK opens the session, and the second connect is refused. -/
theorem sessionOpen_of_two_connects :
    ∃ h t, callSessions (Platform.reference false) 4
        (mqttClientInit smallClient (netWan 4) (2 ^ 32 - 1) (List.replicate 64 0)
          (List.replicate 5 0)) [.connect none ⟨0, 0⟩ none, .connect none ⟨0, 0⟩ none]
        ⟨World.steady [0x20, 2, 0, 0], []⟩ = .ok h t ∧
      h.1 = [.connect mqttSuccess, .connect mqttFailure] ∧ SessionOpen h.1 := by
  have hview : (callSessions (Platform.reference false) 4
      (mqttClientInit smallClient (netWan 4) (2 ^ 32 - 1) (List.replicate 64 0)
        (List.replicate 5 0)) [.connect none ⟨0, 0⟩ none, .connect none ⟨0, 0⟩ none]
      ⟨World.steady [0x20, 2, 0, 0], []⟩).view? (fun h _ ↦ (h.1, h.2.isConnected)) =
        some ([.connect mqttSuccess, .connect mqttFailure], true) := by decide +kernel
  obtain ⟨h, t, hrun, hresult⟩ := Outcome.view?_eq_some_iff.mp hview
  obtain ⟨hhistory, hconnected⟩ := Prod.mk.inj hresult
  have hiff : ∀ s h t, callSessions (Platform.reference false) 4
      (mqttClientInit smallClient (netWan 4) (2 ^ 32 - 1) (List.replicate 64 0)
        (List.replicate 5 0)) [.connect none ⟨0, 0⟩ none, .connect none ⟨0, 0⟩ none] s =
        .ok h t → (h.2.isConnected = true ↔ SessionOpen h.1) :=
    fun s h t hrun ↦ (isConnected_iff_sessionOpen _ _ _ _ _ _ _ _ s).1.ok hrun
  exact ⟨h, t, hrun, hhistory, (hiff _ h t hrun).mp hconnected⟩

end DemoIotApp
