import DemoIotApp.KeepAlive
import DemoIotApp.SessionFlag

/-!
# The client in small steps

The functions that open, use and close a session pass the client from one step to the
next, and nothing outside sees it in between. Here the steps are taken apart, so that a
property can be stated for every state that a client passes through.
-/

namespace DemoIotApp

open Library Prog

variable {W : Type} [Clock W]

/-! ## Moves -/

/-- What the functions of the client do one after the other. A move sends one packet at most. -/
inductive Move where
  /-- The beginning of `MQTT_client_connect`, up to the CONNECT. -/
  | connect (options : ConnectData)
  | isTimedOut (timer : Option Timer)
  | waitForNextPacket (timer : Option Timer)
  | sendPublish (args : PublishArgs)
  | sendAck (ackType : PacketType) (dup : ℕ) (packetId : UInt16)
  | disconnect
  /-- The fields that no timer depends on are set. -/
  | note (isConnected isPingOutstanding : Bool) (nextPacketId : ℕ)

def Move.run (P : Platform) (self : MqttClient W) : Move → Prog Stop (Sys W) (MqttClient W)
  | .connect options => do
      let timerLastSend ← timerCountdown options.keepAliveInterval
      let (_, self) ← sendConnect P { self with
        keepAliveIntervalMs := options.keepAliveInterval, timerLastSend := timerLastSend } options
      return self
  | .isTimedOut timer => do
      let _ ← DemoIotApp.isTimedOut (W := W) timer
      return self
  | .waitForNextPacket timer => waitOnce P self timer
  | .sendPublish args => do
      let (_, self) ← DemoIotApp.sendPublish P self args
      return self
  | .sendAck ackType dup packetId => do
      let (_, self) ← DemoIotApp.sendAck P self ackType dup packetId
      return self
  | .disconnect => mqttClientDisconnect P self
  | .note isConnected isPingOutstanding nextPacketId =>
      return { self with
        isConnected := isConnected, isPingOutstanding := isPingOutstanding,
        nextPacketId := nextPacketId }

def Move.waits : Move → Bool
  | .waitForNextPacket _ => true
  | _ => false

/-- The client, and the time that was read when its last connect began. -/
structure Timed (W : Type) where
  client : MqttClient W
  connectTime : ℕ

/-- The time at which the last connect began, behind a move that begins now. -/
def Move.connectTime (last now : ℕ) : Move → ℕ
  | .connect _ => now
  | _ => last

def Move.runTimed (P : Platform) (b : Timed W) (m : Move) : Prog Stop (Sys W) (Timed W) := do
  let s ← Prog.get
  let client ← m.run P b.client
  return ⟨client, m.connectTime b.connectTime (timeAt s.world)⟩

theorem Move.runTimed_eq_ok_iff {P : Platform} {m : Move} {b b' : Timed W} {s t : Sys W} :
    m.runTimed P b s = .ok b' t ↔ m.run P b.client s = .ok b'.client t ∧
      b'.connectTime = m.connectTime b.connectTime (timeAt s.world) := by
  obtain ⟨client, connectTime⟩ := b'
  unfold Move.runTimed
  rw [bind_eq_of_ok (get_apply s), bind_eq_ok_iff]
  constructor
  · rintro ⟨client', u, hrun, hrest⟩
    obtain ⟨hb, rfl⟩ := Outcome.ok.inj hrest
    obtain ⟨rfl, rfl⟩ := Timed.mk.inj hb
    exact ⟨hrun, rfl⟩
  · rintro ⟨hrun, rfl⟩
    exact ⟨client, t, hrun, rfl⟩

theorem Move.waits_eq_true_iff {m : Move} :
    m.waits = true ↔ ∃ timer, m = .waitForNextPacket timer := by
  cases m <;> simp [Move.waits]

/-! ## The functions are made of moves -/

/-- Some moves lead from one state of the client and the system to another. -/
def MovesTo (P : Platform) (self : MqttClient W) (s : Sys W) (self' : MqttClient W) (t : Sys W) :
    Prop :=
  ∀ c, ∃ (moves : List Move) (c' : ℕ),
    moves.foldlM (Move.runTimed P) ⟨self, c⟩ s = .ok ⟨self', c'⟩ t

/-- The program returns a client, which some moves lead to. -/
abbrev Moves {α : Type} (P : Platform) (self : MqttClient W) (s : Sys W) (client : α → MqttClient W)
    (m : Prog Stop (Sys W) α) : Prop :=
  Post m s (fun r t ↦ MovesTo P self s (client r) t) fun _ _ ↦ True

section Functions

variable {P : Platform} {self self' self₁ : MqttClient W} {s t u : Sys W}

theorem MovesTo.refl (P : Platform) (self : MqttClient W) (s : Sys W) : MovesTo P self s self s :=
  fun c ↦ ⟨[], c, rfl⟩

theorem MovesTo.trans (h : MovesTo P self s self₁ u) (h' : MovesTo P self₁ u self' t) :
    MovesTo P self s self' t := by
  intro c
  obtain ⟨moves, c₁, hmoves⟩ := h c
  obtain ⟨moves', c', hmoves'⟩ := h' c₁
  exact ⟨moves ++ moves', c', foldlM_append_eq_ok_iff.mpr ⟨_, u, hmoves, hmoves'⟩⟩

theorem Move.movesTo (m : Move) (h : m.run P self s = .ok self' t) : MovesTo P self s self' t := by
  intro c
  have hmove : m.runTimed P ⟨self, c⟩ s =
      .ok ⟨self', m.connectTime c (timeAt s.world)⟩ t := runTimed_eq_ok_iff.mpr ⟨h, rfl⟩
  refine ⟨[m], m.connectTime c (timeAt s.world), ?_⟩
  rw [List.foldlM_cons, bind_eq_of_ok hmove]
  rfl

theorem MovesTo.note (h : MovesTo P self s self₁ t) (isConnected isPingOutstanding : Bool)
    (nextPacketId : ℕ) :
    MovesTo P self s { self₁ with
      isConnected := isConnected, isPingOutstanding := isPingOutstanding,
      nextPacketId := nextPacketId } t :=
  h.trans ((Move.note isConnected isPingOutstanding nextPacketId).movesTo rfl)

theorem MovesTo.closeSession (h : MovesTo P self s self₁ t) :
    MovesTo P self s (DemoIotApp.closeSession self₁) t :=
  h.note false false self₁.nextPacketId

theorem Moves.after {α : Type} {client : α → MqttClient W} {m : Prog Stop (Sys W) α}
    (hm : Moves P self₁ u client m) (h : MovesTo P self s self₁ u) :
    Post m u (fun r t ↦ MovesTo P self s (client r) t) fun _ _ ↦ True :=
  hm.mono (fun _ _ h' ↦ h.trans h') fun _ _ h ↦ h

theorem moves_waitForSpecificPacket (packetType : ℤ) (timer : Option Timer) (fuel : ℕ) :
    ∀ (self : MqttClient W) (s : Sys W), Moves P self s Prod.snd
      (waitForSpecificPacket P packetType timer fuel self) := by
  induction fuel with
  | zero => exact fun _ _ ↦ trivial
  | succ fuel ih =>
      intro self s
      have hlook : Post (isTimedOut timer) s (fun _ t ↦ MovesTo P self s self t)
          fun _ _ ↦ True :=
        post_intro (fun _ _ hu ↦ (Move.isTimedOut timer).movesTo (bind_eq_of_ok hu))
          fun _ _ _ ↦ trivial
      have hwait : ∀ u, Moves P self u Prod.snd (waitForNextPacket P self timer) :=
        fun u ↦ post_intro
          (fun _ _ hnext ↦ (Move.waitForNextPacket timer).movesTo (bind_eq_of_ok hnext))
          fun _ _ _ ↦ trivial
      apply hlook.bind
      intro timedOut u hu
      refine post_ite (fun _ ↦ hu) fun _ ↦ (hwait u).bind ?_
      rintro ⟨ret, self₁⟩ v hv
      refine post_ite (fun _ ↦ hu.trans hv) fun _ ↦ post_ite (fun _ ↦ hu.trans hv) fun _ ↦ ?_
      exact (ih self₁ v).after (hu.trans hv)

theorem moves_expectAck (fuel : ℕ) (self : MqttClient W) (s : Sys W) (ackPacketType : PacketType)
    (data : AckData) (timer : Option Timer) :
    Moves P self s (fun r ↦ r.2.2) (expectAck P fuel self ackPacketType data timer) := by
  have hwait : Moves P self s (fun r ↦ r.2.2)
      (waitAndReadSpecificAckPacket P fuel self ackPacketType data timer) := by
    apply (moves_waitForSpecificPacket ackPacketType.code timer fuel self s).bind
    rintro ⟨ret, self₁⟩ u hu
    exact post_ite (fun _ ↦ hu) fun _ ↦ hu
  apply hwait.bind
  rintro ⟨ret, data₁, self₁⟩ u hu
  refine post_ite (fun _ ↦ hu) fun _ ↦ ?_
  apply ((post_debugAssert P.assertions _ u).mono (fun _ _ h ↦ h) fun _ _ _ ↦ trivial).bind
  rintro _ v ⟨rfl, -⟩
  exact hu

theorem moves_checkPublishQos (fuel : ℕ) (self : MqttClient W) (s : Sys W) (qos : UInt8)
    (timer : Option Timer) :
    Moves P self s Prod.snd (checkPublishQos P fuel self qos timer) := by
  refine post_ite (fun _ ↦ .refl P self s) fun _ ↦ post_ite (fun _ ↦ ?_) fun _ ↦
    post_ite (fun _ ↦ ?_) fun _ ↦ .refl P self s
  · exact (moves_expectAck fuel self s .puback _ timer).bind fun _ _ h ↦ h
  · apply (moves_expectAck fuel self s .pubrec _ timer).bind
    rintro ⟨ret, ackData, self₁⟩ u hu
    refine post_ite (fun _ ↦ hu) fun _ ↦ ?_
    have hack : Moves P self₁ u Prod.snd (sendAck P self₁ .pubrel 0 ackData.packetId) :=
      post_intro (fun _ _ hsend ↦ (Move.sendAck .pubrel 0 ackData.packetId).movesTo
        (bind_eq_of_ok hsend)) fun _ _ _ ↦ trivial
    apply (hack.after hu).bind
    rintro ⟨ret, self₂⟩ v hv
    refine post_ite (fun _ ↦ hv) fun _ ↦ ?_
    exact ((moves_expectAck fuel self₂ v .pubcomp _ timer).after hv).bind fun _ _ h ↦ h

theorem moves_awaitConnack (fuel : ℕ) (self : MqttClient W) (s : Sys W) (options : ConnectData)
    (timer : Option Timer) :
    Moves P self s Prod.snd (awaitConnack P fuel self options timer) := by
  refine post_intro (fun r t h ↦ ?_) fun _ _ _ ↦ trivial
  obtain ⟨timerLastSend, u, hcountdown, hrest⟩ := bind_eq_ok_iff.mp h
  obtain ⟨⟨ret, self₁⟩, v, hsend, hrest⟩ := bind_eq_ok_iff.mp hrest
  have hconnect : MovesTo P self s self₁ v :=
    (Move.connect options).movesTo ((bind_eq_of_ok hcountdown).trans (bind_eq_of_ok hsend))
  have hwait : Post (if ret ≠ mqttSuccess then pure (mqttFailure, self₁) else do
      let (ret, self) ← waitForSpecificPacket P PacketType.connack.code timer fuel self₁
      return (if ret ≠ mqttSuccess then mqttFailure else mqttSuccess, self)) v
      (fun r t ↦ MovesTo P self s r.2 t) fun _ _ ↦ True := by
    refine post_ite (fun _ ↦ hconnect) fun _ ↦ ?_
    exact ((moves_waitForSpecificPacket _ timer fuel self₁ v).after hconnect).bind fun _ _ h ↦ h
  exact hwait.ok hrest

theorem moves_mqttClientConnect (fuel : ℕ) (self : MqttClient W) (s : Sys W)
    (options : Option ConnectData) (data : ConnackData) (timer : Option Timer) :
    Moves P self s (fun r ↦ r.2.2) (mqttClientConnect P fuel self options data timer) := by
  refine post_ite (fun _ ↦ .refl P self s) fun _ ↦ ?_
  apply (moves_awaitConnack fuel self s (options.getD .initializer) timer).bind
  rintro ⟨ret, self₁⟩ u hu
  refine post_ite (fun _ ↦ hu) fun _ ↦ post_ite (fun _ ↦ hu) fun _ ↦ ?_
  exact hu.note true false self₁.nextPacketId

theorem moves_assignPacketId (self : MqttClient W) (s : Sys W) (msg : MqttMessage) :
    Moves P self s Prod.snd (assignPacketId P self msg) := by
  refine post_ite (fun _ ↦ ?_) fun _ ↦ .refl P self s
  have hid : Moves P self s Prod.snd (getNextPacketId P self) := by
    apply ((post_debugAssert P.assertions _ s).mono (fun _ _ h ↦ h) fun _ _ _ ↦ trivial).bind
    rintro _ u ⟨rfl, -⟩
    exact (MovesTo.refl P self u).note self.isConnected self.isPingOutstanding _
  exact hid.bind fun _ _ h ↦ h

theorem moves_mqttClientPublish (fuel : ℕ) (memory : Ptr → List UInt8) (self : MqttClient W)
    (s : Sys W) (topicName : Ptr) (msg : MqttMessage) (timer : Option Timer) :
    Moves P self s (fun r ↦ r.2.2) (mqttClientPublish P fuel memory self topicName msg timer) := by
  refine post_ite (fun _ ↦ (MovesTo.refl P self s).closeSession) fun _ ↦ ?_
  apply (moves_assignPacketId self s msg).bind
  rintro ⟨msg₁, self₁⟩ u hu
  have hsend : Moves P self₁ u Prod.snd
      (sendPublish P self₁ (publishArgs memory topicName msg₁)) :=
    post_intro (fun _ _ hsend ↦ (Move.sendPublish (publishArgs memory topicName msg₁)).movesTo
      (bind_eq_of_ok hsend)) fun _ _ _ ↦ trivial
  apply (hsend.after hu).bind
  rintro ⟨ret, self₂⟩ v hv
  refine post_ite (fun _ ↦ hv.closeSession) fun _ ↦ ?_
  apply ((moves_checkPublishQos fuel self₂ v msg₁.qos timer).after hv).bind
  rintro ⟨ret, self₃⟩ w hw
  exact post_ite (fun _ ↦ hw.closeSession) fun _ ↦ hw

theorem moves_mqttClientDisconnect (self : MqttClient W) (s : Sys W) :
    Moves P self s id (mqttClientDisconnect P self) :=
  post_intro (fun _ _ h ↦ Move.disconnect.movesTo h) fun _ _ _ ↦ trivial

theorem moves_callSession (fuel : ℕ) (h : List SessionResult × MqttClient W) (s : Sys W)
    (call : SessionCall) : Moves P h.2 s Prod.snd (callSession P fuel h call) := by
  cases call with
  | connect options data timer =>
      exact (moves_mqttClientConnect fuel h.2 s options data timer).bind fun _ _ h ↦ h
  | publish memory topicName msg timer =>
      exact (moves_mqttClientPublish fuel memory h.2 s topicName msg timer).bind fun _ _ h ↦ h
  | disconnect => exact (moves_mqttClientDisconnect h.2 s).bind fun _ _ h ↦ h

theorem moves_callSessions (fuel : ℕ) (calls : List SessionCall) :
    ∀ (h : List SessionResult × MqttClient W) (s : Sys W),
      Moves P h.2 s Prod.snd (calls.foldlM (callSession P fuel) h) := by
  induction calls with
  | nil => exact fun h s ↦ .refl P h.2 s
  | cons call calls ih =>
      intro h s
      rw [List.foldlM_cons]
      exact (moves_callSession fuel h s call).bind fun h' u hu ↦ (ih h' u).after hu

end Functions

end DemoIotApp
