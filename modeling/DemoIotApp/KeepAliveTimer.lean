import DemoIotApp.ClientMoves
import DemoIotApp.PacketTimes

/-!
# What the keep-alive timer counts from

The timer is started by a connect and by nothing else, because the lines that would
restart it behind a sent packet are never reached. It therefore counts from the last
packet only as long as the clock has not moved on since the connect began.
-/

namespace DemoIotApp

open Library Prog

variable {W : Type} [Clock W]

/-! ## What a move does to the timer -/

/-- The timer and its interval are as they were. -/
def SameTimer (self self' : MqttClient W) : Prop :=
  self'.timerLastSend = self.timerLastSend ∧ self'.keepAliveIntervalMs = self.keepAliveIntervalMs

/-- Only a connect starts the timer. -/
def Move.SetsTimer (self self' : MqttClient W) (now : ℕ) : Move → Prop
  | .connect _ => self'.timerLastSend.deadline = now + self'.keepAliveIntervalMs
  | _ => SameTimer self self'

section Moves

variable {P : Platform} {I : W → Prop} {n : Network W} {size sendSize keepAliveMs : ℕ}
  {connected : Bool} {early : ℕ} {base : List (Event W)} {self self' : MqttClient W} {s t : Sys W}

theorem sameTimer_mqttClientDisconnect (h : mqttClientDisconnect P self s = .ok self' t) :
    SameTimer self self' := by
  obtain ⟨⟨ret, self₁⟩, u, hsend, hu⟩ := bind_eq_ok_iff.mp h
  obtain ⟨rfl, -⟩ := Outcome.ok.inj hu
  unfold sendDisconnect at hsend
  by_cases hle : (P.paho.serializeDisconnect self.sendbuf).1 ≤ 0
  · simp only [if_pos hle] at hsend
    obtain ⟨-, rfl⟩ := Prod.mk.inj (Outcome.ok.inj hsend).1
    exact ⟨rfl, rfl⟩
  · simp only [if_neg hle] at hsend
    obtain ⟨rc, v, -, hv⟩ := bind_eq_ok_iff.mp hsend
    obtain ⟨-, rfl⟩ := Prod.mk.inj (Outcome.ok.inj hv).1
    exact ⟨rfl, rfl⟩

omit [Clock W] in
theorem Waited.sameTimer (h : Waited self self') : SameTimer self self' := by
  obtain ⟨_, _, _, rfl⟩ := h
  exact ⟨rfl, rfl⟩

theorem sendSerialized_ends {serialize : Serializer} (htime : TimePasses I n)
    (hself : Setup n size sendSize keepAliveMs connected self) (hs : Since I early base s)
    {ret : ℤ} (h : sendSerialized serialize self s = .ok (ret, self') t) :
    Setup n size sendSize keepAliveMs connected self' ∧ Since I early base t ∧
      SameTimer self self' := by
  have hsend : SendKeeps n (fun _ ↦ True) (Since I early base) fun _ _ ↦ True :=
    sendKeeps_since htime
  have hwrites : WritesOnly (fun _ ↦ True) sendSize serialize := fun _ _ _ ↦ trivial
  have hleaves := hsend.leaves.sendSerialized (keeps_readClock_since htime) hwrites hself
  obtain ⟨hself', ht⟩ := (hleaves.keeps s hs).ok h
  refine ⟨hself', ht, ?_⟩
  rw [(sendSerialized_eq_ok h).2]
  exact ⟨rfl, rfl⟩

/-- What a move has done when it returns. -/
structure Moved (I : W → Prop) (n : Network W) (size sendSize : ℕ) (m : Move)
    (client client' : MqttClient W) (s t : Sys W) : Prop where
  setup : Setup n size sendSize client'.keepAliveIntervalMs client'.isConnected client'
  since : Since I (timeAt s.world) s.trace t
  timer : m.SetsTimer client client' (timeAt s.world)

theorem Move.moved (htime : TimePasses I n) {m : Move}
    (hself : Setup n size sendSize self.keepAliveIntervalMs self.isConnected self)
    (hI : I s.world) (h : m.run P self s = .ok self' t) :
    Moved I n size sendSize m self self' s t := by
  have hs : Since I (timeAt s.world) s.trace s := .refl hI
  have K : WaitKeeps P n size self.keepAliveIntervalMs (Since I (timeAt s.world) s.trace)
      fun _ _ ↦ True := waitKeeps_since htime P size self.keepAliveIntervalMs
  have hsent : ∀ {self' : MqttClient W}, Setup n size sendSize self.keepAliveIntervalMs
      self.isConnected self' → SameTimer self self' →
        Setup n size sendSize self'.keepAliveIntervalMs self'.isConnected self' :=
    fun hself' hsame ↦ { hself' with keepAliveIntervalMs := rfl, isConnected := rfl }
  cases m with
  | connect options =>
      obtain ⟨timerLastSend, u, hcountdown, hrest⟩ := bind_eq_ok_iff.mp h
      obtain ⟨rfl, rfl⟩ := Outcome.ok.inj hcountdown
      obtain ⟨⟨ret, self₁⟩, v, hsend, hv⟩ := bind_eq_ok_iff.mp hrest
      obtain ⟨rfl, rfl⟩ := Outcome.ok.inj hv
      obtain ⟨hI', hle⟩ := htime.clock s.world hI
      have hstarted : Setup n size sendSize options.keepAliveInterval self.isConnected { self with
          keepAliveIntervalMs := options.keepAliveInterval
          timerLastSend := ⟨timeAt s.world + options.keepAliveInterval⟩ } :=
        { hself with keepAliveIntervalMs := rfl }
      obtain ⟨hself₁, ht, htimer, hinterval⟩ := sendSerialized_ends htime hstarted
        (hs.onWorld hI' hle) hsend
      refine ⟨{ hself₁ with keepAliveIntervalMs := rfl, isConnected := rfl }, ht, ?_⟩
      show self₁.timerLastSend.deadline = _ + self₁.keepAliveIntervalMs
      rw [htimer, hinterval]
  | isTimedOut timer =>
      obtain ⟨b, u, hu, hrest⟩ := bind_eq_ok_iff.mp h
      obtain ⟨rfl, rfl⟩ := Outcome.ok.inj hrest
      exact ⟨hself, ((K.isTimedOut timer s hs).ok hu).2, rfl, rfl⟩
  | waitForNextPacket timer =>
      obtain ⟨⟨ret, self₁⟩, u, hwait, hrest⟩ := bind_eq_ok_iff.mp h
      obtain ⟨rfl, rfl⟩ := Outcome.ok.inj hrest
      obtain ⟨hself₁, ht⟩ := (K.waitForNextPacket hself timer s hs).ok hwait
      have hsame := (waitForNextPacket_waited hwait).sameTimer
      exact ⟨hsent hself₁ hsame, ht, hsame⟩
  | sendPublish args =>
      obtain ⟨⟨ret, self₁⟩, u, hsend, hrest⟩ := bind_eq_ok_iff.mp h
      obtain ⟨rfl, rfl⟩ := Outcome.ok.inj hrest
      obtain ⟨hself₁, ht, hsame⟩ := sendSerialized_ends htime hself hs hsend
      exact ⟨hsent hself₁ hsame, ht, hsame⟩
  | sendAck ackType dup packetId =>
      obtain ⟨⟨ret, self₁⟩, u, hsend, hrest⟩ := bind_eq_ok_iff.mp h
      obtain ⟨rfl, rfl⟩ := Outcome.ok.inj hrest
      obtain ⟨hself₁, ht, hsame⟩ := sendSerialized_ends htime hself hs hsend
      exact ⟨hsent hself₁ hsame, ht, hsame⟩
  | disconnect =>
      have hsend : SendKeeps n (fun _ ↦ True) (Since I (timeAt s.world) s.trace) fun _ _ ↦ True :=
        sendKeeps_since htime
      have hleaves := hsend.leaves.mqttClientDisconnect (P := P) (keeps_readClock_since htime)
        (fun _ _ _ ↦ trivial) hself
      obtain ⟨hself', ht⟩ := (hleaves.keeps s hs).ok h
      have hsame := sameTimer_mqttClientDisconnect h
      exact ⟨{ hself' with keepAliveIntervalMs := rfl, isConnected := rfl }, ht, hsame⟩
  | note isConnected isPingOutstanding nextPacketId =>
      obtain ⟨rfl, rfl⟩ := Outcome.ok.inj h
      exact ⟨{ hself with isConnected := rfl }, hs, rfl, rfl⟩

/-- A wait begins to send only when its timer has expired. -/
def ExpiresFirst (self : MqttClient W) (es : List (Event W)) : Prop :=
  ∀ e ∈ es, ∀ began ∈ e.sendBegin, self.timerLastSend.deadline ≤ timeAt began

theorem KeepAliveEnds.expiresFirst (htime : TimePasses I n)
    (hself : Setup n size sendSize self.keepAliveIntervalMs connected self) (hI : I s.world)
    {packetType ret : ℤ} (h : KeepAliveEnds P packetType self s ret self' t) :
    ∃ es, t.trace = s.trace ++ es ∧ ExpiresFirst self es := by
  have hnone : ∀ {u : Sys W}, u.trace = s.trace →
      ∃ es, u.trace = s.trace ++ es ∧ ExpiresFirst self es :=
    fun hu ↦ ⟨[], by rw [hu, List.append_nil], by simp [ExpiresFirst]⟩
  have hping : ∀ {ret : ℤ}, KeepAliveDue self s →
      sendPingReq P self (afterClock s) = .ok (ret, self') t →
        ∃ es, t.trace = s.trace ++ es ∧ ExpiresFirst self es := by
    intro ret hdue hsend
    obtain ⟨hI', hle⟩ := htime.clock s.world hI
    have K : WaitKeeps P n size self.keepAliveIntervalMs (Since I (timeAt s.world) s.trace)
        fun _ _ ↦ True := waitKeeps_since htime P size self.keepAliveIntervalMs
    have hs : Since I (timeAt s.world) s.trace (afterClock s) := (Since.refl hI).onWorld hI' hle
    obtain ⟨-, -, -, es, htrace, hes⟩ := (K.sendPingReq hdue.1 hself _ hs).ok hsend
    refine ⟨es, htrace, fun e he began hbegan ↦ ?_⟩
    have hbetween := hes e he
    cases e with
    | sendPacket link packet before after rc =>
        obtain rfl : before = began := Option.some.inj hbegan
        exact hdue.2.trans hbetween.1
    | read | readPacket | call => simp [Event.sendBegin] at hbegan
  cases h with
  | notDue _ hdue ht =>
      obtain ⟨u, hu, htrace⟩ := keepAliveExpired_of_not_due hdue
      obtain ⟨-, rfl⟩ := Outcome.ok.inj (hu.symm.trans ht)
      exact hnone htrace
  | overdue => exact hnone rfl
  | pingFailed _ _ hdue _ _ hsend => exact hping hdue hsend
  | pinged _ _ _ hdue _ hsend => exact hping hdue hsend

theorem waitOnce_expiresFirst (htime : TimePasses I n)
    (hself : Setup n size sendSize self.keepAliveIntervalMs connected self) (hI : I s.world)
    {timer : Option Timer} (h : waitOnce P self timer s = .ok self' t) :
    ExpiresFirst self (t.trace.drop s.trace.length) := by
  obtain ⟨⟨ret', self''⟩, u, hwait, hrest⟩ := bind_eq_ok_iff.mp h
  obtain ⟨rfl, rfl⟩ := Outcome.ok.inj hrest
  obtain ⟨ret, self₁, s₁, hreceive, hends⟩ := waitForNextPacket_eq_ok_iff.mp hwait
  obtain ⟨heq, e, es, htrace, hreads⟩ := receivePacket_eq_ok hreceive
  have K : WaitKeeps P n size self.keepAliveIntervalMs (Since I (timeAt s.world) s.trace)
      fun _ _ ↦ True := waitKeeps_since htime P size self.keepAliveIntervalMs
  obtain ⟨hself₁, hs₁⟩ := (K.receivePacket hself timer s (.refl hI)).ok hreceive
  have hnoted : Setup n size sendSize (noteReceived ret self₁).keepAliveIntervalMs connected
      (noteReceived ret self₁) := by
    unfold noteReceived
    split_ifs
    · exact { hself₁ with keepAliveIntervalMs := rfl }
    · exact { hself₁ with keepAliveIntervalMs := rfl }
  have htimer : (noteReceived ret self₁).timerLastSend = self.timerLastSend := by
    rw [(noteReceived_readbuf ret self₁).2.sameTimer.1, heq]
  obtain ⟨es', htrace', hes'⟩ := hends.expiresFirst htime hnoted hs₁.1
  intro e' he' began hbegan
  rw [htrace', htrace, List.append_assoc, List.append_assoc, List.drop_left] at he'
  rcases List.mem_append.mp he' with he' | he'
  · have hread := hreads e' he'
    cases e' with
    | read => simp [Event.sendBegin] at hbegan
    | sendPacket | readPacket | call => exact hread.elim
  · rcases List.mem_append.mp he' with he' | he'
    · obtain rfl := List.mem_singleton.mp he'
      simp [Event.sendBegin] at hbegan
    · exact htimer ▸ hes' e' he' began hbegan

end Moves

/-! ## Runs of moves -/

/-- Behind every packet that is sent in the move the timer runs for one interval from then on,
and a wait begins to send only one interval after every packet before. -/
def CountsFromLastSend (P : Platform) (b : Timed W) (s : Sys W) (m : Move) : Prop :=
  Post (m.runTimed P b) s
    (fun b' t ↦ b'.client.keepAliveIntervalMs ≠ 0 →
      (∀ sent ∈ sentWorlds (t.trace.drop s.trace.length),
        b'.client.timerLastSend.deadline = timeAt sent + b'.client.keepAliveIntervalMs) ∧
      (m.waits = true → ∀ e ∈ t.trace.drop s.trace.length,
        ∀ began ∈ e.sendBegin, ∀ sent ∈ sentWorlds s.trace,
          timeAt sent + b'.client.keepAliveIntervalMs ≤ timeAt began))
    fun _ _ ↦ True

/-- When a packet is sent in the move, the clock still shows the time that was read when the last
connect began. -/
def SendsAtConnectTime (P : Platform) (b : Timed W) (s : Sys W) (m : Move) : Prop :=
  Post (m.runTimed P b) s
    (fun b' t ↦ b'.client.keepAliveIntervalMs ≠ 0 →
      ∀ sent ∈ sentWorlds (t.trace.drop s.trace.length), timeAt sent = b'.connectTime)
    fun _ _ ↦ True

instance (P : Platform) (b : Timed W) (s : Sys W) (m : Move) :
    Decidable (CountsFromLastSend P b s m) :=
  inferInstanceAs (Decidable (Post _ _ _ _))

instance (P : Platform) (b : Timed W) (s : Sys W) (m : Move) :
    Decidable (SendsAtConnectTime P b s m) :=
  inferInstanceAs (Decidable (Post _ _ _ _))

/-- The timer runs for one interval from the last connect on, and every packet so far was sent
an interval before it expires. -/
structure Counting (I : W → Prop) (n : Network W) (size sendSize : ℕ) (b : Timed W)
    (s : Sys W) : Prop where
  setup : Setup n size sendSize b.client.keepAliveIntervalMs b.client.isConnected b.client
  world : I s.world
  past : ∀ sent ∈ sentWorlds s.trace, timeAt sent ≤ timeAt s.world
  timer : b.client.keepAliveIntervalMs ≠ 0 →
    b.client.timerLastSend.deadline = b.connectTime + b.client.keepAliveIntervalMs
  expires : b.client.keepAliveIntervalMs ≠ 0 → ∀ sent ∈ sentWorlds s.trace,
    timeAt sent + b.client.keepAliveIntervalMs ≤ b.client.timerLastSend.deadline

section Runs

variable {P : Platform} {I : W → Prop} {n : Network W} {size sendSize : ℕ} {b b' : Timed W}
  {s t : Sys W} {m : Move}

/-- Whatever the move was, the timer still runs for one interval from the last connect on. -/
theorem Counting.timer_of_moved (hs : Counting I n size sendSize b s)
    (hmoved : Moved I n size sendSize m b.client b'.client s t)
    (htime : b'.connectTime = m.connectTime b.connectTime (timeAt s.world))
    (hinterval : b'.client.keepAliveIntervalMs ≠ 0) :
    b'.client.timerLastSend.deadline = b'.connectTime + b'.client.keepAliveIntervalMs := by
  have htimer := hmoved.timer
  rw [htime]
  cases m with
  | connect options => exact htimer
  | isTimedOut | waitForNextPacket | sendPublish | sendAck | disconnect | note =>
      obtain ⟨hdeadline, hsame⟩ : SameTimer b.client b'.client := htimer
      rw [hsame] at hinterval ⊢
      rw [hdeadline]
      exact hs.timer hinterval

theorem Counting.le_connectTime (hs : Counting I n size sendSize b s)
    (hmoved : Moved I n size sendSize m b.client b'.client s t)
    (htime : b'.connectTime = m.connectTime b.connectTime (timeAt s.world))
    (hinterval : b'.client.keepAliveIntervalMs ≠ 0) :
    ∀ sent ∈ sentWorlds s.trace, timeAt sent ≤ b'.connectTime := by
  intro sent hsent
  have htimer := hmoved.timer
  rw [htime]
  cases m with
  | connect options => exact hs.past sent hsent
  | isTimedOut | waitForNextPacket | sendPublish | sendAck | disconnect | note =>
      obtain ⟨-, hsame⟩ : SameTimer b.client b'.client := htimer
      rw [hsame] at hinterval
      have hexpires := hs.expires hinterval sent hsent
      rw [hs.timer hinterval] at hexpires
      exact Nat.le_of_add_le_add_right hexpires

theorem countsFromLastSend_iff (htime : TimePasses I n) (hs : Counting I n size sendSize b s) :
    CountsFromLastSend P b s m ↔ SendsAtConnectTime P b s m := by
  constructor
  · intro h
    refine post_intro (fun b' t hrun ↦ ?_) fun _ _ _ ↦ trivial
    intro hinterval sent hsent
    obtain ⟨hmove, hconnect⟩ := Move.runTimed_eq_ok_iff.mp hrun
    have hmoved := Move.moved htime hs.setup hs.world hmove
    have hdeadline := hs.timer_of_moved hmoved hconnect hinterval
    have hcounts := (h.ok hrun hinterval).1 sent hsent
    omega
  · intro h
    refine post_intro (fun b' t hrun ↦ ?_) fun _ _ _ ↦ trivial
    intro hinterval
    obtain ⟨hmove, hconnect⟩ := Move.runTimed_eq_ok_iff.mp hrun
    have hmoved := Move.moved htime hs.setup hs.world hmove
    refine ⟨fun sent hsent ↦ ?_, ?_⟩
    · rw [hs.timer_of_moved hmoved hconnect hinterval, h.ok hrun hinterval sent hsent]
    · intro hwaits e he began hbegan sent hsent
      obtain ⟨timer, rfl⟩ := Move.waits_eq_true_iff.mp hwaits
      obtain ⟨-, hsame⟩ : SameTimer b.client b'.client := hmoved.timer
      rw [hsame] at hinterval ⊢
      exact (hs.expires hinterval sent hsent).trans
        (waitOnce_expiresFirst htime hs.setup hs.world hmove e he began hbegan)

theorem Counting.step (htime : TimePasses I n) (hs : Counting I n size sendSize b s)
    (hsends : SendsAtConnectTime P b s m) (h : m.runTimed P b s = .ok b' t) :
    Counting I n size sendSize b' t := by
  obtain ⟨hmove, hconnect⟩ := Move.runTimed_eq_ok_iff.mp h
  have hmoved := Move.moved htime hs.setup hs.world hmove
  obtain ⟨hI, hle, es, htrace, hes⟩ := hmoved.since
  have hnew := hsends.ok h
  rw [htrace, List.drop_left] at hnew
  refine ⟨hmoved.setup, hI, ?_, hs.timer_of_moved hmoved hconnect, ?_⟩
  · rw [htrace, sentWorlds_append]
    intro sent hsent
    rcases List.mem_append.mp hsent with hsent | hsent
    · exact (hs.past sent hsent).trans hle
    · obtain ⟨e, he, hafter⟩ := List.mem_filterMap.mp hsent
      exact (hes e he).sentAfter hafter
  · intro hinterval
    rw [htrace, sentWorlds_append]
    intro sent hsent
    rw [hs.timer_of_moved hmoved hconnect hinterval]
    rcases List.mem_append.mp hsent with hsent | hsent
    · exact Nat.add_le_add_right (hs.le_connectTime hmoved hconnect hinterval sent hsent) _
    · rw [hnew hinterval sent hsent]

/-- A client that was just initialised, before its first connect. -/
def initialClient (client : MqttClient W) (n : Network W) (sendTimeoutMs : ℕ)
    (sendbuf readbuf : List UInt8) : Timed W :=
  ⟨mqttClientInit client n sendTimeoutMs sendbuf readbuf, 0⟩

/-- The calls of an initialised client are sequences of moves. In a sequence of moves the timer
counts from the packet that was sent last exactly as long as every packet is sent while the clock
shows the time that the last connect has read. -/
theorem along_countsFromLastSend_iff (htime : TimePasses I n) (fuel : ℕ) (client : MqttClient W)
    (sendTimeoutMs : ℕ) (sendbuf readbuf : List UInt8) (w : W) (hw : I w) :
    (∀ calls h t, callSessions P fuel (mqttClientInit client n sendTimeoutMs sendbuf readbuf)
        calls ⟨w, []⟩ = .ok h t →
      ∃ (moves : List Move) (b : Timed W), moves.foldlM (Move.runTimed P)
        (initialClient client n sendTimeoutMs sendbuf readbuf) ⟨w, []⟩ = .ok b t ∧
          b.client = h.2) ∧
    ∀ moves : List Move,
      Along (CountsFromLastSend P) (Move.runTimed P) moves
        (initialClient client n sendTimeoutMs sendbuf readbuf) ⟨w, []⟩ ↔
      Along (SendsAtConnectTime P) (Move.runTimed P) moves
        (initialClient client n sendTimeoutMs sendbuf readbuf) ⟨w, []⟩ := by
  constructor
  · intro calls h t hrun
    obtain ⟨moves, c, hmoves⟩ := (moves_callSessions fuel calls _ _).ok hrun 0
    exact ⟨moves, ⟨h.2, c⟩, hmoves, rfl⟩
  · intro moves
    have hstart : Counting I n readbuf.length sendbuf.length
        (initialClient client n sendTimeoutMs sendbuf readbuf) ⟨w, []⟩ :=
      { setup := ⟨rfl, rfl, rfl, rfl, rfl⟩
        world := hw
        past := by simp [sentWorlds]
        timer := fun h ↦ absurd rfl h
        expires := fun h ↦ absurd rfl h }
    exact along_iff (fun _ _ _ hs ↦ countsFromLastSend_iff htime hs)
      (fun _ _ _ _ _ hs hsends h ↦ hs.step htime hsends h) moves _ _ hstart

end Runs

/-! ## Two clocks -/

/-- Every call succeeds, and the clock shows these times. The broker sends a CONNACK and
a PUBACK. -/
def World.clocked (timerNow : ℕ → ℕ) : World :=
  ⟨{ Answers.steady with timerNow := timerNow }, 0, [0x20, 2, 0, 0] ++ [0x40, 2, 0, 2], [], false⟩

/-- A connect with an interval of 60, and a message of quality of service 1. -/
def keptCalls : List SessionCall :=
  [.connect (some { ConnectData.initializer with keepAliveInterval := 60 }) ⟨0, 0⟩ none,
    .publish topicMemory (.tmpBuffer 0) { MqttMessage.zeroed with
      qos := 1, payload := .tmpBuffer 1 } none]

/-- What these calls do: each of them sends its packet and waits for the answer. -/
def keptAlive : List Move :=
  [.connect { ConnectData.initializer with keepAliveInterval := 60 },
    .isTimedOut none, .waitForNextPacket none, .note true false 1, .note true false 2,
    .sendPublish (publishArgs topicMemory (.tmpBuffer 0) { MqttMessage.zeroed with
      qos := 1, payload := .tmpBuffer 1, id := 2 }),
    .isTimedOut none, .waitForNextPacket none]

/-- The client that they begin with. -/
def keptClient : Timed World :=
  initialClient smallClient (netWan 4) (2 ^ 32 - 1) (List.replicate 64 0) (List.replicate 5 0)

/-- The CONNECT and the PUBLISH go out at once, and the wait comes half an interval later. -/
theorem countsFromLastSend_of_prompt_publish :
    Along (CountsFromLastSend (Platform.reference false))
      (Move.runTimed (Platform.reference false)) keptAlive keptClient
      ⟨World.clocked fun k ↦ if k < 18 then 0 else 30, []⟩ := by
  have hclock : ∀ i j : ℕ, i ≤ j → (if i < 18 then 0 else 30) ≤ if j < 18 then 0 else 30 := by
    intro i j hij
    split_ifs <;> omega
  exact ((along_countsFromLastSend_iff (timePasses_netWan hclock 4) 4 smallClient (2 ^ 32 - 1)
    (List.replicate 64 0) (List.replicate 5 0) _ rfl).2 keptAlive).mpr (by decide +kernel)

/-- Whether a packet is a PINGREQ, and the time behind its sending. -/
def Event.sendTime : Event World → Option (Bool × ℕ)
  | .sendPacket _ packet _ after _ => some (decide (packet = pingreqPacket), timeAt after)
  | _ => none

/-- The times at which the packets were sent, and what is left to read. -/
def sendTimes (t : Sys World) : List (Bool × ℕ) × List UInt8 :=
  (t.trace.filterMap Event.sendTime, t.world.rx)

/-- The PUBLISH is sent at 50, and the PINGREQ follows 10 ticks later, in the moves as in the
calls. -/
theorem not_countsFromLastSend_of_late_publish :
    ¬Along (CountsFromLastSend (Platform.reference false))
        (Move.runTimed (Platform.reference false)) keptAlive keptClient
        ⟨World.clocked fun k ↦ if k < 15 then 0 else if k < 18 then 50 else 60, []⟩ ∧
      (keptAlive.foldlM (Move.runTimed (Platform.reference false)) keptClient
        ⟨World.clocked fun k ↦ if k < 15 then 0 else if k < 18 then 50 else 60, []⟩).view?
          (fun _ t ↦ sendTimes t) = some ([(false, 0), (false, 50), (true, 60)], []) ∧
      (callSessions (Platform.reference false) 4 keptClient.client keptCalls
        ⟨World.clocked fun k ↦ if k < 15 then 0 else if k < 18 then 50 else 60, []⟩).view?
          (fun r t ↦ (r.1, sendTimes t)) =
        some ([.connect mqttSuccess, .publish mqttSuccess],
          ([(false, 0), (false, 50), (true, 60)], [])) :=
  ⟨by decide +kernel, by decide +kernel, by decide +kernel⟩

end DemoIotApp
