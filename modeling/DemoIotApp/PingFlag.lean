import DemoIotApp.KeepAlive
import DemoIotApp.SessionFlag

/-!
# The ping flag of a closed session

A PINGREQ can be sent while a connect waits for its CONNACK. The flag is cleared again by
a PINGRESP, by a connect that succeeds and by everything that closes a session; a connect
that fails leaves it as it is.
-/

namespace DemoIotApp

open Library Prog

variable {W : Type} [Clock W]

/-! ## The wait for the CONNACK -/

section Wait

variable {P : Platform} {self self' : MqttClient W} {timer : Option Timer} {s t : Sys W}

theorem waitForNextPacket_followsPing (hP : P.paho.SerializesPingreq) {r : ℤ × MqttClient W}
    (h : waitForNextPacket P self timer s = .ok r t) : FollowsPing self r.2 s t := by
  obtain ⟨ret, self₁, s₁, hreceive, hends⟩ := waitForNextPacket_eq_ok_iff.mp h
  exact (receivePacket_followsPing hreceive).1.trans (hends.followsPing hP)

theorem waitForSpecificPacket_followsPing (hP : P.paho.SerializesPingreq) {packetType : ℤ}
    {fuel : ℕ} {r : ℤ × MqttClient W}
    (h : waitForSpecificPacket P packetType timer fuel self s = .ok r t) :
    FollowsPing self r.2 s t := by
  induction fuel generalizing self s with
  | zero => simp [waitForSpecificPacket, Prog.stop] at h
  | succ fuel ih =>
      rcases waitForSpecificPacket_succ_eq_ok_iff.mp h with ⟨hu, rfl⟩ | ⟨s₁, ret, self₁, s₂, h⟩
      · exact .of_trace_eq (isTimedOut_trace hu) rfl
      obtain ⟨hs₁, hnext, hrest⟩ := h
      have hlook : FollowsPing self self s s₁ := .of_trace_eq (isTimedOut_trace hs₁) rfl
      have hturn := hlook.trans (waitForNextPacket_followsPing hP hnext)
      rcases hrest with ⟨-, rfl, rfl⟩ | ⟨-, -, rfl, rfl⟩ | ⟨-, -, hloop⟩
      · exact hturn
      · exact hturn
      · exact hturn.trans (ih hloop)

theorem sendConnect_followsPing (hP : P.paho.SerializesConnect) {options : ConnectData} {ret : ℤ}
    (h : sendConnect P self options s = .ok (ret, self') t) : FollowsPing self self' s t := by
  refine sendSerialized_followsPing (fun _ hpos hpacket ↦ ?_) h
  obtain ⟨header, body, htype, hserialized⟩ := hP options self.sendbuf hpos
  rw [hserialized.take] at hpacket
  rw [(List.cons.inj hpacket).1] at htype
  exact absurd htype (by decide)

theorem awaitConnack_followsPing (hping : P.paho.SerializesPingreq)
    (hconnect : P.paho.SerializesConnect) {fuel : ℕ} {options : ConnectData}
    {r : ℤ × MqttClient W} (h : awaitConnack P fuel self options timer s = .ok r t) :
    FollowsPing self r.2 s t := by
  obtain ⟨timerLastSend, u, hcountdown, hrest⟩ := bind_eq_ok_iff.mp h
  obtain ⟨rfl, rfl⟩ := Outcome.ok.inj hcountdown
  obtain ⟨⟨ret, self₁⟩, v, hsend, hrest⟩ := bind_eq_ok_iff.mp hrest
  have hfollows := sendConnect_followsPing hconnect hsend
  -- neither the flag nor the trace has changed before the CONNECT
  have hsent : FollowsPing self self₁ s v := hfollows
  by_cases hret : ret ≠ mqttSuccess
  · simp only [if_pos hret] at hrest
    obtain ⟨rfl, rfl⟩ := Outcome.ok.inj hrest
    exact hsent
  · simp only [if_neg hret] at hrest
    obtain ⟨⟨rc, self₂⟩, w, hwait, hw⟩ := bind_eq_ok_iff.mp hrest
    obtain ⟨rfl, rfl⟩ := Outcome.ok.inj hw
    have hwaited := waitForSpecificPacket_followsPing hping hwait
    exact hsent.trans hwaited

end Wait

/-! ## Runs of calls -/

/-- A closed session has no outstanding ping. -/
def NoLeftoverPing (self : MqttClient W) : Prop :=
  self.isConnected = false → self.isPingOutstanding = false

/-- The call leaves no ping outstanding in a closed session. -/
def ClearsPing (P : Platform) (fuel : ℕ) (h : List SessionResult × MqttClient W) (s : Sys W)
    (call : SessionCall) : Prop :=
  Post (callSession P fuel h call) s (fun h' _ ↦ NoLeftoverPing h'.2) fun _ _ ↦ True

/-- When a connect waits for its CONNACK, a CONNACK comes that can be read, or every PINGREQ that
was sent meanwhile is answered. -/
def AnswersPing (P : Platform) (fuel : ℕ) (h : List SessionResult × MqttClient W) (s : Sys W) :
    SessionCall → Prop
  | .connect options _ timer => h.2.isConnected = false →
      Post (awaitConnack P fuel h.2 (options.getD .initializer) timer) s
        (fun r t ↦ r.1 = mqttSuccess ∧ (P.paho.deserializeConnack r.2.readbuf ⟨0, 0⟩).1 = 1 ∨
          unansweredPing (t.trace.drop s.trace.length) = none) fun _ _ ↦ True
  | _ => True

instance (P : Platform) (fuel : ℕ) (h : List SessionResult × MqttClient W) (s : Sys W)
    (call : SessionCall) : Decidable (ClearsPing P fuel h s call) :=
  have (self : MqttClient W) : Decidable (NoLeftoverPing self) :=
    inferInstanceAs (Decidable (_ → _))
  inferInstanceAs (Decidable (Post _ _ _ _))

instance (P : Platform) (fuel : ℕ) (h : List SessionResult × MqttClient W) (s : Sys W) :
    (call : SessionCall) → Decidable (AnswersPing P fuel h s call)
  | .connect _ _ _ => inferInstanceAs (Decidable (_ → Post _ _ _ _))
  | .publish _ _ _ _ => isTrue trivial
  | .disconnect => isTrue trivial

section Runs

variable {P : Platform} {fuel : ℕ} {h : List SessionResult × MqttClient W} {s : Sys W}

/-- A connect on a closed session leaves its flag as the wait for the CONNACK does, unless it
succeeds. -/
theorem post_mqttClientConnect_iff {self : MqttClient W} (hclosed : self.isConnected = false)
    (options : Option ConnectData) (data : ConnackData) (timer : Option Timer) :
    Post (mqttClientConnect P fuel self options data timer) s (fun r _ ↦ NoLeftoverPing r.2.2)
        (fun _ _ ↦ True) ↔
      Post (awaitConnack P fuel self (options.getD .initializer) timer) s
        (fun r _ ↦ r.1 = mqttSuccess ∧ (P.paho.deserializeConnack r.2.readbuf ⟨0, 0⟩).1 = 1 ∨
          r.2.isPingOutstanding = false) fun _ _ ↦ True := by
  rw [mqttClientConnect, if_neg (by simp [hclosed]), post_bind]
  refine post_congr fun r t hr ↦ ?_
  have hflag : r.2.isConnected = false := by
    obtain ⟨timerLastSend, hwaited⟩ := ((yields_awaitConnack fuel self _ timer).post s).ok hr
    exact hwaited.isConnected.trans hclosed
  obtain ⟨ret, self₁⟩ := r
  have hleft : NoLeftoverPing self₁ ↔ self₁.isPingOutstanding = false :=
    ⟨fun h ↦ h hflag, fun h _ ↦ h⟩
  dsimp only
  by_cases hret : ret ≠ mqttSuccess
  · rw [if_pos hret, post_pure, hleft]
    exact ⟨Or.inr, fun h ↦ h.resolve_left fun h ↦ hret h.1⟩
  rw [if_neg hret]
  by_cases hread : (P.paho.deserializeConnack self₁.readbuf ⟨0, 0⟩).1 ≠ 1
  · rw [if_pos hread, post_pure, hleft]
    exact ⟨Or.inr, fun h ↦ h.resolve_left fun h ↦ hread h.2⟩
  · rw [if_neg hread, post_pure]
    exact iff_of_true (fun h ↦ absurd h (by simp)) (Or.inl ⟨not_not.mp hret, not_not.mp hread⟩)

theorem noLeftoverPing_mqttClientPublish (memory : Ptr → List UInt8) (self : MqttClient W)
    (topicName : Ptr) (msg : MqttMessage) (timer : Option Timer) :
    Yields (fun r ↦ NoLeftoverPing r.2.2)
      (mqttClientPublish P fuel memory self topicName msg timer) := by
  have hclosed : ∀ client : MqttClient W, NoLeftoverPing (closeSession client) := fun _ _ ↦ rfl
  refine keeps_ite (fun _ ↦ keeps_pure (hclosed self)) fun hconnected ↦ ?_
  have hself : HasFlag true self := not_not.mp hconnected
  apply (yields_assignPacketId_hasFlag hself msg).bind
  intro r hr
  apply (yields_sendSerialized _ r.2).bind
  intro r' hr'
  refine keeps_ite (fun _ ↦ keeps_pure (hclosed r'.2)) fun _ ↦ ?_
  apply (yields_checkPublishQos fuel r'.2 _ timer).bind
  intro r'' hr''
  refine keeps_ite (fun _ ↦ keeps_pure (hclosed r''.2)) fun _ ↦ keeps_pure fun h ↦ ?_
  exact absurd ((hr.waited (hr'.trans hr'')).symm.trans h) (by simp)

theorem clearsPing_iff (hping : P.paho.SerializesPingreq) (hconnect : P.paho.SerializesConnect)
    (hh : NoLeftoverPing h.2) (call : SessionCall) :
    ClearsPing P fuel h s call ↔ AnswersPing P fuel h s call := by
  cases call with
  | connect options data timer =>
      by_cases hclosed : h.2.isConnected = false
      · have hcall : ClearsPing P fuel h s (.connect options data timer) ↔
            Post (mqttClientConnect P fuel h.2 options data timer) s
              (fun r _ ↦ NoLeftoverPing r.2.2) fun _ _ ↦ True := post_bind
        rw [hcall, post_mqttClientConnect_iff hclosed]
        refine Iff.trans ?_ (imp_iff_right hclosed).symm
        refine post_congr fun r t hr ↦ or_congr_right ?_
        obtain ⟨es, htrace, hes⟩ := awaitConnack_followsPing hping hconnect hr
        rw [htrace, List.drop_left, hes none (hh hclosed), unansweredPing]
        exact Option.isSome_eq_false_iff.trans Option.isNone_iff_eq_none
      · refine iff_of_true ?_ fun h ↦ absurd h hclosed
        have hconnected : h.2.isConnected = true := by simpa using hclosed
        unfold ClearsPing callSession mqttClientConnect
        simp only [if_pos hconnected]
        exact fun h ↦ absurd h hclosed
  | publish memory topicName msg timer =>
      refine iff_of_true ?_ trivial
      exact ((noLeftoverPing_mqttClientPublish memory h.2 topicName msg timer).post s).bind
        fun _ _ h ↦ h
  | disconnect =>
      refine iff_of_true ?_ trivial
      refine post_intro (fun h' t hrun ↦ ?_) fun _ _ _ ↦ trivial
      obtain ⟨client, u, hclient, hrest⟩ := bind_eq_ok_iff.mp hrun
      obtain ⟨⟨_, self₁⟩, v, -, hv⟩ := bind_eq_ok_iff.mp hclient
      obtain ⟨rfl, rfl⟩ := Outcome.ok.inj hv
      obtain ⟨rfl, rfl⟩ := Outcome.ok.inj hrest
      exact fun _ ↦ rfl

/-- In every sequence of calls on an initialised client a closed session has no outstanding ping
exactly as long as every connect that fails has had its pings answered. -/
theorem along_clearsPing_iff (hping : P.paho.SerializesPingreq)
    (hconnect : P.paho.SerializesConnect) (self : MqttClient W) (net : Network W)
    (sendTimeoutMs : ℕ) (sendbuf readbuf : List UInt8) (calls : List SessionCall) :
    Along (ClearsPing P fuel) (callSession P fuel) calls
        ([], mqttClientInit self net sendTimeoutMs sendbuf readbuf) s ↔
      Along (AnswersPing P fuel) (callSession P fuel) calls
        ([], mqttClientInit self net sendTimeoutMs sendbuf readbuf) s := by
  refine along_iff
    (I := fun (h : List SessionResult × MqttClient W) _ ↦ NoLeftoverPing h.2)
    (fun _ _ call hh ↦ clearsPing_iff hping hconnect hh call) ?_ calls _ s fun _ ↦ rfl
  intro h s call h' t hh hanswers hrun
  exact ((clearsPing_iff hping hconnect hh call).mpr hanswers).ok hrun

end Runs

/-! ## Two connects -/

/-- A client that was just initialised. -/
def freshClient : MqttClient World :=
  mqttClientInit smallClient (netWan 4) (2 ^ 32 - 1) (List.replicate 64 0) (List.replicate 5 0)

/-- The CONNACK is the next packet. -/
theorem clearsPing_of_connack :
    Along (ClearsPing (Platform.reference false) 4) (callSession (Platform.reference false) 4)
      [.connect none ⟨0, 0⟩ none, .disconnect] ([], freshClient)
      ⟨World.steady [0x20, 2, 0, 0], []⟩ :=
  (along_clearsPing_iff Paho.reference.serializesPingreq Paho.reference.serializesConnect
    smallClient (netWan 4) (2 ^ 32 - 1) (List.replicate 64 0) (List.replicate 5 0)
    [.connect none ⟨0, 0⟩ none, .disconnect]).mpr (by decide +kernel)

/-- The broker stays silent, and the clock goes on. -/
def World.silent : World :=
  ⟨{ Answers.steady with timerNow := fun k ↦ k, tlsRead := fun _ ↦ .error (-1) }, 0, [], [], false⟩

/-- A PINGREQ is sent while the connect waits, and the connect gives up because of it. -/
theorem not_clearsPing_of_silent_broker :
    ¬Along (ClearsPing (Platform.reference false) 4) (callSession (Platform.reference false) 4)
      [.connect (some { ConnectData.initializer with keepAliveInterval := 1 }) ⟨0, 0⟩ none]
      ([], freshClient) ⟨World.silent, []⟩ := by
  decide +kernel

end DemoIotApp
