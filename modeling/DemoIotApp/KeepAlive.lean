import DemoIotApp.AckMatching

/-!
# The keep-alive and a live connection

When the interval has passed a PINGREQ is sent, and when the interval has passed again without
an answer the connection is to be given up. Sending does not restart the timer, so that it has
expired for good by then, and the next packet that is not the answer ends the session.
-/

namespace DemoIotApp

open Library Prog

variable {W : Type}

/-! ## Pings in the trace -/

/-- What an event does to the ping that is not answered yet, which is known by the world after
it was sent. -/
def notePing (ping : Option W) : Event W → Option W
  | .sendPacket _ packet _ after rc =>
      if packet = pingreqPacket ∧ rc = some mqttSuccess then some after else ping
  | .readPacket _ _ (some (ret, _)) => if ret = PacketType.pingresp.code then none else ping
  | _ => ping

/-- The PINGREQ that was sent last, if no PINGRESP was received since. -/
def unansweredPing (trace : List (Event W)) : Option W := trace.foldl notePing none

def Event.readAfter : Event W → Option W
  | .readPacket _ after _ => some after
  | _ => none

/-- The world after the packet read that the trace ends with. -/
def lastRead (trace : List (Event W)) : Option W := trace.getLast?.bind Event.readAfter

theorem foldl_notePing_of_reads (ping : Option W) {es : List (Event W)}
    (h : ∀ e ∈ es, e.IsRead) : es.foldl notePing ping = ping := by
  induction es with
  | nil => rfl
  | cons e es ih =>
      have hread : notePing ping e = ping := by
        have he := h e List.mem_cons_self
        cases e <;> first | rfl | exact he.elim
      rw [List.foldl_cons, hread]
      exact ih fun e' he' ↦ h e' (List.mem_cons_of_mem e he')

theorem notePing_of_sends {ping : Option W} {e : Event W} (h : e.Sends pingreqPacket) :
    (notePing ping e).isSome = true := by
  cases e with
  | sendPacket link packet before after rc =>
      have hsent : packet = pingreqPacket ∧ rc = some mqttSuccess := h
      rw [notePing, if_pos hsent]
      rfl
  | read | readPacket | call => exact h.elim

theorem notePing_of_not_sends {ping : Option W} {link : Link} {packet : List UInt8}
    {before after : W} {rc : ℤ} (h : rc ≠ mqttSuccess) :
    notePing ping (.sendPacket link packet before after (some rc)) = ping := by
  rw [notePing, if_neg fun h' ↦ h (Option.some.inj h'.2)]

section Calls

variable [Clock W] {P : Platform} {self self' : MqttClient W} {timer : Option Timer} {s t : Sys W}

/-- Whatever ping the flag tells of before, it tells afterwards of what the new events have
made of that ping. -/
def FollowsPing (self self' : MqttClient W) (s t : Sys W) : Prop :=
  ∃ es, t.trace = s.trace ++ es ∧ ∀ ping : Option W, self.isPingOutstanding = ping.isSome →
    self'.isPingOutstanding = (es.foldl notePing ping).isSome

omit [Clock W] in
theorem FollowsPing.of_trace_eq (htrace : t.trace = s.trace)
    (hflag : self'.isPingOutstanding = self.isPingOutstanding) : FollowsPing self self' s t :=
  ⟨[], by rw [htrace, List.append_nil], fun _ h ↦ hflag.trans h⟩

omit [Clock W] in
theorem FollowsPing.trans {self₁ : MqttClient W} {u : Sys W} (h : FollowsPing self self₁ s u)
    (h' : FollowsPing self₁ self' u t) : FollowsPing self self' s t := by
  obtain ⟨es, htrace, hes⟩ := h
  obtain ⟨es', htrace', hes'⟩ := h'
  refine ⟨es ++ es', by rw [htrace', htrace, List.append_assoc], fun ping hping ↦ ?_⟩
  rw [List.foldl_append]
  exact hes' _ (hes ping hping)

theorem sendSerialized_followsPing {serialize : Serializer} {ret : ℤ}
    (hpacket : ret = mqttSuccess → 0 < (serialize self.sendbuf).1 →
      (serialize self.sendbuf).2.take (serialize self.sendbuf).1.toNat ≠ pingreqPacket)
    (h : sendSerialized serialize self s = .ok (ret, self') t) : FollowsPing self self' s t := by
  have hflag : self'.isPingOutstanding = self.isPingOutstanding := by
    rw [(sendSerialized_eq_ok h).2]
  rcases sendSerialized_trace h with ⟨-, htrace⟩ | ⟨hpos, link, before, rc, hret, htrace⟩
  · exact .of_trace_eq htrace hflag
  · refine ⟨_, htrace, fun ping hping ↦ ?_⟩
    rw [hflag, hping]
    by_cases hrc : rc = mqttSuccess
    · have hne := hpacket (hret.trans (if_neg (not_not.mpr hrc))) hpos
      rw [List.foldl_cons, List.foldl_nil, notePing, if_neg fun h ↦ hne h.1]
    · rw [List.foldl_cons, List.foldl_nil, notePing_of_not_sends hrc]

theorem sendPingReq_followsPing (hP : P.paho.SerializesPingreq) {ret : ℤ}
    (h : sendPingReq P self s = .ok (ret, self') t) :
    FollowsPing self self' s t ∧
      (ret ≠ mqttSuccess → self'.isPingOutstanding = self.isPingOutstanding) := by
  unfold sendPingReq at h
  obtain ⟨⟨rc, self₁⟩, u, hserialized, hrest⟩ := bind_eq_ok_iff.mp h
  obtain ⟨hcases, hself₁⟩ := sendSerialized_eq_ok hserialized
  dsimp only at hrest
  rcases hcases with rfl | rfl
  · rw [if_pos mqttFailure_ne_mqttSuccess] at hrest
    obtain ⟨rfl, rfl, rfl⟩ := Outcome.ok_pair_inj hrest
    refine ⟨sendSerialized_followsPing (fun h ↦ absurd h mqttFailure_ne_mqttSuccess) hserialized,
      fun _ ↦ ?_⟩
    rw [hself₁]
  · rw [if_neg (not_not.mpr rfl)] at hrest
    obtain ⟨rfl, rfl, rfl⟩ := Outcome.ok_pair_inj hrest
    obtain ⟨e, htrace, hsends⟩ := sendSerialized_sends (hP self.sendbuf).1 hserialized
    exact ⟨⟨[e], htrace, fun _ _ ↦ (notePing_of_sends hsends).symm⟩, fun hne ↦ absurd rfl hne⟩

theorem receivePacket_followsPing {ret : ℤ}
    (h : receivePacket P self timer s = .ok (ret, self') t) :
    FollowsPing self (noteReceived ret self') s t ∧ lastRead t.trace = some t.world ∧
      (ret ≠ PacketType.pingresp.code → unansweredPing t.trace = unansweredPing s.trace) := by
  obtain ⟨hself', e, es, htrace, hreads⟩ := receivePacket_eq_ok h
  have hping : ∀ ping,
      (e :: es ++ [Event.readPacket s.world t.world (some (ret, self'.readbuf))]).foldl notePing
        ping = if ret = PacketType.pingresp.code then none else ping := by
    intro ping
    rw [List.foldl_append, foldl_notePing_of_reads ping hreads]
    rfl
  have hflag : self'.isPingOutstanding = self.isPingOutstanding := by rw [hself']
  rw [List.append_assoc] at htrace
  refine ⟨⟨_, htrace, fun ping h ↦ ?_⟩, ?_, fun hne ↦ ?_⟩
  · rw [hping, noteReceived]
    split_ifs
    · rfl
    · rw [hflag, h]
  · rw [htrace, ← List.append_assoc, lastRead, List.getLast?_concat]
    rfl
  · rw [htrace, unansweredPing, List.foldl_append, hping, if_neg hne]
    rfl

theorem KeepAliveEnds.followsPing (hP : P.paho.SerializesPingreq) {packetType ret : ℤ}
    (h : KeepAliveEnds P packetType self s ret self' t) : FollowsPing self self' s t := by
  cases h with
  | notDue _ hdue ht =>
      obtain ⟨u, hu, htrace⟩ := keepAliveExpired_of_not_due hdue
      obtain ⟨-, rfl⟩ := Outcome.ok.inj (hu.symm.trans ht)
      exact .of_trace_eq htrace rfl
  | overdue => exact .of_trace_eq rfl rfl
  | pingFailed _ _ _ _ _ hsend => exact (sendPingReq_followsPing hP hsend).1
  | pinged _ _ _ _ _ hsend => exact (sendPingReq_followsPing hP hsend).1

/-- The flag of the client tells whether a ping is unanswered. -/
def TracksPing (self : MqttClient W) (s : Sys W) : Prop :=
  self.isPingOutstanding = (unansweredPing s.trace).isSome

omit [Clock W] in
theorem FollowsPing.tracksPing (h : FollowsPing self self' s t) (hs : TracksPing self s) :
    TracksPing self' t := by
  obtain ⟨es, htrace, hes⟩ := h
  unfold TracksPing unansweredPing
  rw [htrace, List.foldl_append]
  exact hes _ hs

namespace KeepAliveEnds

variable {packetType ret : ℤ}

/-- The part only gives up because of a ping when one is outstanding and the timer has expired. -/
theorem of_gives_up (hP : P.paho.SerializesPingreq) {rc : ℤ}
    (h : KeepAliveEnds P (receivedType rc) self s ret self' t) (hret : ret = mqttFailure)
    (hflag : self'.isPingOutstanding = true) :
    KeepAliveDue self s ∧ self.isPingOutstanding = true ∧ t = afterClock s := by
  have htype : (if receivedType rc = -1 then mqttSuccess else receivedType rc) ≠ mqttFailure := by
    unfold receivedType mqttSuccess mqttFailure
    split_ifs <;> omega
  cases h with
  | notDue => exact absurd hret htype
  | overdue hdue hping => exact ⟨hdue, hping, rfl⟩
  | pingFailed _ _ _ hping _ hsend =>
      have hkept := (sendPingReq_followsPing hP hsend).2 mqttFailure_ne_mqttSuccess
      exact absurd (hkept.symm.trans hflag) (by simp [hping])
  | pinged => exact absurd hret htype

end KeepAliveEnds

/-! ## Runs of calls -/

/-- What a timer reads when the clock is asked in this world. -/
def timeAt (w : W) : ℕ := (Clock.now w).1

/-- A full interval lies between the unanswered PINGREQ and the end of the last packet read. -/
def Overdue (intervalMs : ℕ) (trace : List (Event W)) : Prop :=
  ∃ sent ∈ unansweredPing trace, ∃ read ∈ lastRead trace,
    timeAt sent + intervalMs ≤ timeAt read

instance (intervalMs : ℕ) (trace : List (Event W)) : Decidable (Overdue intervalMs trace) :=
  inferInstanceAs (Decidable (∃ _ ∈ _, ∃ _ ∈ _, _))

/-- If the call fails because of an outstanding ping, that is overdue. -/
def GivesUpInTime (P : Platform) (self : MqttClient W) (s : Sys W) (timer : Option Timer) : Prop :=
  Post (waitForNextPacket P self timer) s
    (fun r t ↦ r.1 = mqttFailure ∧ r.2.isPingOutstanding = true →
      Overdue self.keepAliveIntervalMs t.trace) fun _ _ ↦ True

/-- If a PINGREQ is unanswered, the read of the call brings the PINGRESP or it ends a full
interval after the PINGREQ was sent, or before the timer expires. -/
def AwaitsAnswer (P : Platform) (self : MqttClient W) (s : Sys W) (timer : Option Timer) : Prop :=
  ∀ sent ∈ unansweredPing s.trace, Post (receivePacket P self timer) s
    (fun r t ↦ r.1 = PacketType.pingresp.code ∨
      timeAt sent + self.keepAliveIntervalMs ≤ timeAt t.world ∨
        timeAt t.world < self.timerLastSend.deadline) fun _ _ ↦ True

instance (self : MqttClient W) (s : Sys W) (timer : Option Timer) :
    Decidable (GivesUpInTime P self s timer) :=
  inferInstanceAs (Decidable (Post ..))

instance (self : MqttClient W) (s : Sys W) (timer : Option Timer) :
    Decidable (AwaitsAnswer P self s timer) :=
  inferInstanceAs (Decidable (∀ _ ∈ _, Post ..))

/-- One call of `waitForNextPacket`, from which the client goes on. -/
def waitOnce (P : Platform) (self : MqttClient W) (timer : Option Timer) :
    Prog Stop (Sys W) (MqttClient W) := do
  let (_, self) ← waitForNextPacket P self timer
  return self

theorem givesUpInTime_iff (hP : P.paho.SerializesPingreq) (hping : TracksPing self s)
    (hinterval : self.keepAliveIntervalMs ≠ 0) (timer : Option Timer) :
    GivesUpInTime P self s timer ↔ AwaitsAnswer P self s timer := by
  constructor
  · intro h sent hsent
    refine post_intro (fun r s₁ hreceive ↦ ?_) fun _ _ _ ↦ trivial
    obtain ⟨rc, self₁⟩ := r
    by_contra hnot
    obtain ⟨hrc, hearly, hlate⟩ : rc ≠ PacketType.pingresp.code ∧
        ¬timeAt sent + self.keepAliveIntervalMs ≤ timeAt s₁.world ∧
          ¬timeAt s₁.world < self.timerLastSend.deadline := by
      simpa only [not_or] using hnot
    obtain ⟨hfollows, hread, hkept⟩ := receivePacket_followsPing hreceive
    have htracks := hfollows.tracksPing hping
    have hself₁ := (receivePacket_eq_ok hreceive).1
    have hnote : noteReceived rc self₁ = self₁ := if_neg hrc
    rw [hnote] at htracks
    have hunanswered : unansweredPing s₁.trace = some sent := (hkept hrc).trans hsent
    have hflag : self₁.isPingOutstanding = true := by
      rw [htracks, hunanswered]
      rfl
    have hdue : KeepAliveDue self₁ s₁ := by
      rw [hself₁]
      exact ⟨hinterval, Nat.not_lt.mp hlate⟩
    -- the call gives up
    have hrun : waitForNextPacket P self timer s = .ok (mqttFailure, self₁) (afterClock s₁) :=
      waitForNextPacket_eq_ok_iff.mpr ⟨rc, self₁, s₁, hreceive, by
        rw [hnote]
        exact .overdue hdue hflag⟩
    obtain ⟨sent', hsent', read, hread', hoverdue⟩ := h.ok hrun ⟨rfl, hflag⟩
    obtain rfl : sent = sent' := Option.some.inj (hunanswered.symm.trans hsent')
    obtain rfl : s₁.world = read := Option.some.inj (hread.symm.trans hread')
    exact hearly hoverdue
  · intro h
    refine post_intro (fun r t hrun ↦ ?_) fun _ _ _ ↦ trivial
    rintro ⟨hret, hflag⟩
    obtain ⟨rc, self₁, s₁, hreceive, hends⟩ := waitForNextPacket_eq_ok_iff.mp hrun
    obtain ⟨hfollows, hread, hkept⟩ := receivePacket_followsPing hreceive
    have htracks := hfollows.tracksPing hping
    obtain ⟨hdue, hflag₁, rfl⟩ := hends.of_gives_up hP hret hflag
    have hself₁ := (receivePacket_eq_ok hreceive).1
    have hrc : rc ≠ PacketType.pingresp.code := by
      intro heq
      rw [noteReceived, if_pos heq] at hflag₁
      exact absurd hflag₁ (by simp)
    obtain ⟨sent, hsent⟩ := Option.isSome_iff_exists.mp (htracks.symm.trans hflag₁)
    have hnote : noteReceived rc self₁ = self₁ := if_neg hrc
    have hdeadline : self.timerLastSend.deadline ≤ timeAt s₁.world := by
      have hexpired := hdue.2
      rw [hnote, hself₁] at hexpired
      exact hexpired
    have hanswer := (h sent ((hkept hrc).symm.trans hsent)).ok hreceive
    refine ⟨sent, hsent, s₁.world, hread, ?_⟩
    exact (hanswer.resolve_left hrc).resolve_right (Nat.not_lt.mpr hdeadline)

/-- In a run of calls the session is given up in time exactly as long as nothing but the answer
arrives in the interval after a PINGREQ. -/
theorem along_givesUpInTime_iff (hP : P.paho.SerializesPingreq) (self : MqttClient W)
    (s : Sys W) (hping : TracksPing self s) (hinterval : self.keepAliveIntervalMs ≠ 0)
    (timers : List (Option Timer)) :
    Along (GivesUpInTime P) (waitOnce P) timers self s ↔
      Along (AwaitsAnswer P) (waitOnce P) timers self s := by
  refine along_iff
    (I := fun (self : MqttClient W) s ↦ TracksPing self s ∧ self.keepAliveIntervalMs ≠ 0)
    (fun _ _ timer h ↦ givesUpInTime_iff hP h.1 h.2 timer) ?_ timers self s ⟨hping, hinterval⟩
  rintro self s timer self' t ⟨hping, hinterval⟩ - hcall
  obtain ⟨⟨ret, self''⟩, u, hwait, hreturn⟩ := bind_eq_ok_iff.mp hcall
  obtain ⟨rfl, rfl⟩ := Outcome.ok.inj hreturn
  have hwaited : Waited self self'' := waitForNextPacket_waited hwait
  obtain ⟨rc, self₁, s₁, hreceive, hends⟩ := waitForNextPacket_eq_ok_iff.mp hwait
  have hfollows := (receivePacket_followsPing hreceive).1.trans (hends.followsPing hP)
  refine ⟨hfollows.tracksPing hping, ?_⟩
  obtain ⟨_, _, _, rfl⟩ := hwaited
  exact hinterval

end Calls

/-! ## Fixed runs -/

/-- A client whose interval of 1000 ticks is over. -/
def pingingClient : MqttClient World :=
  { smallClient with
    sendTimeoutMs := 2 ^ 32 - 1, keepAliveIntervalMs := 1000, timerLastSend := ⟨1000⟩ }

/-- Every call succeeds, and the clock goes on by one tick with each of them. -/
def World.ticking (rx : List UInt8) : World :=
  ⟨{ Answers.steady with timerNow := fun k ↦ k }, 1000, rx, [], false⟩

/-- The PINGRESP is the next packet. -/
theorem givesUpInTime_of_pingresp :
    Along (GivesUpInTime (Platform.reference false)) (waitOnce (Platform.reference false))
      [none, none] pingingClient ⟨World.ticking [0x40, 2, 0, 1, 0xD0, 0], []⟩ := by
  have hping : TracksPing pingingClient ⟨World.ticking [0x40, 2, 0, 1, 0xD0, 0], []⟩ := rfl
  exact (along_givesUpInTime_iff Paho.reference.serializesPingreq pingingClient _ hping (by decide)
    [none, none]).mpr (by decide +kernel)

/-- A PUBACK arrives right behind the PINGREQ, and the session is given up. -/
theorem not_givesUpInTime_of_puback :
    TracksPing pingingClient ⟨World.ticking [0x40, 2, 0, 1, 0x40, 2, 0, 2], []⟩ ∧
      ¬Along (GivesUpInTime (Platform.reference false)) (waitOnce (Platform.reference false))
        [none, none] pingingClient ⟨World.ticking [0x40, 2, 0, 1, 0x40, 2, 0, 2], []⟩ :=
  ⟨rfl, by decide +kernel⟩

end DemoIotApp
