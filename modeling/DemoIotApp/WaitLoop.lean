import DemoIotApp.MqttClient

/-!
# How the wait loop ends

One lemma says for every function of the wait loop what a run that returns has
done. The rest of the development looks at the loop through these lemmas only.
-/

namespace DemoIotApp

open Library Prog

variable {W : Type} [Clock W]

/-! ## The clock -/

/-- The timer has expired by the time at which it is read next. -/
def IsExpired (timer : Timer) (s : Sys W) : Prop :=
  timer.deadline ≤ (Clock.now s.world).1

/-- The state after the clock was read. -/
def afterClock (s : Sys W) : Sys W := { s with world := (Clock.now s.world).2 }

@[simp] theorem afterClock_trace (s : Sys W) : (afterClock s).trace = s.trace := rfl

instance (timer : Timer) (s : Sys W) : Decidable (IsExpired timer s) :=
  inferInstanceAs (Decidable (_ ≤ _))

theorem timerIsExpired_apply (timer : Timer) (s : Sys W) :
    timerIsExpired timer s = .ok (decide (IsExpired timer s)) (afterClock s) := rfl

theorem isTimedOut_eq_true_iff {timer : Option Timer} {s t : Sys W} :
    isTimedOut timer s = .ok true t ↔
      ∃ tm, timer = some tm ∧ IsExpired tm s ∧ t = afterClock s := by
  cases timer with
  | none => simp [isTimedOut, pure_apply]
  | some tm => simp [isTimedOut, timerIsExpired_apply, eq_comm]

theorem isTimedOut_returns (timer : Option Timer) (s : Sys W) :
    ∃ b t, isTimedOut timer s = .ok b t ∧ t.trace = s.trace := by
  cases timer with
  | none => exact ⟨false, s, rfl, rfl⟩
  | some tm => exact ⟨_, afterClock s, rfl, rfl⟩

theorem isTimedOut_trace {timer : Option Timer} {s t : Sys W} {b : Bool}
    (h : isTimedOut timer s = .ok b t) : t.trace = s.trace := by
  obtain ⟨b', u, hu, htrace⟩ := isTimedOut_returns timer s
  rw [h] at hu
  exact (Outcome.ok.inj hu).2 ▸ htrace

/-! ## The keep-alive part -/

/-- The keep-alive interval has passed when the timer is read next. -/
def KeepAliveDue (self : MqttClient W) (s : Sys W) : Prop :=
  self.keepAliveIntervalMs ≠ 0 ∧ IsExpired self.timerLastSend s

theorem keepAliveExpired_of_due {self : MqttClient W} {s : Sys W} (h : KeepAliveDue self s) :
    keepAliveExpired self s = .ok true (afterClock s) := by
  rw [keepAliveExpired, if_pos h.1, timerIsExpired_apply, decide_eq_true h.2]

theorem keepAliveExpired_of_not_due {self : MqttClient W} {s : Sys W}
    (h : ¬KeepAliveDue self s) :
    ∃ t, keepAliveExpired self s = .ok false t ∧ t.trace = s.trace := by
  unfold keepAliveExpired
  by_cases hne : self.keepAliveIntervalMs ≠ 0
  · refine ⟨afterClock s, ?_, rfl⟩
    rw [if_pos hne, timerIsExpired_apply, decide_eq_false fun hexp ↦ h ⟨hne, hexp⟩]
  · exact ⟨s, by rw [if_neg hne]; rfl, rfl⟩

theorem sendSerialized_eq_ok {serialize : Serializer} {self self' : MqttClient W}
    {s t : Sys W} {ret : ℤ} (h : sendSerialized serialize self s = .ok (ret, self') t) :
    (ret = mqttFailure ∨ ret = mqttSuccess) ∧
      self' = { self with sendbuf := (serialize self.sendbuf).2 } := by
  unfold sendSerialized at h
  split_ifs at h
  · obtain ⟨rfl, rfl⟩ := Prod.mk.inj (Outcome.ok.inj h).1
    exact ⟨Or.inl rfl, rfl⟩
  · obtain ⟨rc, u, -, hu⟩ := bind_eq_ok_iff.mp h
    obtain ⟨rfl, rfl⟩ := Prod.mk.inj (Outcome.ok.inj hu).1
    refine ⟨?_, rfl⟩
    split_ifs
    · exact Or.inl rfl
    · exact Or.inr rfl

/-- What a wait can change in a client. -/
def Waited (self self' : MqttClient W) : Prop :=
  ∃ readbuf sendbuf ping, self' =
    { self with readbuf := readbuf, sendbuf := sendbuf, isPingOutstanding := ping }

omit [Clock W] in
theorem Waited.refl (self : MqttClient W) : Waited self self :=
  ⟨self.readbuf, self.sendbuf, self.isPingOutstanding, rfl⟩

omit [Clock W] in
theorem Waited.trans {self₁ self₂ self₃ : MqttClient W} (h : Waited self₁ self₂)
    (h' : Waited self₂ self₃) : Waited self₁ self₃ := by
  obtain ⟨_, _, _, rfl⟩ := h
  obtain ⟨readbuf, sendbuf, ping, rfl⟩ := h'
  exact ⟨readbuf, sendbuf, ping, rfl⟩

omit [Clock W] in
theorem Waited.isConnected {self self' : MqttClient W} (h : Waited self self') :
    self'.isConnected = self.isConnected := by
  obtain ⟨_, _, _, rfl⟩ := h
  rfl

omit [Clock W] in
theorem Waited.nextPacketId {self self' : MqttClient W} (h : Waited self self') :
    self'.nextPacketId = self.nextPacketId := by
  obtain ⟨_, _, _, rfl⟩ := h
  rfl

omit [Clock W] in
theorem Waited.keepAliveIntervalMs {self self' : MqttClient W} (h : Waited self self') :
    self'.keepAliveIntervalMs = self.keepAliveIntervalMs := by
  obtain ⟨_, _, _, rfl⟩ := h
  rfl

theorem sendPingReq_eq_ok {P : Platform} {self self' : MqttClient W} {s t : Sys W} {ret : ℤ}
    (h : sendPingReq P self s = .ok (ret, self') t) :
    (ret = mqttFailure ∨ ret = mqttSuccess) ∧ self'.readbuf = self.readbuf ∧
      Waited self self' := by
  unfold sendPingReq at h
  obtain ⟨⟨rc, self₁⟩, u, hsend, hu⟩ := bind_eq_ok_iff.mp h
  obtain ⟨-, rfl⟩ := sendSerialized_eq_ok hsend
  dsimp only at hu
  split_ifs at hu
  · obtain ⟨rfl, rfl⟩ := Prod.mk.inj (Outcome.ok.inj hu).1
    exact ⟨Or.inl rfl, rfl, _, _, _, rfl⟩
  · obtain ⟨rfl, rfl⟩ := Prod.mk.inj (Outcome.ok.inj hu).1
    exact ⟨Or.inr rfl, rfl, _, _, _, rfl⟩

/-- A dead connection is reported when the answer to a ping is overdue, or when
nothing was received and the ping cannot be sent. -/
inductive KeepAliveEnds (P : Platform) (packetType : ℤ) (self : MqttClient W) (s : Sys W) :
    ℤ → MqttClient W → Sys W → Prop
  | notDue (t : Sys W) (hdue : ¬KeepAliveDue self s)
      (ht : keepAliveExpired self s = .ok false t) :
      KeepAliveEnds P packetType self s (if packetType = -1 then mqttSuccess else packetType)
        self t
  | overdue (hdue : KeepAliveDue self s) (hping : self.isPingOutstanding = true) :
      KeepAliveEnds P packetType self s mqttFailure self (afterClock s)
  | pingFailed (self' : MqttClient W) (t : Sys W) (hdue : KeepAliveDue self s)
      (hping : self.isPingOutstanding = false) (htype : packetType = -1)
      (hsend : sendPingReq P self (afterClock s) = .ok (mqttFailure, self') t) :
      KeepAliveEnds P packetType self s mqttFailure self' t
  | pinged (ret : ℤ) (self' : MqttClient W) (t : Sys W) (hdue : KeepAliveDue self s)
      (hping : self.isPingOutstanding = false)
      (hsend : sendPingReq P self (afterClock s) = .ok (ret, self') t)
      (hret : ret = mqttSuccess ∨ packetType ≠ -1) :
      KeepAliveEnds P packetType self s (if packetType = -1 then mqttSuccess else packetType)
        self' t

theorem keepAlive_eq_ok_iff {P : Platform} {self self' : MqttClient W} {packetType ret : ℤ}
    {s t : Sys W} :
    keepAlive P self packetType s = .ok (ret, self') t ↔
      KeepAliveEnds P packetType self s ret self' t := by
  unfold keepAlive
  constructor
  · intro h
    by_cases hdue : KeepAliveDue self s
    · rw [bind_eq_of_ok (keepAliveExpired_of_due hdue), if_pos rfl] at h
      by_cases hping : self.isPingOutstanding = true
      · rw [if_pos hping] at h
        obtain ⟨rfl, rfl, rfl⟩ := Outcome.ok_pair_inj h
        exact .overdue hdue hping
      · rw [if_neg hping] at h
        have hping' : self.isPingOutstanding = false := by simpa using hping
        obtain ⟨⟨rc, self₁⟩, u, hsend, hu⟩ := bind_eq_ok_iff.mp h
        dsimp only at hu
        split_ifs at hu with hfail htype
        · obtain ⟨rfl, rfl, rfl⟩ := Outcome.ok_pair_inj hu
          have hrc : rc = mqttFailure := (sendPingReq_eq_ok hsend).1.resolve_right hfail.1
          exact .pingFailed _ _ hdue hping' hfail.2 (hrc ▸ hsend)
        all_goals
          obtain ⟨rfl, rfl, rfl⟩ := Outcome.ok_pair_inj hu
          have hret : rc = mqttSuccess ∨ packetType ≠ -1 := by
            by_contra hcon
            exact hfail ⟨fun h ↦ hcon (Or.inl h), not_not.mp fun h ↦ hcon (Or.inr h)⟩
          have hends := KeepAliveEnds.pinged (P := P) rc self₁ u hdue hping' hsend hret
          simpa [htype] using hends
    · obtain ⟨u, hu, -⟩ := keepAliveExpired_of_not_due hdue
      rw [bind_eq_of_ok hu, if_neg (by simp)] at h
      obtain ⟨rfl, rfl, rfl⟩ := Outcome.ok_pair_inj h
      exact .notDue _ hdue hu
  · intro h
    cases h with
    | notDue _ hdue ht => rw [bind_eq_of_ok ht, if_neg (by simp)]; rfl
    | overdue hdue hping =>
        rw [bind_eq_of_ok (keepAliveExpired_of_due hdue), if_pos rfl, if_pos hping]
        rfl
    | pingFailed _ _ hdue hping htype hsend =>
        rw [bind_eq_of_ok (keepAliveExpired_of_due hdue), if_pos rfl, if_neg (by simp [hping]),
          bind_eq_of_ok hsend]
        dsimp only
        rw [if_pos ⟨by decide, htype⟩]
        rfl
    | pinged rc _ _ hdue hping hsend hret =>
        rw [bind_eq_of_ok (keepAliveExpired_of_due hdue), if_pos rfl, if_neg (by simp [hping]),
          bind_eq_of_ok hsend]
        dsimp only
        rw [if_neg (by rintro ⟨h₁, h₂⟩; exact hret.elim h₁ fun h ↦ h h₂)]
        rfl

namespace KeepAliveEnds

variable {P : Platform} {self self' : MqttClient W} {packetType ret : ℤ} {s t : Sys W}

theorem ret_cases (h : KeepAliveEnds P packetType self s ret self' t) :
    ret = mqttFailure ∨ ret = if packetType = -1 then mqttSuccess else packetType := by
  cases h with
  | notDue | pinged => exact Or.inr rfl
  | overdue | pingFailed => exact Or.inl rfl

theorem readbuf (h : KeepAliveEnds P packetType self s ret self' t) :
    self'.readbuf = self.readbuf ∧ Waited self self' := by
  cases h with
  | notDue | overdue => exact ⟨rfl, .refl _⟩
  | pingFailed _ _ _ _ _ hsend => exact (sendPingReq_eq_ok hsend).2
  | pinged _ _ _ _ _ hsend => exact (sendPingReq_eq_ok hsend).2

end KeepAliveEnds

/-! ## One turn of the loop -/

/-- A PINGRESP answers the outstanding ping. -/
def noteReceived (ret : ℤ) (self : MqttClient W) : MqttClient W :=
  if ret = PacketType.pingresp.code then { self with isPingOutstanding := false } else self

/-- The packet type is `-1` when nothing was received. -/
def receivedType (ret : ℤ) : ℤ := if ret < 0 then -1 else ret

omit [Clock W] in
theorem noteReceived_readbuf (ret : ℤ) (self : MqttClient W) :
    (noteReceived ret self).readbuf = self.readbuf ∧ Waited self (noteReceived ret self) := by
  unfold noteReceived
  split_ifs
  · exact ⟨rfl, _, _, _, rfl⟩
  · exact ⟨rfl, .refl _⟩

section Turn

variable {P : Platform} {self self' : MqttClient W} {timer : Option Timer} {s t : Sys W}

theorem waitForNextPacket_eq_ok_iff {r : ℤ × MqttClient W} :
    waitForNextPacket P self timer s = .ok r t ↔
      ∃ ret self₁ s₁, receivePacket P self timer s = .ok (ret, self₁) s₁ ∧
        KeepAliveEnds P (receivedType ret) (noteReceived ret self₁) s₁ r.1 r.2 t := by
  have hturn : ∀ (ret : ℤ) (self₁ : MqttClient W),
      (if ret < 0 then keepAlive P self₁ (-1)
        else if ret = PacketType.pingresp.code then
          keepAlive P { self₁ with isPingOutstanding := false } ret
        else keepAlive P self₁ ret) = keepAlive P (noteReceived ret self₁) (receivedType ret) := by
    intro ret self₁
    by_cases hneg : ret < 0
    · have hne : ret ≠ PacketType.pingresp.code := by
        rintro rfl
        exact absurd hneg (by decide)
      rw [if_pos hneg, noteReceived, if_neg hne, receivedType, if_pos hneg]
    · rw [if_neg hneg, noteReceived, receivedType, if_neg hneg]
      split_ifs <;> rfl
  unfold waitForNextPacket
  simp only [bind_eq_ok_iff, hturn, Prod.exists]
  obtain ⟨ret, self'⟩ := r
  simp only [keepAlive_eq_ok_iff]

theorem KeepAliveEnds.of_nonneg {ret ret' : ℤ} {self₁ : MqttClient W} {s₁ : Sys W}
    (h : KeepAliveEnds P (receivedType ret) (noteReceived ret self₁) s₁ ret' self' t)
    (hret : ret' ≠ mqttSuccess) (hnonneg : 0 ≤ ret') : ret' = ret := by
  rcases h.ret_cases with rfl | rfl
  · exact absurd hnonneg (by decide)
  · unfold receivedType at hret ⊢
    by_cases hneg : ret < 0
    · simp [hneg] at hret
    · rw [if_neg hneg]
      split_ifs with hone
      · omega
      · rfl

theorem KeepAliveEnds.ret_of_pos {ret ret' : ℤ} {self₁ : MqttClient W} {s₁ : Sys W}
    (h : KeepAliveEnds P (receivedType ret) (noteReceived ret self₁) s₁ ret' self' t)
    (hpos : 0 < ret) : ret' = mqttFailure ∨ ret' = ret := by
  refine h.ret_cases.imp_right fun hret ↦ hret.trans ?_
  rw [receivedType, if_neg (by omega), if_neg (by omega)]

/-- Without a keep-alive interval the type of the packet is what is returned. -/
theorem KeepAliveEnds.ret_of_off {ret ret' : ℤ} {self₁ : MqttClient W} {s₁ : Sys W}
    (h : KeepAliveEnds P (receivedType ret) (noteReceived ret self₁) s₁ ret' self' t)
    (hpos : 0 < ret) (hoff : self₁.keepAliveIntervalMs = 0) : ret' = ret := by
  have hnote := (noteReceived_readbuf ret self₁).2.keepAliveIntervalMs.trans hoff
  cases h with
  | notDue => rw [receivedType, if_neg (by omega), if_neg (by omega)]
  | overdue hdue | pingFailed _ _ hdue | pinged _ _ _ hdue => exact absurd hnote hdue.1

/-- The ways in which one turn of the loop ends it, or goes on. -/
theorem waitForSpecificPacket_succ_eq_ok_iff {packetType : ℤ} {fuel : ℕ}
    {r : ℤ × MqttClient W} :
    waitForSpecificPacket P packetType timer (fuel + 1) self s = .ok r t ↔
      isTimedOut timer s = .ok true t ∧ r = (mqttTimeout, self) ∨
        ∃ s₁ ret self₁ s₂, isTimedOut timer s = .ok false s₁ ∧
          waitForNextPacket P self timer s₁ = .ok (ret, self₁) s₂ ∧
            (ret < 0 ∧ r = (mqttFailure, self₁) ∧ t = s₂ ∨
              0 ≤ ret ∧ ret = packetType ∧ r = (mqttSuccess, self₁) ∧ t = s₂ ∨
              0 ≤ ret ∧ ret ≠ packetType ∧
                waitForSpecificPacket P packetType timer fuel self₁ s₂ = .ok r t) := by
  have hok : ∀ (a : ℤ × MqttClient W) (u : Sys W),
      (Outcome.ok a u : Outcome Stop (Sys W) _) = .ok r t ↔ r = a ∧ t = u := by
    intro a u
    rw [Outcome.ok.injEq, eq_comm, @eq_comm _ u t]
  obtain ⟨b, u, hu, -⟩ := isTimedOut_returns timer s
  rw [waitForSpecificPacket, bind_eq_of_ok hu]
  cases b with
  | true =>
      rw [if_pos rfl, pure_apply, hok, hu]
      simp [and_comm, eq_comm]
  | false =>
      rw [if_neg (by simp), bind_eq_ok_iff, hu]
      constructor
      · rintro ⟨⟨ret, self₁⟩, s₂, hnext, hrest⟩
        refine Or.inr ⟨u, ret, self₁, s₂, rfl, hnext, ?_⟩
        dsimp only at hrest
        split_ifs at hrest with hneg heq
        · exact Or.inl ⟨hneg, (hok _ _).mp hrest⟩
        · exact Or.inr (Or.inl ⟨Int.not_lt.mp hneg, heq, (hok _ _).mp hrest⟩)
        · exact Or.inr (Or.inr ⟨Int.not_lt.mp hneg, heq, hrest⟩)
      · rintro (⟨h, -⟩ | ⟨s₁, ret, self₁, s₂, hs₁, hnext, hrest⟩)
        · simp at h
        · obtain rfl : u = s₁ := by simpa using hs₁
          refine ⟨(ret, self₁), s₂, hnext, ?_⟩
          dsimp only
          rcases hrest with ⟨hneg, hr, ht⟩ | ⟨hnonneg, heq, hr, ht⟩ | ⟨hnonneg, hne, hrest⟩
          · rw [if_pos hneg, pure_apply, hok]
            exact ⟨hr, ht⟩
          · rw [if_neg (Int.not_lt.mpr hnonneg), if_pos heq, pure_apply, hok]
            exact ⟨hr, ht⟩
          · rw [if_neg (Int.not_lt.mpr hnonneg), if_neg hne]
            exact hrest

end Turn

/-! ## What the wait loop leaves in the trace -/

/-- The events of receiving. -/
def Event.IsReceive : Event W → Prop
  | .read .. => True
  | .readPacket .. => True
  | _ => False

omit [Clock W] in
theorem Event.IsRead.isReceive {e : Event W} (h : e.IsRead) : e.IsReceive := by
  cases e <;> first | exact h.elim | trivial

/-- A wait reads packets and sends nothing but pings. -/
def Event.IsWaitEvent : Event W → Prop
  | .sendPacket _ packet _ _ _ => packet = pingreqPacket
  | .call .. => False
  | _ => True

omit [Clock W] in
theorem Event.IsReceive.isWaitEvent {e : Event W} (h : e.IsReceive) : e.IsWaitEvent := by
  cases e <;> first | exact h.elim | trivial

section Emits

variable {G : Event W → Prop} {P : Platform}

theorem emits_sendWithTimeout (net : Option (Network W)) (timeoutMs : ℕ) (packet : List UInt8)
    (hG : ∀ link before after rc, G (.sendPacket link packet before after rc)) :
    Emits G (sendWithTimeout net timeoutMs packet) := by
  have htimer : Emits G (sendTimer timeoutMs : Prog Stop (Sys W) (Option Timer)) :=
    Emits.ite ((Emits.timerCountdown timeoutMs).bind fun _ ↦ Emits.pure _) (Emits.pure _)
  apply htimer.bind
  intro timer
  cases net with
  | none => exact Emits.stop _
  | some n => exact emits_mqttNetworkSendPacket n packet timer (hG n.link)

theorem emits_sendSerialized {serialize : Serializer} (self : MqttClient W)
    (hG : ∀ packet link before after rc, 0 < (serialize self.sendbuf).1 →
      packet = (serialize self.sendbuf).2.take (serialize self.sendbuf).1.toNat →
        G (.sendPacket link packet before after rc)) :
    Emits G (sendSerialized serialize self) := by
  unfold sendSerialized
  by_cases hle : (serialize self.sendbuf).1 ≤ 0
  · simp only [if_pos hle]
    exact Emits.pure _
  · simp only [if_neg hle]
    refine Emits.bind ?_ fun _ ↦ Emits.pure _
    exact emits_sendWithTimeout _ _ _ fun link before after rc ↦
      hG _ link before after rc (by omega) rfl

theorem emits_sendSerialized_of_serializes {serialize : Serializer}
    {packet : List UInt8} (h : Serializes serialize packet) (self : MqttClient W)
    (hG : ∀ link before after rc, G (.sendPacket link packet before after rc)) :
    Emits G (sendSerialized serialize self) := by
  apply emits_sendSerialized
  rintro packet' link before after rc hpos rfl
  rw [((h self.sendbuf).1 hpos).take]
  exact hG link before after rc

theorem emits_keepAlive (self : MqttClient W) (packetType : ℤ)
    (hping : Emits G (sendPingReq P self)) : Emits G (keepAlive P self packetType) := by
  have hexpired : Emits G (keepAliveExpired self) :=
    Emits.ite (Emits.timerIsExpired _) (Emits.pure _)
  apply hexpired.bind
  intro expired
  apply Emits.ite _ (Emits.pure _)
  apply Emits.ite (Emits.pure _)
  apply hping.bind
  rintro ⟨ret, self'⟩
  exact Emits.ite (Emits.pure _) (Emits.pure _)

theorem emits_sendPingReq_isSend (self : MqttClient W) :
    Emits Event.IsSend (sendPingReq P self) := by
  apply (emits_sendSerialized self fun _ _ _ _ _ _ _ ↦ trivial).bind
  rintro ⟨ret, self'⟩
  exact Emits.ite (Emits.pure _) (Emits.pure _)

theorem emits_sendPingReq (hP : P.paho.SerializesPingreq) (self : MqttClient W) :
    Emits Event.IsWaitEvent (sendPingReq P self) := by
  apply (emits_sendSerialized_of_serializes hP self fun _ _ _ _ ↦ rfl).bind
  rintro ⟨ret, self'⟩
  exact Emits.ite (Emits.pure _) (Emits.pure _)

theorem emits_isTimedOut (timer : Option Timer) :
    Emits G (isTimedOut timer : Prog Stop (Sys W) Bool) := by
  cases timer with
  | none => exact Emits.pure _
  | some timer => exact Emits.timerIsExpired timer

variable (hG : ∀ e : Event W, e.IsReceive → G e)

include hG

theorem emits_receivePacket (self : MqttClient W) (timer : Option Timer) :
    Emits G (receivePacket P self timer) := by
  unfold receivePacket
  cases self.net with
  | none => exact Emits.stop _
  | some n =>
      have hread : Emits G (mqttNetworkReadPacket P.paho n self.readbuf timer) :=
        (emits_mqttNetworkReadPacket P.paho n self.readbuf timer).mono fun e he ↦
          hG e he.isReceive
      have hobserved : Emits G
          (Sys.observed .readPacket (mqttNetworkReadPacket P.paho n self.readbuf timer)) :=
        Emits.observed hread fun _ _ _ ↦ hG _ trivial
      exact hobserved.bind fun _ ↦ Emits.pure _

variable (hping : ∀ self, Emits G (sendPingReq P self))

include hping

theorem emits_waitForNextPacket (self : MqttClient W) (timer : Option Timer) :
    Emits G (waitForNextPacket P self timer) := by
  apply (emits_receivePacket hG self timer).bind
  rintro ⟨ret, self'⟩
  apply Emits.ite (emits_keepAlive _ _ (hping _))
  exact Emits.ite (emits_keepAlive _ _ (hping _)) (emits_keepAlive _ _ (hping _))

theorem emits_waitForSpecificPacket (packetType : ℤ) (timer : Option Timer) (fuel : ℕ)
    (self : MqttClient W) :
    Emits G (waitForSpecificPacket P packetType timer fuel self) := by
  induction fuel generalizing self with
  | zero => exact Emits.stop _
  | succ fuel ih =>
      apply (emits_isTimedOut timer).bind
      intro timedOut
      apply Emits.ite (Emits.pure _)
      apply (emits_waitForNextPacket hG hping self timer).bind
      rintro ⟨ret, self'⟩
      exact Emits.ite (Emits.pure _) (Emits.ite (Emits.pure _) (ih self'))

theorem emits_expectAck (fuel : ℕ) (self : MqttClient W) (ackPacketType : PacketType)
    (data : AckData) (timer : Option Timer) :
    Emits G (expectAck P fuel self ackPacketType data timer) := by
  have hread : Emits G (waitAndReadSpecificAckPacket P fuel self ackPacketType data timer) := by
    apply (emits_waitForSpecificPacket hG hping _ timer fuel self).bind
    rintro ⟨ret, self'⟩
    exact Emits.ite (Emits.pure _) (Emits.pure _)
  apply hread.bind
  rintro ⟨ret, data', self'⟩
  apply Emits.ite (Emits.pure _)
  exact (Emits.debugAssert _ _).bind fun _ ↦ Emits.pure _

theorem emits_checkPublishQos
    (hack : ∀ type dup packetId self, Emits G (sendAck P self type dup packetId)) (fuel : ℕ)
    (self : MqttClient W) (qos : UInt8) (timer : Option Timer) :
    Emits G (checkPublishQos P fuel self qos timer) := by
  apply Emits.ite (Emits.pure _)
  apply Emits.ite
  · exact (emits_expectAck hG hping fuel self _ _ timer).bind fun _ ↦ Emits.pure _
  apply Emits.ite _ (Emits.pure _)
  apply (emits_expectAck hG hping fuel self _ _ timer).bind
  rintro ⟨ret, data, self'⟩
  apply Emits.ite (Emits.pure _)
  apply (hack _ _ _ _).bind
  rintro ⟨ret, self'⟩
  apply Emits.ite (Emits.pure _)
  exact (emits_expectAck hG hping fuel self' _ _ timer).bind fun _ ↦ Emits.pure _

end Emits

/-! ## The packets that a wait has received -/

section Received

variable {P : Platform} {self self' : MqttClient W} {timer : Option Timer} {s t : Sys W}

/-- Only the last event of a packet read is its report. -/
theorem receivePacket_eq_ok {ret : ℤ} (h : receivePacket P self timer s = .ok (ret, self') t) :
    self' = { self with readbuf := self'.readbuf } ∧ ∃ e es,
      t.trace = s.trace ++ e :: es ++
          [.readPacket s.world t.world (some (ret, self'.readbuf))] ∧
        ∀ e' ∈ e :: es, e'.IsRead := by
  unfold receivePacket at h
  cases hnet : self.net with
  | none => simp [hnet, Prog.stop] at h
  | some n =>
      simp only [hnet] at h
      obtain ⟨⟨rc, readbuf⟩, u, hobserved, hrest⟩ := bind_eq_ok_iff.mp h
      obtain ⟨rfl, rfl, rfl⟩ := Outcome.ok_pair_inj hrest
      unfold Sys.observed recorded at hobserved
      cases hread : mqttNetworkReadPacket P.paho n self.readbuf timer s with
      | stop e v => simp [hread] at hobserved
      | ok a v =>
          simp only [hread, Outcome.ok.injEq] at hobserved
          obtain ⟨rfl, rfl⟩ := hobserved
          obtain ⟨e, es, htrace, hes⟩ := mqttNetworkReadPacket_reads hread
          refine ⟨rfl, e, es, ?_, hes⟩
          rw [← htrace]

theorem receivePacket_waited {ret : ℤ} (h : receivePacket P self timer s = .ok (ret, self') t) :
    Waited self self' :=
  ⟨self'.readbuf, self.sendbuf, self.isPingOutstanding, (receivePacket_eq_ok h).1⟩

theorem waitForNextPacket_reads {r : ℤ × MqttClient W}
    (h : waitForNextPacket P self timer s = .ok r t) :
    ∃ e es, t.trace = s.trace ++ e :: es ∧ e.IsRead := by
  obtain ⟨ret, self₁, s₁, hreceive, hends⟩ := waitForNextPacket_eq_ok_iff.mp h
  obtain ⟨-, e, es, htrace, hreads⟩ := receivePacket_eq_ok hreceive
  obtain ⟨es₁, htrace₁, -⟩ :=
    (emits_keepAlive (P := P) _ _ (emits_sendPingReq_isSend _)).ok (keepAlive_eq_ok_iff.mpr hends)
  refine ⟨e, es ++ [.readPacket s.world s₁.world (some (ret, self₁.readbuf))] ++ es₁, ?_,
    hreads e List.mem_cons_self⟩
  rw [htrace₁, htrace]
  simp

theorem waitForNextPacket_of_failed_read {ret : ℤ} {self₁ : MqttClient W} {s₁ : Sys W}
    (hread : receivePacket P self timer s = .ok (ret, self₁) s₁) (hneg : ret < 0)
    {r : ℤ × MqttClient W} :
    waitForNextPacket P self timer s = .ok r t ↔ KeepAliveEnds P (-1) self₁ s₁ r.1 r.2 t := by
  have hnote : noteReceived ret self₁ = self₁ := by
    unfold noteReceived
    rw [if_neg]
    rintro rfl
    exact absurd hneg (by decide)
  rw [waitForNextPacket_eq_ok_iff]
  constructor
  · rintro ⟨ret', self', s', h, hends⟩
    rw [hread] at h
    obtain ⟨rfl, rfl, rfl⟩ := Outcome.ok_pair_inj h
    rwa [hnote, receivedType, if_pos hneg] at hends
  · intro hends
    refine ⟨ret, self₁, s₁, hread, ?_⟩
    rwa [hnote, receivedType, if_pos hneg]

/-- What `MQTT_network_readPacket` reported, with the packet in the buffer. -/
def Event.received : Event W → Option (ℤ × List UInt8)
  | .readPacket _ _ result => result
  | _ => none

/-- The results of the packet reads, in their order. -/
def received (es : List (Event W)) : List (ℤ × List UInt8) := es.filterMap Event.received

omit [Clock W] in
@[simp] theorem received_append (es es' : List (Event W)) :
    received (es ++ es') = received es ++ received es' :=
  List.filterMap_append ..

omit [Clock W] in
theorem received_eq_nil {es : List (Event W)} (h : ∀ e ∈ es, e.received = none) :
    received es = [] :=
  List.filterMap_eq_nil_iff.mpr h

omit [Clock W] in
theorem Event.IsRead.received {e : Event W} (h : e.IsRead) : e.received = none := by
  cases e <;> first | exact h.elim | rfl

omit [Clock W] in
theorem Event.IsSend.received {e : Event W} (h : e.IsSend) : e.received = none := by
  cases e <;> first | exact h.elim | rfl

/-- One turn of the loop receives one packet, and leaves it in the read buffer. -/
theorem KeepAliveEnds.received {rc ret : ℤ} {self₁ : MqttClient W} {s₁ : Sys W}
    (hends : KeepAliveEnds P (receivedType rc) (noteReceived rc self₁) s₁ ret self' t)
    (hreceive : receivePacket P self timer s = .ok (rc, self₁) s₁) :
    ∃ es, t.trace = s.trace ++ es ∧ received es = [(rc, self'.readbuf)] := by
  obtain ⟨-, e, es, htrace, hreads⟩ := receivePacket_eq_ok hreceive
  have hbuf : self'.readbuf = self₁.readbuf :=
    hends.readbuf.1.trans (noteReceived_readbuf rc self₁).1
  obtain ⟨es₁, htrace₁, hsends⟩ :=
    (emits_keepAlive (P := P) _ _ (emits_sendPingReq_isSend _)).ok (keepAlive_eq_ok_iff.mpr hends)
  refine ⟨e :: es ++ [.readPacket s.world s₁.world (some (rc, self₁.readbuf))] ++ es₁, ?_, ?_⟩
  · rw [htrace₁, htrace]
    simp
  · rw [received_append, received_append, received_eq_nil fun e' he' ↦ (hreads e' he').received,
      received_eq_nil fun e' he' ↦ (hsends e' he').received, hbuf]
    rfl

/-- A successful wait ends with the first packet of the awaited type. -/
theorem waitForSpecificPacket_received {packetType : ℤ} (hpos : 0 < packetType) {fuel : ℕ}
    (h : waitForSpecificPacket P packetType timer fuel self s = .ok (mqttSuccess, self') t) :
    ∃ es packets, t.trace = s.trace ++ es ∧
      received es = packets ++ [(packetType, self'.readbuf)] ∧
      ∀ packet ∈ packets, packet.1 ≠ packetType := by
  induction fuel generalizing self s with
  | zero => simp [waitForSpecificPacket, Prog.stop] at h
  | succ fuel ih =>
      rcases waitForSpecificPacket_succ_eq_ok_iff.mp h with ⟨-, hr⟩ | ⟨s₁, ret, self₁, s₂, h⟩
      · exact absurd (Prod.mk.inj hr).1 (by decide)
      obtain ⟨hcheck, hnext, hrest⟩ := h
      obtain ⟨rc, self₂, s₃, hreceive, hends⟩ := waitForNextPacket_eq_ok_iff.mp hnext
      obtain ⟨es, htrace, hreceived⟩ := hends.received hreceive
      rw [isTimedOut_trace hcheck] at htrace
      rcases hrest with ⟨-, hr, -⟩ | ⟨hnonneg, heq, hr, ht⟩ | ⟨hnonneg, hne, hloop⟩
      · exact absurd (Prod.mk.inj hr).1 (by decide)
      · -- this turn has found the packet
        obtain ⟨-, rfl⟩ := Prod.mk.inj hr
        have hsuccess : ret ≠ mqttSuccess := by
          rw [heq]
          exact fun h ↦ absurd (h ▸ hpos) (by decide)
        have htype : rc = packetType := (hends.of_nonneg hsuccess hnonneg).symm.trans heq
        exact ⟨es, [], ht ▸ htrace, by rw [hreceived, htype]; rfl, by simp⟩
      · -- this turn has received something else
        obtain ⟨es', packets, htrace', hreceived', hothers⟩ := ih hloop
        refine ⟨es ++ es', (rc, self₁.readbuf) :: packets, ?_, ?_, ?_⟩
        · rw [htrace', htrace, List.append_assoc]
        · rw [received_append, hreceived, hreceived']
          rfl
        · rintro packet hpacket rfl
          rcases List.mem_cons.mp hpacket with rfl | hpacket
          · have hret : ret = mqttFailure ∨ ret = rc := hends.ret_of_pos hpos
            rcases hret with hret | hret
            · exact absurd hnonneg (by rw [hret]; decide)
            · exact hne hret
          · exact hothers packet hpacket rfl

end Received

/-! ## Runs of the loop -/

/-- The wait returns, with enough turns of its loop. -/
def WaitReturns (P : Platform) (packetType : ℤ) (timer : Option Timer) (self : MqttClient W)
    (s : Sys W) (r : ℤ × MqttClient W) (t : Sys W) : Prop :=
  ∃ fuel, waitForSpecificPacket P packetType timer fuel self s = .ok r t

/-- From the head of the loop some turns lead to its head again. -/
inductive LoopsTo (P : Platform) (packetType : ℤ) (timer : Option Timer) :
    MqttClient W → Sys W → MqttClient W → Sys W → Prop
  | refl (self : MqttClient W) (s : Sys W) : LoopsTo P packetType timer self s self s
  | turn {self self₁ self' : MqttClient W} {s s₁ s₂ s' : Sys W} {ret : ℤ}
      (hcheck : isTimedOut timer s = .ok false s₁)
      (hnext : waitForNextPacket P self timer s₁ = .ok (ret, self₁) s₂) (hnonneg : 0 ≤ ret)
      (hne : ret ≠ packetType) (hrest : LoopsTo P packetType timer self₁ s₂ self' s') :
      LoopsTo P packetType timer self s self' s'

section Runs

variable {P : Platform} {packetType : ℤ} {timer : Option Timer} {self self' self₁ : MqttClient W}
  {s s' s₁ s₂ t : Sys W} {r : ℤ × MqttClient W}

theorem waitReturns_turn_iff {ret : ℤ} (hcheck : isTimedOut timer s = .ok false s₁)
    (hnext : waitForNextPacket P self timer s₁ = .ok (ret, self₁) s₂) :
    WaitReturns P packetType timer self s r t ↔
      ret < 0 ∧ r = (mqttFailure, self₁) ∧ t = s₂ ∨
        0 ≤ ret ∧ ret = packetType ∧ r = (mqttSuccess, self₁) ∧ t = s₂ ∨
        0 ≤ ret ∧ ret ≠ packetType ∧ WaitReturns P packetType timer self₁ s₂ r t := by
  constructor
  · rintro ⟨fuel, h⟩
    cases fuel with
    | zero => simp [waitForSpecificPacket, Prog.stop] at h
    | succ fuel =>
        rcases waitForSpecificPacket_succ_eq_ok_iff.mp h with
          ⟨htrue, -⟩ | ⟨u, ret', self', v, hu, hv, hrest⟩
        · simp [hcheck] at htrue
        · obtain rfl : s₁ = u := by simpa [hcheck] using hu
          rw [hnext] at hv
          obtain ⟨rfl, rfl, rfl⟩ := Outcome.ok_pair_inj hv
          exact hrest.imp_right (Or.imp_right fun h ↦ ⟨h.1, h.2.1, fuel, h.2.2⟩)
  · have hstep : ∀ fuel, _ → waitForSpecificPacket P packetType timer (fuel + 1) self s = .ok r t :=
      fun fuel hrest ↦ waitForSpecificPacket_succ_eq_ok_iff.mpr
        (Or.inr ⟨s₁, ret, self₁, s₂, hcheck, hnext, hrest⟩)
    rintro (h | h | ⟨hnonneg, hne, fuel, hloop⟩)
    · exact ⟨1, hstep 0 (Or.inl h)⟩
    · exact ⟨1, hstep 0 (Or.inr (Or.inl h))⟩
    · exact ⟨fuel + 1, hstep fuel (Or.inr (Or.inr ⟨hnonneg, hne, hloop⟩))⟩

/-- What a wait returns is decided at every head of its loop. -/
theorem LoopsTo.waitReturns_iff (h : LoopsTo P packetType timer self s self' s') :
    WaitReturns P packetType timer self s r t ↔
      WaitReturns P packetType timer self' s' r t := by
  induction h with
  | refl => exact Iff.rfl
  | turn hcheck hnext hnonneg hne hrest ih =>
      rw [waitReturns_turn_iff hcheck hnext, ← ih]
      constructor
      · rintro (⟨hneg, -⟩ | ⟨-, heq, -⟩ | ⟨-, -, h⟩)
        · omega
        · exact absurd heq hne
        · exact h
      · exact fun h ↦ Or.inr (Or.inr ⟨hnonneg, hne, h⟩)

theorem waitForNextPacket_waited (h : waitForNextPacket P self timer s = .ok r t) :
    Waited self r.2 := by
  obtain ⟨ret, self₁, s₁, hreceive, hends⟩ := waitForNextPacket_eq_ok_iff.mp h
  exact ((receivePacket_waited hreceive).trans (noteReceived_readbuf ret self₁).2).trans
    hends.readbuf.2

theorem LoopsTo.waited (h : LoopsTo P packetType timer self s self' s') : Waited self self' := by
  induction h with
  | refl => exact .refl _
  | turn _ hnext _ _ _ ih => exact (waitForNextPacket_waited hnext).trans ih

theorem waitForSpecificPacket_waited {fuel : ℕ}
    (h : waitForSpecificPacket P packetType timer fuel self s = .ok r t) : Waited self r.2 := by
  induction fuel generalizing self s with
  | zero => simp [waitForSpecificPacket, Prog.stop] at h
  | succ fuel ih =>
      rcases waitForSpecificPacket_succ_eq_ok_iff.mp h with ⟨-, rfl⟩ | ⟨s₁, ret, self₁, s₂, h⟩
      · exact .refl _
      obtain ⟨-, hnext, hrest⟩ := h
      have hturn : Waited self self₁ := waitForNextPacket_waited hnext
      rcases hrest with ⟨-, rfl, -⟩ | ⟨-, -, rfl, -⟩ | ⟨-, -, hloop⟩
      · exact hturn
      · exact hturn
      · exact hturn.trans (ih hloop)

/-- Without a keep-alive interval, a wait that fails has not received the packet. -/
theorem waitForSpecificPacket_misses {ret : ℤ} {fuel : ℕ} (hpos : 0 < packetType)
    (hoff : self.keepAliveIntervalMs = 0)
    (h : waitForSpecificPacket P packetType timer fuel self s = .ok (ret, self') t)
    (hret : ret ≠ mqttSuccess) :
    ∃ es, t.trace = s.trace ++ es ∧ ∀ packet ∈ received es, packet.1 ≠ packetType := by
  induction fuel generalizing self s with
  | zero => simp [waitForSpecificPacket, Prog.stop] at h
  | succ fuel ih =>
      rcases waitForSpecificPacket_succ_eq_ok_iff.mp h with
        ⟨hcheck, -⟩ | ⟨s₁, ret₁, self₁, s₂, hcheck, hnext, hrest⟩
      · exact ⟨[], by rw [isTimedOut_trace hcheck, List.append_nil], by simp [received]⟩
      have hoff₁ := (waitForNextPacket_waited hnext).keepAliveIntervalMs.trans hoff
      obtain ⟨rc, self₂, s₃, hreceive, hends⟩ := waitForNextPacket_eq_ok_iff.mp hnext
      obtain ⟨es, htrace, hreceived⟩ := hends.received hreceive
      rw [isTimedOut_trace hcheck] at htrace
      have hother : ret₁ ≠ packetType → ∀ packet ∈ received es, packet.1 ≠ packetType := by
        intro hne packet hpacket htype
        obtain rfl := List.mem_singleton.mp (hreceived ▸ hpacket)
        obtain rfl : rc = packetType := htype
        have hoff₂ := (receivePacket_waited hreceive).keepAliveIntervalMs.trans hoff
        exact hne (hends.ret_of_off hpos hoff₂)
      rcases hrest with ⟨hneg, -, rfl⟩ | ⟨-, -, hr, -⟩ | ⟨-, hne, hloop⟩
      · exact ⟨es, htrace, hother (by omega)⟩
      · exact absurd (Prod.mk.inj hr).1 hret
      · obtain ⟨es', htrace', hothers⟩ := ih hoff₁ hloop
        refine ⟨es ++ es', by rw [htrace', htrace, List.append_assoc], ?_⟩
        rw [received_append]
        intro packet hpacket
        exact (List.mem_append.mp hpacket).elim (hother hne packet) (hothers packet)

end Runs

end DemoIotApp
