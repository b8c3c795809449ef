import DemoIotApp.ClientInvariants
import DemoIotApp.Reference
import DemoIotApp.WaitLoop

/-!
# When the transport dies

The wait loop only ends after a failed read when the keep-alive part finds the
connection dead or when the caller's timer runs out. With neither of them, as
the component calls it, the loop reads a dead transport for ever.
-/

namespace DemoIotApp

open Library Prog

variable {W : Type} [Clock W]

/-! ## Reading on -/

section Runs

variable {P : Platform} {packetType : ℤ} {timer : Option Timer} {self self' self₁ : MqttClient W}
  {s s' s₁ s₂ t : Sys W} {r : ℤ × MqttClient W}

theorem waitForSpecificPacket_extends {fuel : ℕ}
    (h : waitForSpecificPacket P packetType timer fuel self s = .ok r t) :
    Extends (fun _ ↦ True) s t :=
  (emits_waitForSpecificPacket (fun _ _ ↦ trivial)
    (fun self ↦ (emits_sendPingReq_isSend self).mono fun _ _ ↦ trivial)
    packetType timer fuel self).ok h

/-- At the head of the loop the wait ends because the timer has expired, or it
reads on. -/
theorem waitReturns_without_read_iff :
    (∃ r, WaitReturns P packetType timer self s r t ∧ r.1 < 0 ∧
      ∃ es, t.trace = s.trace ++ es ∧ ∀ e ∈ es, ¬e.IsRead) ↔
      ∃ tm, timer = some tm ∧ IsExpired tm s ∧ t = afterClock s := by
  rw [← isTimedOut_eq_true_iff]
  constructor
  · rintro ⟨r, ⟨fuel, h⟩, -, es, htrace, hes⟩
    cases fuel with
    | zero => simp [waitForSpecificPacket, Prog.stop] at h
    | succ fuel =>
        rcases waitForSpecificPacket_succ_eq_ok_iff.mp h with
          ⟨htrue, -⟩ | ⟨s₁, ret, self₁, s₂, hcheck, hnext, hrest⟩
        · exact htrue
        · -- the turn has read, and what it read stays in the trace
          exfalso
          obtain ⟨e, es₁, htrace₁, hread⟩ := waitForNextPacket_reads hnext
          obtain ⟨es₂, htrace₂, -⟩ : Extends (fun _ ↦ True) s₂ t := by
            rcases hrest with ⟨-, -, rfl⟩ | ⟨-, -, -, rfl⟩ | ⟨-, -, hloop⟩
            · exact Extends.refl _ _
            · exact Extends.refl _ _
            · exact waitForSpecificPacket_extends hloop
          refine hes e ?_ hread
          have hall : s.trace ++ es = s.trace ++ (e :: es₁ ++ es₂) := by
            rw [← htrace, htrace₂, htrace₁, isTimedOut_trace hcheck, List.append_assoc]
          rw [List.append_cancel_left hall]
          simp
  · intro htrue
    obtain ⟨b, u, hu, htrace⟩ := isTimedOut_returns timer s
    rw [htrue] at hu
    obtain ⟨-, rfl⟩ := Outcome.ok.inj hu
    refine ⟨(mqttTimeout, self), ⟨1, ?_⟩, mqttTimeout_neg, [], by simp [htrace], by simp⟩
    exact waitForSpecificPacket_succ_eq_ok_iff.mpr (Or.inl ⟨htrue, rfl⟩)

/-! ## Giving up -/

/-- The ping is not sent. -/
def PingFails (P : Platform) (self : MqttClient W) (s : Sys W) : Prop :=
  ∃ self' t, sendPingReq P self s = .ok (mqttFailure, self') t

/-- After a read that brought nothing either the keep-alive interval has passed
and the connection is found dead, or the caller's timer has expired when it is
checked next, and the awaited type is not the code for success. -/
def GivesUp (P : Platform) (packetType : ℤ) (timer : Option Timer) (self : MqttClient W)
    (s : Sys W) : Prop :=
  KeepAliveDue self s ∧ (self.isPingOutstanding = true ∨ PingFails P self (afterClock s)) ∨
    packetType ≠ mqttSuccess ∧ ∃ tm self' s', timer = some tm ∧
      keepAlive P self (-1) s = .ok (mqttSuccess, self') s' ∧ IsExpired tm s'

theorem keepAlive_fails_iff :
    (∃ self' t, KeepAliveEnds P (-1) self s mqttFailure self' t) ↔
      KeepAliveDue self s ∧ (self.isPingOutstanding = true ∨ PingFails P self (afterClock s)) := by
  constructor
  · rintro ⟨self', t, h⟩
    generalize hret : mqttFailure = ret at h
    cases h with
    | notDue => exact absurd hret (by decide)
    | overdue hdue hping => exact ⟨hdue, Or.inl hping⟩
    | pingFailed _ _ hdue _ _ hsend => exact ⟨hdue, Or.inr ⟨_, _, hret ▸ hsend⟩⟩
    | pinged => exact absurd hret (by decide)
  · rintro ⟨hdue, h⟩
    by_cases hping : self.isPingOutstanding = true
    · exact ⟨_, _, .overdue hdue hping⟩
    · obtain ⟨self', t, hsend⟩ := h.resolve_left hping
      exact ⟨_, _, .pingFailed _ _ hdue (by simpa using hping) rfl hsend⟩

/-- A wait that returns has come out of its first turn. -/
theorem WaitReturns.turn (h : WaitReturns P packetType timer self s r t)
    (hcheck : isTimedOut timer s = .ok false s₁) :
    ∃ ret self₁ s₂, waitForNextPacket P self timer s₁ = .ok (ret, self₁) s₂ := by
  obtain ⟨fuel, hwait⟩ := h
  cases fuel with
  | zero => simp [waitForSpecificPacket, Prog.stop] at hwait
  | succ fuel =>
      rcases waitForSpecificPacket_succ_eq_ok_iff.mp hwait with
        ⟨htrue, -⟩ | ⟨u, ret, self₁, s₂, hu, hnext, -⟩
      · simp [hcheck] at htrue
      · obtain rfl : s₁ = u := by simpa [hcheck] using hu
        exact ⟨ret, self₁, s₂, hnext⟩

/-- The end of a run without reads has no reads. -/
theorem WaitReturns.quiet (h : WaitReturns P packetType timer self s r t) {u : Sys W}
    {es es₁ : List (Event W)} (hs : s.trace = u.trace ++ es₁) (ht : t.trace = u.trace ++ es)
    (hes : ∀ e ∈ es, ¬e.IsRead) : ∃ es₂, t.trace = s.trace ++ es₂ ∧ ∀ e ∈ es₂, ¬e.IsRead := by
  obtain ⟨fuel, hwait⟩ := h
  obtain ⟨es₂, htrace₂, -⟩ := waitForSpecificPacket_extends hwait
  have hall : u.trace ++ es = u.trace ++ (es₁ ++ es₂) := by
    rw [← ht, htrace₂, hs, List.append_assoc]
  refine ⟨es₂, htrace₂, fun e he ↦ hes e ?_⟩
  rw [List.append_cancel_left hall]
  exact List.mem_append_right _ he

/-- After a failed packet read, at whatever turn of the loop, the wait returns a
negative code without another network read exactly when it gives up. -/
theorem failed_read_ends_wait_iff {self₀ : MqttClient W} {s₀ : Sys W}
    (hloop : LoopsTo P packetType timer self₀ s₀ self s)
    (hcheck : isTimedOut timer s = .ok false s₁)
    (hread : receivePacket P self timer s₁ = .ok (mqttFailure, self₁) s₂) :
    (∃ r t, WaitReturns P packetType timer self₀ s₀ r t ∧ r.1 < 0 ∧
      ∃ es, t.trace = s₂.trace ++ es ∧ ∀ e ∈ es, ¬e.IsRead) ↔
      GivesUp P packetType timer self₁ s₂ := by
  simp only [hloop.waitReturns_iff]
  have hnext : ∀ {r t}, waitForNextPacket P self timer s₁ = .ok r t ↔
      KeepAliveEnds P (-1) self₁ s₂ r.1 r.2 t :=
    waitForNextPacket_of_failed_read hread mqttFailure_neg
  have hsends : ∀ {ret self' t}, KeepAliveEnds P (-1) self₁ s₂ ret self' t →
      ∃ es, t.trace = s₂.trace ++ es ∧ ∀ e ∈ es, ¬e.IsRead := by
    intro ret self' t hends
    obtain ⟨es, htrace, hes⟩ := (emits_keepAlive (P := P) self₁ (-1)
      (emits_sendPingReq_isSend self₁)).ok (keepAlive_eq_ok_iff.mpr hends)
    exact ⟨es, htrace, fun e he ↦ (hes e he).not_isRead⟩
  constructor
  · rintro ⟨r, t, hwait, hneg, es, htrace, hes⟩
    obtain ⟨ret, self₂, s₃, hturn⟩ := hwait.turn hcheck
    have hends : KeepAliveEnds P (-1) self₁ s₂ ret self₂ s₃ := hnext.mp hturn
    rcases (waitReturns_turn_iff hcheck hturn).mp hwait with
      ⟨hret, -, -⟩ | ⟨-, -, rfl, -⟩ | ⟨hret, hne, hrest⟩
    · left
      rw [← keepAlive_fails_iff]
      rcases hends.ret_cases with h | h
      · exact ⟨self₂, s₃, h ▸ hends⟩
      · rw [if_pos rfl] at h
        exact absurd hret (by rw [h]; decide)
    · exact absurd hneg (Int.lt_irrefl 0)
    · right
      have hzero : ret = mqttSuccess := by
        rcases hends.ret_cases with h | h
        · exact absurd hret (by rw [h]; decide)
        · exact h
      subst hzero
      obtain ⟨es₁, htrace₁, -⟩ := hsends hends
      obtain ⟨tm, htm, hexp, -⟩ := waitReturns_without_read_iff.mp
        ⟨r, hrest, hneg, hrest.quiet htrace₁ htrace hes⟩
      exact ⟨fun h ↦ hne h.symm, tm, self₂, s₃, htm, keepAlive_eq_ok_iff.mpr hends, hexp⟩
  · rintro (hfails | ⟨hne, tm, self₂, s₃, rfl, hkeep, hexp⟩)
    · obtain ⟨self₂, s₃, hends⟩ := keepAlive_fails_iff.mpr hfails
      refine ⟨(mqttFailure, self₂), s₃, ?_, mqttFailure_neg, hsends hends⟩
      exact (waitReturns_turn_iff hcheck (hnext.mpr hends)).mpr
        (Or.inl ⟨mqttFailure_neg, rfl, rfl⟩)
    · have hends := keepAlive_eq_ok_iff.mp hkeep
      obtain ⟨es, htrace, hes⟩ := hsends hends
      refine ⟨(mqttTimeout, self₂), afterClock s₃, ?_, mqttTimeout_neg, es, htrace, hes⟩
      refine (waitReturns_turn_iff hcheck (hnext.mpr hends)).mpr
        (Or.inr (Or.inr ⟨Int.le_refl 0, fun h ↦ hne h.symm, 1, ?_⟩))
      exact waitForSpecificPacket_succ_eq_ok_iff.mpr
        (Or.inl ⟨isTimedOut_eq_true_iff.mpr ⟨tm, rfl, hexp, rfl⟩, rfl⟩)

end Runs

/-! ## Without a limit -/

/-- From the states in `I` on every read without a time limit fails hard. -/
structure DeadNetwork (n : Network W) (I : W → Prop) : Prop where
  isSome : n.mqttread.isSome
  read : ∀ mqttread buffer, n.mqttread = some mqttread → buffer ≠ [] →
    Keeps I (fun _ _ ↦ False) (fun r ↦ r.1 = mqttFailure ∧ r.2.length = buffer.length)
      (mqttread buffer (-1))

namespace DeadNetwork

variable {n : Network W} {I : W → Prop}

theorem mqttNetworkRead (h : DeadNetwork n I) {buffer : List UInt8} (hbuffer : buffer ≠ []) :
    Keeps (fun s ↦ I s.world) (fun _ _ ↦ False)
      (fun r ↦ r.1 = mqttFailure ∧ r.2.length = buffer.length)
      (DemoIotApp.mqttNetworkRead n buffer none) := by
  obtain ⟨mqttread, hread⟩ := Option.isSome_iff_exists.mp h.isSome
  intro s hs
  unfold DemoIotApp.mqttNetworkRead
  rw [Sys.post_observed, hread]
  show Post (Sys.onWorld (mqttread buffer (-1))) s _ _
  rw [Sys.post_onWorld]
  exact h.read mqttread buffer hread hbuffer s.world hs

theorem mqttNetworkReadPacket (h : DeadNetwork n I) (P : Paho) {buffer : List UInt8}
    (hbuffer : buffer ≠ []) :
    Keeps (fun s ↦ I s.world) (fun _ _ ↦ False)
      (fun r ↦ r.1 = mqttFailure ∧ r.2.length = buffer.length)
      (DemoIotApp.mqttNetworkReadPacket P n buffer none) := by
  have hpos : 0 < buffer.length := List.length_pos_iff.mpr hbuffer
  have hpart : (buffer.drop 0).take 1 ≠ [] := by
    apply List.ne_nil_of_length_pos
    simp only [List.length_take, List.length_drop]
    omega
  have hinto : Keeps (fun s ↦ I s.world) (fun _ _ ↦ False)
      (fun r ↦ r.1 = mqttFailure ∧ r.2.length = buffer.length) (readInto n buffer 0 1 none) := by
    unfold readInto
    rw [if_pos (by omega)]
    apply (h.mqttNetworkRead hpart).bind
    rintro ⟨rc, bytes⟩ ⟨hrc, hlen⟩
    refine keeps_pure ⟨hrc, ?_⟩
    simp only [List.length_append, List.length_take, List.length_drop] at hlen ⊢
    omega
  apply hinto.bind
  rintro ⟨rc, buffer'⟩ ⟨hrc, hlen⟩
  exact keeps_ite (fun _ ↦ keeps_pure ⟨hrc, hlen⟩) fun heq ↦
    absurd (hrc.symm.trans (not_not.mp heq)) (by decide)

/-- Without a keep-alive interval the failed read is reported as success. -/
theorem waitForNextPacket (h : DeadNetwork n I) (P : Platform) {size sendSize : ℕ}
    (hsize : 0 < size) {connected : Bool} {self : MqttClient W}
    (hself : Setup n size sendSize 0 connected self) :
    Keeps (fun s ↦ I s.world) (fun _ _ ↦ False)
      (fun r ↦ r.1 = mqttSuccess ∧ Setup n size sendSize 0 connected r.2)
      (DemoIotApp.waitForNextPacket P self none) := by
  have hbuf : self.readbuf ≠ [] := List.ne_nil_of_length_pos (by rw [hself.readbuf]; exact hsize)
  have hreceive : Keeps (fun s ↦ I s.world) (fun _ _ ↦ False)
      (fun r ↦ r.1 = mqttFailure ∧ Setup n size sendSize 0 connected r.2)
      (receivePacket P self none) := by
    unfold receivePacket
    simp only [hself.net]
    have hobserved : Keeps (fun s ↦ I s.world) (fun _ _ ↦ False)
        (fun r ↦ r.1 = mqttFailure ∧ r.2.length = self.readbuf.length)
        (Sys.observed .readPacket
          (DemoIotApp.mqttNetworkReadPacket P.paho n self.readbuf none)) := by
      intro s hs
      rw [Sys.post_observed]
      exact h.mqttNetworkReadPacket P.paho hbuf s hs
    apply hobserved.bind
    rintro ⟨ret, readbuf⟩ ⟨hret, hlen⟩
    exact keeps_pure ⟨hret, rfl, hlen.trans hself.readbuf, hself.sendbuf,
      hself.keepAliveIntervalMs, hself.isConnected⟩
  apply hreceive.bind
  rintro ⟨ret, self'⟩ ⟨hret, hself'⟩
  refine keeps_ite (fun _ ↦ ?_) fun hneg ↦ absurd mqttFailure_neg (hret ▸ hneg)
  unfold keepAlive keepAliveExpired
  rw [if_neg (not_not.mpr hself'.keepAliveIntervalMs)]
  exact keeps_pure ⟨rfl, hself'⟩

/-- With neither a timer nor a keep-alive interval the wait never returns. -/
theorem waitForSpecificPacket (h : DeadNetwork n I) (P : Platform) {size sendSize : ℕ}
    (hsize : 0 < size) {packetType : ℤ} (htype : packetType ≠ mqttSuccess) {connected : Bool}
    (fuel : ℕ) {self : MqttClient W} (hself : Setup n size sendSize 0 connected self) :
    Keeps (fun s ↦ I s.world) (fun e _ ↦ e = .unfinished) (fun _ ↦ False)
      (DemoIotApp.waitForSpecificPacket P packetType none fuel self) := by
  induction fuel generalizing self with
  | zero => exact keeps_stop fun _ _ ↦ rfl
  | succ fuel ih =>
      have hnext : Keeps (fun s ↦ I s.world) (fun e _ ↦ e = .unfinished)
          (fun r ↦ r.1 = mqttSuccess ∧ Setup n size sendSize 0 connected r.2)
          (DemoIotApp.waitForNextPacket P self none) :=
        fun s hs ↦ (h.waitForNextPacket P hsize hself s hs).mono (fun _ _ hr ↦ hr)
          fun _ _ he ↦ he.elim
      have hcheck : Keeps (fun s ↦ I s.world) (fun e _ ↦ e = .unfinished) (fun b ↦ b = false)
          (isTimedOut none : Prog Stop (Sys W) Bool) :=
        keeps_pure rfl
      apply hcheck.bind
      rintro _ rfl
      apply hnext.bind
      rintro ⟨ret, self'⟩ ⟨hret, hself'⟩
      obtain rfl : ret = mqttSuccess := hret
      refine keeps_ite (fun hneg ↦ absurd hneg (by decide)) fun _ ↦ ?_
      exact keeps_ite (fun heq ↦ absurd heq.symm htype) fun _ ↦ ih hself'

end DeadNetwork

/-! ## A TLS connection that has failed -/

/-- Every `OS_Tls_read` fails, and everything else succeeds. -/
def World.dead : World := ⟨{ Answers.steady with tlsRead := fun _ ↦ .error (-1) }, 0, [], [], false⟩

theorem deadNetwork_netWan :
    DeadNetwork (netWan 4) fun w ↦ w.answers = World.dead.answers where
  isSome := rfl
  read := by
    rintro mqttread buffer h hbuffer ⟨answers, calls, rx, wire, token⟩ hw
    obtain rfl := Option.some.inj h
    obtain rfl : answers = World.dead.answers := hw
    have hlen : buffer.length ≠ 0 := fun h ↦ hbuffer (List.length_eq_zero_iff.mp h)
    have hrun : ∀ fuel w, w.answers = World.dead.answers →
        Post (readRemaining 1 (-1) (fuel + 1) [] buffer.length) w
          (fun r w' ↦ (r.1 = mqttFailure ∧ r.2.length = buffer.length) ∧
            w'.answers = World.dead.answers) fun _ _ ↦ False := by
      rintro fuel ⟨answers, calls, rx, wire, token⟩ hw
      obtain rfl : answers = World.dead.answers := hw
      have hok : readRemaining 1 (-1) (fuel + 1) [] buffer.length
          ⟨World.dead.answers, calls, rx, wire, token⟩ =
            .ok (mqttFailure, [] ++ List.replicate buffer.length 0)
              ⟨World.dead.answers, calls + 2, rx, wire, token⟩ := by
        have htime : glueTlsMqttGetTimeMs ⟨World.dead.answers, calls, rx, wire, token⟩ =
            .ok 1 ⟨World.dead.answers, calls + 1, rx, wire, token⟩ := rfl
        have hwithin : withinTimeout 1 1 (-1) = true := by decide
        unfold readRemaining
        rw [if_neg hlen, bind_eq_of_ok htime, if_neg (by simp [hwithin])]
        rfl
      rw [post_of_ok hok]
      exact ⟨⟨rfl, by simp⟩, rfl⟩
    exact hrun 3 _ rfl

/-- The same connection under a clock that goes on. -/
def World.dying : World :=
  ⟨{ World.dead.answers with timerNow := fun k ↦ k }, 0, [], [], false⟩

/-- With a timer that runs out the failed read ends the wait. -/
theorem failed_read_ends_wait_with_timer :
    ∃ self₁ s₂, receivePacket (Platform.reference false) smallClient (some ⟨3⟩)
        (afterClock ⟨World.dying, []⟩) = .ok (mqttFailure, self₁) s₂ ∧
      ∃ r t, WaitReturns (Platform.reference false) PacketType.connack.code (some ⟨3⟩) smallClient
          ⟨World.dying, []⟩ r t ∧ r.1 < 0 ∧
        ∃ es, t.trace = s₂.trace ++ es ∧ ∀ e ∈ es, ¬e.IsRead :=
  ⟨_, _, rfl, (failed_read_ends_wait_iff (.refl smallClient ⟨World.dying, []⟩) rfl rfl).mpr
    (Or.inr ⟨by decide, ⟨3⟩, _, _, rfl, rfl, by decide⟩)⟩

/-- The read of the component's own settings: no timer and no keep-alive. The
read has failed hard, and yet no number of turns ends the wait. -/
theorem failed_read_never_ends_wait :
    (∃ self s, receivePacket (Platform.reference false) smallClient none ⟨World.dead, []⟩ =
      .ok (mqttFailure, self) s) ∧
    ∀ r t, ¬WaitReturns (Platform.reference false) PacketType.connack.code none smallClient
      ⟨World.dead, []⟩ r t := by
  refine ⟨⟨_, _, rfl⟩, ?_⟩
  rintro r t ⟨fuel, h⟩
  have hself : Setup (netWan 4) 5 5 0 false smallClient := ⟨rfl, rfl, rfl, rfl, rfl⟩
  have hnever := deadNetwork_netWan.waitForSpecificPacket (Platform.reference false)
    (by decide) (show (PacketType.connack.code : ℤ) ≠ mqttSuccess by decide) fuel hself
  exact ((hnever ⟨World.dead, []⟩ rfl).ok h).1

end DemoIotApp
