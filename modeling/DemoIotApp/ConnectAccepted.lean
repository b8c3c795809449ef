import DemoIotApp.AckMatching
import DemoIotApp.Reachability

/-!
# The answer to the CONNECT

The library takes the return code out of the CONNACK, and nobody looks at it.
A refused connection is therefore opened like an accepted one, unless the wait
for the CONNACK or the library has failed before.
-/

namespace DemoIotApp

open Library Prog

variable {W : Type}

/-! ## Accepted and refused -/

/-- A well-formed CONNACK with that return code. -/
def IsConnack (rc : UInt8) (buffer : List UInt8) : Prop :=
  ∃ header flags rest, headerType header = PacketType.connack.code ∧
    buffer = header :: 2 :: flags :: rc :: rest

theorem IsConnack.rc_eq {rc rc' : UInt8} {buffer : List UInt8} (h : IsConnack rc buffer)
    (h' : IsConnack rc' buffer) : rc = rc' := by
  obtain ⟨_, _, _, -, rfl⟩ := h
  obtain ⟨_, _, _, -, heq⟩ := h'
  simp only [List.cons.injEq] at heq
  exact heq.2.2.2.1

theorem IsConnack.deserialize {P : Paho} (hP : P.DeserializesConnack) {rc : UInt8}
    {buffer : List UInt8} (h : IsConnack rc buffer) (old : ConnackData) :
    (P.deserializeConnack buffer old).1 = 1 := by
  obtain ⟨header, flags, rest, hheader, rfl⟩ := h
  rw [hP header flags rc rest old hheader]

/-- The first CONNACK that was received accepts the connection. -/
def Accepted (es : List (Event W)) : Prop :=
  ∃ buffer, firstOf .connack (received es) = some buffer ∧ IsConnack 0 buffer

/-- The first CONNACK that was received refuses the connection. -/
def Refused (es : List (Event W)) : Prop :=
  ∃ buffer rc, firstOf .connack (received es) = some buffer ∧ rc ≠ 0 ∧ IsConnack rc buffer

/-- The CONNACK accepts the connection, or the library cannot read it. -/
def Harmless (P : Platform) (buffer : List UInt8) : Prop :=
  IsConnack 0 buffer ∨ (P.paho.deserializeConnack buffer ⟨0, 0⟩).1 ≠ 1

section Wait

variable [Clock W] {P : Platform} {timer : Option Timer} {self self' : MqttClient W} {s t : Sys W}
  {es : List (Event W)} {buffer : List UInt8}

/-! ## The wait for the CONNACK -/

/-- A turn of the wait receives the CONNACK while the answer to a ping is overdue. -/
def ConnackOverdue (P : Platform) (timer : Option Timer) (self : MqttClient W) (s : Sys W) :
    Prop :=
  ∃ self₁ s₁ s₂ self₂ s₃, LoopsTo P PacketType.connack.code timer self s self₁ s₁ ∧
    isTimedOut timer s₁ = .ok false s₂ ∧
      receivePacket P self₁ timer s₂ = .ok ((PacketType.connack.code : ℤ), self₂) s₃ ∧
        KeepAliveDue self₂ s₃ ∧ self₂.isPingOutstanding = true

/-- Such a wait fails, whatever the CONNACK says. -/
theorem ConnackOverdue.waitReturns (h : ConnackOverdue P timer self s) {r : ℤ × MqttClient W}
    (hr : WaitReturns P PacketType.connack.code timer self s r t) : r.1 = mqttFailure := by
  obtain ⟨self₁, s₁, s₂, self₂, s₃, hloop, hcheck, hreceive, hdue, hping⟩ := h
  have hnext : waitForNextPacket P self₁ timer s₂ = .ok (mqttFailure, self₂) (afterClock s₃) :=
    waitForNextPacket_eq_ok_iff.mpr ⟨_, _, _, hreceive, .overdue hdue hping⟩
  rcases (waitReturns_turn_iff hcheck hnext).mp (hloop.waitReturns_iff.mp hr) with
    ⟨-, rfl, -⟩ | ⟨hneg, -⟩ | ⟨hneg, -⟩
  · rfl
  · exact absurd hneg (by decide)
  · exact absurd hneg (by decide)

/-- With a packet in the buffer the keep-alive part only fails on an overdue ping. -/
theorem KeepAliveEnds.overdue_of_failure {packetType : ℤ} (hpos : 0 < packetType)
    (h : KeepAliveEnds P packetType self s mqttFailure self' t) :
    KeepAliveDue self s ∧ self.isPingOutstanding = true := by
  have hne : ¬mqttFailure = if packetType = -1 then mqttSuccess else packetType := by
    rw [if_neg (by omega)]
    exact fun heq ↦ absurd (heq ▸ hpos) (by decide)
  generalize hret : mqttFailure = ret at h hne
  cases h with
  | notDue => exact absurd rfl hne
  | overdue hdue hping => exact ⟨hdue, hping⟩
  | pingFailed _ _ _ _ htype => omega
  | pinged => exact absurd rfl hne

omit [Clock W] in
theorem firstOf_cons (type : PacketType) (packet : ℤ × List UInt8)
    (packets : List (ℤ × List UInt8)) :
    firstOf type (packet :: packets) =
      if packet.1 = type.code then some packet.2 else firstOf type packets := by
  unfold firstOf
  by_cases h : packet.1 = (type.code : ℤ)
  · simp [h]
  · simp [h]

/-- The wait ends with the first CONNACK: successfully, unless it is overdue. -/
theorem waitForSpecificPacket_first {fuel : ℕ} {ret : ℤ}
    (h : waitForSpecificPacket P PacketType.connack.code timer fuel self s = .ok (ret, self') t)
    (htrace : t.trace = s.trace ++ es)
    (hfirst : firstOf .connack (received es) = some buffer) :
    ret = mqttSuccess ∧ self'.readbuf = buffer ∨ ConnackOverdue P timer self s := by
  have hpos : (0 : ℤ) < PacketType.connack.code := by decide
  induction fuel generalizing self s es with
  | zero => simp [waitForSpecificPacket, Prog.stop] at h
  | succ fuel ih =>
      rcases waitForSpecificPacket_succ_eq_ok_iff.mp h with
        ⟨hcheck, -⟩ | ⟨s₁, ret₁, self₁, s₂, hcheck, hnext, hrest⟩
      · rw [isTimedOut_trace hcheck, List.self_eq_append_right] at htrace
        simp [htrace, received, firstOf] at hfirst
      obtain ⟨rc, self₂, s₃, hreceive, hends⟩ := waitForNextPacket_eq_ok_iff.mp hnext
      obtain ⟨es₁, htrace₁, hreceived⟩ := hends.received hreceive
      rw [isTimedOut_trace hcheck] at htrace₁
      dsimp only at hends hreceived
      by_cases hrc : rc = PacketType.connack.code
      · -- this turn has received the CONNACK
        subst hrc
        rcases hends.ret_of_pos hpos with rfl | rfl
        · obtain ⟨hdue, hping⟩ := hends.overdue_of_failure (by decide)
          exact Or.inr ⟨self, s, s₁, self₂, s₃, .refl self s, hcheck, hreceive, hdue, hping⟩
        · rcases hrest with ⟨hneg, -⟩ | ⟨-, -, hr, rfl⟩ | ⟨-, hne, -⟩
          · exact absurd hneg (by decide)
          · obtain ⟨rfl, rfl⟩ := Prod.mk.inj hr
            obtain rfl : es = es₁ := List.append_cancel_left (htrace.symm.trans htrace₁)
            rw [hreceived, firstOf_cons, if_pos rfl] at hfirst
            exact Or.inl ⟨rfl, Option.some.inj hfirst⟩
          · exact absurd rfl hne
      · -- what this turn has received is ignored
        rcases hrest with ⟨-, -, rfl⟩ | ⟨hnonneg, rfl, -, -⟩ | ⟨hnonneg, hne, hloop⟩
        · obtain rfl : es = es₁ := List.append_cancel_left (htrace.symm.trans htrace₁)
          rw [hreceived, firstOf_cons, if_neg hrc] at hfirst
          simp [firstOf] at hfirst
        · exact absurd (hends.of_nonneg (by decide) hnonneg).symm hrc
        · obtain ⟨es₂, htrace₂, -⟩ := (emits_waitForSpecificPacket (P := P) (G := fun _ ↦ True)
            (fun _ _ ↦ trivial)
            (fun self ↦ (emits_sendPingReq_isSend self).mono fun _ _ ↦ trivial)
            PacketType.connack.code timer fuel self₁).ok hloop
          obtain rfl : es = es₁ ++ es₂ := by
            apply List.append_cancel_left (htrace.symm.trans _)
            rw [htrace₂, htrace₁, List.append_assoc]
          rw [received_append, hreceived, List.singleton_append, firstOf_cons, if_neg hrc] at hfirst
          refine (ih hloop htrace₂ hfirst).imp_right ?_
          rintro ⟨self₃, s₄, s₅, self₄, s₆, hloops, hturn⟩
          exact ⟨self₃, s₄, s₅, self₄, s₆, .turn hcheck hnext hnonneg hne hloops, hturn⟩

/-! ## One connect -/

/-- The client and the state after the CONNECT was sent. -/
def ConnectSent (P : Platform) (self : MqttClient W) (options : ConnectData) (s : Sys W)
    (self' : MqttClient W) (t : Sys W) : Prop :=
  sendConnect P { self with
      keepAliveIntervalMs := options.keepAliveInterval
      timerLastSend := ⟨(Clock.now s.world).1 + options.keepAliveInterval⟩ } options
    (afterClock s) = .ok (mqttSuccess, self') t

/-- The CONNECT is sent and the CONNACK comes while the answer to a ping is overdue. -/
def AnswerOverdue (P : Platform) (self : MqttClient W) (options : ConnectData)
    (timer : Option Timer) (s : Sys W) : Prop :=
  ∃ self' t, ConnectSent P self options s self' t ∧ ConnackOverdue P timer self' t

theorem not_answerOverdue {options : ConnectData} (hoptions : options.keepAliveInterval = 0) :
    ¬AnswerOverdue P self options timer s := by
  rintro ⟨self', t, hsent, self₁, s₁, s₂, self₂, s₃, hloop, -, hreceive, ⟨hinterval, -⟩, -⟩
  obtain ⟨-, rfl⟩ := sendSerialized_eq_ok hsent
  obtain ⟨_, _, _, rfl⟩ := hloop.waited
  obtain ⟨_, _, _, rfl⟩ := receivePacket_waited hreceive
  exact hinterval hoptions

/-- A wait for the CONNACK succeeds on the first one, and it fails when there was
none or it is overdue. -/
theorem awaitConnack_eq_ok {fuel : ℕ} {options : ConnectData} {ret : ℤ}
    (h : awaitConnack P fuel self options timer s = .ok (ret, self') t)
    (htrace : t.trace = s.trace ++ es) :
    self'.isConnected = self.isConnected ∧
      (ret = mqttSuccess ∧ firstOf .connack (received es) = some self'.readbuf ∧
          ¬AnswerOverdue P self options timer s ∨
        ret = mqttFailure ∧ ∀ buffer, firstOf .connack (received es) = some buffer →
          AnswerOverdue P self options timer s) := by
  have hcountdown : timerCountdown options.keepAliveInterval s =
      .ok ⟨(Clock.now s.world).1 + options.keepAliveInterval⟩ (afterClock s) := rfl
  rw [awaitConnack, bind_eq_of_ok hcountdown] at h
  obtain ⟨⟨rc, self₁⟩, s₁, hsent, hrest⟩ := bind_eq_ok_iff.mp h
  obtain ⟨es₀, htrace₀, hes₀⟩ : Extends Event.IsSend (afterClock s) s₁ :=
    (emits_sendSerialized _ fun _ _ _ _ _ _ _ ↦ trivial).ok hsent
  have hconnected : self₁.isConnected = self.isConnected := by
    obtain ⟨-, rfl⟩ := sendSerialized_eq_ok hsent
    rfl
  have hes₀ : received es₀ = [] := received_eq_nil fun e he ↦ (hes₀ e he).received
  dsimp only at hrest
  by_cases hrc : rc ≠ mqttSuccess
  · rw [if_pos hrc] at hrest
    obtain ⟨rfl, rfl, rfl⟩ := Outcome.ok_pair_inj hrest
    obtain rfl : es = es₀ := List.append_cancel_left (htrace.symm.trans htrace₀)
    refine ⟨hconnected, Or.inr ⟨rfl, fun buffer hfirst ↦ ?_⟩⟩
    simp [hes₀, firstOf] at hfirst
  rw [if_neg hrc] at hrest
  obtain rfl : rc = mqttSuccess := not_not.mp hrc
  obtain ⟨⟨rc, self₂⟩, s₂, hwait, hrest⟩ := bind_eq_ok_iff.mp hrest
  obtain ⟨rfl, rfl, rfl⟩ := Outcome.ok_pair_inj hrest
  obtain ⟨es₁, htrace₁, -⟩ := (emits_waitForSpecificPacket (P := P) (G := fun _ ↦ True)
    (fun _ _ ↦ trivial)
    (fun self ↦ (emits_sendPingReq_isSend self).mono fun _ _ ↦ trivial)
    PacketType.connack.code timer fuel self₁).ok hwait
  obtain rfl : es = es₀ ++ es₁ := by
    apply List.append_cancel_left (htrace.symm.trans _)
    rw [htrace₁, htrace₀, afterClock_trace, List.append_assoc]
  have hwaited : self₂.isConnected = self₁.isConnected :=
    (waitForSpecificPacket_waited hwait).isConnected
  rw [received_append, hes₀, List.nil_append]
  refine ⟨hwaited.trans hconnected, ?_⟩
  by_cases hrc : rc = mqttSuccess
  · subst hrc
    obtain ⟨es₂, packets, htrace₂, hreceived, hothers⟩ :=
      waitForSpecificPacket_received (by decide) hwait
    obtain rfl : es₁ = es₂ := List.append_cancel_left (htrace₁.symm.trans htrace₂)
    refine Or.inl ⟨rfl, by rw [hreceived, firstOf_eq_some hothers], ?_⟩
    rintro ⟨self₃, s₃, hsent₃, hoverdue⟩
    obtain ⟨-, rfl, rfl⟩ := Outcome.ok_pair_inj (hsent.symm.trans hsent₃)
    have hfailed : mqttSuccess = mqttFailure := hoverdue.waitReturns ⟨fuel, hwait⟩
    exact absurd hfailed (by decide)
  · refine Or.inr ⟨if_pos hrc, fun buffer hfirst ↦ ?_⟩
    exact ⟨self₁, s₁, hsent,
      (waitForSpecificPacket_first hwait htrace₁ hfirst).resolve_left fun h ↦ hrc h.1⟩

/-- A connect succeeds on the first CONNACK if the library can read it, and it
fails when there was none, it is overdue or it cannot be read. -/
theorem mqttClientConnect_eq_ok {fuel : ℕ} {options : Option ConnectData}
    {data data' : ConnackData} {ret : ℤ}
    (h : mqttClientConnect P fuel self options data timer s = .ok (ret, data', self') t)
    (htrace : t.trace = s.trace ++ es) :
    (ret = mqttSuccess ∧ self'.isConnected = true ∧
      ∃ buffer, firstOf .connack (received es) = some buffer ∧
        (P.paho.deserializeConnack buffer ⟨0, 0⟩).1 = 1 ∧
          ¬AnswerOverdue P self (options.getD .initializer) timer s) ∨
    (ret = mqttFailure ∧ self'.isConnected = self.isConnected ∧
      ∀ buffer, firstOf .connack (received es) = some buffer → self.isConnected = false ∧
        ((P.paho.deserializeConnack buffer ⟨0, 0⟩).1 ≠ 1 ∨
          AnswerOverdue P self (options.getD .initializer) timer s)) := by
  unfold mqttClientConnect at h
  by_cases hconnected : self.isConnected = true
  · rw [if_pos hconnected] at h
    obtain ⟨rfl, hr', rfl⟩ := Outcome.ok_pair_inj h
    obtain ⟨-, rfl⟩ := Prod.mk.inj hr'
    rw [List.self_eq_append_right] at htrace
    refine Or.inr ⟨rfl, rfl, fun buffer hfirst ↦ ?_⟩
    simp [htrace, received, firstOf] at hfirst
  rw [if_neg hconnected] at h
  obtain ⟨⟨rc, self₁⟩, s₁, hawait, hrest⟩ := bind_eq_ok_iff.mp h
  have hfalse : self.isConnected = false := by simpa using hconnected
  by_cases hrc : rc ≠ mqttSuccess
  · simp only [if_pos hrc] at hrest
    obtain ⟨rfl, hr', rfl⟩ := Outcome.ok_pair_inj hrest
    obtain ⟨-, rfl⟩ := Prod.mk.inj hr'
    obtain ⟨hkept, ⟨rfl, -⟩ | ⟨-, hoverdue⟩⟩ := awaitConnack_eq_ok hawait htrace
    · exact absurd rfl hrc
    · exact Or.inr ⟨rfl, hkept, fun buffer hfirst ↦ ⟨hfalse, Or.inr (hoverdue buffer hfirst)⟩⟩
  simp only [if_neg hrc] at hrest
  obtain rfl : rc = mqttSuccess := not_not.mp hrc
  by_cases hread : (P.paho.deserializeConnack self₁.readbuf ⟨0, 0⟩).1 ≠ 1
  · rw [if_pos hread] at hrest
    obtain ⟨rfl, hr', rfl⟩ := Outcome.ok_pair_inj hrest
    obtain ⟨-, rfl⟩ := Prod.mk.inj hr'
    obtain ⟨hkept, ⟨-, hfirst, -⟩ | ⟨hfailed, -⟩⟩ := awaitConnack_eq_ok hawait htrace
    · refine Or.inr ⟨rfl, hkept, fun buffer hbuffer ↦ ⟨hfalse, Or.inl ?_⟩⟩
      exact Option.some.inj (hfirst.symm.trans hbuffer) ▸ hread
    · exact absurd hfailed (by decide)
  · rw [if_neg hread] at hrest
    obtain ⟨rfl, hr', rfl⟩ := Outcome.ok_pair_inj hrest
    obtain ⟨-, rfl⟩ := Prod.mk.inj hr'
    obtain ⟨-, ⟨-, hfirst, hoverdue⟩ | ⟨hfailed, -⟩⟩ := awaitConnack_eq_ok hawait htrace
    · exact Or.inl ⟨rfl, rfl, self₁.readbuf, hfirst, not_not.mp hread, hoverdue⟩
    · exact absurd hfailed (by decide)

theorem emits_mqttClientConnect (P : Platform) (fuel : ℕ) (self : MqttClient W)
    (options : Option ConnectData) (data : ConnackData) (timer : Option Timer) :
    Emits (fun e ↦ e.IsReceive ∨ e.IsSend)
      (mqttClientConnect P fuel self options data timer) := by
  have hawait : ∀ options, Emits (fun e ↦ e.IsReceive ∨ e.IsSend)
      (awaitConnack P fuel self options timer) := by
    intro options
    apply (Emits.timerCountdown _).bind
    intro timerLastSend
    apply (emits_sendSerialized _ fun _ _ _ _ _ _ _ ↦ Or.inr trivial).bind
    rintro ⟨ret, self₁⟩
    apply Emits.ite (Emits.pure _)
    exact (emits_waitForSpecificPacket (fun _ he ↦ Or.inl he)
      (fun self ↦ (emits_sendPingReq_isSend self).mono fun _ he ↦ Or.inr he)
      _ timer fuel self₁).bind fun _ ↦ Emits.pure _
  apply Emits.ite (Emits.pure _)
  apply (hawait _).bind
  rintro ⟨ret, self₁⟩
  exact Emits.ite (Emits.pure _) (Emits.ite (Emits.pure _) (Emits.pure _))

omit [Clock W] in
theorem Refused.not_harmless (hP : P.paho.DeserializesConnack) (h : Refused es)
    (hfirst : firstOf .connack (received es) = some buffer) : ¬Harmless P buffer := by
  obtain ⟨buffer', rc, hfirst', hrc, hconnack⟩ := h
  obtain rfl : buffer' = buffer := Option.some.inj (hfirst'.symm.trans hfirst)
  rintro (haccepted | hunread)
  · exact hrc (hconnack.rc_eq haccepted)
  · exact hunread (hconnack.deserialize hP _)

theorem connect_iff (hP : P.paho.DeserializesConnack) {fuel : ℕ} {options : Option ConnectData}
    {data data' : ConnackData} {ret : ℤ}
    (h : mqttClientConnect P fuel self options data timer s = .ok (ret, data', self') t)
    (htrace : t.trace = s.trace ++ es) :
    ((ret = mqttSuccess → Accepted es) ∧
        (Refused es → ret ≠ mqttSuccess ∧ self'.isConnected = false)) ↔
      ∀ buffer, firstOf .connack (received es) = some buffer →
        Harmless P buffer ∨ AnswerOverdue P self (options.getD .initializer) timer s := by
  rcases mqttClientConnect_eq_ok h htrace with
    ⟨rfl, hconnected, buffer, hfirst, hread, hintime⟩ | ⟨rfl, hconnected, hfailed⟩
  · rw [hfirst]
    constructor
    · rintro ⟨haccepted, -⟩ buffer' hbuffer
      obtain ⟨buffer'', hfirst', hconnack⟩ := haccepted rfl
      obtain rfl := Option.some.inj hbuffer
      obtain rfl : buffer = buffer'' := Option.some.inj (hfirst.symm.trans hfirst')
      exact Or.inl (Or.inl hconnack)
    · intro hharmless
      have hconnack : IsConnack 0 buffer :=
        ((hharmless buffer rfl).resolve_right hintime).resolve_right fun hunread ↦ hunread hread
      refine ⟨fun _ ↦ ⟨buffer, hfirst, hconnack⟩, fun hrefused ↦ ?_⟩
      exact absurd (Or.inl hconnack) (hrefused.not_harmless hP hfirst)
  · refine iff_of_true ⟨fun h ↦ absurd h (by decide), fun hrefused ↦ ⟨by decide, ?_⟩⟩
      fun buffer hfirst ↦ (hfailed buffer hfirst).2.imp_left Or.inr
    obtain ⟨buffer, _, hfirst, -⟩ := hrefused
    exact hconnected.trans (hfailed buffer hfirst).1

end Wait

/-! ## The initialisation -/

/-- The token was given to the messages of the sensor. -/
def PostsSemaphore (es : List (Event W)) : Prop := ∃ rc, .call .semPost rc ∈ es

/-- Nothing was received and the semaphore was not posted. -/
def Quiet (s t : Sys World) : Prop :=
  Extends (fun e ↦ e.received = none ∧ ∀ rc, e ≠ .call .semPost rc) s t

/-- The initialisation fails before it connects, or as the connect does, or it
posts the semaphore. -/
inductive InitEnds (P : Platform) (fuel : ℕ) (self : CcFsm) (s : Sys World) :
    ℤ → CcFsm → Sys World → Prop
  | notConnected (ret : ℤ) (t : Sys World) (hret : ret ≠ 0) (hquiet : Quiet s t) :
      InitEnds P fuel self s ret self t
  | connected (ret rc : ℤ) (data : ConnackData) (client : MqttClient World)
      (options : ConnectData) (t u v : Sys World) (hoptions : options.keepAliveInterval = 0)
      (hquiet : Quiet s u)
      (hconnect : mqttClientConnect P fuel self.client (some options) ⟨0, 0⟩ none u =
        .ok (rc, data, client) v)
      (hret : rc ≠ mqttSuccess ∧ ret ≠ 0 ∧ t = v ∨
        rc = mqttSuccess ∧ t.trace = v.trace ++ [.call .semPost ret]) :
      InitEnds P fuel self s ret { self with client := client } t

section Init

variable {P : Platform} {fuel : ℕ} {self self' : CcFsm} {s t : Sys World} {ret : ℤ}
  {es : List (Event World)}

theorem initEnds (h : handleCcFsmInit P fuel self s = .ok (ret, self') t) :
    InitEnds P fuel self s ret self' t := by
  have C : CallKeeps (Quiet s) fun _ _ ↦ True :=
    { ask := fun _ _ hs ↦ hs
      log := fun u call rc hcall hu ↦ hu.trans ⟨[_], rfl, by
        simp [Event.received, hcall]⟩
      unfinished := fun _ _ ↦ trivial
      overread := fun _ _ _ ↦ trivial }
  suffices hopen : ∀ options u, options.keepAliveInterval = 0 → Quiet s u →
      Post (openSession P fuel self options) u (fun r t ↦ InitEnds P fuel self s r.1 r.2 t)
        fun _ _ ↦ True from
    (post_handleCcFsmInit C (R := fun r t ↦ InitEnds P fuel self s r.1 r.2 t)
      (fun ret t hne hquiet ↦ .notConnected ret t hne hquiet) hopen (Extends.refl _ s)).ok h
  intro options u₀ hoptions hquiet₀
  refine post_intro (fun r t hopen ↦ ?_) fun _ _ _ ↦ trivial
  obtain ⟨⟨ret, client⟩, v, hdo, hrest⟩ := bind_eq_ok_iff.mp hopen
  obtain ⟨_, u, hread, hdo⟩ := bind_eq_ok_iff.mp hdo
  have hreads : Keeps (Quiet s) (fun _ _ ↦ True) (fun _ ↦ True)
      (readConnectSettings self.client) :=
    keeps_readConnectSettings C.overread self.client
  have hquiet := ((hreads u₀ hquiet₀).ok hread).2
  obtain ⟨⟨rc, data, client⟩, v, hconnect, hv⟩ := bind_eq_ok_iff.mp hdo
  obtain ⟨rfl, rfl, rfl⟩ := Outcome.ok_pair_inj hv
  by_cases hrc : rc ≠ mqttSuccess
  · simp only [if_pos hrc] at hrest
    obtain ⟨rfl, rfl⟩ := Outcome.ok.inj hrest
    exact .connected _ rc data client options _ u _ hoptions hquiet hconnect
      (Or.inl ⟨hrc, by simp, rfl⟩)
  · simp only [if_neg hrc] at hrest
    obtain ⟨ret, -, hsemPost⟩ := semPost_eq_ok v
    rw [if_neg (by simp), bind_eq_of_ok hsemPost] at hrest
    obtain ⟨rfl, rfl⟩ := Outcome.ok.inj hrest
    exact .connected _ rc data client options _ u _ hoptions hquiet hconnect
      (Or.inr ⟨not_not.mp hrc, rfl⟩)

theorem Quiet.events (h : Quiet s t) (htrace : t.trace = s.trace ++ es) :
    received es = [] ∧ ¬PostsSemaphore es := by
  obtain ⟨es', htrace', hes⟩ := h
  obtain rfl : es = es' := List.append_cancel_left (htrace.symm.trans htrace')
  exact ⟨received_eq_nil fun e he ↦ (hes e he).1, fun ⟨rc, hrc⟩ ↦ (hes _ hrc).2 rc rfl⟩

theorem init_iff (hP : P.paho.DeserializesConnack)
    (h : handleCcFsmInit P fuel self s = .ok (ret, self') t) (htrace : t.trace = s.trace ++ es) :
    ((ret = 0 ∨ PostsSemaphore es → Accepted es) ∧
        (Refused es → self'.client.isConnected = false ∧ ret ≠ 0 ∧ ¬PostsSemaphore es)) ↔
      ∀ buffer, firstOf .connack (received es) = some buffer → Harmless P buffer := by
  cases initEnds h with
  | notConnected _ hret hquiet =>
      obtain ⟨hreceived, hposts⟩ := hquiet.events htrace
      have hnone : firstOf .connack (received es) = none := by
        rw [hreceived]
        rfl
      refine iff_of_true ⟨fun h ↦ (h.elim hret hposts).elim, ?_⟩ fun buffer hfirst ↦ ?_
      · rintro ⟨buffer, _, hfirst, -⟩
        simp [hnone] at hfirst
      · simp [hnone] at hfirst
  | connected rc data client options _ u v hoptions hquiet hconnect hret =>
      obtain ⟨es₀, htrace₀, -⟩ := id hquiet
      obtain ⟨es₁, htrace₁, hes₁⟩ :=
        Emits.ok (emits_mqttClientConnect P fuel self.client _ _ _) hconnect
      obtain ⟨hreceived₀, hposts₀⟩ := hquiet.events htrace₀
      have hposts₁ : ¬PostsSemaphore es₁ := fun ⟨rc, hrc⟩ ↦ (hes₁ _ hrc).elim id id
      have hiff := connect_iff hP hconnect htrace₁
      have hintime : ¬AnswerOverdue P self.client options none u := not_answerOverdue hoptions
      simp only [Option.getD_some, hintime, or_false] at hiff
      obtain ⟨es₂, hes, hreceived₂, hposts⟩ : ∃ es₂, es = es₀ ++ es₁ ++ es₂ ∧
          received es₂ = [] ∧ (rc ≠ mqttSuccess ∧ ret ≠ 0 ∧ ¬PostsSemaphore es₂ ∨
            rc = mqttSuccess ∧ PostsSemaphore es₂) := by
        rcases hret with ⟨hrc, hret, rfl⟩ | ⟨hrc, htrace₂⟩
        · refine ⟨[], ?_, rfl, Or.inl ⟨hrc, hret, fun ⟨rc, hrc⟩ ↦ by simp at hrc⟩⟩
          apply List.append_cancel_left (htrace.symm.trans _)
          rw [htrace₁, htrace₀, List.append_nil, List.append_assoc]
        · refine ⟨[.call .semPost ret], ?_, rfl, Or.inr ⟨hrc, ret, by simp⟩⟩
          apply List.append_cancel_left (htrace.symm.trans _)
          rw [htrace₂, htrace₁, htrace₀, List.append_assoc, List.append_assoc, List.append_assoc]
      have hreceived : received es = received es₁ := by
        rw [hes, received_append, received_append, hreceived₀, hreceived₂, List.nil_append,
          List.append_nil]
      have hsemPost : PostsSemaphore es ↔ PostsSemaphore es₂ := by
        simp only [hes, PostsSemaphore, List.mem_append, exists_or]
        simp only [PostsSemaphore] at hposts₀ hposts₁
        simp only [hposts₀, hposts₁, false_or]
      rw [hsemPost]
      unfold Accepted Refused at hiff ⊢
      rw [hreceived, ← hiff]
      rcases hposts with ⟨hrc, hret, hno⟩ | ⟨rfl, hyes⟩
      · simp [hrc, hret, hno]
      · simp [hyes]

end Init

/-- A connect reports success, and the initialisation admits messages, only for
an accepted connection: exactly when the CONNACK that was received is harmless
or, in a connect with a keep-alive interval, comes too late. -/
theorem accepted_iff_harmless [Clock W] {P : Platform} (hP : P.paho.DeserializesConnack) :
    (∀ (fuel : ℕ) (self self' : MqttClient W) (options : Option ConnectData)
        (data data' : ConnackData) (timer : Option Timer) (s t : Sys W) (ret : ℤ)
        (es : List (Event W)),
      mqttClientConnect P fuel self options data timer s = .ok (ret, data', self') t →
      t.trace = s.trace ++ es →
      (((ret = mqttSuccess → Accepted es) ∧
          (Refused es → ret ≠ mqttSuccess ∧ self'.isConnected = false)) ↔
        ∀ buffer, firstOf .connack (received es) = some buffer →
          Harmless P buffer ∨ AnswerOverdue P self (options.getD .initializer) timer s)) ∧
    ∀ (fuel : ℕ) (self self' : CcFsm) (s t : Sys World) (ret : ℤ) (es : List (Event World)),
      handleCcFsmInit P fuel self s = .ok (ret, self') t → t.trace = s.trace ++ es →
      (((ret = 0 ∨ PostsSemaphore es → Accepted es) ∧
          (Refused es → self'.client.isConnected = false ∧ ret ≠ 0 ∧ ¬PostsSemaphore es)) ↔
        ∀ buffer, firstOf .connack (received es) = some buffer → Harmless P buffer) :=
  ⟨fun _ _ _ _ _ _ _ _ _ _ _ h htrace ↦ connect_iff hP h htrace,
    fun _ _ _ _ _ _ _ h htrace ↦ init_iff hP h htrace⟩

/-! ## Two answers -/

/-- A client connects while the broker sends these bytes. -/
def connectRun (rx : List UInt8) :
    Outcome Stop (Sys World) (ℤ × ConnackData × MqttClient World) :=
  mqttClientConnect (Platform.reference false) 5 (CcFsm.constructed 5).client none ⟨0, 0⟩ none
    ⟨World.steady rx, []⟩

/-- The component is initialised while the broker sends these bytes. -/
def initRun (rx : List UInt8) : Outcome Stop (Sys World) (ℤ × CcFsm) :=
  handleCcFsmInit (Platform.reference false) 5 (CcFsm.constructed 5) ⟨World.steady rx, []⟩

/-- The first four bytes of the first CONNACK. -/
def firstConnack (es : List (Event World)) : Option (List UInt8) :=
  (firstOf .connack (received es)).map fun buffer ↦ buffer.take 4

theorem exists_connack_of_firstConnack {es : List (Event World)} {rc : UInt8}
    (h : firstConnack es = some [0x20, 2, 0, rc]) :
    ∃ buffer, firstOf .connack (received es) = some buffer ∧ IsConnack rc buffer := by
  obtain ⟨buffer, hfirst, htake⟩ := Option.map_eq_some_iff.mp h
  refine ⟨buffer, hfirst, 0x20, 0, buffer.drop 4, by decide, ?_⟩
  calc buffer = buffer.take 4 ++ buffer.drop 4 := (List.take_append_drop 4 buffer).symm
    _ = [0x20, 2, 0, rc] ++ buffer.drop 4 := by rw [htake]

theorem harmless_of_firstConnack {P : Platform} {es : List (Event World)} {buffer : List UInt8}
    (h : firstConnack es = some [0x20, 2, 0, 0])
    (hfirst : firstOf .connack (received es) = some buffer) : Harmless P buffer := by
  obtain ⟨buffer', hfirst', hconnack⟩ := exists_connack_of_firstConnack h
  exact Or.inl (Option.some.inj (hfirst'.symm.trans hfirst) ▸ hconnack)

theorem accepted_of_accepting_connack :
    (∃ data client t, connectRun [0x20, 2, 0, 0] = .ok (mqttSuccess, data, client) t ∧
      Accepted t.trace) ∧
    ∃ self t, initRun [0x20, 2, 0, 0] = .ok (0, self) t ∧ Accepted t.trace := by
  have hiff := accepted_iff_harmless (W := World) (P := Platform.reference false)
    Paho.reference.deserializesConnack
  refine ⟨?_, ?_⟩
  · have hview : (connectRun [0x20, 2, 0, 0]).view? (fun r t ↦ (r.1, firstConnack t.trace)) =
        some (mqttSuccess, some [0x20, 2, 0, 0]) := by decide +kernel
    obtain ⟨⟨ret, data, client⟩, t, hrun, hresult⟩ := Outcome.view?_eq_some_iff.mp hview
    obtain ⟨rfl, hconnack⟩ := Prod.mk.inj hresult
    have hmeans := (hiff.1 _ _ _ _ _ _ _ _ _ _ _ hrun (List.nil_append _).symm).mpr
      fun buffer hfirst ↦ Or.inl (harmless_of_firstConnack hconnack hfirst)
    exact ⟨data, client, t, hrun, hmeans.1 rfl⟩
  · have hview : (initRun [0x20, 2, 0, 0]).view? (fun r t ↦ (r.1, firstConnack t.trace)) =
        some (0, some [0x20, 2, 0, 0]) := by decide +kernel
    obtain ⟨⟨ret, self⟩, t, hrun, hresult⟩ := Outcome.view?_eq_some_iff.mp hview
    obtain ⟨rfl, hconnack⟩ := Prod.mk.inj hresult
    have hmeans := (hiff.2 _ _ _ _ _ _ _ hrun (List.nil_append _).symm).mpr
      fun buffer hfirst ↦ harmless_of_firstConnack hconnack hfirst
    exact ⟨self, t, hrun, hmeans.1 (Or.inl rfl)⟩

theorem refused_of_firstConnack {es : List (Event World)}
    (h : firstConnack es = some [0x20, 2, 0, 5]) : Refused es ∧ ¬Accepted es := by
  obtain ⟨buffer, hfirst, hconnack⟩ := exists_connack_of_firstConnack h
  refine ⟨⟨buffer, 5, hfirst, by decide, hconnack⟩, ?_⟩
  rintro ⟨buffer', hfirst', haccepts⟩
  obtain rfl : buffer = buffer' := Option.some.inj (hfirst.symm.trans hfirst')
  exact absurd (hconnack.rc_eq haccepts) (by decide)

/-- The broker answers that the client is not authorised. The session is opened
all the same, and the token is there for the messages of the sensor. -/
theorem not_accepted_of_refusing_connack :
    (∃ data client t, connectRun [0x20, 2, 0, 5] = .ok (mqttSuccess, data, client) t ∧
      client.isConnected = true ∧ Refused t.trace ∧ ¬Accepted t.trace) ∧
    ∃ self t, initRun [0x20, 2, 0, 5] = .ok (0, self) t ∧ self.client.isConnected = true ∧
      t.world.token = true ∧ Refused t.trace ∧ ¬Accepted t.trace := by
  refine ⟨?_, ?_⟩
  · have hview : (connectRun [0x20, 2, 0, 5]).view?
        (fun r t ↦ (r.1, r.2.2.isConnected, firstConnack t.trace)) =
          some (mqttSuccess, true, some [0x20, 2, 0, 5]) := by decide +kernel
    obtain ⟨⟨ret, data, client⟩, t, hrun, hresult⟩ := Outcome.view?_eq_some_iff.mp hview
    obtain ⟨rfl, hresult⟩ := Prod.mk.inj hresult
    obtain ⟨hconnected, hconnack⟩ := Prod.mk.inj hresult
    exact ⟨data, client, t, hrun, hconnected, refused_of_firstConnack hconnack⟩
  · have hview : (initRun [0x20, 2, 0, 5]).view?
        (fun r t ↦ (r.1, r.2.client.isConnected, t.world.token, firstConnack t.trace)) =
          some (0, true, true, some [0x20, 2, 0, 5]) := by decide +kernel
    obtain ⟨⟨ret, self⟩, t, hrun, hresult⟩ := Outcome.view?_eq_some_iff.mp hview
    obtain ⟨rfl, hresult⟩ := Prod.mk.inj hresult
    obtain ⟨hconnected, hresult⟩ := Prod.mk.inj hresult
    obtain ⟨htoken, hconnack⟩ := Prod.mk.inj hresult
    exact ⟨self, t, hrun, hconnected, htoken, refused_of_firstConnack hconnack⟩

end DemoIotApp
