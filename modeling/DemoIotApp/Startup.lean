import DemoIotApp.Delivery
import DemoIotApp.InitErrors
import DemoIotApp.SocketConnect

/-!
# The way from the constructor to the broker

When everything that the initialisation waits for comes, it ends with an open session. From then
on nothing that the sensor leaves in its port is lost.
-/

namespace DemoIotApp

open Library Prog

/-! ## What the initialisation waits for -/

/-- The options of the CONNECT that the settings make. -/
def Answers.connectData (answers : Answers) : ConnectData :=
  CcInitState.options ⟨CcFsm.zeroed, answers.parameter⟩

/-- The calls of the loop of `connectSocket` that are made before its `j`-th turn. -/
def Answers.turnStart (answers : Answers) (k : ℕ) : ℕ → ℕ
  | 0 => k
  | j + 1 => answers.turnStart (answers.socketReport k).2 j

/-- What the loop returns after its `j`-th turn, if it returns. -/
def Answers.turnVerdict (answers : Answers) (P : Platform) (handleId : ℤ) (k j : ℕ) : Option ℤ :=
  (answers.socketReport (answers.turnStart k j)).1.verdict P handleId

/-- No call fails but the reads of the settings, the network stack starts, and the socket is
connected. Each of the two loops needs less than so many turns. -/
structure Answers.NetworkComesUp (answers : Answers) (P : Platform) (turns : ℕ) : Prop where
  calls : ∀ call k, call ≠ .semWait → (∀ parameter, call ≠ .getConfigParameter parameter) →
    answers.returnCode call k = osSuccess
  stack : ∀ k, ∃ j < turns, answers.networkStackState (k + j) = .running ∧
    ∀ i < j, answers.networkStackState (k + i) = .other
  connects : ∀ k k', ∃ j < turns,
    answers.turnVerdict P (answers.handleId k) k' j = some osSuccess ∧
      ∀ i < j, answers.turnVerdict P (answers.handleId k) k' i = none

/-- The settings can be read as well, and those that are strings end inside their arrays. -/
structure Answers.ComesUp (answers : Answers) (P : Platform) (turns : ℕ) : Prop extends
    answers.NetworkComesUp P turns where
  settings : ∀ parameter k, answers.returnCode (.getConfigParameter parameter) k = osSuccess
  ends : answers.SettingsEnd

theorem Answers.ComesUp.succeeds {answers : Answers} {P : Platform} {turns : ℕ}
    (h : answers.ComesUp P turns) (call : Call) (k : ℕ) (hcall : call ≠ .semWait) :
    answers.returnCode call k = osSuccess := by
  by_cases hsetting : ∃ parameter, call = .getConfigParameter parameter
  · obtain ⟨parameter, rfl⟩ := hsetting
    exact h.settings parameter k
  · exact h.calls call k hcall fun parameter heq ↦ hsetting ⟨parameter, heq⟩

section Calls

variable {P : Platform} {turns fuel : ℕ} {s : Sys World}

theorem Exchanged.called (s : Sys World) (call : Call) : Exchanged s (s.called call) [] [] where
  answers := rfl
  rx := rfl
  wire := (List.append_nil _).symm
  sentPackets := by simp [Sys.called, DemoIotApp.sentPackets, Event.wanPacket]

theorem callKeeps_exchanged (s : Sys World) :
    CallKeeps (fun t ↦ Exchanged s t [] []) fun _ _ ↦ True where
  ask _ _ h := ⟨h.answers, h.rx, h.wire, h.sentPackets⟩
  log t call rc _ h := by
    refine ⟨h.answers, h.rx, h.wire, ?_⟩
    rw [← h.sentPackets]
    simp [DemoIotApp.sentPackets, Event.wanPacket]
  unfinished _ _ := trivial
  overread _ _ _ := trivial

/-- A call that succeeds. -/
theorem post_osCall_up (h : s.world.answers.ComesUp P turns) {call : Call}
    (hcall : call ≠ .semWait) :
    Post (osCall call) s (fun ret t ↦ ret = osSuccess ∧ Exchanged s t [] []) fun _ _ ↦ False :=
  ⟨h.succeeds call _ hcall, .called s call⟩

theorem post_getConfigParameter_up (h : s.world.answers.ComesUp P turns)
    (parameter : ConfigParameter) : Post (getConfigParameter parameter) s
      (fun r t ↦ r = (osSuccess, s.world.answers.parameter parameter) ∧ Exchanged s t [] [])
      fun _ _ ↦ False := by
  have hcall : Call.getConfigParameter parameter ≠ .semWait := by simp
  apply (post_osCall_up h hcall).bind
  rintro ret t ⟨rfl, ht⟩
  exact ⟨by rw [← ht.answers], ht⟩

/-- The same behind other calls. -/
theorem post_getConfigParameter_from {t : Sys World} (h : s.world.answers.ComesUp P turns)
    (parameter : ConfigParameter) (ht : Exchanged s t [] []) :
    Post (getConfigParameter parameter) t
      (fun r u ↦ r = (osSuccess, s.world.answers.parameter parameter) ∧ Exchanged s u [] [])
      fun _ _ ↦ False := by
  refine (post_getConfigParameter_up (ht.answers ▸ h) parameter).mono ?_ fun _ _ h ↦ h
  rintro r u ⟨rfl, hu⟩
  exact ⟨by rw [ht.answers], ht.trans hu⟩

theorem post_setMqttOptions_from {t : Sys World} (h : s.world.answers.ComesUp P turns)
    (ht : Exchanged s t [] []) : Post (setMqttOptions ConnectData.initializer) t
      (fun r u ↦ r = (osSuccess, s.world.answers.connectData) ∧ Exchanged s u [] [])
      fun _ _ ↦ False := by
  apply (post_getConfigParameter_from h .iotHub ht).bind
  rintro _ t ⟨rfl, ht⟩
  refine post_ite (fun hne ↦ absurd rfl hne) fun _ ↦ ?_
  apply (post_getConfigParameter_from h .sharedAccessSignature ht).bind
  rintro _ t ⟨rfl, ht⟩
  refine post_ite (fun hne ↦ absurd rfl hne) fun _ ↦ ?_
  apply (post_getConfigParameter_from h .iotDevice ht).bind
  rintro _ t ⟨rfl, ht⟩
  exact post_ite (fun hne ↦ absurd rfl hne) fun _ ↦ ⟨rfl, ht⟩

theorem post_doTlsHandshake_up (h : s.world.answers.ComesUp P turns) :
    Post doTlsHandshake s (fun ret t ↦ ret = osSuccess ∧ Exchanged s t [] [])
      fun _ _ ↦ False := by
  have hglue : Post glueTlsHandshake s (fun ret t ↦ ret = osSuccess ∧ Exchanged s t [] [])
      fun _ _ ↦ False := by
    apply (post_osCall_up h (by simp)).bind
    rintro ret t ⟨rfl, ht⟩
    exact post_ite (fun hne ↦ absurd rfl hne) fun _ ↦ ⟨rfl, ht⟩
  apply hglue.bind
  rintro ret t ⟨rfl, ht⟩
  exact ⟨rfl, ht⟩

/-- The network stack is waited for. -/
theorem post_waitForNetworkStackInit_up {j : ℕ} (hj : j < fuel)
    (hrunning : s.world.answers.networkStackState (s.world.calls + j) = .running)
    (hother : ∀ i < j, s.world.answers.networkStackState (s.world.calls + i) = .other) :
    Post (waitForNetworkStackInit P fuel) s (fun ret t ↦ ret = osSuccess ∧ Exchanged s t [] [])
      fun _ _ ↦ False := by
  suffices hcode : Post (waitForNetworkStackInit P fuel) s (fun ret _ ↦ ret = osSuccess)
      fun _ _ ↦ False from
    (hcode.and ((callKeeps_exchanged s).waitForNetworkStackInit s (.refl s))).mono
      (fun _ _ h ↦ ⟨h.1, h.2.2⟩) fun _ _ h ↦ h.1
  induction j generalizing fuel s with
  | zero =>
      obtain ⟨fuel, rfl⟩ := Nat.exists_eq_add_one.mpr hj
      rw [Post, waitForNetworkStackInit, bind_eq_of_ok (onWorld_ask_apply _ s),
        show s.world.answers.networkStackState s.world.calls = .running from hrunning]
      exact rfl
  | succ j ih =>
      obtain ⟨fuel, rfl⟩ := Nat.exists_eq_add_one.mpr (Nat.zero_lt_of_lt hj)
      rw [Post, waitForNetworkStackInit, bind_eq_of_ok (onWorld_ask_apply _ s),
        show s.world.answers.networkStackState s.world.calls = .other from hother 0 j.succ_pos]
      refine ih (s := s.asked) (Nat.lt_of_succ_lt_succ hj) ?_ fun i hi ↦ ?_
      · rw [Sys.asked_calls, Nat.add_assoc, Nat.add_comm 1]
        exact hrunning
      · rw [Sys.asked_calls, Nat.add_assoc, Nat.add_comm 1]
        exact hother (i + 1) (Nat.succ_lt_succ hi)

/-- The loop of `connectSocket` ends with the turn that decides. -/
theorem post_waitForConnection_up {handleId : ℤ} {j : ℕ} (hj : j < fuel)
    (hends : s.world.answers.turnVerdict P handleId s.world.calls j = some osSuccess)
    (hgoes : ∀ i < j, s.world.answers.turnVerdict P handleId s.world.calls i = none) :
    Post (waitForConnection P handleId fuel) s
      (fun ret t ↦ ret = osSuccess ∧ Exchanged s t [] []) fun _ _ ↦ False := by
  suffices hcode : Post (waitForConnection P handleId fuel) s (fun ret _ ↦ ret = osSuccess)
      fun _ _ ↦ False from
    (hcode.and ((callKeeps_exchanged s).waitForConnection handleId s (.refl s))).mono
      (fun _ _ h ↦ ⟨h.1, h.2.2⟩) fun _ _ h ↦ h.1
  induction j generalizing fuel s with
  | zero =>
      obtain ⟨fuel, rfl⟩ := Nat.exists_eq_add_one.mpr hj
      obtain ⟨t, -, -, -, hturn⟩ := waitForConnection_succ P handleId fuel s
      rw [Answers.turnVerdict, Answers.turnStart] at hends
      rw [Post, hturn, hends]
  | succ j ih =>
      obtain ⟨fuel, rfl⟩ := Nat.exists_eq_add_one.mpr (Nat.zero_lt_of_lt hj)
      obtain ⟨t, hanswers, hcalls, -, hturn⟩ := waitForConnection_succ P handleId fuel s
      have hfirst := hgoes 0 j.succ_pos
      rw [Answers.turnVerdict, Answers.turnStart] at hfirst
      rw [Post, hturn, hfirst]
      refine ih (Nat.lt_of_succ_lt_succ hj) ?_ fun i hi ↦ ?_
      · rw [hanswers, hcalls]
        exact hends
      · rw [hanswers, hcalls]
        exact hgoes (i + 1) (Nat.succ_lt_succ hi)

theorem post_connectSocket_up (h : s.world.answers.ComesUp P turns) (hfuel : turns ≤ fuel) :
    Post (connectSocket P fuel) s (fun ret t ↦ ret = osSuccess ∧ Exchanged s t [] [])
      fun _ _ ↦ False := by
  apply (post_osCall_up h (by simp)).bind
  rintro ret t ⟨rfl, ht⟩
  refine post_ite (fun hne ↦ absurd rfl hne) fun _ ↦ ?_
  have htup := ht.answers ▸ h
  have hasked : Exchanged s t.asked [] [] := (callKeeps_exchanged s).ask t _ ht
  rw [Post, bind_eq_of_ok (onWorld_ask_apply Answers.handleId t)]
  have hcall : Call.socketConnect (t.world.answers.handleId t.world.calls) ≠ .semWait := by simp
  apply (post_osCall_up (s := t.asked) htup hcall).bind
  rintro ret u ⟨rfl, hu⟩
  refine post_ite (fun hne ↦ absurd rfl hne) fun _ ↦ ?_
  obtain ⟨j, hj, hends, hgoes⟩ := htup.connects t.world.calls u.world.calls
  have hanswers : u.world.answers = t.world.answers := hu.answers
  rw [← hanswers] at hends hgoes
  apply (post_waitForConnection_up (hj.trans_le hfuel) (hanswers ▸ hends) (hanswers ▸ hgoes)).bind
  rintro ret v ⟨rfl, hv⟩
  exact post_ite (fun hne ↦ absurd rfl hne) fun _ ↦ ⟨rfl, (hasked.trans hu).trans hv⟩

theorem post_glueTlsInit_up (h : s.world.answers.ComesUp P turns) (hfuel : turns ≤ fuel) :
    Post (glueTlsInit P fuel) s (fun ret t ↦ ret = osSuccess ∧ Exchanged s t [] [])
      fun _ _ ↦ False := by
  apply (post_osCall_up h (by simp)).bind
  rintro ret t ⟨rfl, ht⟩
  refine post_ite (fun hne ↦ absurd rfl hne) fun _ ↦ ?_
  rw [Post, bind_eq_of_ok (readSetting_apply (ht.answers ▸ h.ends) (by decide))]
  apply (post_osCall_up (ht.answers ▸ h) (by simp)).bind
  rintro ret u ⟨rfl, hu⟩
  refine post_ite (fun hne ↦ absurd rfl hne) fun _ ↦ ?_
  have hsu := ht.trans hu
  obtain ⟨j, hj, hrunning, hother⟩ := h.stack u.world.calls
  rw [← hsu.answers] at hrunning hother
  apply (post_waitForNetworkStackInit_up (hj.trans_le hfuel) hrunning hother).bind
  rintro ret v ⟨rfl, hv⟩
  refine post_ite (fun hne ↦ absurd rfl hne) fun _ ↦ ?_
  have hsv := hsu.trans hv
  apply (post_connectSocket_up (hsv.answers ▸ h) hfuel).bind
  rintro ret w ⟨rfl, hw⟩
  exact post_ite (fun hne ↦ absurd rfl hne) fun _ ↦ ⟨rfl, hsv.trans hw⟩

end Calls

/-! ## The session is opened -/

section Session

variable {P : Platform} {patience tick turns netFuel fuel : ℕ} {s : Sys World} {connack : Packet}
  {before : List Packet} {rest : List UInt8}

/-- What the whole way relies on besides the delivery of messages. -/
structure Platform.Connects (P : Platform) : Prop extends P.Delivers where
  connect : P.paho.SerializesConnect
  connack : P.paho.DeserializesConnack

/-- What the world answers in a run in which nothing goes wrong. -/
structure Answers.Favour (answers : Answers) (P : Platform) (patience tick turns : ℕ) : Prop where
  prompt : answers.Prompt patience tick
  comesUp : answers.ComesUp P turns
  connectFits : ConnectFits P answers.connectData

/-- What the control thread leaves: an open session, the token, and one CONNECT on the wire. -/
def SessionOpened (P : Platform) (netFuel : ℕ) (received : List UInt8) (s : Sys World)
    (r : ℤ × CcFsm) (t : Sys World) : Prop :=
  r.1 = 0 ∧ r.2.Online netFuel 0 ∧ t.world.token = true ∧
    ∃ packet, IsConnectOf P s.world.answers.connectData packet ∧ Exchanged s t received [packet]

theorem SessionOpened.from_exchanged {netFuel : ℕ} {received : List UInt8} {s t u : Sys World}
    {r : ℤ × CcFsm} (h : SessionOpened P netFuel received t r u) (hst : Exchanged s t [] []) :
    SessionOpened P netFuel received s r u := by
  obtain ⟨hret, honline, htoken, packet, hpacket, htu⟩ := h
  exact ⟨hret, honline, htoken, packet, hst.answers ▸ hpacket, hst.trans htu⟩

variable {self : CcFsm}

theorem post_openSession_prompt (hP : P.Connects) (h : s.world.answers.Favour P patience tick turns)
    (hbrings : Brings .connack before connack) (hconnack : IsConnackPacket connack)
    (hself : self.Ready netFuel) (hlive : self.client.Live netFuel 0 false)
    (hrx : s.world.rx = stream (before ++ [connack]) ++ rest)
    (hfuel : before.length < fuel) (hnetFuel : (patience + 1) * pahoSendBuffSize < netFuel) :
    Post (openSession P fuel self s.world.answers.connectData) s
      (SessionOpened P netFuel (stream (before ++ [connack])) s) fun _ _ ↦ False := by
  have hconnect : Post (doMqttConnect P fuel self.client s.world.answers.connectData) s
      (fun r t ↦ r.1 = 0 ∧ CcFsm.Online netFuel 0 { self with client := r.2 } ∧
        ∃ packet, IsConnectOf P s.world.answers.connectData packet ∧
          Transfers s t (stream (before ++ [connack])) [packet]) fun _ _ ↦ False := by
    rw [Post, doMqttConnect, bind_eq_of_ok (readConnectSettings_apply h.comesUp.ends self.client)]
    apply (post_mqttClientConnect_prompt hP.encodes hP.connect hP.connack rfl h.connectFits hbrings
      hconnack h.prompt hlive hrx hfuel hnetFuel).bind
    rintro ⟨ret, data, client⟩ t ⟨hret, hopen, hpacket⟩
    dsimp only at hret hopen
    subst hret
    exact ⟨rfl, ⟨hself.withClient hopen.setup, hopen⟩, hpacket⟩
  apply hconnect.bind
  rintro ⟨ret, client⟩ t ⟨hret, honline, packet, hpacket, ht⟩
  refine post_ite (fun hne ↦ absurd hret hne) fun _ ↦ ?_
  obtain ⟨ret', hret', hpost⟩ := semPost_eq_ok t
  have hzero : ret' = 0 := by
    rw [hret', ht.moved.answers]
    exact h.comesUp.succeeds _ _ (by simp)
  rw [post_bind, post_of_ok hpost, if_pos hzero]
  exact ⟨hzero, honline, rfl, packet, hpacket, ht.exchanged.afterSem _ _ _⟩

theorem post_establishSession_prompt (hP : P.Connects)
    (h : s.world.answers.Favour P patience tick turns)
    (hbrings : Brings .connack before connack) (hconnack : IsConnackPacket connack)
    (hself : self.Ready netFuel) (hlive : self.client.Live netFuel 0 false)
    (hrx : s.world.rx = stream (before ++ [connack]) ++ rest)
    (hturns : turns ≤ fuel) (hfuel : before.length < fuel)
    (hnetFuel : (patience + 1) * pahoSendBuffSize < netFuel) :
    Post (establishSession P fuel self s.world.answers.connectData) s
      (SessionOpened P netFuel (stream (before ++ [connack])) s) fun _ _ ↦ False := by
  rw [Post, establishSession, bind_eq_of_ok (readSetting_apply h.comesUp.ends (by decide))]
  apply (post_glueTlsInit_up h.comesUp hturns).bind
  rintro ret t ⟨rfl, ht⟩
  refine post_ite (fun hne ↦ absurd rfl hne) fun _ ↦ ?_
  apply (post_doTlsHandshake_up (ht.answers ▸ h.comesUp)).bind
  rintro ret u ⟨rfl, hu⟩
  refine post_ite (fun hne ↦ absurd rfl hne) fun _ ↦ ?_
  have hsu := ht.trans hu
  rw [← hsu.answers]
  exact (post_openSession_prompt hP (hsu.answers ▸ h) hbrings hconnack hself hlive (hsu.rx_eq hrx)
    hfuel hnetFuel).mono (fun _ _ hv ↦ hv.from_exchanged hsu) fun _ _ h ↦ h

theorem post_handleCcFsmInit_prompt (hP : P.Connects)
    (h : s.world.answers.Favour P patience tick turns)
    (hbrings : Brings .connack before connack) (hconnack : IsConnackPacket connack)
    (hself : self.Ready netFuel) (hlive : self.client.Live netFuel 0 false)
    (hrx : s.world.rx = stream (before ++ [connack]) ++ rest)
    (hturns : turns ≤ fuel) (hfuel : before.length < fuel)
    (hnetFuel : (patience + 1) * pahoSendBuffSize < netFuel) :
    Post (handleCcFsmInit P fuel self) s
      (SessionOpened P netFuel (stream (before ++ [connack])) s) fun _ _ ↦ False := by
  -- the settings are read one after the other, and none of them is missing
  apply (post_getConfigParameter_from h.comesUp .cloudServiceIP (.refl s)).bind
  rintro _ t ⟨rfl, ht⟩
  refine post_ite (fun hne ↦ absurd rfl hne) fun _ ↦ ?_
  apply (post_getConfigParameter_from h.comesUp .serverPort ht).bind
  rintro _ t ⟨rfl, ht⟩
  refine post_ite (fun hne ↦ absurd rfl hne) fun _ ↦ ?_
  apply (post_getConfigParameter_from h.comesUp .serverCaCert ht).bind
  rintro _ t ⟨rfl, ht⟩
  refine post_ite (fun hne ↦ absurd rfl hne) fun _ ↦ ?_
  apply (post_setMqttOptions_from h.comesUp ht).bind
  rintro _ t ⟨rfl, ht⟩
  refine post_ite (fun hne ↦ absurd rfl hne) fun _ ↦ ?_
  rw [← ht.answers]
  exact (post_establishSession_prompt hP (ht.answers ▸ h) hbrings hconnack hself hlive
    (ht.rx_eq hrx) hturns hfuel hnetFuel).mono (fun _ _ hu ↦ hu.from_exchanged ht) fun _ _ h ↦ h

/-- The control thread opens the session. -/
theorem post_run_prompt (hP : P.Connects) (h : s.world.answers.Favour P patience tick turns)
    (hbrings : Brings .connack before connack) (hconnack : IsConnackPacket connack)
    (hrx : s.world.rx = stream (before ++ [connack]) ++ rest) (hturns : turns ≤ fuel)
    (hfuel : before.length < fuel) (hnetFuel : (patience + 1) * pahoSendBuffSize < fuel) :
    Post (run P fuel) s (SessionOpened P fuel (stream (before ++ [connack])) s)
      fun _ _ ↦ False := by
  have hctor : Post (ccFsmCtor fuel) s
      (fun r t ↦ r.1 = 0 ∧ r.2.Ready fuel ∧ r.2.client.Live fuel 0 false ∧ Exchanged s t [] [])
      fun _ _ ↦ False := by
    have hcall : Post (osCall .initConfigHandle) s
        (fun ret t ↦ ret = osSuccess ∧ Exchanged s t [] []) fun _ _ ↦ False :=
      post_osCall_up h.comesUp (by simp)
    apply hcall.bind
    rintro ret t ⟨rfl, ht⟩
    refine post_ite (fun hne ↦ absurd rfl hne) fun _ ↦ ?_
    refine ⟨rfl, ⟨⟨rfl, ?_, ?_, rfl, rfl⟩, rfl, rfl, ?_, ?_, ?_, Nat.two_pow_pos 32⟩,
      ⟨⟨rfl, ?_, ?_, rfl, rfl⟩, rfl, rfl⟩, ht⟩
    all_goals exact List.length_replicate ..
  apply hctor.bind
  rintro ⟨ret, self⟩ t ⟨hret, hself, hlive, ht⟩
  refine post_ite (fun hne ↦ absurd hret hne) fun _ ↦ ?_
  apply (post_handleCcFsmInit_prompt hP (ht.answers ▸ h) hbrings hconnack hself hlive
    (ht.rx_eq hrx) hturns hfuel hnetFuel).bind
  rintro ⟨ret', self'⟩ u hu
  obtain ⟨hret', honline⟩ := hu.from_exchanged ht
  exact ⟨if_neg (not_not.mpr hret'), honline⟩

end Session

/-! ## The whole way -/

/-- A session of this length with the broker: all that it sends is read, and all that it gets are
the CONNECT of the settings and these messages, each with the next identifier. The session stays
open. -/
structure DeliversAll (P : Platform) (fuel : ℕ) (w : World) (rest : List UInt8)
    (messages : List Message) (self : CcFsm) (t : Sys World) : Prop where
  online : self.Online fuel messages.length
  token : t.world.token = true
  rx : t.world.rx = rest
  wire : t.world.wire = w.wire ++ (sentPackets t.trace).flatten
  sentPackets : ∃ connect, IsConnectOf P w.answers.connectData connect ∧
    sentPackets t.trace = connect :: publishes 0 messages

section Whole

variable {P : Platform} {patience tick turns fuel : ℕ} {w : World} {connack : Packet}
  {before : List Packet} {rest : List UInt8} {xs : List Exchange}

/-- So many turns of the loops are enough for a session with these exchanges. -/
structure EnoughFuel (patience turns : ℕ) (before : List Packet) (xs : List Exchange) (fuel : ℕ) :
    Prop where
  turns_le : turns ≤ fuel
  before_lt : before.length < fuel
  observed : ∀ x ∈ xs, x.before.length < fuel
  patience_lt : (patience + 1) * pahoSendBuffSize < fuel

theorem exists_enoughFuel (patience turns : ℕ) (before : List Packet) (xs : List Exchange) :
    ∃ n, ∀ fuel ≥ n, EnoughFuel patience turns before xs fuel := by
  let observed := (xs.map fun x ↦ x.before.length).max?.getD 0
  refine ⟨(patience + 1) * pahoSendBuffSize + turns + before.length + observed + 1,
    fun fuel hfuel ↦ ⟨by omega, by omega, fun x hx ↦ ?_, by omega⟩⟩
  have hobserved : x.before.length ≤ observed :=
    List.le_max?_getD_of_mem (List.mem_map_of_mem hx)
  omega

theorem post_runAndServe_prompt (hP : P.Connects) (h : w.answers.Favour P patience tick turns)
    (hbrings : Brings .connack before connack) (hconnack : IsConnackPacket connack)
    (hxs : ∀ x ∈ xs, x.Succeeds)
    (hrx : w.rx = stream (before ++ [connack]) ++ (xs.flatMap Exchange.incoming ++ rest))
    (hfuel : EnoughFuel patience turns before xs fuel) :
    Post (runAndServe P fuel (xs.map Exchange.port)) ⟨w, []⟩
      (DeliversAll P fuel w rest (xs.map Exchange.message)) fun _ _ ↦ False := by
  have hrun : Post (run P fuel) (⟨w, []⟩ : Sys World) _ _ :=
    post_run_prompt hP h hbrings hconnack hrx hfuel.turns_le hfuel.before_lt hfuel.patience_lt
  apply hrun.bind
  rintro ⟨ret, self⟩ t ⟨-, honline, htoken, connect, hconnect, ht⟩
  have hanswers : t.world.answers = w.answers := ht.answers
  refine (post_serveMessages_prompt hP.toDelivers (hanswers ▸ h.prompt)
    (fun k ↦ hanswers ▸ h.comesUp.succeeds _ k (by simp)) htoken honline hxs (ht.rx_eq hrx)
    hfuel.observed hfuel.patience_lt).mono ?_ fun _ _ h ↦ h
  rintro self' u ⟨honline', htoken', hu⟩
  have hall := ht.trans hu
  have hsent : sentPackets u.trace = connect :: publishes 0 (xs.map Exchange.message) :=
    hall.sentPackets
  refine ⟨?_, htoken', hu.rx_eq (ht.rx_eq hrx), ?_, connect, hconnect, hsent⟩
  · rw [List.length_map]
    exact Nat.zero_add xs.length ▸ honline'
  · rw [hsent]
    exact hall.wire

/-- Over a connection that stays up, with a broker that answers the CONNECT and acknowledges every
message, enough turns of the loops deliver all messages of the sensor, each once and in its turn,
and leave the session open for the next one. -/
theorem runAndServe_delivers (hP : P.Connects) (h : w.answers.Favour P patience tick turns)
    (hbrings : Brings .connack before connack) (hconnack : IsConnackPacket connack)
    (hxs : ∀ x ∈ xs, x.Succeeds)
    (hrx : w.rx = stream (before ++ [connack]) ++ (xs.flatMap Exchange.incoming ++ rest)) :
    ∃ n, ∀ fuel ≥ n, ∃ self t,
      runAndServe P fuel (xs.map Exchange.port) ⟨w, []⟩ = .ok self t ∧
        DeliversAll P fuel w rest (xs.map Exchange.message) self t := by
  obtain ⟨n, henough⟩ := exists_enoughFuel patience turns before xs
  exact ⟨n, fun fuel hfuel ↦ (post_runAndServe_prompt hP h hbrings hconnack hxs hrx
    (henough fuel hfuel)).exists_ok⟩

theorem Platform.reference_connects (assertions : Bool) :
    (Platform.reference assertions).Connects where
  processes := Platform.reference_processesPackets assertions
  deserializes := Paho.reference.deserializesPublish
  checks _ := Platform.reference_checksBuffers assertions
  publish := Paho.reference.serializesPublish
  encodes := Paho.reference.encodesLength
  acks := Paho.reference.deserializesAck
  connect := Paho.reference.serializesConnect
  connack := Paho.reference.deserializesConnack

theorem networkComesUp_dribbling (assertions : Bool) (parameter : ConfigParameter → List UInt8) :
    (Answers.dribbling parameter).NetworkComesUp (Platform.reference assertions) 2 where
  calls _ _ _ _ := rfl
  stack k := by
    by_cases h : k % 2 = 0
    · exact ⟨0, by decide, if_pos h, fun i hi ↦ absurd hi (Nat.not_lt_zero i)⟩
    · refine ⟨1, by decide, if_pos (by omega), fun i hi ↦ ?_⟩
      obtain rfl := Nat.lt_one_iff.mp hi
      exact if_neg h
  connects _ _ := ⟨0, by decide, rfl, fun i hi ↦ absurd hi (Nat.not_lt_zero i)⟩

theorem settingsEnd_steady : Answers.steady.SettingsEnd :=
  fun _ _ ↦ (by decide : (0 : UInt8) ∈ [65, 0])

theorem favour_dribbling (assertions : Bool) :
    (Answers.dribbling Answers.steady.parameter).Favour (Platform.reference assertions) 1 1 2 where
  prompt := prompt_dribbling _
  comesUp := ⟨networkComesUp_dribbling assertions _, fun _ _ ↦ rfl, settingsEnd_steady⟩
  connectFits := connectFits_reference assertions (by decide)

/-- The message in `smallPublish` is acknowledged behind another packet. -/
def smallExchange (id : UInt16) : Exchange where
  port := smallPublish
  message := ⟨0, [0x74], [9]⟩
  before := [.ofPayload 0xD0 [] length_nil_lt]
  puback := .ofPayload 0x40 (u16 id.toNat) (length_u16_lt id)

theorem deliverable_smallPublish : Deliverable ⟨0, [0x74], [9]⟩ smallPublish where
  publish := by
    refine ⟨.ofPayload 0x32 [0, 1, 0x74, 0, 7, 9] (by decide), 7, zeros (pahoRecvBuffSize - 8),
      ?_, ⟨by decide, by decide⟩, by decide, by decide⟩
    exact sensorPortOf_take (by decide)
  topic := by decide
  fits n := by
    rw [Message.length_publish]
    decide

theorem succeeds_smallExchange (id : UInt16) : (smallExchange id).Succeeds where
  brings := by
    apply brings_of_short
    · exact (by decide : headerType 0x40 = PacketType.puback.code)
    · simp only [smallExchange, List.mem_singleton, forall_eq]
      decide
    · simp [smallExchange, Packet.ofPayload, length_u16, pahoRecvBuffSize]
  short := ⟨id, rfl⟩
  deliverable := deliverable_smallPublish

/-- The broker accepts the connection and acknowledges two messages. -/
def World.dribbling : World :=
  ⟨Answers.dribbling Answers.steady.parameter, 0,
    [0x20, 2, 0, 0, 0xD0, 0, 0x40, 2, 0, 2, 0xD0, 0, 0x40, 2, 0, 3], [], false⟩

/-- A session with two messages. -/
theorem runAndServe_delivers_dribbling :
    ∃ n, ∀ fuel ≥ n, ∃ self t, runAndServe (Platform.reference true) fuel
        [smallPublish, smallPublish] ⟨World.dribbling, []⟩ = .ok self t ∧
      DeliversAll (Platform.reference true) fuel World.dribbling []
        [⟨0, [0x74], [9]⟩, ⟨0, [0x74], [9]⟩] self t := by
  have hxs : ∀ x ∈ [smallExchange 2, smallExchange 3], x.Succeeds := by
    simpa using ⟨succeeds_smallExchange 2, succeeds_smallExchange 3⟩
  exact runAndServe_delivers (Platform.reference_connects true) (favour_dribbling true)
    brings_acceptingConnack ⟨0, 0, rfl⟩ hxs (by decide)

end Whole

end DemoIotApp
