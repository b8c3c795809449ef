import DemoIotApp.Library.InOrder
import DemoIotApp.Reachability
import DemoIotApp.Threads

/-!
# The semaphore between the threads

The token comes into being when the initialisation has succeeded, and only a
call that has taken it handles a message. The code keeps to this as long as
`sem_wait` does not fail: a failed wait is only logged, and the call goes on to
handle its message and to post a token that it never had.
-/

namespace DemoIotApp

open Library Prog

/-! ## The token -/

section Fixed

variable (p : Answers → Bool → Prop)

/-- The world answers as it always does, and nothing but the semaphore touches the token. -/
theorem receiveKeeps_fixed :
    ReceiveKeeps (fun s ↦ p s.world.answers s.world.token) fun _ _ ↦ True where
  receives := by
    rintro s t hs ⟨-, calls, rx, hworld⟩
    rw [hworld]
    exact hs
  stops _ _ _ _ := trivial

theorem callKeeps_fixed :
    CallKeeps (fun s ↦ p s.world.answers s.world.token) fun _ _ ↦ True :=
  ⟨fun _ _ hs ↦ hs, fun _ _ _ _ hs ↦ hs, fun _ _ ↦ trivial, fun _ _ _ ↦ trivial⟩

theorem sendKeeps_fixed (netFuel : ℕ) :
    SendKeeps (netWan netFuel) (fun _ ↦ True) (fun s ↦ p s.world.answers s.world.token)
      fun _ _ ↦ True := by
  refine sendKeeps_netWan netFuel (fun packet s t rc _ hs hsent ↦ ?_) fun _ _ ↦ trivial
  obtain ⟨calls, wire, hworld⟩ := hsent.world
  rw [hworld]
  exact hs

theorem keeps_ccFsmCtor_fixed (fuel : ℕ) :
    Keeps (fun s ↦ p s.world.answers s.world.token) (fun _ _ ↦ True) (fun _ ↦ True)
      (ccFsmCtor fuel) :=
  ((callKeeps_fixed p).osCall .initConfigHandle (by decide)).bind fun _ _ ↦
    keeps_ite (fun _ ↦ keeps_pure trivial) fun _ ↦ keeps_pure trivial

theorem keeps_processMessage_fixed {P : Platform} (hP : P.ProcessesPackets) {netFuel : ℕ}
    (fuel : ℕ) {self : CcFsm} (hself : self.Ready netFuel) (sensorPort : SensorPort) :
    Keeps (fun s ↦ p s.world.answers s.world.token) (fun _ _ ↦ True)
      (fun r ↦ r.2.Ready netFuel) (processMessage P fuel self sensorPort) := by
  have K := (receiveKeeps_fixed p).waitKeeps P netFuel pahoRecvBuffSize
  have hlan : SendKeeps (Network.unset .lan) (fun _ ↦ True)
      (fun s : Sys World ↦ p s.world.answers s.world.token) fun _ _ ↦ True :=
    sendKeeps_unset .lan (fun _ hs ↦ hs) fun _ _ _ _ ↦ trivial
  exact keeps_processMessage fuel K hP (fun _ _ ↦ trivial) (sendKeeps_fixed p netFuel)
    P.paho.sendsOnly_true sensorPort (fun _ ↦ hlan) hself

end Fixed

theorem semWait_of_ne_zero {s : Sys World}
    (h : s.world.answers.returnCode .semWait s.world.calls ≠ 0) :
    ∃ t, semWait s = .ok (s.world.answers.returnCode .semWait s.world.calls) t := by
  cases hrun : semWait s with
  | ok ret t =>
      obtain ⟨rfl, -⟩ := (post_semWait s).ok hrun
      exact ⟨t, rfl⟩
  | stop e t => exact absurd ((post_semWait s).stop hrun).1 h

theorem semWait_eq_zero {s t : Sys World} (h : semWait s = .ok 0 t) :
    s.world.token = true ∧ t.world.token = false := by
  obtain ⟨-, htoken, rfl⟩ := (post_semWait s).ok h
  exact ⟨htoken rfl, rfl⟩

theorem semPost_token {s t : Sys World} {ret : ℤ} (h : semPost s = .ok ret t)
    (hret : ret ≠ 0) : t.world.token = s.world.token := by
  obtain ⟨ret', -, hpost⟩ := semPost_eq_ok s
  obtain ⟨rfl, rfl⟩ := Outcome.ok.inj (h.symm.trans hpost)
  exact if_neg hret

/-! ## The steps of the initialisation -/

namespace InitStep

variable {P : Platform} {netFuel fuel : ℕ} {self : CcFsm} {options : ConnectData}

theorem mqttOptions_mem {done steps : List InitStep} (h : done ++ mqttConnect :: steps = all) :
    mqttOptions ∈ done := by
  have hall : [serverIp, serverPort, serverCert, mqttOptions, tlsInit, tlsHandshake] ++
      mqttConnect :: [semPost] = done ++ mqttConnect :: steps := h.symm
  obtain ⟨rfl, -, -⟩ := split_unique (r := (· = mqttConnect)) (by decide) (by decide) rfl hall
  decide

theorem eq_nil_of_semPost {done steps : List InitStep} (h : done ++ semPost :: steps = all) :
    steps = [] := by
  have hall : [serverIp, serverPort, serverCert, mqttOptions, tlsInit, tlsHandshake,
      mqttConnect] ++ semPost :: [] = done ++ semPost :: steps := h.symm
  obtain ⟨-, -, rfl⟩ := split_unique (r := (· = semPost)) (by decide) (by decide) rfl hall
  rfl

theorem keeps_run (p : Answers → Bool → Prop) {step : InitStep} (hself : self.Ready netFuel)
    (hstep : step ≠ semPost) (hoptions : step = mqttConnect → options.keepAliveInterval = 0) :
    Keeps (fun s ↦ p s.world.answers s.world.token) (fun _ _ ↦ True)
      (fun r ↦ r.2.1.Ready netFuel ∧
        if step = mqttOptions then r.1 = 0 → r.2.2.keepAliveInterval = 0 else r.2.2 = options)
      (step.run P fuel self options) := by
  have C := callKeeps_fixed p
  have K := (receiveKeeps_fixed p).waitKeeps P netFuel pahoRecvBuffSize
  cases step with
  | serverIp => exact (C.getConfigParameter _).bind fun _ _ ↦ keeps_pure ⟨hself, rfl⟩
  | serverPort => exact (C.getConfigParameter _).bind fun _ _ ↦ keeps_pure ⟨hself, rfl⟩
  | serverCert => exact (C.getConfigParameter _).bind fun _ _ ↦ keeps_pure ⟨hself, rfl⟩
  | mqttOptions => exact (C.setMqttOptions _).bind fun _ h ↦ keeps_pure ⟨hself, h⟩
  | tlsInit =>
      apply (keeps_readSetting C.overread (by decide)).bind
      exact fun _ _ ↦ C.glueTlsInit.bind fun _ _ ↦ keeps_pure ⟨hself, rfl⟩
  | tlsHandshake => exact C.doTlsHandshake.bind fun _ _ ↦ keeps_pure ⟨hself, rfl⟩
  | mqttConnect =>
      have hconnect := leaves_doMqttConnect fuel C.overread K K.clock
        (sendKeeps_fixed p netFuel).leaves P.paho.sendsOnly_true.connect hself.client
        (hoptions rfl)
      exact hconnect.keeps.bind fun _ hclient ↦ keeps_pure ⟨hself.withClient hclient, rfl⟩
  | semPost => exact absurd rfl hstep

end InitStep

/-! ## The gate -/

namespace Threads

/-- A message is only handled, and a token only posted, by a call that has taken
the token, after the initialisation has succeeded. -/
def Gated (threads : Threads) : Prop :=
  ∀ taken, threads.rpc = .handling taken ∨ threads.rpc = .posting taken →
    taken = true ∧ threads.control = .init []

/-- If the RPC thread calls `sem_wait` in this turn, it does not fail. -/
def WaitSucceeds (threads : Threads) : Turn → Prop
  | .control _ => True
  | .rpc _ _ => threads.rpc = .idle →
      threads.sys.world.answers.returnCode .semWait threads.sys.world.calls = 0

instance (threads : Threads) (turn : Turn) : Decidable (threads.WaitSucceeds turn) :=
  match turn with
  | .control _ => isTrue trivial
  | .rpc _ _ => inferInstanceAs (Decidable (_ → _))

/-- What links the token, the progress of the initialisation and the RPC thread. -/
structure Inv (threads : Threads) : Prop where
  token : threads.sys.world.token = true → threads.control = .init []
  gated : threads.Gated
  ready : ∀ steps, threads.control = .init steps → ∃ netFuel, threads.self.Ready netFuel
  options : ∀ steps, threads.control = .init steps → ∃ done, done ++ steps = InitStep.all ∧
    (InitStep.mqttOptions ∈ done → threads.options.keepAliveInterval = 0)

theorem inv_initial (w : World) : Inv (initial w) where
  token h := nomatch h
  gated := by rintro taken (h | h) <;> exact nomatch h
  ready _ h := nomatch h
  options _ h := nomatch h

section Inv

variable {P : Platform} {fuel : ℕ} {threads threads' : Threads}

/-- As long as the initialisation goes on the RPC thread waits. -/
theorem Inv.idle (h : threads.Inv) (hcontrol : threads.control ≠ .init []) :
    threads.rpc = .idle := by
  cases hrpc : threads.rpc with
  | idle => rfl
  | handling taken => exact absurd (h.gated taken (Or.inl hrpc)).2 hcontrol
  | posting taken => exact absurd (h.gated taken (Or.inr hrpc)).2 hcontrol

theorem Inv.token_eq_false (h : threads.Inv) (hcontrol : threads.control ≠ .init []) :
    threads.sys.world.token = false := by
  by_contra htoken
  exact hcontrol (h.token (by simpa using htoken))

theorem gated_of_idle (h : threads.rpc = .idle) : threads.Gated := by
  rintro taken (h' | h') <;> simp [h] at h'

/-- The control thread has not got to the end of the initialisation. -/
theorem inv_of_unfinished (hidle : threads.rpc = .idle) (htoken : threads.sys.world.token = false)
    (hready : ∀ steps, threads.control = .init steps → ∃ netFuel, threads.self.Ready netFuel)
    (hoptions : ∀ steps, threads.control = .init steps → ∃ done, done ++ steps = InitStep.all ∧
      (InitStep.mqttOptions ∈ done → threads.options.keepAliveInterval = 0)) : threads.Inv :=
  ⟨fun htrue ↦ absurd (htoken.symm.trans htrue) (by decide), gated_of_idle hidle, hready, hoptions⟩

theorem inv_of_failed (hidle : threads.rpc = .idle) (htoken : threads.sys.world.token = false)
    (hfailed : threads.control = .failed) : threads.Inv :=
  inv_of_unfinished hidle htoken (fun _ h ↦ by simp [hfailed] at h) fun _ h ↦ by
    simp [hfailed] at h

theorem Inv.ctor (h : threads.Inv) (hcontrol : threads.control = .start) {ret : ℤ}
    {self : CcFsm} {t : Sys World} (hctor : ccFsmCtor fuel threads.sys = .ok (ret, self) t) :
    Inv { threads with
      self := self, sys := t, control := if ret ≠ 0 then .failed else .init InitStep.all } := by
  have hne : threads.control ≠ .init [] := by simp [hcontrol]
  have htoken : t.world.token = false := by
    have hkeeps := keeps_ccFsmCtor_fixed (fun _ token ↦ token = false) fuel
    exact ((hkeeps _ (h.token_eq_false hne)).ok hctor).2
  rcases ccFsmCtor_eq_ok hctor with ⟨rfl, hready, -⟩ | ⟨hret, -⟩
  · refine inv_of_unfinished (h.idle hne) htoken (fun _ _ ↦ ⟨fuel, hready⟩) ?_
    exact fun steps hsteps ↦ ⟨[], (Control.init.inj hsteps).symm, by simp⟩
  · exact inv_of_failed (h.idle hne) htoken (if_pos hret)

theorem Inv.initStep (h : threads.Inv) {step : InitStep} {steps : List InitStep}
    (hcontrol : threads.control = .init (step :: steps)) {ret : ℤ} {self : CcFsm}
    {options : ConnectData} {t : Sys World}
    (hrun : step.run P fuel threads.self threads.options threads.sys =
      .ok (ret, self, options) t) :
    Inv { threads with
      self := self, options := options, sys := t
      control := if ret ≠ 0 then .failed else .init steps } := by
  have hne : threads.control ≠ .init [] := by simp [hcontrol]
  obtain ⟨netFuel, hready⟩ := h.ready _ hcontrol
  obtain ⟨done, hdone, hset⟩ := h.options _ hcontrol
  have hdone' : (done ++ [step]) ++ steps = InitStep.all := by
    rw [← hdone, List.append_assoc, List.singleton_append]
  by_cases hsem : step = .semPost
  · subst hsem
    obtain rfl := InitStep.eq_nil_of_semPost hdone
    obtain ⟨rc, u, hpost, hreturn⟩ := bind_eq_ok_iff.mp hrun
    obtain ⟨rfl, hr', rfl⟩ := Outcome.ok_pair_inj hreturn
    obtain ⟨rfl, rfl⟩ := Prod.mk.inj hr'
    by_cases hret : rc ≠ 0
    · exact inv_of_failed (h.idle hne) ((semPost_token hpost hret).trans (h.token_eq_false hne))
        (if_pos hret)
    · -- the token comes into being with the end of the initialisation
      refine ⟨fun _ ↦ if_neg hret, gated_of_idle (h.idle hne), fun _ _ ↦ ⟨netFuel, hready⟩, ?_⟩
      rw [if_neg hret]
      intro steps hsteps
      obtain rfl := Control.init.inj hsteps
      exact ⟨done ++ [.semPost], hdone', fun hmem ↦ hset (by simpa using hmem)⟩
  · have hset' : step = .mqttConnect → threads.options.keepAliveInterval = 0 :=
      fun heq ↦ hset (InitStep.mqttOptions_mem (heq ▸ hdone))
    obtain ⟨⟨hready', hoptions⟩, htoken'⟩ := (InitStep.keeps_run (fun _ token ↦ token = false)
      hready hsem hset' threads.sys (h.token_eq_false hne)).ok hrun
    by_cases hret : ret ≠ 0
    · exact inv_of_failed (h.idle hne) htoken' (if_pos hret)
    · refine inv_of_unfinished (h.idle hne) htoken' (fun _ _ ↦ ⟨netFuel, hready'⟩) ?_
      rw [if_neg hret]
      intro steps' hsteps
      obtain rfl := Control.init.inj hsteps
      refine ⟨done ++ [step], hdone', fun hmem ↦ ?_⟩
      show options.keepAliveInterval = 0
      by_cases hopt : step = .mqttOptions
      · rw [if_pos hopt] at hoptions
        exact hoptions (not_not.mp hret)
      · rw [if_neg hopt] at hoptions
        obtain rfl : options = threads.options := hoptions
        exact hset ((List.mem_append.mp hmem).resolve_right fun hmem ↦
          hopt (List.mem_singleton.mp hmem).symm)

/-- There is a token to take only after the initialisation. -/
theorem Inv.wait (h : threads.Inv) {t : Sys World} (hwait : semWait threads.sys = .ok 0 t) :
    Inv { threads with sys := t, rpc := .handling true } := by
  obtain ⟨htoken, htoken'⟩ := semWait_eq_zero hwait
  refine ⟨fun htrue ↦ absurd (htoken'.symm.trans htrue) (by decide), ?_, h.ready, h.options⟩
  rintro taken (hrpc | hrpc)
  · exact ⟨(Rpc.handling.inj hrpc).symm, h.token htoken⟩
  · exact nomatch hrpc

theorem Inv.handle (hP : P.ProcessesPackets) (h : threads.Inv) {taken : Bool}
    (hrpc : threads.rpc = .handling taken) {sensorPort : SensorPort} {ret : ℤ} {self : CcFsm}
    {t : Sys World}
    (hprocess : processMessage P fuel threads.self sensorPort threads.sys = .ok (ret, self) t) :
    Inv { threads with self := self, sys := t, rpc := .posting taken } := by
  obtain ⟨htaken, hcontrol⟩ := h.gated taken (Or.inl hrpc)
  obtain ⟨netFuel, hready⟩ := h.ready _ hcontrol
  obtain ⟨hready', -⟩ :=
    (keeps_processMessage_fixed (fun _ _ ↦ True) hP fuel hready sensorPort _ trivial).ok hprocess
  refine ⟨fun _ ↦ hcontrol, ?_, fun _ _ ↦ ⟨netFuel, hready'⟩, h.options⟩
  rintro taken' (hrpc' | hrpc')
  · exact nomatch hrpc'
  · exact ⟨(Rpc.posting.inj hrpc').symm.trans htaken, hcontrol⟩

theorem Inv.post (h : threads.Inv) {taken : Bool} (hrpc : threads.rpc = .posting taken)
    (t : Sys World) : Inv { threads with sys := t, rpc := .idle } :=
  ⟨fun _ ↦ (h.gated taken (Or.inr hrpc)).2, gated_of_idle rfl, h.ready, h.options⟩

/-- The invariant survives every turn in which `sem_wait` does not fail. -/
theorem Inv.step (hP : P.ProcessesPackets) (h : threads.Inv) {turn : Turn}
    (hwait : threads.WaitSucceeds turn)
    (hstep : Threads.step P () turn threads = .ok () threads') : threads'.Inv := by
  cases turn with
  | control fuel =>
      rcases controlStep_eq_ok hstep with ⟨ret, self, t, hcontrol, hctor, rfl⟩ |
        ⟨step, steps, ret, self, options, t, hcontrol, hrun, rfl⟩
      · exact h.ctor hcontrol hctor
      · exact h.initStep hcontrol hrun
  | rpc fuel sensorPort =>
      rcases rpcStep_eq_ok hstep with ⟨ret, t, hrpc, hsem, rfl⟩ |
        ⟨taken, ret, self, t, hrpc, hprocess, rfl⟩ | ⟨taken, ret, t, hrpc, -, rfl⟩
      · obtain rfl : ret = 0 := ((post_semWait _).ok hsem).1.trans (hwait hrpc)
        exact h.wait hsem
      · exact h.handle hP hrpc hprocess
      · exact h.post hrpc t

theorem not_gated_of_failed_wait (turn : Turn) (hwait : ¬threads.WaitSucceeds turn) :
    ∃ threads', Threads.step P () turn threads = .ok () threads' ∧ ¬threads'.Gated := by
  cases turn with
  | control fuel => exact absurd trivial hwait
  | rpc fuel sensorPort =>
      obtain ⟨hrpc, hret⟩ := Classical.not_imp.mp hwait
      obtain ⟨t, hsem⟩ := semWait_of_ne_zero hret
      refine ⟨{ threads with sys := t, rpc := .handling false }, ?_, fun hgated ↦ ?_⟩
      · show rpcStep P fuel sensorPort threads = _
        simp only [rpcStep, bind_apply, Prog.get, hrpc, call, Prog.zoom, hsem, Prog.modify,
          decide_eq_false hret]
      · exact absurd (hgated false (Or.inl rfl)).1 (by decide)

end Inv

/-! ## Interleavings -/

/-- The gate holds after every turn of the interleaving. -/
def StaysGated (P : Platform) (turns : List Turn) (threads : Threads) : Prop :=
  Along (fun _ threads turn ↦
    ∀ threads', step P () turn threads = .ok () threads' → threads'.Gated)
    (step P) turns () threads

/-- No `sem_wait` of the interleaving fails. -/
def WaitsSucceed (P : Platform) (turns : List Turn) (threads : Threads) : Prop :=
  Along (fun _ threads turn ↦ threads.WaitSucceeds turn) (step P) turns () threads

instance (P : Platform) (turns : List Turn) (threads : Threads) :
    Decidable (WaitsSucceed P turns threads) :=
  inferInstanceAs (Decidable (Along _ _ _ _ _))

/-- The gate holds in an interleaving exactly when no `sem_wait` of it fails. -/
theorem staysGated_iff_waitsSucceed {P : Platform} (hP : P.ProcessesPackets) (w : World)
    (turns : List Turn) :
    StaysGated P turns (initial w) ↔ WaitsSucceed P turns (initial w) := by
  refine along_iff (I := fun _ threads ↦ threads.Inv) (fun _ threads turn h ↦ ⟨?_, ?_⟩)
    (fun _ threads turn _ threads' h hwait hstep ↦ h.step hP hwait hstep) turns () _ (inv_initial w)
  · intro hgated
    by_contra hwait
    obtain ⟨threads', hstep, hnot⟩ := not_gated_of_failed_wait (P := P) turn hwait
    exact hnot (hgated threads' hstep)
  · exact fun hwait threads' hstep ↦ (h.step hP hwait hstep).gated

/-! ## Two interleavings -/

/-- The initialisation runs through, and then a PINGREQ of the sensor is handled. -/
def initialiseAndPing : List Turn :=
  List.replicate 9 (.control 5) ++ List.replicate 3 (.rpc 5 (sensorPortOf [0xC0, 0]))

theorem staysGated_of_successful_waits :
    StaysGated (Platform.reference false) initialiseAndPing
        (initial (World.steady [0x20, 2, 0, 0])) ∧
      ∃ threads, interleave (Platform.reference false) initialiseAndPing
        (initial (World.steady [0x20, 2, 0, 0])) = .ok () threads ∧
          threads.rpc = .idle ∧ threads.sys.world.token = true := by
  have hview : (interleave (Platform.reference false) initialiseAndPing
      (initial (World.steady [0x20, 2, 0, 0]))).view? (fun _ threads ↦
        (threads.rpc, threads.sys.world.token)) = some (.idle, true) := by decide +kernel
  obtain ⟨_, threads, hrun, hresult⟩ := Outcome.view?_eq_some_iff.mp hview
  obtain ⟨hrpc, htoken⟩ := Prod.mk.inj hresult
  exact ⟨(staysGated_iff_waitsSucceed (Platform.reference_processesPackets false) _ _).mpr
    (by decide +kernel), threads, hrun, hrpc, htoken⟩

/-- The first `sem_wait` fails. -/
def failedWait : World :=
  { World.steady [] with answers := { Answers.steady with
      returnCode := fun call k ↦ if call = .semWait ∧ k = 1 then -1 else 0 } }

/-- A call comes after the constructor, and another one right behind it. -/
def earlyCalls : List Turn :=
  .control 5 :: List.replicate 4 (.rpc 5 (sensorPortOf [0xC0, 0]))

/-- The call handles its message without a token. Then it posts one, and the
next call takes that token before the initialisation has begun. -/
theorem not_staysGated_of_failed_wait :
    ¬StaysGated (Platform.reference false) earlyCalls (initial failedWait) ∧
      ∃ threads, interleave (Platform.reference false) earlyCalls (initial failedWait) =
          .ok () threads ∧
        threads.rpc = .handling true ∧ ¬threads.Gated := by
  refine ⟨fun hgated ↦ ?_, ?_⟩
  · have hwait : ¬WaitSucceeds { initial failedWait with
        self := CcFsm.constructed 5
        sys := ⟨{ failedWait with calls := 1 }, [.call .initConfigHandle 0]⟩
        control := .init InitStep.all } (.rpc 5 (sensorPortOf [0xC0, 0])) := by decide
    obtain ⟨threads, hstep, hnot⟩ := not_gated_of_failed_wait (P := Platform.reference false)
      (.rpc 5 (sensorPortOf [0xC0, 0])) hwait
    exact hnot ((hgated.2 () _ rfl).1 threads hstep)
  · have hview : (interleave (Platform.reference false) earlyCalls (initial failedWait)).view?
        (fun _ threads ↦ (threads.rpc, match threads.control with
          | .init steps => steps
          | _ => [])) = some (.handling true, InitStep.all) := by decide +kernel
    obtain ⟨_, threads, hrun, hresult⟩ := Outcome.view?_eq_some_iff.mp hview
    obtain ⟨hrpc, hsteps⟩ := Prod.mk.inj hresult
    refine ⟨threads, hrun, hrpc, fun hgated ↦ ?_⟩
    rw [(hgated true (Or.inl hrpc)).2] at hsteps
    exact absurd hsteps (by decide)

end Threads

end DemoIotApp
