import DemoIotApp.CloudConnector

/-!
# The two threads of the component

The control thread runs `run`, the RPC thread runs `cloudConnector_rpc_write`
for one call of the sensor after the other. They share the component and the
semaphore. A step of a thread is one call that its function makes, so that an
interleaving is a list that says which thread goes on next.
-/

namespace DemoIotApp

open Library Prog

/-! ## The steps of the initialisation -/

/-- The calls of `handle_CC_FSM_INIT`. -/
inductive InitStep where
  | serverIp
  | serverPort
  | serverCert
  | mqttOptions
  | tlsInit
  | tlsHandshake
  | mqttConnect
  | semPost
  deriving DecidableEq

namespace InitStep

def all : List InitStep :=
  [serverIp, serverPort, serverCert, mqttOptions, tlsInit, tlsHandshake, mqttConnect, semPost]

/-- A step returns its code, the component and the options. -/
def run (P : Platform) (fuel : ℕ) (self : CcFsm) (options : ConnectData) :
    InitStep → Prog Stop (Sys World) (ℤ × CcFsm × ConnectData)
  | serverIp => do
      let (ret, _) ← getConfigParameter .cloudServiceIP
      return (ret, self, options)
  | serverPort => do
      let (ret, _) ← getConfigParameter .serverPort
      return (ret, self, options)
  | serverCert => do
      let (ret, _) ← getConfigParameter .serverCaCert
      return (ret, self, options)
  | mqttOptions => do
      let (ret, options) ← setMqttOptions options
      return (ret, self, options)
  | tlsInit => do
      readSetting .cloudServiceIP
      let ret ← glueTlsInit P fuel
      return (ret, self, options)
  | tlsHandshake => do
      let ret ← doTlsHandshake
      return (ret, self, options)
  | mqttConnect => do
      let (ret, client) ← doMqttConnect P fuel self.client options
      return (ret, { self with client := client }, options)
  | semPost => do
      let ret ← DemoIotApp.semPost
      return (ret, self, options)

end InitStep

/-- One step after the other until one of them fails. -/
def runSteps (P : Platform) (fuel : ℕ) :
    List InitStep → CcFsm → ConnectData → Prog Stop (Sys World) (ℤ × CcFsm)
  | [], self, _ => return (0, self)
  | step :: steps, self, options => do
      let (ret, self, options) ← step.run P fuel self options
      if ret ≠ 0 then
        return (ret, self)
      else
        runSteps P fuel steps self options

/-- Two calls do the same when they begin with the same call. -/
theorem bind_eq_bind_bind {α β γ : Type} {m : Prog Stop (Sys World) α}
    {f : α → Prog Stop (Sys World) γ} {g : α → Prog Stop (Sys World) β}
    {h : β → Prog Stop (Sys World) γ} (hf : ∀ a, f a = g a >>= h) :
    m >>= f = (m >>= g) >>= h := by
  funext s
  simp only [bind_apply]
  cases m s with
  | ok a t => exact congrFun (hf a) t
  | stop e t => rfl

theorem ite_congr_else {α : Type} {c : Prop} [Decidable c] {m n n' : Prog Stop (Sys World) α}
    (h : n = n') : (if c then m else n) = if c then m else n' := by
  rw [h]

/-- The initialisation is the sequence of its steps. -/
theorem handleCcFsmInit_eq_runSteps (P : Platform) (fuel : ℕ) (self : CcFsm) :
    handleCcFsmInit P fuel self =
      runSteps P fuel InitStep.all self ConnectData.initializer := by
  apply bind_eq_bind_bind
  rintro ⟨ret, _⟩
  apply ite_congr_else
  apply bind_eq_bind_bind
  rintro ⟨ret, _⟩
  apply ite_congr_else
  apply bind_eq_bind_bind
  rintro ⟨ret, _⟩
  apply ite_congr_else
  apply bind_eq_bind_bind
  rintro ⟨ret, options⟩
  apply ite_congr_else
  apply bind_eq_bind_bind
  intro _
  apply bind_eq_bind_bind
  intro ret
  apply ite_congr_else
  apply bind_eq_bind_bind
  intro ret
  apply ite_congr_else
  apply bind_eq_bind_bind
  rintro ⟨ret, client⟩
  apply ite_congr_else
  apply bind_eq_bind_bind
  intro ret
  by_cases hret : ret = 0
  · subst hret
    rfl
  · exact (if_pos hret).symm

/-! ## Both threads -/

/-- Where the control thread is. With no steps left the initialisation was successful. -/
inductive Control where
  | start
  | init (steps : List InitStep)
  | failed

/-- Where the RPC thread is: between two calls, in the handler, or at its
`sem_post`. The flag says whether `sem_wait` has taken the token. -/
inductive Rpc where
  | idle
  | handling (taken : Bool)
  | posting (taken : Bool)
  deriving DecidableEq

structure Threads where
  self : CcFsm
  options : ConnectData
  sys : Sys World
  control : Control
  rpc : Rpc

/-- The thread that goes on, and what the sensor has left in the dataport. -/
inductive Turn where
  | control (fuel : ℕ)
  | rpc (fuel : ℕ) (sensorPort : SensorPort)

namespace Threads

/-- A call of one of the threads. -/
def call {α : Type} (m : Prog Stop (Sys World) α) : Prog Stop Threads α :=
  Prog.zoom Threads.sys (fun sys threads ↦ { threads with sys := sys }) m

def controlStep (P : Platform) (fuel : ℕ) : Prog Stop Threads Unit := do
  let threads ← Prog.get
  match threads.control with
  | .start =>
      let (ret, self) ← call (ccFsmCtor fuel)
      Prog.modify fun threads ↦ { threads with
        self := self
        control := if ret ≠ 0 then .failed else .init InitStep.all }
  | .init (step :: steps) =>
      let (ret, self, options) ← call (step.run P fuel threads.self threads.options)
      Prog.modify fun threads ↦ { threads with
        self := self
        options := options
        control := if ret ≠ 0 then .failed else .init steps }
  -- the thread has ended
  | .init [] => Prog.stop .blocked
  | .failed => Prog.stop .blocked

/-- What `cloudConnector_rpc_write` does whether `sem_wait` has failed or not. -/
def rpcStep (P : Platform) (fuel : ℕ) (sensorPort : SensorPort) : Prog Stop Threads Unit := do
  let threads ← Prog.get
  match threads.rpc with
  | .idle =>
      let ret ← call semWait
      Prog.modify fun threads ↦ { threads with rpc := .handling (decide (ret = 0)) }
  | .handling taken =>
      let (_, self) ← call (processMessage P fuel threads.self sensorPort)
      Prog.modify fun threads ↦ { threads with self := self, rpc := .posting taken }
  | .posting _ =>
      let _ ← call semPost
      Prog.modify fun threads ↦ { threads with rpc := .idle }

def step (P : Platform) (_ : Unit) : Turn → Prog Stop Threads Unit
  | .control fuel => controlStep P fuel
  | .rpc fuel sensorPort => rpcStep P fuel sensorPort

/-- An interleaving of the two threads. It ends early when the thread whose turn
it is cannot go on. -/
def interleave (P : Platform) (turns : List Turn) : Prog Stop Threads Unit :=
  turns.foldlM (step P) ()

/-- Both threads are about to start, and the semaphore has no token. -/
def initial (w : World) : Threads where
  self := CcFsm.zeroed
  options := ConnectData.initializer
  sys := ⟨{ w with token := false }, []⟩
  control := .start
  rpc := .idle

/-! ## What a step can do -/

section Step

variable {P : Platform} {fuel : ℕ} {threads threads' : Threads}

/-- The control thread runs the constructor or one step of the initialisation. -/
theorem controlStep_eq_ok (h : controlStep P fuel threads = .ok () threads') :
    (∃ ret self t, threads.control = .start ∧
      ccFsmCtor fuel threads.sys = .ok (ret, self) t ∧ threads' = { threads with
        self := self, sys := t
        control := if ret ≠ 0 then .failed else .init InitStep.all }) ∨
    ∃ step steps ret self options t, threads.control = .init (step :: steps) ∧
      step.run P fuel threads.self threads.options threads.sys = .ok (ret, self, options) t ∧
      threads' = { threads with
        self := self, options := options, sys := t
        control := if ret ≠ 0 then .failed else .init steps } := by
  unfold controlStep at h
  obtain ⟨_, _, hget, h⟩ := bind_eq_ok_iff.mp h
  obtain ⟨rfl, rfl⟩ := Outcome.ok.inj hget
  cases hcontrol : threads.control with
  | start =>
      simp only [hcontrol] at h
      obtain ⟨⟨ret, self⟩, u, hcall, hmodify⟩ := bind_eq_ok_iff.mp h
      obtain ⟨t, ht, rfl⟩ := zoom_eq_ok_iff.mp hcall
      exact Or.inl ⟨ret, self, t, rfl, ht, (Outcome.ok.inj hmodify).2.symm⟩
  | init steps =>
      cases steps with
      | nil => simp [hcontrol, Prog.stop] at h
      | cons step steps =>
          simp only [hcontrol] at h
          obtain ⟨⟨ret, self, options⟩, u, hcall, hmodify⟩ := bind_eq_ok_iff.mp h
          obtain ⟨t, ht, rfl⟩ := zoom_eq_ok_iff.mp hcall
          exact Or.inr ⟨step, steps, ret, self, options, t, rfl, ht,
            (Outcome.ok.inj hmodify).2.symm⟩
  | failed => simp [hcontrol, Prog.stop] at h

/-- The RPC thread waits, handles its message or posts. -/
theorem rpcStep_eq_ok {sensorPort : SensorPort}
    (h : rpcStep P fuel sensorPort threads = .ok () threads') :
    (∃ ret t, threads.rpc = .idle ∧ semWait threads.sys = .ok ret t ∧
      threads' = { threads with sys := t, rpc := .handling (decide (ret = 0)) }) ∨
    (∃ taken ret self t, threads.rpc = .handling taken ∧
      processMessage P fuel threads.self sensorPort threads.sys = .ok (ret, self) t ∧
      threads' = { threads with self := self, sys := t, rpc := .posting taken }) ∨
    ∃ taken ret t, threads.rpc = .posting taken ∧ semPost threads.sys = .ok ret t ∧
      threads' = { threads with sys := t, rpc := .idle } := by
  unfold rpcStep at h
  obtain ⟨_, _, hget, h⟩ := bind_eq_ok_iff.mp h
  obtain ⟨rfl, rfl⟩ := Outcome.ok.inj hget
  cases hrpc : threads.rpc with
  | idle =>
      simp only [hrpc] at h
      obtain ⟨ret, u, hcall, hmodify⟩ := bind_eq_ok_iff.mp h
      obtain ⟨t, ht, rfl⟩ := zoom_eq_ok_iff.mp hcall
      exact Or.inl ⟨ret, t, rfl, ht, (Outcome.ok.inj hmodify).2.symm⟩
  | handling taken =>
      simp only [hrpc] at h
      obtain ⟨⟨ret, self⟩, u, hcall, hmodify⟩ := bind_eq_ok_iff.mp h
      obtain ⟨t, ht, rfl⟩ := zoom_eq_ok_iff.mp hcall
      exact Or.inr (Or.inl ⟨taken, ret, self, t, rfl, ht, (Outcome.ok.inj hmodify).2.symm⟩)
  | posting taken =>
      simp only [hrpc] at h
      obtain ⟨ret, u, hcall, hmodify⟩ := bind_eq_ok_iff.mp h
      obtain ⟨t, ht, rfl⟩ := zoom_eq_ok_iff.mp hcall
      exact Or.inr (Or.inr ⟨taken, ret, t, rfl, ht, (Outcome.ok.inj hmodify).2.symm⟩)

end Step

/-! ## Each thread alone -/

section Alone

variable {P : Platform} {fuel : ℕ} {threads : Threads} {self : CcFsm} {t : Sys World} {ret : ℤ}

/-- The steps of the initialisation, as many as there are until one fails. -/
theorem interleave_init (fuel : ℕ) {steps : List InitStep}
    (hsteps : threads.control = .init steps)
    (h : runSteps P fuel steps threads.self threads.options threads.sys = .ok (ret, self) t) :
    ∃ n options, interleave P (List.replicate n (.control fuel)) threads = .ok () { threads with
      self := self, options := options, sys := t
      control := if ret ≠ 0 then .failed else .init [] } := by
  induction steps generalizing threads with
  | nil =>
      obtain ⟨rfl, rfl, rfl⟩ := Outcome.ok_pair_inj h
      refine ⟨0, threads.options, ?_⟩
      rw [if_neg (by simp), ← hsteps]
      rfl
  | cons step steps ih =>
      obtain ⟨⟨rc, self₁, options₁⟩, u, hstep, hrest⟩ := bind_eq_ok_iff.mp h
      have hturn : Threads.step P () (.control fuel) threads = .ok () { threads with
          self := self₁, options := options₁, sys := u
          control := if rc ≠ 0 then .failed else .init steps } := by
        show controlStep P fuel threads = _
        simp only [controlStep, bind_apply, Prog.get, hsteps, call, Prog.zoom, hstep, Prog.modify]
      by_cases hrc : rc ≠ 0
      · simp only [if_pos hrc] at hrest hturn
        obtain ⟨rfl, rfl, rfl⟩ := Outcome.ok_pair_inj hrest
        refine ⟨1, options₁, ?_⟩
        rw [if_pos hrc]
        exact bind_eq_of_ok hturn
      · simp only [if_neg hrc] at hrest hturn
        have hsteps : Threads.control { threads with
            self := self₁, options := options₁, sys := u, control := .init steps } =
              .init steps := rfl
        obtain ⟨n, options, hrun⟩ := ih hsteps hrest
        refine ⟨n + 1, options, ?_⟩
        rw [List.replicate_succ]
        exact (bind_eq_of_ok hturn).trans hrun

/-- The RPC thread does in three turns what one call of its function does. -/
theorem interleave_rpc {sensorPort : SensorPort} (hrpc : threads.rpc = .idle)
    (h : cloudConnectorRpcWrite P fuel threads.self sensorPort threads.sys = .ok (ret, self) t) :
    interleave P (List.replicate 3 (.rpc fuel sensorPort)) threads =
      .ok () { threads with self := self, sys := t } := by
  obtain ⟨waited, u, hwait, hwrite⟩ := bind_eq_ok_iff.mp h
  obtain ⟨⟨posted, self₁⟩, v, hnew, hreturn⟩ := bind_eq_ok_iff.mp hwrite
  obtain ⟨-, rfl, rfl⟩ := Outcome.ok_pair_inj hreturn
  obtain ⟨⟨_, self₂⟩, w, hprocess, hpost⟩ := bind_eq_ok_iff.mp hnew
  obtain ⟨rc, x, hsemPost, hreturn⟩ := bind_eq_ok_iff.mp hpost
  obtain ⟨-, rfl, rfl⟩ := Outcome.ok_pair_inj hreturn
  have h₁ : Threads.step P () (.rpc fuel sensorPort) threads = .ok () { threads with
      sys := u, rpc := .handling (decide (waited = 0)) } := by
    show rpcStep P fuel sensorPort threads = _
    simp only [rpcStep, bind_apply, Prog.get, hrpc, call, Prog.zoom, hwait, Prog.modify]
  have h₂ : ∀ taken, Threads.step P () (.rpc fuel sensorPort)
      { threads with sys := u, rpc := .handling taken } = .ok () { threads with
        self := self₂, sys := w, rpc := .posting taken } := by
    intro taken
    show rpcStep P fuel sensorPort _ = _
    simp only [rpcStep, bind_apply, Prog.get, call, Prog.zoom, hprocess, Prog.modify]
  have h₃ : ∀ taken, Threads.step P () (.rpc fuel sensorPort)
      { threads with self := self₂, sys := w, rpc := .posting taken } = .ok () { threads with
        self := self₂, sys := x } := by
    intro taken
    show rpcStep P fuel sensorPort _ = _
    simp only [rpcStep, bind_apply, Prog.get, call, Prog.zoom, hsemPost, Prog.modify, hrpc]
  exact (bind_eq_of_ok h₁).trans ((bind_eq_of_ok (h₂ _)).trans (bind_eq_of_ok (h₃ _)))

end Alone

end Threads

end DemoIotApp
