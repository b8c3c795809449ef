import DemoIotApp.TokenConservation

/-!
# Interleavings as sequential runs

As long as no `sem_wait` fails, the semaphore leaves the two threads no choice: the control
thread comes to its end before the first message is handled, and after that one call of the
sensor follows the other. What is true of every sequential run is then true of every
interleaving.
-/

namespace DemoIotApp

open Library Prog

/-! ## Traces only grow -/

/-- The program adds to the trace and removes nothing from it. -/
abbrev Grows {α : Type} (m : Prog Stop (Sys World) α) : Prop := Emits (fun _ ↦ True) m

section Grows

variable {P : Platform} {fuel : ℕ}

theorem PostsNothing.grows {α : Type} {m : Prog Stop (Sys World) α} (h : PostsNothing m) :
    Grows m :=
  h.mono fun _ _ ↦ trivial

theorem grows_semPost : Grows semPost := by
  intro s
  obtain ⟨ret, -, hpost⟩ := semPost_eq_ok s
  rw [hpost]
  exact ⟨[_], rfl, by simp⟩

theorem grows_initStep (step : InitStep) (self : CcFsm) (options : ConnectData) :
    Grows (step.run P fuel self options) := by
  by_cases hstep : step = .semPost
  · subst hstep
    exact grows_semPost.bind fun _ ↦ Emits.pure _
  · exact (postsNothing_initStep hstep self options).grows

theorem grows_runSteps (steps : List InitStep) (self : CcFsm) (options : ConnectData) :
    Grows (runSteps P fuel steps self options) := by
  induction steps generalizing self options with
  | nil => exact Emits.pure _
  | cons step steps ih =>
      exact (grows_initStep step self options).bind fun r ↦ Emits.ite (Emits.pure _) (ih _ _)

theorem grows_run : Grows (run P fuel) := by
  refine postsNothing_ccFsmCtor.grows.bind fun r ↦ Emits.ite (Emits.pure _) ?_
  rw [handleCcFsmInit_eq_runSteps]
  exact (grows_runSteps _ _ _).bind fun _ ↦ Emits.pure _

end Grows

/-! ## Where the threads are in a sequential run -/

/-- The loops of a call are observed for so many turns, and the sensor has left one of these
messages in the port. -/
def Turn.Within (fuel : ℕ) (ports : List SensorPort) : Turn → Prop
  | .control fuel' => fuel' = fuel
  | .rpc fuel' sensorPort => fuel' = fuel ∧ sensorPort ∈ ports

/-! ## The messages of an interleaving -/

/-- Where the RPC thread is behind a turn, when its `sem_wait` succeeds. -/
def Rpc.next : Rpc → Turn → Rpc
  | rpc, .control _ => rpc
  | .idle, .rpc _ _ => .handling true
  | .handling taken, .rpc _ _ => .posting taken
  | .posting _, .rpc _ _ => .idle

/-- The handler is what looks into the dataport. -/
def Rpc.reads : Rpc → Turn → List SensorPort
  | _, .control _ => []
  | .idle, .rpc _ _ => []
  | .handling _, .rpc _ sensorPort => [sensorPort]
  | .posting _, .rpc _ _ => []

def handledFrom : Rpc → List Turn → List SensorPort
  | _, [] => []
  | rpc, turn :: turns => rpc.reads turn ++ handledFrom (rpc.next turn) turns

/-- The messages that are handled in these turns, in their order. -/
def handled (turns : List Turn) : List SensorPort := handledFrom .idle turns

theorem handledFrom_concat (rpc : Rpc) (turns : List Turn) (turn : Turn) :
    handledFrom rpc (turns ++ [turn]) =
      handledFrom rpc turns ++ (turns.foldl Rpc.next rpc).reads turn := by
  induction turns generalizing rpc with
  | nil => exact List.append_nil _
  | cons first turns ih =>
      rw [List.cons_append, handledFrom, handledFrom, ih, List.append_assoc, List.foldl_cons]

theorem handled_concat (turns : List Turn) (turn : Turn) :
    handled (turns ++ [turn]) = handled turns ++ (turns.foldl Rpc.next .idle).reads turn :=
  handledFrom_concat .idle turns turn

theorem reads_subset {fuel : ℕ} {ports : List SensorPort} {turn : Turn}
    (hturn : turn.Within fuel ports) (rpc : Rpc) : rpc.reads turn ⊆ ports := by
  cases turn with
  | control => cases rpc <;> exact List.nil_subset ports
  | rpc fuel sensorPort =>
      cases rpc with
      | idle => exact List.nil_subset ports
      | handling => exact List.cons_subset.mpr ⟨hturn.2, List.nil_subset ports⟩
      | posting => exact List.nil_subset ports

namespace Threads

/-- What the control thread has still to do. -/
def restOfRun (P : Platform) (fuel : ℕ) (threads : Threads) :
    Prog Stop (Sys World) (ℤ × CcFsm) :=
  match threads.control with
  | .start => DemoIotApp.run P fuel
  | .init steps => do
      let (ret, self) ← runSteps P fuel steps threads.self threads.options
      return (if ret ≠ 0 then -1 else 0, self)
  | .failed => return (-1, threads.self)

/-- The threads are at a point that a sequential run goes through: in `run`, between two calls
of the sensor, or behind the `sem_wait` or the handler of a call. These are the messages that
were handled before. -/
inductive Sequential (P : Platform) (fuel : ℕ) (ports : List SensorPort) (start : Sys World)
    (threads : Threads) : List SensorPort → Prop
  | running (hcontrol : threads.control ≠ .init [])
      (hoptions : threads.control = .start → threads.options = ConnectData.initializer)
      (hrun : threads.restOfRun P fuel threads.sys = DemoIotApp.run P fuel start) :
      Sequential P fuel ports start threads []
  | idle (messages : List SensorPort) (hcontrol : threads.control = .init [])
      (hrpc : threads.rpc = .idle) (hports : messages ⊆ ports)
      (hserved : runAndServe P fuel messages start = .ok threads.self threads.sys) :
      Sequential P fuel ports start threads messages
  | handling (messages : List SensorPort) (s : Sys World) (sensorPort : SensorPort)
      {taken : Bool} (hcontrol : threads.control = .init [])
      (hrpc : threads.rpc = .handling taken) (hports : messages ++ [sensorPort] ⊆ ports)
      (hserved : runAndServe P fuel messages start = .ok threads.self s)
      (hwait : semWait s = .ok 0 threads.sys) : Sequential P fuel ports start threads messages
  | posting (messages : List SensorPort) (self : CcFsm) (s t : Sys World)
      (sensorPort : SensorPort) (ret : ℤ) {taken : Bool} (hcontrol : threads.control = .init [])
      (hrpc : threads.rpc = .posting taken) (hports : messages ++ [sensorPort] ⊆ ports)
      (hserved : runAndServe P fuel messages start = .ok self s) (hwait : semWait s = .ok 0 t)
      (hprocess : processMessage P fuel self sensorPort t = .ok (ret, threads.self) threads.sys) :
      Sequential P fuel ports start threads (messages ++ [sensorPort])

/-- A part of a sequential run with such messages leaves this trace. -/
def TraceOfRun (P : Platform) (fuel : ℕ) (ports : List SensorPort) (start s : Sys World) : Prop :=
  ∃ messages, messages ⊆ ports ∧ s.trace <+: (runAndServe P fuel messages start).state.trace

/-- Where an interleaving stops: the thread whose turn it is cannot go on, or the sequential run
with these messages stops as well. -/
def StopsIn (P : Platform) (fuel : ℕ) (ports : List SensorPort) (start : Sys World)
    (messages : List SensorPort) (s : Sys World) : Prop :=
  (∃ threads : Threads, threads.Sequential P fuel ports start messages ∧
    s.trace = threads.sys.trace) ∨
  messages ⊆ ports ∧ ∃ e, runAndServe P fuel messages start = .stop e s

section Sequential

variable {P : Platform} {fuel : ℕ} {start s t u v : Sys World} {threads threads' : Threads}
  {messages ports : List SensorPort} {self self' : CcFsm} {sensorPort : SensorPort} {ret : ℤ}

theorem prefix_of_grows {α : Type} {m : Prog Stop (Sys World) α} (h : Grows m) (s : Sys World) :
    s.trace <+: (m s).state.trace := by
  obtain ⟨es, htrace, -⟩ := h s
  exact ⟨es, htrace.symm⟩

theorem runAndServe_append (h : runAndServe P fuel messages start = .ok self s)
    (sensorPort : SensorPort) :
    runAndServe P fuel (messages ++ [sensorPort]) start =
      serveMessage P fuel self sensorPort s := by
  obtain ⟨⟨ret, self₁⟩, s₁, hrun, hserve⟩ := bind_eq_ok_iff.mp h
  have hserve : messages.foldlM (serveMessage P fuel) self₁ s₁ = .ok self s := hserve
  calc runAndServe P fuel (messages ++ [sensorPort]) start
      = serveMessages P fuel self₁ (messages ++ [sensorPort]) s₁ := bind_eq_of_ok hrun
    _ = (messages.foldlM (serveMessage P fuel) self₁ >>= fun self ↦
          [sensorPort].foldlM (serveMessage P fuel) self) s₁ := by
        rw [serveMessages, List.foldlM_append]
    _ = [sensorPort].foldlM (serveMessage P fuel) self s := bind_eq_of_ok hserve
    _ = serveMessage P fuel self sensorPort s := by
        simp only [List.foldlM_cons, List.foldlM_nil, bind_pure]

theorem serveMessage_eq (hwait : semWait s = .ok ret t) (sensorPort : SensorPort) :
    serveMessage P fuel self sensorPort s =
      (processMessage P fuel self sensorPort >>= fun r ↦ semPost >>= fun _ ↦ pure r.2) t := by
  rw [serveMessage, cloudConnectorRpcWrite]
  simp only [handleCcFsmNewMessage, bind_assoc, pure_bind]
  exact bind_eq_of_ok hwait

theorem state_serveMessage (hwait : semWait s = .ok ret t) (sensorPort : SensorPort) :
    (processMessage P fuel self sensorPort t).state.trace <+:
      (serveMessage P fuel self sensorPort s).state.trace := by
  rw [serveMessage_eq hwait]
  cases hprocess : processMessage P fuel self sensorPort t with
  | ok r u =>
      rw [bind_eq_of_ok hprocess]
      exact prefix_of_grows (grows_semPost.bind fun _ ↦ Emits.pure _) u
  | stop e u =>
      rw [bind_eq_of_stop hprocess]
      exact List.prefix_rfl

/-- Without a message the sequential run is `run`. -/
theorem prefix_runAndServe_nil (h : s.trace <+: (DemoIotApp.run P fuel start).state.trace) :
    s.trace <+: (runAndServe P fuel [] start).state.trace := by
  refine h.trans ?_
  unfold runAndServe
  cases hrun : DemoIotApp.run P fuel start with
  | ok r t =>
      rw [bind_eq_of_ok hrun]
      exact List.prefix_rfl
  | stop e t =>
      rw [bind_eq_of_stop hrun]
      exact List.prefix_rfl

theorem Sequential.rest (h : threads.Sequential P fuel ports start messages)
    (hcontrol : threads.control ≠ .init []) : messages = [] ∧
    (threads.control = .start → threads.options = ConnectData.initializer) ∧
      threads.restOfRun P fuel threads.sys = DemoIotApp.run P fuel start := by
  cases h with
  | running _ hoptions hrun => exact ⟨rfl, hoptions, hrun⟩
  | idle _ hdone => exact absurd hdone hcontrol
  | handling _ _ _ hdone => exact absurd hdone hcontrol
  | posting _ _ _ _ _ _ hdone => exact absurd hdone hcontrol

theorem Sequential.ctor (h : threads.Sequential P fuel ports start messages)
    (hcontrol : threads.control = .start)
    (hctor : ccFsmCtor fuel threads.sys = .ok (ret, self) t) :
    Sequential P fuel ports start { threads with
      self := self, sys := t
      control := if ret ≠ 0 then .failed else .init InitStep.all } messages := by
  obtain ⟨rfl, hoptions, hrun⟩ := h.rest (by simp [hcontrol])
  rw [restOfRun, hcontrol] at hrun
  have hrest : _ = DemoIotApp.run P fuel start := (bind_eq_of_ok hctor).symm.trans hrun
  dsimp only at hrest
  by_cases hret : ret ≠ 0
  · rw [if_pos hret] at hrest ⊢
    exact .running (by simp) (by simp) hrest
  · rw [if_neg hret, handleCcFsmInit_eq_runSteps, ← hoptions hcontrol] at hrest
    rw [if_neg hret]
    exact .running (by simp [InitStep.all]) (by simp) hrest

theorem Sequential.initStep (h : threads.Sequential P fuel ports start messages) {step : InitStep}
    {steps : List InitStep} {options : ConnectData} (hrpc : threads.rpc = .idle)
    (hcontrol : threads.control = .init (step :: steps))
    (hstep : step.run P fuel threads.self threads.options threads.sys =
      .ok (ret, self, options) t) :
    Sequential P fuel ports start { threads with
      self := self, options := options, sys := t
      control := if ret ≠ 0 then .failed else .init steps } messages := by
  obtain ⟨rfl, -, hrun⟩ := h.rest (by simp [hcontrol])
  rw [restOfRun, hcontrol] at hrun
  have hrest : (runSteps P fuel (step :: steps) threads.self threads.options >>= fun r ↦
      pure (if r.1 ≠ 0 then -1 else 0, r.2)) threads.sys = DemoIotApp.run P fuel start := hrun
  rw [runSteps, bind_assoc, bind_eq_of_ok hstep] at hrest
  dsimp only at hrest
  by_cases hret : ret ≠ 0
  · rw [if_pos hret, pure_bind, if_pos hret] at hrest
    rw [if_pos hret]
    exact .running (by simp) (by simp) hrest
  · rw [if_neg hret] at hrest ⊢
    clear hcontrol hstep hrun
    cases steps with
    | nil => exact .idle [] rfl hrpc (List.nil_subset _) (bind_eq_of_ok hrest.symm)
    | cons next steps => exact .running (by simp) (by simp) hrest

/-- Both threads keep to the points of a sequential run. -/
theorem Sequential.step (hinv : threads.Inv) (h : threads.Sequential P fuel ports start messages)
    {turn : Turn} (hturn : turn.Within fuel ports) (hwait : threads.WaitSucceeds turn)
    (hstep : Threads.step P () turn threads = .ok () threads') :
    threads'.Sequential P fuel ports start (messages ++ threads.rpc.reads turn) ∧
      threads'.rpc = threads.rpc.next turn := by
  cases turn with
  | control fuel' =>
      obtain rfl : fuel' = fuel := hturn
      rcases controlStep_eq_ok hstep with ⟨ret, self, t, hcontrol, hctor, rfl⟩ |
        ⟨step, steps, ret, self, options, t, hcontrol, hrun, rfl⟩
      · rw [Rpc.reads, List.append_nil]
        exact ⟨h.ctor hcontrol hctor, rfl⟩
      · rw [Rpc.reads, List.append_nil]
        exact ⟨h.initStep (hinv.idle (by simp [hcontrol])) hcontrol hrun, rfl⟩
  | rpc fuel' sensorPort =>
      obtain ⟨rfl, hport⟩ := hturn
      have hsnoc : ∀ {messages}, messages ⊆ ports → messages ++ [sensorPort] ⊆ ports :=
        fun hmessages ↦ List.append_subset.mpr ⟨hmessages, by simpa using hport⟩
      rcases rpcStep_eq_ok hstep with ⟨ret, t, hrpc, hsem, rfl⟩ |
        ⟨taken, ret, self, t, hrpc, hprocess, rfl⟩ | ⟨taken, ret, t, hrpc, hpost, rfl⟩
      · obtain rfl : ret = 0 := ((post_semWait _).ok hsem).1.trans (hwait hrpc)
        have hcontrol := hinv.token (semWait_eq_zero hsem).1
        rw [hrpc, Rpc.reads, List.append_nil]
        refine ⟨?_, rfl⟩
        cases h with
        | running hrunning => exact absurd hcontrol hrunning
        | idle _ _ _ hports hserved =>
            exact .handling messages _ sensorPort hcontrol rfl (hsnoc hports) hserved hsem
        | handling _ _ _ _ hrpc' => exact nomatch hrpc.symm.trans hrpc'
        | posting _ _ _ _ _ _ _ hrpc' => exact nomatch hrpc.symm.trans hrpc'
      · have hcontrol := (hinv.gated taken (Or.inl hrpc)).2
        rw [hrpc, Rpc.reads]
        refine ⟨?_, rfl⟩
        cases h with
        | running hrunning => exact absurd hcontrol hrunning
        | idle _ _ hrpc' => exact nomatch hrpc.symm.trans hrpc'
        | handling _ s _ _ _ hports hserved hsem =>
            exact .posting messages _ s _ sensorPort ret hcontrol rfl
              (hsnoc (List.append_subset.mp hports).1) hserved hsem hprocess
        | posting _ _ _ _ _ _ _ hrpc' => exact nomatch hrpc.symm.trans hrpc'
      · have hcontrol := (hinv.gated taken (Or.inr hrpc)).2
        rw [hrpc, Rpc.reads, List.append_nil]
        refine ⟨?_, rfl⟩
        cases h with
        | running hrunning => exact absurd hcontrol hrunning
        | idle _ _ hrpc' => exact nomatch hrpc.symm.trans hrpc'
        | handling _ _ _ _ hrpc' => exact nomatch hrpc.symm.trans hrpc'
        | posting messages self s t' sensorPort' ret' _ _ hports hserved hsem hprocess =>
            refine .idle (messages ++ [sensorPort']) hcontrol rfl hports ?_
            rw [runAndServe_append hserved, serveMessage_eq hsem, bind_eq_of_ok hprocess,
              bind_eq_of_ok hpost]
            rfl

/-- Only a call that has just taken the token is ahead of the messages that were handled. -/
theorem Sequential.trace_cases (h : threads.Sequential P fuel ports start messages) :
    threads.sys.trace <+: (runAndServe P fuel messages start).state.trace ∨
      ∃ s sensorPort, messages ++ [sensorPort] ⊆ ports ∧
        runAndServe P fuel messages start = .ok threads.self s ∧
          semWait s = .ok 0 threads.sys := by
  cases h with
  | running _ _ hrun =>
      have hrest : Grows (threads.restOfRun P fuel) := by
        unfold restOfRun
        split
        · exact grows_run
        · exact (grows_runSteps _ _ _).bind fun _ ↦ Emits.pure _
        · exact Emits.pure _
      exact Or.inl (prefix_runAndServe_nil (hrun ▸ prefix_of_grows hrest threads.sys))
  | idle _ _ _ _ hserved =>
      rw [hserved]
      exact Or.inl List.prefix_rfl
  | handling _ s sensorPort _ _ hports hserved hwait =>
      exact Or.inr ⟨s, sensorPort, hports, hserved, hwait⟩
  | posting messages self s t sensorPort ret _ _ hports hserved hwait hprocess =>
      rw [runAndServe_append hserved]
      have hstate : (processMessage P fuel self sensorPort t).state.trace <+: _ :=
        state_serveMessage hwait sensorPort
      rw [hprocess] at hstate
      exact Or.inl hstate

theorem Sequential.subset (h : threads.Sequential P fuel ports start messages) :
    messages ⊆ ports := by
  cases h with
  | running => exact List.nil_subset ports
  | idle _ _ _ hports => exact hports
  | handling _ _ _ _ _ hports => exact (List.append_subset.mp hports).1
  | posting _ _ _ _ _ _ _ _ hports => exact hports

theorem Sequential.trace (h : threads.Sequential P fuel ports start messages) :
    TraceOfRun P fuel ports start threads.sys := by
  rcases h.trace_cases with htrace | ⟨s, sensorPort, hports, hserved, hwait⟩
  · exact ⟨messages, h.subset, htrace⟩
  · refine ⟨messages ++ [sensorPort], hports, ?_⟩
    rw [runAndServe_append hserved]
    exact (prefix_of_grows ((postsNothing_processMessage _ _).grows) _).trans
      (state_serveMessage hwait _)

/-- Where an interleaving stops, the trace is that of a part of a sequential run as well. -/
theorem StopsIn.trace (h : StopsIn P fuel ports start messages s) :
    TraceOfRun P fuel ports start s := by
  rcases h with ⟨threads, hthreads, htrace⟩ | ⟨hports, e, hstop⟩
  · obtain ⟨messages, hports, hprefix⟩ := hthreads.trace
    exact ⟨messages, hports, htrace ▸ hprefix⟩
  · exact ⟨messages, hports, by rw [hstop]; exact List.prefix_rfl⟩

theorem Sequential.served (h : threads.Sequential P fuel ports start messages)
    (hrpc : threads.rpc = .idle) (hcontrol : threads.control = .init []) :
    runAndServe P fuel messages start = .ok threads.self threads.sys := by
  cases h with
  | running hrunning => exact absurd hcontrol hrunning
  | idle _ _ _ _ hserved => exact hserved
  | handling _ _ _ _ hrpc' => exact nomatch hrpc.symm.trans hrpc'
  | posting _ _ _ _ _ _ _ hrpc' => exact nomatch hrpc.symm.trans hrpc'

theorem StopsIn.subset (h : StopsIn P fuel ports start messages s) : messages ⊆ ports :=
  h.elim (fun ⟨_, hthreads, _⟩ ↦ hthreads.subset) fun h ↦ h.1

/-- A turn that stops has stopped in the call that it makes. -/
theorem call_eq_stop {α : Type} {m : Prog Stop (Sys World) α} {f : α → Prog Stop Threads Unit}
    (hf : ∀ a x, f a x = .ok () (f a x).state) {e : Stop}
    (h : (call m >>= f) threads = .stop e threads') : m threads.sys = .stop e threads'.sys := by
  rw [bind_apply, call, Prog.zoom] at h
  cases hm : m threads.sys with
  | ok a t =>
      rw [hm] at h
      cases (hf a _).symm.trans h
  | stop e' t =>
      rw [hm] at h
      obtain ⟨rfl, rfl⟩ := Outcome.stop.inj h
      rfl

theorem controlStep_eq_stop {e : Stop} (h : controlStep P fuel threads = .stop e threads') :
    threads' = threads ∨ (threads.control = .start ∧
      ccFsmCtor fuel threads.sys = .stop e threads'.sys) ∨
    ∃ step steps, threads.control = .init (step :: steps) ∧
      step.run P fuel threads.self threads.options threads.sys = .stop e threads'.sys := by
  rw [controlStep, bind_eq_of_ok (get_apply threads)] at h
  cases hcontrol : threads.control with
  | start =>
      simp only [hcontrol] at h
      exact Or.inr (Or.inl ⟨rfl, call_eq_stop (fun _ _ ↦ rfl) h⟩)
  | init steps =>
      cases steps with
      | nil =>
          simp only [hcontrol] at h
          exact Or.inl (Outcome.stop.inj h).2.symm
      | cons step steps =>
          simp only [hcontrol] at h
          exact Or.inr (Or.inr ⟨step, steps, rfl, call_eq_stop (fun _ _ ↦ rfl) h⟩)
  | failed =>
      simp only [hcontrol] at h
      exact Or.inl (Outcome.stop.inj h).2.symm

theorem rpcStep_eq_stop {e : Stop} (h : rpcStep P fuel sensorPort threads = .stop e threads') :
    (threads.rpc = .idle ∧ semWait threads.sys = .stop e threads'.sys) ∨
    (∃ taken, threads.rpc = .handling taken ∧
      processMessage P fuel threads.self sensorPort threads.sys = .stop e threads'.sys) ∨
    ∃ taken, threads.rpc = .posting taken ∧ semPost threads.sys = .stop e threads'.sys := by
  rw [rpcStep, bind_eq_of_ok (get_apply threads)] at h
  cases hrpc : threads.rpc with
  | idle =>
      simp only [hrpc] at h
      exact Or.inl ⟨rfl, call_eq_stop (fun _ _ ↦ rfl) h⟩
  | handling taken =>
      simp only [hrpc] at h
      exact Or.inr (Or.inl ⟨taken, rfl, call_eq_stop (fun _ _ ↦ rfl) h⟩)
  | posting taken =>
      simp only [hrpc] at h
      exact Or.inr (Or.inr ⟨taken, rfl, call_eq_stop (fun _ _ ↦ rfl) h⟩)

/-- When a turn stops, the sequential run stops as well, or the thread only waits. -/
theorem Sequential.stop (hinv : threads.Inv) (h : threads.Sequential P fuel ports start messages)
    {turn : Turn} (hturn : turn.Within fuel ports) {e : Stop}
    (hstep : Threads.step P () turn threads = .stop e threads') :
    threads.rpc.reads turn = [] ∧ threads'.sys.trace = threads.sys.trace ∨
      runAndServe P fuel (messages ++ threads.rpc.reads turn) start = .stop e threads'.sys := by
  cases turn with
  | control fuel' =>
      obtain rfl : fuel' = fuel := hturn
      rcases controlStep_eq_stop hstep with rfl | ⟨hcontrol, hctor⟩ |
        ⟨step, steps, hcontrol, hrun⟩
      · exact Or.inl ⟨rfl, rfl⟩
      · obtain ⟨rfl, -, hrest⟩ := h.rest (by simp [hcontrol])
        rw [restOfRun, hcontrol] at hrest
        exact Or.inr (bind_eq_of_stop (hrest.symm.trans (bind_eq_of_stop hctor)))
      · obtain ⟨rfl, -, hrest⟩ := h.rest (by simp [hcontrol])
        rw [restOfRun, hcontrol] at hrest
        exact Or.inr (bind_eq_of_stop
          (hrest.symm.trans (bind_eq_of_stop (bind_eq_of_stop hrun))))
  | rpc fuel' sensorPort =>
      obtain ⟨rfl, hport⟩ := hturn
      rcases rpcStep_eq_stop hstep with ⟨hrpc, hwait⟩ | ⟨taken, hrpc, hprocess⟩ |
        ⟨taken, -, hpost⟩
      · obtain ⟨-, -, -, hsys⟩ := (post_semWait threads.sys).stop hwait
        exact Or.inl ⟨by rw [hrpc, Rpc.reads], by rw [hsys]⟩
      · have hcontrol := (hinv.gated taken (Or.inl hrpc)).2
        rw [hrpc, Rpc.reads]
        cases h with
        | running hrunning => exact absurd hcontrol hrunning
        | idle _ _ hrpc' => exact nomatch hrpc.symm.trans hrpc'
        | handling _ s _ _ _ _ hserved hsem =>
            rw [runAndServe_append hserved, serveMessage_eq hsem]
            exact Or.inr (bind_eq_of_stop hprocess)
        | posting _ _ _ _ _ _ _ hrpc' => exact nomatch hrpc.symm.trans hrpc'
      · obtain ⟨ret, -, hok⟩ := semPost_eq_ok threads.sys
        exact nomatch hok.symm.trans hpost

end Sequential

/-! ## Every interleaving -/

section Interleave

variable {P : Platform} {fuel : ℕ} {ports : List SensorPort}

theorem sequential_initial (w : World) : Sequential P fuel ports (initial w).sys (initial w) [] :=
  .running (by simp [initial]) (fun _ ↦ rfl) rfl

/-- An interleaving goes through a sequential run with the messages that its turns handle. -/
theorem post_interleave_sequential (hP : P.ProcessesPackets) (w : World) {turns : List Turn}
    (hturns : ∀ turn ∈ turns, turn.Within fuel ports)
    (hwaits : WaitsSucceed P turns (initial w)) :
    Post (interleave P turns) (initial w)
      (fun _ threads ↦ threads.Sequential P fuel ports (initial w).sys (handled turns))
      fun _ threads ↦ ∃ taken, taken <+: turns ∧
        StopsIn P fuel ports (initial w).sys (handled taken) threads.sys := by
  have hrun := post_foldlM_taken (I := fun taken _ threads ↦ threads.Inv ∧
      threads.Sequential P fuel ports (initial w).sys (handled taken) ∧
        threads.rpc = taken.foldl Rpc.next .idle)
    (E := fun taken _ threads ↦
      StopsIn P fuel ports (initial w).sys (handled taken) threads.sys) ?_ turns [] ()
    (initial w) ⟨inv_initial w, sequential_initial w, rfl⟩ (hwaits.and_mem hturns)
  · exact hrun.mono (fun _ _ h ↦ h.2.1) fun _ _ h ↦ h
  · rintro taken _ threads turn ⟨hinv, h, hrpc⟩ ⟨hwait, hturn⟩
    rw [handled_concat, List.foldl_append, ← hrpc]
    refine post_intro (fun _ threads' hstep ↦ ?_) fun e threads' hstep ↦ ?_
    · obtain ⟨hseq, hnext⟩ := h.step hinv hturn hwait hstep
      exact ⟨hinv.step hP hwait hstep, hseq, hnext⟩
    · rcases h.stop hinv hturn hstep with ⟨hnone, htrace⟩ | hstop
      · rw [hnone, List.append_nil]
        exact Or.inl ⟨threads, h, htrace⟩
      · exact Or.inr ⟨List.append_subset.mpr ⟨h.subset, reads_subset hturn _⟩, e, hstop⟩

/-- An interleaving in which no `sem_wait` fails is a sequential run: its trace is that of one or
of a part of one, and between two calls the threads are in the state after some messages. -/
theorem interleave_sequential (hP : P.ProcessesPackets) (w : World) {turns : List Turn}
    (hturns : ∀ turn ∈ turns, turn.Within fuel ports)
    (hwaits : WaitsSucceed P turns (initial w)) :
    Post (interleave P turns) (initial w)
      (fun _ threads ↦ TraceOfRun P fuel ports (initial w).sys threads.sys ∧
        (threads.rpc = .idle → threads.control = .init [] → ∃ messages, messages ⊆ ports ∧
          runAndServe P fuel messages (initial w).sys = .ok threads.self threads.sys))
      fun _ threads ↦ TraceOfRun P fuel ports (initial w).sys threads.sys := by
  exact (post_interleave_sequential hP w hturns hwaits).mono
    (fun _ _ h ↦ ⟨h.trace, fun hrpc hcontrol ↦ ⟨_, h.subset, h.served hrpc hcontrol⟩⟩)
    fun _ _ ⟨_, _, h⟩ ↦ h.trace

theorem within_initialiseAndPing :
    ∀ turn ∈ initialiseAndPing, turn.Within 5 [sensorPortOf [0xC0, 0]] := by
  intro turn hturn
  rcases List.mem_append.mp hturn with hturn | hturn
  · rw [List.eq_of_mem_replicate hturn]
    rfl
  · rw [List.eq_of_mem_replicate hturn]
    exact ⟨rfl, List.mem_singleton_self _⟩

theorem interleave_sequential_initialiseAndPing :
    ∃ threads messages, messages ⊆ [sensorPortOf [0xC0, 0]] ∧
      interleave (Platform.reference false) initialiseAndPing
        (initial (World.steady [0x20, 2, 0, 0])) = .ok () threads ∧
      runAndServe (Platform.reference false) 5 messages
        (initial (World.steady [0x20, 2, 0, 0])).sys = .ok threads.self threads.sys := by
  have hview : (interleave (Platform.reference false) initialiseAndPing
      (initial (World.steady [0x20, 2, 0, 0]))).view? (fun _ threads ↦ (threads.rpc,
        threads.isDone)) = some (.idle, true) := by decide +kernel
  obtain ⟨_, threads, hrun, hresult⟩ := Outcome.view?_eq_some_iff.mp hview
  obtain ⟨hrpc, hcontrol⟩ := Prod.mk.inj hresult
  have hcontrol := isDone_eq_true.mp hcontrol
  obtain ⟨-, hserved⟩ := (interleave_sequential (Platform.reference_processesPackets false)
    (World.steady [0x20, 2, 0, 0]) (by exact within_initialiseAndPing) (by decide +kernel)).ok hrun
  obtain ⟨messages, hports, hserved⟩ := hserved hrpc hcontrol
  exact ⟨threads, messages, hports, hrun, hserved⟩

end Interleave

/-! ## Every sequential run -/

section Converse

variable {P : Platform} {fuel : ℕ} {threads threads' : Threads} {self : CcFsm} {t : Sys World}

theorem interleave_append {turns : List Turn} (h : interleave P turns threads = .ok () threads')
    (turns' : List Turn) :
    interleave P (turns ++ turns') threads = interleave P turns' threads' := by
  rw [interleave, List.foldlM_append]
  exact bind_eq_of_ok h

theorem interleave_serveMessages {messages : List SensorPort} (hrpc : threads.rpc = .idle)
    (h : serveMessages P fuel threads.self messages threads.sys = .ok self t) :
    interleave P (messages.flatMap fun message ↦ List.replicate 3 (.rpc fuel message)) threads =
      .ok () { threads with self := self, sys := t } := by
  induction messages generalizing threads with
  | nil =>
      obtain ⟨rfl, rfl⟩ := Outcome.ok.inj h
      rfl
  | cons message messages ih =>
      obtain ⟨self₁, s₁, hserve, hrest⟩ := bind_eq_ok_iff.mp h
      obtain ⟨⟨ret, self₂⟩, s₂, hwrite, hreturn⟩ := bind_eq_ok_iff.mp hserve
      obtain ⟨rfl, rfl⟩ := Outcome.ok.inj hreturn
      rw [List.flatMap_cons, interleave_append (interleave_rpc hrpc hwrite)]
      exact ih hrpc hrest

/-- The turns of the control thread for the whole of `run`. -/
theorem interleave_run (w : World) {ret : ℤ}
    (h : DemoIotApp.run P fuel (initial w).sys = .ok (ret, self) t) :
    ∃ n threads, interleave P (List.replicate n (.control fuel)) (initial w) = .ok () threads ∧
      threads.rpc = .idle ∧ threads.self = self ∧ threads.sys = t := by
  obtain ⟨⟨ret₁, self₁⟩, s₁, hctor, hrest⟩ := bind_eq_ok_iff.mp h
  have hturn : Threads.step P () (.control fuel) (initial w) = .ok () { initial w with
      self := self₁, sys := s₁
      control := if ret₁ ≠ 0 then .failed else .init InitStep.all } := by
    show controlStep P fuel (initial w) = _
    simp only [controlStep, bind_apply, Prog.get, initial, call, Prog.zoom, Prog.modify] at hctor ⊢
    rw [hctor]
  by_cases hret : ret₁ ≠ 0
  · simp only [if_pos hret] at hrest hturn
    obtain ⟨-, rfl, rfl⟩ := Outcome.ok_pair_inj hrest
    exact ⟨1, _, bind_eq_of_ok hturn, rfl, rfl, rfl⟩
  · simp only [if_neg hret] at hrest hturn
    obtain ⟨⟨ret₂, self₂⟩, s₂, hinit, hreturn⟩ := bind_eq_ok_iff.mp hrest
    obtain ⟨-, rfl, rfl⟩ := Outcome.ok_pair_inj hreturn
    rw [handleCcFsmInit_eq_runSteps] at hinit
    have hsteps : Threads.control { initial w with
        self := self₁, sys := s₁, control := .init InitStep.all } = .init InitStep.all := rfl
    obtain ⟨n, options, hrun⟩ := interleave_init fuel hsteps hinit
    have hall : interleave P (List.replicate (n + 1) (.control fuel)) (initial w) = _ :=
      (bind_eq_of_ok hturn).trans hrun
    exact ⟨n + 1, _, hall, rfl, rfl, rfl⟩

/-- Every sequential run that returns is one of the interleavings. -/
theorem sequential_interleave (w : World) {messages : List SensorPort}
    (h : runAndServe P fuel messages (initial w).sys = .ok self t) :
    ∃ turns threads, (∀ turn ∈ turns, turn.Within fuel messages) ∧
      interleave P turns (initial w) = .ok () threads ∧ threads.rpc = .idle ∧
        threads.self = self ∧ threads.sys = t := by
  obtain ⟨⟨ret, self₁⟩, s₁, hrun, hserve⟩ := bind_eq_ok_iff.mp h
  obtain ⟨n, threads, hinit, hrpc, rfl, rfl⟩ := interleave_run w hrun
  refine ⟨List.replicate n (.control fuel) ++
      messages.flatMap fun message ↦ List.replicate 3 (.rpc fuel message),
    { threads with self := self, sys := t }, fun turn hturn ↦ ?_, ?_, hrpc, rfl, rfl⟩
  · rcases List.mem_append.mp hturn with hturn | hturn
    · rw [List.eq_of_mem_replicate hturn, Turn.Within]
    · obtain ⟨message, hmem, hturn⟩ := List.mem_flatMap.mp hturn
      rw [List.eq_of_mem_replicate hturn]
      exact ⟨rfl, hmem⟩
  · rw [interleave_append hinit]
    exact interleave_serveMessages hrpc hserve

theorem sequential_interleave_ping :
    ∃ turns threads, (∀ turn ∈ turns, turn.Within 5 [sensorPortOf [0xC0, 0]]) ∧
      interleave (Platform.reference false) turns (initial (World.steady [0x20, 2, 0, 0])) =
        .ok () threads ∧ threads.rpc = .idle ∧ threads.sys.world.token = true := by
  have hview : (runAndServe (Platform.reference false) 5 [sensorPortOf [0xC0, 0]]
      (initial (World.steady [0x20, 2, 0, 0])).sys).view? (fun _ s ↦ s.world.token) =
        some true := by decide +kernel
  obtain ⟨self, t, hserved, htoken⟩ := Outcome.view?_eq_some_iff.mp hview
  obtain ⟨turns, threads, hturns, hrun, hrpc, -, hsys⟩ := sequential_interleave _ hserved
  exact ⟨turns, threads, hturns, hrun, hrpc, hsys ▸ htoken⟩

end Converse

end Threads

end DemoIotApp
