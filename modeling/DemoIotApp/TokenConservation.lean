import DemoIotApp.ConnectAccepted
import DemoIotApp.SemaphoreGate

/-!
# The token over whole interleavings

The trace tells where the token is. Nothing but `sem_post` gives one, so that after the
initialisation a call gets in exactly as long as no `sem_post` before it has failed.
-/

namespace DemoIotApp

open Library Prog

/-! ## Programs that do not post -/

/-- The event is no `sem_post`. -/
def Event.NoPost (e : Event World) : Prop := ∀ rc, e ≠ .call .semPost rc

theorem Event.IsReceive.noPost {e : Event World} (h : e.IsReceive) : e.NoPost := by
  cases e <;> first | exact h.elim | exact nofun

theorem Event.IsSend.noPost {e : Event World} (h : e.IsSend) : e.NoPost := by
  cases e <;> first | exact h.elim | exact nofun

/-- The program adds to the trace and never calls `sem_post`. -/
abbrev PostsNothing {α : Type} (m : Prog Stop (Sys World) α) : Prop := Emits Event.NoPost m

section PostsNothing

variable {P : Platform} {fuel : ℕ}

theorem postsNothing_osCall {call : Call} (hcall : call ≠ .semPost) :
    PostsNothing (osCall call) :=
  fun _ ↦ ⟨[_], rfl, by simpa [Event.NoPost] using hcall⟩

theorem postsNothing_semWait : PostsNothing semWait := by
  intro s
  cases h : semWait s with
  | ok ret t =>
      obtain ⟨-, -, rfl⟩ := (post_semWait s).ok h
      exact ⟨[_], rfl, by simp [Event.NoPost]⟩
  | stop e t =>
      obtain ⟨-, -, -, rfl⟩ := (post_semWait s).stop h
      exact Extends.of_trace_eq rfl

theorem postsNothing_waitForNetworkStackInit : PostsNothing (waitForNetworkStackInit P fuel) := by
  induction fuel with
  | zero => exact Emits.stop _
  | succ fuel ih =>
      apply (Emits.onWorld _).bind
      rintro (_ | _ | _)
      · exact Emits.pure _
      · exact Emits.pure _
      · exact ih

theorem postsNothing_waitForConnection (handleId : ℤ) :
    PostsNothing (waitForConnection P handleId fuel) := by
  induction fuel with
  | zero => exact Emits.stop _
  | succ fuel ih =>
      refine (postsNothing_osCall (by simp)).bind fun ret ↦ Emits.ite (Emits.pure _) ?_
      refine (postsNothing_osCall (by simp)).bind fun ret ↦ Emits.ite (Emits.pure _) ?_
      refine (Emits.onWorld _).bind fun count ↦ Emits.ite ih (Emits.ite (Emits.pure _) ?_)
      refine (Emits.onWorld _).bind fun event ↦ Emits.ite (Emits.pure _) ?_
      refine Emits.ite (Emits.pure _) (Emits.ite (Emits.pure _) ?_)
      exact Emits.ite (Emits.pure _) (Emits.ite (Emits.pure _) ih)

theorem postsNothing_connectSocket : PostsNothing (connectSocket P fuel) := by
  have hclose : ∀ handleId ret : ℤ, PostsNothing (do
      let _ ← osCall (.socketClose handleId)
      return ret) :=
    fun handleId ret ↦ (postsNothing_osCall (by simp)).bind fun _ ↦ Emits.pure _
  refine (postsNothing_osCall (by simp)).bind fun ret ↦ Emits.ite (Emits.pure _) ?_
  refine (Emits.onWorld _).bind fun handleId ↦ ?_
  refine (postsNothing_osCall (by simp)).bind fun ret ↦ Emits.ite (hclose handleId ret) ?_
  refine (postsNothing_waitForConnection handleId).bind fun ret ↦ ?_
  exact Emits.ite (hclose handleId ret) (Emits.pure _)

theorem postsNothing_readSetting (parameter : ConfigParameter) :
    PostsNothing (readSetting parameter) := by
  intro s
  rw [readSetting, bind_eq_of_ok (get_apply s)]
  exact Emits.ite (Emits.pure _) (Emits.stop _) s

theorem postsNothing_glueTlsInit : PostsNothing (glueTlsInit P fuel) := by
  refine (postsNothing_osCall (by simp)).bind fun ret ↦ Emits.ite (Emits.pure _) ?_
  refine (postsNothing_readSetting _).bind fun _ ↦ ?_
  refine (postsNothing_osCall (by simp)).bind fun ret ↦ Emits.ite (Emits.pure _) ?_
  refine postsNothing_waitForNetworkStackInit.bind fun ret ↦ Emits.ite (Emits.pure _) ?_
  exact postsNothing_connectSocket.bind fun ret ↦ Emits.ite (Emits.pure _) (Emits.pure _)

theorem postsNothing_doTlsHandshake : PostsNothing doTlsHandshake := by
  have hhandshake : PostsNothing glueTlsHandshake :=
    (postsNothing_osCall (by simp)).bind fun ret ↦ Emits.ite (Emits.pure _) (Emits.pure _)
  exact hhandshake.bind fun ret ↦ Emits.pure _

theorem postsNothing_getConfigParameter (parameter : ConfigParameter) :
    PostsNothing (getConfigParameter parameter) :=
  (postsNothing_osCall (by simp)).bind fun _ _ ↦ Extends.refl _ _

theorem postsNothing_setMqttOptions (options : ConnectData) :
    PostsNothing (setMqttOptions options) := by
  refine (postsNothing_getConfigParameter _).bind fun _ ↦ Emits.ite (Emits.pure _) ?_
  refine (postsNothing_getConfigParameter _).bind fun _ ↦ Emits.ite (Emits.pure _) ?_
  exact (postsNothing_getConfigParameter _).bind fun _ ↦ Emits.ite (Emits.pure _) (Emits.pure _)

theorem postsNothing_readConnectSettings (client : MqttClient World) :
    PostsNothing (readConnectSettings client) := by
  refine Emits.ite (Emits.pure _) ?_
  refine (postsNothing_readSetting _).bind fun _ ↦ ?_
  exact (postsNothing_readSetting _).bind fun _ ↦ postsNothing_readSetting _

theorem postsNothing_doMqttConnect (client : MqttClient World) (options : ConnectData) :
    PostsNothing (doMqttConnect P fuel client options) :=
  (postsNothing_readConnectSettings client).bind fun _ ↦
    ((emits_mqttClientConnect P fuel client (some options) ⟨0, 0⟩ none).mono fun _ he ↦
      he.elim Event.IsReceive.noPost Event.IsSend.noPost).bind fun _ ↦ Emits.pure _

theorem postsNothing_initStep {step : InitStep} (hstep : step ≠ .semPost) (self : CcFsm)
    (options : ConnectData) : PostsNothing (step.run P fuel self options) := by
  cases step with
  | serverIp => exact (postsNothing_getConfigParameter _).bind fun _ ↦ Emits.pure _
  | serverPort => exact (postsNothing_getConfigParameter _).bind fun _ ↦ Emits.pure _
  | serverCert => exact (postsNothing_getConfigParameter _).bind fun _ ↦ Emits.pure _
  | mqttOptions => exact (postsNothing_setMqttOptions _).bind fun _ ↦ Emits.pure _
  | tlsInit =>
      refine (postsNothing_readSetting _).bind fun _ ↦ ?_
      exact postsNothing_glueTlsInit.bind fun _ ↦ Emits.pure _
  | tlsHandshake => exact postsNothing_doTlsHandshake.bind fun _ ↦ Emits.pure _
  | mqttConnect => exact (postsNothing_doMqttConnect _ _).bind fun _ ↦ Emits.pure _
  | semPost => exact absurd rfl hstep

theorem postsNothing_ccFsmCtor : PostsNothing (ccFsmCtor fuel) :=
  (postsNothing_osCall (by simp)).bind fun _ ↦ Emits.ite (Emits.pure _) (Emits.pure _)

theorem postsNothing_loadBytes (memory : List UInt8) (len : ℕ) :
    PostsNothing (loadBytes memory len) :=
  Emits.ite (Emits.pure _) (Emits.stop _)

theorem postsNothing_doProcessPublish (self : CcFsm) : PostsNothing (doProcessPublish P self) := by
  have hcopy : ∀ self topic, PostsNothing (copyPublish P self topic) := by
    intro self topic
    refine Emits.ite (Emits.pure _) ((postsNothing_loadBytes _ _).bind fun _ ↦ ?_)
    exact Emits.ite (Emits.pure _) ((postsNothing_loadBytes _ _).bind fun _ ↦ Emits.pure _)
  refine Emits.ite (Emits.pure _) ((Emits.debugAssert _ _).bind fun _ ↦ ?_)
  exact (Emits.debugAssert _ _).bind fun _ ↦ Emits.ite (Emits.pure _) (hcopy _ _)

theorem postsNothing_relayPublish (self : CcFsm) : PostsNothing (relayPublish P fuel self) := by
  have hsend : ∀ serialize (client : MqttClient World),
      PostsNothing (sendSerialized serialize client) :=
    fun _ client ↦ emits_sendSerialized client fun _ _ _ _ _ _ _ ↦ nofun
  have hassign : ∀ (client : MqttClient World) msg, PostsNothing (assignPacketId P client msg) :=
    fun client msg ↦ Emits.ite (((Emits.debugAssert _ _).bind fun _ ↦ Emits.pure _).bind
      fun _ ↦ Emits.pure _) (Emits.pure _)
  have hcheck : ∀ (client : MqttClient World) qos,
      PostsNothing (checkPublishQos P fuel client qos none) :=
    fun client qos ↦ emits_checkPublishQos (fun _ ↦ Event.IsReceive.noPost)
      (fun client ↦ (emits_sendPingReq_isSend client).mono fun _ ↦ Event.IsSend.noPost)
      (fun _ _ _ client ↦ hsend _ client) fuel client qos none
  have hpublish : PostsNothing (mqttClientPublish P fuel self.memory self.client
      self.tmpDataPublish.szTopic self.tmpDataPublish.msg none) := by
    refine Emits.ite (Emits.pure _) ((hassign _ _).bind fun _ ↦ (hsend _ _).bind fun _ ↦ ?_)
    refine Emits.ite (Emits.pure _) ((hcheck _ _).bind fun _ ↦ ?_)
    exact Emits.ite (Emits.pure _) (Emits.pure _)
  have hdisconnect : ∀ client : MqttClient World, PostsNothing (mqttClientDisconnect P client) :=
    fun client ↦ (Emits.ite (Emits.pure _) ((emits_sendWithTimeout _ _ _
      fun _ _ _ _ ↦ nofun).bind fun _ ↦ Emits.pure _)).bind fun _ ↦ Emits.pure _
  exact hpublish.bind fun _ ↦ Emits.ite ((hdisconnect _).bind fun _ ↦ Emits.pure _) (Emits.pure _)

theorem postsNothing_processMessage (self : CcFsm) (sensorPort : SensorPort) :
    PostsNothing (processMessage P fuel self sensorPort) := by
  have hconnack : ∀ server : MqttServer World, PostsNothing (mqttServerSendConnAck P server 0 0) :=
    fun _ ↦ Emits.ite (Emits.pure _) ((emits_sendWithTimeout _ _ _ fun _ _ _ _ ↦ nofun).bind
      fun _ ↦ Emits.pure _)
  have hconnect : ∀ self, PostsNothing (handleMqttConnect P self) :=
    fun _ ↦ (hconnack _).bind fun _ ↦ Emits.pure _
  have hpublish : ∀ self, PostsNothing (handleMqttPublish P fuel self) :=
    fun _ ↦ (postsNothing_doProcessPublish _).bind fun _ ↦
      Emits.ite (Emits.pure _) (postsNothing_relayPublish _)
  have htype : ∀ memory (server : MqttServer World),
      PostsNothing (mqttServerReadType memory server) := by
    intro memory server
    unfold mqttServerReadType mqttReadHeader
    split
    · exact Emits.stop _
    · exact Emits.pure _
  refine (htype _ _).bind fun packetType ↦ ?_
  unfold dispatchPacket
  split
  · exact hconnect _
  · exact Emits.pure _
  · exact hpublish _
  · exact Emits.pure _
  · exact Emits.pure _
  · exact Emits.pure _

end PostsNothing

/-! ## Where the token is -/

/-- Every `sem_post` so far has succeeded. -/
def PostsSucceeded (trace : List (Event World)) : Prop :=
  ∀ ret, .call .semPost ret ∈ trace → ret = 0

section PostsSucceeded

variable {s t : Sys World} {ret : ℤ}

theorem Extends.postsSucceeded_iff (h : Extends Event.NoPost s t) :
    PostsSucceeded t.trace ↔ PostsSucceeded s.trace := by
  obtain ⟨es, htrace, hes⟩ := h
  rw [PostsSucceeded, htrace]
  constructor
  · exact fun h ret hmem ↦ h ret (List.mem_append_left _ hmem)
  · intro h ret hmem
    rcases List.mem_append.mp hmem with hmem | hmem
    · exact h ret hmem
    · exact absurd rfl (hes _ hmem ret)

theorem semPost_postsSucceeded (h : semPost s = .ok ret t) :
    PostsSucceeded t.trace ↔ PostsSucceeded s.trace ∧ ret = 0 := by
  obtain ⟨ret', -, hpost⟩ := semPost_eq_ok s
  obtain ⟨rfl, rfl⟩ := Outcome.ok.inj (h.symm.trans hpost)
  constructor
  · exact fun h ↦ ⟨fun ret hmem ↦ h ret (List.mem_append_left _ hmem),
      h ret (List.mem_append_right _ List.mem_cons_self)⟩
  · rintro ⟨hposts, rfl⟩ ret hmem
    rcases List.mem_append.mp hmem with hmem | hmem
    · exact hposts ret hmem
    · simp only [List.mem_singleton, Event.call.injEq, true_and] at hmem
      exact hmem

theorem semPost_gives (h : semPost s = .ok ret t) (htoken : s.world.token = false) :
    t.world.token = true ↔ ret = 0 := by
  obtain ⟨ret', -, hpost⟩ := semPost_eq_ok s
  obtain ⟨rfl, rfl⟩ := Outcome.ok.inj (h.symm.trans hpost)
  by_cases hret : ret = 0 <;> simp [afterSem, hret, htoken]

theorem processMessage_token {P : Platform} {netFuel fuel : ℕ} {self self' : CcFsm}
    {sensorPort : SensorPort} (hP : P.ProcessesPackets) (hself : self.Ready netFuel)
    (h : processMessage P fuel self sensorPort s = .ok (ret, self') t) :
    t.world.token = s.world.token := by
  exact ((keeps_processMessage_fixed (fun _ token ↦ token = s.world.token) hP fuel hself
    sensorPort s rfl).ok h).2

end PostsSucceeded

theorem InitStep.eq_semPost {done : List InitStep} {step : InitStep}
    (h : done ++ [step] = InitStep.all) : step = .semPost := by
  have hlast : (done ++ [step]).getLast? = some .semPost := by
    rw [h]
    rfl
  simpa using hlast

namespace Threads

/-- After the initialisation the semaphore has the token, or a call has it, unless a `sem_post`
has failed. -/
structure Conserved (threads : Threads) : Prop where
  token : threads.sys.world.token = true ↔
    threads.control = .init [] ∧ threads.rpc = .idle ∧ PostsSucceeded threads.sys.trace
  posts : threads.control ≠ .failed → (threads.control = .init [] → threads.rpc ≠ .idle) →
    PostsSucceeded threads.sys.trace

section Conserved

variable {P : Platform} {fuel : ℕ} {threads threads' : Threads} {self : CcFsm} {ret : ℤ}
  {t : Sys World}

theorem conserved_of_unfinished (hinv : threads.Inv) (hcontrol : threads.control ≠ .init [])
    (hposts : threads.control ≠ .failed → PostsSucceeded threads.sys.trace) :
    threads.Conserved where
  token := iff_of_false (fun h ↦ hcontrol (hinv.token h)) fun h ↦ hcontrol h.1
  posts hfailed _ := hposts hfailed

theorem Conserved.unfinished (h : threads.Conserved) (hcontrol : threads.control ≠ .init [])
    (hfailed : threads.control ≠ .failed) : PostsSucceeded threads.sys.trace :=
  h.posts hfailed fun h ↦ absurd h hcontrol

theorem conserved_initial (w : World) : Conserved (initial w) :=
  conserved_of_unfinished (inv_initial w) nofun fun _ _ h ↦ nomatch h

theorem Conserved.initStep (hinv : threads.Inv) (h : threads.Conserved) {step : InitStep}
    {steps : List InitStep} {options : ConnectData}
    (hcontrol : threads.control = .init (step :: steps))
    (hrun : step.run P fuel threads.self threads.options threads.sys =
      .ok (ret, self, options) t) :
    Conserved { threads with
      self := self, options := options, sys := t
      control := if ret ≠ 0 then .failed else .init steps } := by
  have hinv' := hinv.initStep hcontrol hrun
  have hne : threads.control ≠ .init [] := by simp [hcontrol]
  have hposts := h.unfinished hne (by simp [hcontrol])
  obtain ⟨done, hdone, -⟩ := hinv.options _ hcontrol
  by_cases hret : ret ≠ 0
  · rw [if_pos hret] at hinv' ⊢
    exact conserved_of_unfinished hinv' nofun fun hfailed ↦ absurd rfl hfailed
  rw [if_neg hret] at hinv' ⊢
  by_cases hsem : step = .semPost
  · subst hsem
    obtain rfl := InitStep.eq_nil_of_semPost hdone
    obtain ⟨rc, u, hpost, hreturn⟩ := bind_eq_ok_iff.mp hrun
    obtain ⟨rfl, -, rfl⟩ := Outcome.ok_pair_inj hreturn
    have hposts' := (semPost_postsSucceeded hpost).mpr ⟨hposts, not_not.mp hret⟩
    refine ⟨iff_of_true ?_ ⟨rfl, hinv.idle hne, hposts'⟩, fun _ _ ↦ hposts'⟩
    exact (semPost_gives hpost (hinv.token_eq_false hne)).mpr (not_not.mp hret)
  · have hsteps : steps ≠ [] := by
      rintro rfl
      exact hsem (InitStep.eq_semPost hdone)
    refine conserved_of_unfinished hinv' (fun h ↦ hsteps (Control.init.inj h)) fun _ ↦ ?_
    exact ((postsNothing_initStep hsem _ _).ok hrun).postsSucceeded_iff.mpr hposts

theorem Conserved.wait (h : threads.Conserved) (hwait : semWait threads.sys = .ok 0 t) :
    Conserved { threads with sys := t, rpc := .handling true } := by
  obtain ⟨htoken, htoken'⟩ := semWait_eq_zero hwait
  have hposts := (h.token.mp htoken).2.2
  refine ⟨iff_of_false (by simp [htoken']) nofun, fun _ _ ↦ ?_⟩
  exact (postsNothing_semWait.ok hwait).postsSucceeded_iff.mpr hposts

theorem Conserved.handle (hP : P.ProcessesPackets) (hinv : threads.Inv) (h : threads.Conserved)
    {taken : Bool} (hrpc : threads.rpc = .handling taken) {sensorPort : SensorPort}
    (hprocess : processMessage P fuel threads.self sensorPort threads.sys = .ok (ret, self) t) :
    Conserved { threads with self := self, sys := t, rpc := .posting taken } := by
  obtain ⟨-, hcontrol⟩ := hinv.gated taken (Or.inl hrpc)
  obtain ⟨netFuel, hready⟩ := hinv.ready _ hcontrol
  have htoken : threads.sys.world.token ≠ true := fun htoken ↦
    nomatch hrpc.symm.trans (h.token.mp htoken).2.1
  have hposts := h.posts (by simp [hcontrol]) fun _ ↦ by simp [hrpc]
  refine ⟨iff_of_false ?_ nofun, fun _ _ ↦ ?_⟩
  · rwa [processMessage_token hP hready hprocess]
  · exact ((postsNothing_processMessage _ _).ok hprocess).postsSucceeded_iff.mpr hposts

theorem Conserved.post (hinv : threads.Inv) (h : threads.Conserved) {taken : Bool}
    (hrpc : threads.rpc = .posting taken) (hpost : semPost threads.sys = .ok ret t) :
    Conserved { threads with sys := t, rpc := .idle } := by
  obtain ⟨-, hcontrol⟩ := hinv.gated taken (Or.inr hrpc)
  have htoken : threads.sys.world.token = false := by
    by_contra htoken
    exact nomatch hrpc.symm.trans (h.token.mp (by simpa using htoken)).2.1
  have hposts := h.posts (by simp [hcontrol]) fun _ ↦ by simp [hrpc]
  refine ⟨?_, fun _ hbusy ↦ absurd rfl (hbusy hcontrol)⟩
  show t.world.token = true ↔ threads.control = .init [] ∧ Rpc.idle = .idle ∧ _
  rw [semPost_gives hpost htoken, semPost_postsSucceeded hpost]
  simp [hcontrol, hposts]

/-- The token is conserved in every turn in which `sem_wait` does not fail. -/
theorem Conserved.step (hP : P.ProcessesPackets) (hinv : threads.Inv) (h : threads.Conserved)
    {turn : Turn} (hwait : threads.WaitSucceeds turn)
    (hstep : Threads.step P () turn threads = .ok () threads') : threads'.Conserved := by
  cases turn with
  | control fuel =>
      rcases controlStep_eq_ok hstep with ⟨ret, self, t, hcontrol, hctor, rfl⟩ |
        ⟨step, steps, ret, self, options, t, hcontrol, hrun, rfl⟩
      · have hposts := h.unfinished (by simp [hcontrol]) (by simp [hcontrol])
        refine conserved_of_unfinished (hinv.ctor hcontrol hctor) ?_ fun _ ↦
          (postsNothing_ccFsmCtor.ok hctor).postsSucceeded_iff.mpr hposts
        split <;> simp [InitStep.all]
      · exact h.initStep hinv hcontrol hrun
  | rpc fuel sensorPort =>
      rcases rpcStep_eq_ok hstep with ⟨ret, t, hrpc, hsem, rfl⟩ |
        ⟨taken, ret, self, t, hrpc, hprocess, rfl⟩ | ⟨taken, ret, t, hrpc, hpost, rfl⟩
      · obtain rfl : ret = 0 := ((post_semWait _).ok hsem).1.trans (hwait hrpc)
        exact h.wait hsem
      · exact h.handle hP hinv hrpc hprocess
      · exact h.post hinv hrpc hpost

/-- Between two calls the next one gets in exactly when there is a token. -/
theorem enters_iff (hrpc : threads.rpc = .idle) {sensorPort : SensorPort}
    (hwait : threads.WaitSucceeds (.rpc fuel sensorPort)) :
    (∃ threads', Threads.step P () (.rpc fuel sensorPort) threads = .ok () threads') ↔
      threads.sys.world.token = true := by
  constructor
  · rintro ⟨threads', hstep⟩
    rcases rpcStep_eq_ok hstep with ⟨ret, t, -, hsem, -⟩ | ⟨_, _, _, _, hrpc', -⟩ |
      ⟨_, _, _, hrpc', -⟩
    · obtain rfl : ret = 0 := ((post_semWait _).ok hsem).1.trans (hwait hrpc)
      exact (semWait_eq_zero hsem).1
    · exact nomatch hrpc.symm.trans hrpc'
    · exact nomatch hrpc.symm.trans hrpc'
  · intro htoken
    cases hsem : semWait threads.sys with
    | ok ret t =>
        refine ⟨{ threads with sys := t, rpc := .handling (decide (ret = 0)) }, ?_⟩
        show rpcStep P fuel sensorPort threads = _
        simp only [rpcStep, bind_apply, Prog.get, hrpc, call, Prog.zoom, hsem, Prog.modify]
    | stop e t =>
        exact absurd (htoken.symm.trans ((post_semWait _).stop hsem).2.1) (by decide)

end Conserved

/-- In an interleaving in which no `sem_wait` fails the token is never lost: the semaphore has
it exactly when the initialisation is over, no call goes on and no `sem_post` has failed. A
call that comes then gets in, and any other one is blocked. -/
theorem interleave_conserved {P : Platform} (hP : P.ProcessesPackets) (w : World)
    {turns : List Turn} (hwaits : WaitsSucceed P turns (initial w)) :
    Post (interleave P turns) (initial w)
      (fun _ threads ↦ (threads.sys.world.token = true ↔ threads.control = .init [] ∧
          threads.rpc = .idle ∧ PostsSucceeded threads.sys.trace) ∧
        ∀ fuel sensorPort, threads.rpc = .idle → threads.WaitSucceeds (.rpc fuel sensorPort) →
          ((∃ threads', step P () (.rpc fuel sensorPort) threads = .ok () threads') ↔
            threads.control = .init [] ∧ PostsSucceeded threads.sys.trace))
      fun _ _ ↦ True := by
  have hrun := post_foldlM (I := fun _ threads ↦ threads.Inv ∧ threads.Conserved)
    (E := fun _ _ ↦ True) ?_ turns () (initial w) ⟨inv_initial w, conserved_initial w⟩ hwaits
  · refine hrun.mono (fun _ threads ⟨_, h⟩ ↦ ⟨h.token, fun fuel sensorPort hrpc hwait ↦ ?_⟩)
      fun _ _ _ ↦ trivial
    rw [enters_iff hrpc hwait, h.token]
    simp only [hrpc, true_and]
  · rintro _ threads turn ⟨hinv, h⟩ hwait
    refine post_intro (fun _ threads' hstep ↦ ?_) fun _ _ _ ↦ trivial
    exact ⟨hinv.step hP hwait hstep, h.step hP hinv hwait hstep⟩

/-- The initialisation has come to its end. -/
def isDone (threads : Threads) : Bool :=
  match threads.control with
  | .init [] => true
  | _ => false

theorem isDone_eq_true {threads : Threads} :
    threads.isDone = true ↔ threads.control = .init [] := by
  unfold isDone
  split <;> simp_all

/-- The `sem_post` of the first call fails. -/
def failedPost : World :=
  { World.steady [0x20, 2, 0, 0] with answers := { Answers.steady with
      returnCode := fun call k ↦ if call = .semPost ∧ k = 35 then -1 else 0 } }

/-- The token of the first call is lost, and no call gets in any more. -/
theorem interleave_failedPost :
    ∃ threads, interleave (Platform.reference false) initialiseAndPing (initial failedPost) =
        .ok () threads ∧ ¬PostsSucceeded threads.sys.trace ∧
      ∀ fuel sensorPort threads', threads.WaitSucceeds (.rpc fuel sensorPort) →
        step (Platform.reference false) () (.rpc fuel sensorPort) threads ≠ .ok () threads' := by
  have hview : (interleave (Platform.reference false) initialiseAndPing
      (initial failedPost)).view? (fun _ threads ↦ (threads.rpc, threads.sys.world.token,
        threads.isDone)) = some (.idle, false, true) := by decide +kernel
  obtain ⟨_, threads, hrun, hresult⟩ := Outcome.view?_eq_some_iff.mp hview
  obtain ⟨hrpc, hresult⟩ := Prod.mk.inj hresult
  obtain ⟨htoken, hcontrol⟩ := Prod.mk.inj hresult
  have hcontrol := isDone_eq_true.mp hcontrol
  obtain ⟨hiff, henters⟩ := (interleave_conserved (Platform.reference_processesPackets false)
    failedPost (by decide +kernel)).ok hrun
  have hposts : ¬PostsSucceeded threads.sys.trace := fun hposts ↦
    absurd (htoken.symm.trans (hiff.mpr ⟨hcontrol, hrpc, hposts⟩)) (by decide)
  refine ⟨threads, hrun, hposts, fun fuel sensorPort threads' hwait hstep ↦ ?_⟩
  exact hposts ((henters fuel sensorPort hrpc hwait).mp ⟨threads', hstep⟩).2

end Threads

end DemoIotApp
