import DemoIotApp.Platform

/-!
# `LogServer.c`: the file system under the log

Before the log server runs, `pre_init` initialises and mounts the file system, and builds the
chain of consumers and the log file on its handle. What it does depends on three return codes
only.
-/

namespace DemoIotApp

/-! ## Objects -/

/-- The components that write to the log, and the log server itself. -/
inductive LogClient where
  | configSrv
  | cloudCon
  | sensorTemp
  | nic
  | nwStack
  | logServer
  deriving DecidableEq

inductive LogBuffer where
  | configServerPort
  | cloudConnectorPort
  | sensorPort
  | nwDriverPort
  | nwStackPort
  | bufLogServer
  deriving DecidableEq

inductive LogSubject where
  | subject
  | subjectLogServer
  deriving DecidableEq

inductive LogOutput where
  | filesystem
  | console
  | consoleLogServer
  deriving DecidableEq

/-- What `pre_init` calls, with the arguments that differ from call to call. The calls of the
file system carry their return codes. -/
inductive LogServerCall where
  | fileSystemInit (ret : ℤ)
  | fileSystemMount (ret : ℤ)
  | fileSystemFree (ret : ℤ)
  | consumerChainGetInstance
  | subjectCtor (s : LogSubject)
  /-- `OS_LoggerFile_ctor` with the handle of the file system. -/
  | fileCtor (name : String)
  | outputFileSystemCtor (output : LogOutput)
  | outputConsoleCtor (output : LogOutput)
  | subjectAttach (s : LogSubject) (output : LogOutput)
  | filterCtor (client : LogClient)
  | consumerCallbackCtor
  | consumerCtor (client : LogClient) (buffer : LogBuffer) (s : LogSubject) (id : ℕ)
      (name : String)
  | emitterGetInstance (buffer : LogBuffer) (client : LogClient)
  | consumerChainAppend (client : LogClient)
  | fileCreate
  deriving DecidableEq

/-- The return codes of `OS_FileSystem_init`, `OS_FileSystem_mount` and `OS_FileSystem_free`. -/
structure FsCodes where
  init : ℤ
  mount : ℤ
  free : ℤ

/-! ## The program -/

/-- At the label `err0` the code of the mount is overwritten by that of the free. -/
def initFileSystem (codes : FsCodes) : ℤ × List LogServerCall :=
  let err := codes.init
  if osSuccess ≠ err then
    (err, [.fileSystemInit codes.init])
  else
    let err := codes.mount
    if osSuccess ≠ err then
      let err := codes.free
      (err, [.fileSystemInit codes.init, .fileSystemMount codes.mount, .fileSystemFree codes.free])
    else
      (osSuccess, [.fileSystemInit codes.init, .fileSystemMount codes.mount])

/-- `pre_init` after the file system. -/
def setUpLog : List LogServerCall :=
  [.consumerChainGetInstance,
    .subjectCtor .subject, .subjectCtor .subjectLogServer,
    .fileCtor "log.txt",
    .outputFileSystemCtor .filesystem, .outputConsoleCtor .console,
    .outputConsoleCtor .consoleLogServer,
    .subjectAttach .subject .filesystem, .subjectAttach .subject .console,
    .subjectAttach .subjectLogServer .consoleLogServer,
    .filterCtor .configSrv, .filterCtor .cloudCon, .filterCtor .sensorTemp, .filterCtor .nic,
    .filterCtor .nwStack, .filterCtor .logServer,
    .consumerCallbackCtor,
    .consumerCtor .configSrv .configServerPort .subject 10 "CONFIG-SERVER",
    .consumerCtor .cloudCon .cloudConnectorPort .subject 20 "CLOUDCONNECTOR",
    .consumerCtor .sensorTemp .sensorPort .subject 30 "SENSOR-TEMP",
    .consumerCtor .nic .nwDriverPort .subject 40 "NIC",
    .consumerCtor .nwStack .nwStackPort .subject 50 "NWSTACK",
    .consumerCtor .logServer .bufLogServer .subjectLogServer 0 "LOG-SERVER",
    .emitterGetInstance .bufLogServer .logServer,
    .consumerChainAppend .configSrv, .consumerChainAppend .cloudCon,
    .consumerChainAppend .sensorTemp, .consumerChainAppend .nic, .consumerChainAppend .nwStack,
    .consumerChainAppend .logServer,
    .fileCreate]

def preInit (codes : FsCodes) : List LogServerCall :=
  let (err, calls) := initFileSystem codes
  if err ≠ osSuccess then calls else calls ++ setUpLog

/-! ## The handle of the file system -/

inductive FsState where
  | unset
  | initialised
  | mounted
  | freed
  deriving DecidableEq

/-- What a call does to the handle. -/
def FsState.after (state : FsState) : LogServerCall → FsState
  | .fileSystemInit ret => if ret = osSuccess then .initialised else state
  | .fileSystemMount ret => if ret = osSuccess then .mounted else state
  | .fileSystemFree _ => .freed
  | _ => state

def fsState (calls : List LogServerCall) : FsState := calls.foldl FsState.after .unset

/-- The calls that need the file system. -/
def LogServerCall.usesLogFile : LogServerCall → Bool
  | .fileCtor _ => true
  | .fileCreate => true
  | _ => false

/-- The initialisation reports whether the file system is mounted, a handle that is not mounted
is freed, and the log file is made on a mounted one only. -/
structure LogsOnMounted (codes : FsCodes) : Prop where
  succeeds_iff : (initFileSystem codes).1 = osSuccess ↔
    codes.init = osSuccess ∧ codes.mount = osSuccess
  freed : codes.init = osSuccess → codes.mount ≠ osSuccess →
    (initFileSystem codes).1 ≠ osSuccess ∧ .fileSystemFree codes.free ∈ (initFileSystem codes).2
  mounted : ∀ before call after, preInit codes = before ++ call :: after →
    call.usesLogFile = true → fsState before = .mounted

section Handle

theorem foldl_after_setUpLog {calls : List LogServerCall} (h : calls <+: setUpLog)
    (state : FsState) : calls.foldl FsState.after state = state := by
  have hkeeps : ∀ call ∈ setUpLog, ∀ state : FsState, state.after call = state := by
    simp [setUpLog, FsState.after]
  have hcalls : ∀ call ∈ calls, ∀ state : FsState, state.after call = state :=
    fun call hcall ↦ hkeeps call (h.subset hcall)
  clear h
  induction calls with
  | nil => rfl
  | cons call calls ih =>
      rw [List.foldl_cons, hcalls call List.mem_cons_self,
        ih fun call' hcall' ↦ hcalls call' (List.mem_cons_of_mem _ hcall')]

variable {codes : FsCodes}

theorem initFileSystem_cases (codes : FsCodes) :
    codes.init ≠ osSuccess ∧
        initFileSystem codes = (codes.init, [.fileSystemInit codes.init]) ∨
      codes.init = osSuccess ∧ codes.mount ≠ osSuccess ∧
        initFileSystem codes = (codes.free, [.fileSystemInit codes.init,
          .fileSystemMount codes.mount, .fileSystemFree codes.free]) ∨
      codes.init = osSuccess ∧ codes.mount = osSuccess ∧
        initFileSystem codes =
          (osSuccess, [.fileSystemInit codes.init, .fileSystemMount codes.mount]) := by
  by_cases hinit : codes.init = osSuccess
  · by_cases hmount : codes.mount = osSuccess
    · exact Or.inr (Or.inr ⟨hinit, hmount, by simp [initFileSystem, hinit, hmount]⟩)
    · have hfailed : ¬osSuccess = codes.mount := fun h ↦ hmount h.symm
      exact Or.inr (Or.inl ⟨hinit, hmount, by simp [initFileSystem, hinit, hfailed]⟩)
  · have hfailed : ¬osSuccess = codes.init := fun h ↦ hinit h.symm
    exact Or.inl ⟨hinit, by simp [initFileSystem, hfailed]⟩

theorem usesLogFile_initFileSystem {call : LogServerCall}
    (h : call ∈ (initFileSystem codes).2) : call.usesLogFile = false := by
  rcases initFileSystem_cases codes with ⟨-, heq⟩ | ⟨-, -, heq⟩ | ⟨-, -, heq⟩
  all_goals
    rw [heq] at h
    simp only [List.mem_cons, List.not_mem_nil, or_false] at h
  · rw [h]
    rfl
  · rcases h with rfl | rfl | rfl <;> rfl
  · rcases h with rfl | rfl <;> rfl

theorem fsState_of_usesLogFile {before after : List LogServerCall} {call : LogServerCall}
    (h : preInit codes = before ++ call :: after) (huses : call.usesLogFile = true) :
    (initFileSystem codes).1 = osSuccess ∧
      fsState before = fsState (initFileSystem codes).2 := by
  have hnot : call ∉ (initFileSystem codes).2 := fun hmem ↦
    absurd (huses.symm.trans (usesLogFile_initFileSystem hmem)) (by decide)
  by_cases herr : (initFileSystem codes).1 = osSuccess
  · rw [show preInit codes = (initFileSystem codes).2 ++ setUpLog from
      if_neg (not_not.mpr herr)] at h
    refine ⟨herr, ?_⟩
    rcases List.append_eq_append_iff.mp h with ⟨rest, hbefore, hrest⟩ | ⟨rest, hcalls, hlast⟩
    · have hpre : rest <+: setUpLog := hrest ▸ List.prefix_append _ _
      rw [fsState, hbefore, List.foldl_append, foldl_after_setUpLog hpre, fsState]
    · cases rest with
      | nil =>
          rw [List.append_nil] at hcalls
          rw [hcalls]
      | cons call' rest =>
          obtain ⟨rfl, -⟩ := List.cons.inj hlast
          exact absurd (by simp [hcalls]) hnot
  · rw [show preInit codes = (initFileSystem codes).2 from if_pos herr] at h
    exact absurd (h ▸ by simp) hnot

end Handle

/-- The log server logs on a mounted file system if and only if it does not happen that the mount
fails and the free succeeds. -/
theorem logsOnMounted_iff (codes : FsCodes) :
    LogsOnMounted codes ↔
      ¬(codes.init = osSuccess ∧ codes.mount ≠ osSuccess ∧ codes.free = osSuccess) := by
  constructor
  · rintro h ⟨hinit, hmount, hfree⟩
    rcases initFileSystem_cases codes with ⟨hfailed, -⟩ | ⟨-, -, heq⟩ | ⟨-, hmounted, -⟩
    · exact hfailed hinit
    · exact hmount (h.succeeds_iff.mp (by rw [heq, hfree])).2
    · exact hmount hmounted
  · intro h
    rcases initFileSystem_cases codes with
      ⟨hinit, heq⟩ | ⟨hinit, hmount, heq⟩ | ⟨hinit, hmount, heq⟩
    · refine ⟨?_, fun h ↦ absurd h hinit, fun before call after hcalls huses ↦ ?_⟩
      · rw [heq]
        exact iff_of_false hinit fun h ↦ hinit h.1
      · have herr := (fsState_of_usesLogFile hcalls huses).1
        rw [heq] at herr
        exact absurd herr hinit
    · have hfree : codes.free ≠ osSuccess := fun hfree ↦ h ⟨hinit, hmount, hfree⟩
      refine ⟨?_, fun _ _ ↦ ?_, fun before call after hcalls huses ↦ ?_⟩
      · rw [heq]
        exact iff_of_false hfree fun h ↦ hmount h.2
      · rw [heq]
        exact ⟨hfree, by simp⟩
      · have herr := (fsState_of_usesLogFile hcalls huses).1
        rw [heq] at herr
        exact absurd herr hfree
    · refine ⟨?_, fun _ h ↦ absurd hmount h, fun before call after hcalls huses ↦ ?_⟩
      · rw [heq]
        exact iff_of_true rfl ⟨hinit, hmount⟩
      · rw [(fsState_of_usesLogFile hcalls huses).2, heq]
        simp [fsState, FsState.after, hmount]

/-- The mount fails, the free succeeds, and so does the initialisation. -/
theorem not_logsOnMounted_of_free : ¬LogsOnMounted ⟨0, -1, 0⟩ :=
  fun h ↦ absurd (h.succeeds_iff.mp rfl).2 (by decide)

end DemoIotApp
