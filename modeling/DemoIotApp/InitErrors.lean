import DemoIotApp.CloudConnector
import DemoIotApp.Library.Steps
import DemoIotApp.Reference

/-!
# The codes of the initialisation

`handle_CC_FSM_INIT` and the functions under it take ten steps. What they return is compared
with the code of the first step that fails. One function on the way, `do_tls_handshake`,
returns the value of a comparison instead.
-/

namespace DemoIotApp

open Library Prog

/-! ## The steps -/

inductive CcInitStep where
  | getConfigParameter (parameter : ConfigParameter)
  | glueTlsInit
  | glueTlsHandshake
  | mqttClientConnect
  | semPost
  deriving DecidableEq

/-- The component, and the settings that were read. -/
structure CcInitState where
  self : CcFsm
  settings : ConfigParameter → List UInt8

/-- The options that `set_mqtt_options` makes of the settings. -/
def CcInitState.options (x : CcInitState) : ConnectData :=
  { ConnectData.initializer with
    willFlag := false
    mqttVersion := 4
    clientId := x.settings .iotDevice
    username := x.settings .iotHub
    password := x.settings .sharedAccessSignature
    keepAliveInterval := 0
    cleansession := true
    will := ⟨asciiBytes "will topic", asciiBytes "Famous last words", 0, 0⟩ }

/-- A step with its own code. -/
def CcInitStep.run (P : Platform) (fuel : ℕ) :
    CcInitStep → CcInitState → Prog Stop (Sys World) (ℤ × CcInitState)
  | .getConfigParameter parameter, x => do
      let (ret, value) ← DemoIotApp.getConfigParameter parameter
      return (ret, { x with settings := fun p ↦ if p = parameter then value else x.settings p })
  | .glueTlsInit, x => do
      readSetting .cloudServiceIP
      let ret ← DemoIotApp.glueTlsInit P fuel
      return (ret, x)
  | .glueTlsHandshake, x => do
      let ret ← DemoIotApp.glueTlsHandshake
      return (ret, x)
  | .mqttClientConnect, x => do
      readConnectSettings x.self.client
      let (ret, _, client) ←
        DemoIotApp.mqttClientConnect P fuel x.self.client (some x.options) ⟨0, 0⟩ none
      return (ret, { x with self := { x.self with client := client } })
  | .semPost, x => do
      let ret ← DemoIotApp.semPost
      return (ret, x)

/-- The steps before the handshake. -/
def stepsToHandshake : List CcInitStep :=
  [.getConfigParameter .cloudServiceIP, .getConfigParameter .serverPort,
    .getConfigParameter .serverCaCert, .getConfigParameter .iotHub,
    .getConfigParameter .sharedAccessSignature, .getConfigParameter .iotDevice, .glueTlsInit]

def ccInitSteps : List CcInitStep :=
  stepsToHandshake ++ [.glueTlsHandshake, .mqttClientConnect, .semPost]

def takeCcInitSteps (P : Platform) (fuel : ℕ) (steps : List CcInitStep) (self : CcFsm) :
    Prog Stop (Sys World) (List (CcInitStep × ℤ) × CcInitState) :=
  takeSteps (CcInitStep.run P fuel) osSuccess steps ⟨self, fun _ ↦ []⟩

/-! ## What is returned -/

/-- The code of the first step that fails, as it is passed on. -/
def firstFailure (pass : CcInitStep → ℤ → ℤ) : List (CcInitStep × ℤ) → ℤ
  | [] => 0
  | (step, code) :: taken => if code ≠ osSuccess then pass step code else firstFailure pass taken

/-- What becomes of the code of a step that fails. -/
def passedCode : CcInitStep → ℤ → ℤ
  | .glueTlsHandshake, _ => 1
  | .mqttClientConnect, _ => -1
  | _, code => code

/-- All steps are taken and 0 is returned, or no step behind the first that fails, and its code is
returned, which is -1 for the connect. -/
def ReturnsFirstFailure (P : Platform) (fuel : ℕ) (self : CcFsm) (s : Sys World) : Prop :=
  Post (takeCcInitSteps P fuel ccInitSteps self) s
    (fun r t ↦ Taken osSuccess ccInitSteps r.1 ∧
      ∃ ret, handleCcFsmInit P fuel self s = .ok (ret, r.2.self) t ∧
        (ret = 0 ↔ ∀ c ∈ r.1, c.2 = osSuccess) ∧
        ∀ step code, (step, code) ∈ r.1 → code ≠ osSuccess →
          ret = if step = .mqttClientConnect then -1 else code)
    fun e t ↦ handleCcFsmInit P fuel self s = .stop e t

/-- When the handshake is reached, it succeeds or fails with 1. -/
def HandshakeFailsWithOne (P : Platform) (fuel : ℕ) (self : CcFsm) (s : Sys World) : Prop :=
  Post (takeCcInitSteps P fuel stepsToHandshake self) s
    (fun r t ↦ (∀ c ∈ r.1, c.2 = osSuccess) →
      t.nextCode .tlsHandshake = osSuccess ∨ t.nextCode .tlsHandshake = 1)
    fun _ _ ↦ True

section Run

variable {P : Platform} {fuel : ℕ}

/-- Some of the steps, and the code that is passed on. -/
def initFrom (P : Platform) (fuel : ℕ) (steps : List CcInitStep) (x : CcInitState) :
    Prog Stop (Sys World) (ℤ × CcFsm) := do
  let (taken, x) ← takeSteps (CcInitStep.run P fuel) osSuccess steps x
  return (firstFailure passedCode taken, x.self)

theorem initFrom_cons (step : CcInitStep) (steps : List CcInitStep) (x : CcInitState) :
    initFrom P fuel (step :: steps) x = step.run P fuel x >>= fun r ↦
      if r.1 ≠ osSuccess then pure (passedCode step r.1, r.2.self)
      else initFrom P fuel steps r.2 := by
  simp only [initFrom, takeSteps, bind_assoc]
  refine bind_congr fun r ↦ ?_
  by_cases hcode : r.1 = osSuccess
  · simp [hcode, firstFailure]
  · simp [hcode, firstFailure]

theorem openSession_eq_initFrom (x : CcInitState) :
    openSession P fuel x.self x.options =
      initFrom P fuel [.mqttClientConnect, .semPost] x := by
  simp only [initFrom_cons, openSession, doMqttConnect, CcInitStep.run, bind_assoc, pure_bind]
  refine bind_congr fun _ ↦ bind_congr fun r ↦ ?_
  by_cases hconnect : r.1 = mqttSuccess
  · simp only [hconnect, ne_eq, not_true_eq_false, if_false]
    refine bind_congr fun ret ↦ ?_
    by_cases hpost : ret = osSuccess
    · simp [hpost, initFrom, takeSteps, firstFailure, osSuccess]
    · simp [hpost, passedCode]
  · have hcode : ¬r.1 = osSuccess := hconnect
    simp [hconnect, hcode, passedCode]

theorem establishSession_eq_initFrom (x : CcInitState) :
    establishSession P fuel x.self x.options =
      initFrom P fuel [.glueTlsInit, .glueTlsHandshake, .mqttClientConnect, .semPost] x := by
  rw [initFrom_cons, establishSession]
  simp only [CcInitStep.run, bind_assoc, pure_bind]
  refine bind_congr fun _ ↦ bind_congr fun ret ↦ ite_congr rfl (fun _ ↦ rfl) fun _ ↦ ?_
  rw [initFrom_cons, doTlsHandshake]
  simp only [CcInitStep.run, bind_assoc, pure_bind]
  refine bind_congr fun ret ↦ ?_
  by_cases hcode : ret = osSuccess
  · simp [hcode, openSession_eq_initFrom]
  · have hzero : ¬ret = 0 := hcode
    simp [hzero, passedCode, osSuccess]

theorem initFrom_getConfigParameter {parameter : ConfigParameter} {steps : List CcInitStep}
    {x : CcInitState} {next : ℤ × List UInt8 → Prog Stop (Sys World) (ℤ × CcFsm)}
    (hfailed : ∀ r, r.1 ≠ osSuccess → next r = pure (r.1, x.self))
    (hread : ∀ r, r.1 = osSuccess → next r = initFrom P fuel steps
      { x with settings := fun p ↦ if p = parameter then r.2 else x.settings p }) :
    getConfigParameter parameter >>= next =
      initFrom P fuel (.getConfigParameter parameter :: steps) x := by
  rw [initFrom_cons, CcInitStep.run]
  simp only [bind_assoc, pure_bind]
  refine bind_congr fun r ↦ ?_
  by_cases hcode : r.1 = osSuccess
  · rw [hread r hcode, if_neg (not_not.mpr hcode)]
  · rw [hfailed r hcode, if_pos hcode]
    rfl

theorem handleCcFsmInit_eq_initFrom (self : CcFsm) :
    handleCcFsmInit P fuel self = initFrom P fuel ccInitSteps ⟨self, fun _ ↦ []⟩ := by
  refine initFrom_getConfigParameter (fun _ h ↦ if_pos h) fun serverIP h ↦ ?_
  refine (if_neg (not_not.mpr h)).trans ?_
  refine initFrom_getConfigParameter (fun _ h ↦ if_pos h) fun serverPort h ↦ ?_
  refine (if_neg (not_not.mpr h)).trans ?_
  refine initFrom_getConfigParameter (fun _ h ↦ if_pos h) fun serverCert h ↦ ?_
  refine (if_neg (not_not.mpr h)).trans ?_
  rw [setMqttOptions, bind_assoc]
  refine initFrom_getConfigParameter (fun _ h ↦ ?_) fun cloudUsername h ↦ ?_
  · simp [h]
  simp only [h, ne_eq, not_true_eq_false, if_false, bind_assoc]
  refine initFrom_getConfigParameter (fun _ h ↦ ?_) fun cloudSAS h ↦ ?_
  · simp [h]
  simp only [h, not_true_eq_false, if_false, bind_assoc]
  refine initFrom_getConfigParameter (fun _ h ↦ ?_) fun cloudDeviceName h ↦ ?_
  · simp [h]
  simp only [h, not_true_eq_false, if_false, pure_bind]
  refine Eq.trans ?_ (establishSession_eq_initFrom _)
  rfl

end Run

/-! ## The first failing step -/

section FirstFailure

variable {pass : CcInitStep → ℤ → ℤ} {taken : List (CcInitStep × ℤ)}

theorem firstFailure_append_of_succeeded (h : ∀ c ∈ taken, c.2 = osSuccess)
    (rest : List (CcInitStep × ℤ)) :
    firstFailure pass (taken ++ rest) = firstFailure pass rest := by
  induction taken with
  | nil => rfl
  | cons c taken ih =>
      rw [List.cons_append, firstFailure, if_neg (not_not.mpr (h c List.mem_cons_self)),
        ih fun c' hc' ↦ h c' (List.mem_cons_of_mem _ hc')]

theorem firstFailure_of_succeeded (h : ∀ c ∈ taken, c.2 = osSuccess) :
    firstFailure pass taken = 0 := by
  simpa [firstFailure] using firstFailure_append_of_succeeded h []

theorem firstFailure_of_mem {steps : List CcInitStep} (h : Taken osSuccess steps taken)
    {step : CcInitStep} {code : ℤ} (hmem : (step, code) ∈ taken) (hcode : code ≠ osSuccess) :
    firstFailure pass taken = pass step code := by
  have hne : taken ≠ [] := List.ne_nil_of_mem hmem
  have hlast : taken = taken.dropLast ++ [(step, code)] := by
    have happend := List.dropLast_append_getLast hne
    rcases List.mem_append.mp (happend ▸ hmem) with hfirst | hmem
    · exact absurd (h.succeeded _ hfirst) hcode
    · rw [List.mem_singleton.mp hmem]
      exact happend.symm
  rw [hlast, firstFailure_append_of_succeeded h.succeeded, firstFailure, if_pos hcode]

/-- The codes are passed on as they should be unless the handshake fails with another code
than 1. -/
theorem passes_firstFailure_iff {steps : List CcInitStep} (h : Taken osSuccess steps taken) :
    ((firstFailure passedCode taken = 0 ↔ ∀ c ∈ taken, c.2 = osSuccess) ∧
      ∀ step code, (step, code) ∈ taken → code ≠ osSuccess →
        firstFailure passedCode taken = if step = .mqttClientConnect then -1 else code) ↔
    ∀ code, (.glueTlsHandshake, code) ∈ taken → code = osSuccess ∨ code = 1 := by
  constructor
  · rintro ⟨-, hpassed⟩ code hmem
    by_cases hcode : code = osSuccess
    · exact Or.inl hcode
    · have hlawful := hpassed _ code hmem hcode
      rw [firstFailure_of_mem h hmem hcode] at hlawful
      exact Or.inr hlawful.symm
  · intro hone
    have hpassed : ∀ step code, (step, code) ∈ taken → code ≠ osSuccess →
        firstFailure passedCode taken = if step = .mqttClientConnect then -1 else code := by
      intro step code hmem hcode
      rw [firstFailure_of_mem h hmem hcode]
      cases step with
      | glueTlsHandshake => exact ((hone code hmem).resolve_left hcode).symm
      | getConfigParameter => rfl
      | glueTlsInit => rfl
      | mqttClientConnect => rfl
      | semPost => rfl
    refine ⟨⟨fun hzero ↦ ?_, firstFailure_of_succeeded⟩, hpassed⟩
    by_contra hfailed
    push Not at hfailed
    obtain ⟨⟨step, code⟩, hmem, hcode⟩ := hfailed
    rw [hpassed step code hmem hcode] at hzero
    split_ifs at hzero
    exact hcode hzero

end FirstFailure

/-! ## When the first failure is returned -/

section Main

variable {P : Platform} {fuel : ℕ}

variable (P fuel) in
theorem handleCcFsmInit_apply (self : CcFsm) (s : Sys World) :
    Post (takeCcInitSteps P fuel ccInitSteps self) s
      (fun r t ↦ handleCcFsmInit P fuel self s = .ok (firstFailure passedCode r.1, r.2.self) t)
      fun e t ↦ handleCcFsmInit P fuel self s = .stop e t := by
  rw [handleCcFsmInit_eq_initFrom]
  refine post_intro (fun r t h ↦ ?_) (fun e t h ↦ ?_)
  · exact bind_eq_of_ok h
  · exact bind_eq_of_stop h

variable (P fuel) in
theorem post_takeSteps (steps : List CcInitStep) (x : CcInitState) (s : Sys World) :
    Post (takeSteps (CcInitStep.run P fuel) osSuccess steps x) s
      (fun r _ ↦ Taken osSuccess steps r.1) fun _ _ ↦ True :=
  Yields.post (yields_takeSteps steps x) s

theorem returnsFirstFailure_iff_codes (self : CcFsm) (s : Sys World) :
    ReturnsFirstFailure P fuel self s ↔ Post (takeCcInitSteps P fuel ccInitSteps self) s
      (fun r _ ↦ ∀ code, (.glueTlsHandshake, code) ∈ r.1 → code = osSuccess ∨ code = 1)
      fun _ _ ↦ True := by
  have htaken := post_takeSteps P fuel ccInitSteps ⟨self, fun _ ↦ []⟩ s
  have hhandle := handleCcFsmInit_apply P fuel self s
  refine post_iff_post (fun r t h ↦ ?_) fun e t h ↦ iff_of_true (hhandle.stop h) trivial
  have hr := htaken.ok h
  have hret := hhandle.ok h
  rw [← passes_firstFailure_iff hr]
  constructor
  · rintro ⟨-, ret, hret', hpasses⟩
    obtain ⟨hcode, -⟩ := Outcome.ok.inj (hret'.symm.trans hret)
    obtain ⟨rfl, -⟩ := Prod.mk.inj hcode
    exact hpasses
  · exact fun hpasses ↦ ⟨hr, _, hret, hpasses⟩

theorem notMem_handshake {steps : List CcInitStep} {taken : List (CcInitStep × ℤ)}
    (h : Taken osSuccess steps taken) (hsteps : .glueTlsHandshake ∉ steps) (code : ℤ) :
    (.glueTlsHandshake, code) ∉ taken :=
  fun hmem ↦ hsteps (h.prefix_steps.subset (List.mem_map_of_mem hmem))

theorem post_takeSteps_handshake (taken : List (CcInitStep × ℤ))
    (htaken : ∀ code, (.glueTlsHandshake, code) ∉ taken) (x : CcInitState) (s : Sys World) :
    Post (takeSteps (CcInitStep.run P fuel) osSuccess
        [.glueTlsHandshake, .mqttClientConnect, .semPost] x) s
      (fun r _ ↦ ∀ code, (.glueTlsHandshake, code) ∈ taken ++ r.1 → code = osSuccess ∨ code = 1)
      (fun _ _ ↦ True) ↔
    s.nextCode .tlsHandshake = osSuccess ∨ s.nextCode .tlsHandshake = 1 := by
  have hhandshake : glueTlsHandshake s =
      .ok (s.nextCode .tlsHandshake) (s.called .tlsHandshake) := by
    rw [glueTlsHandshake, bind_eq_of_ok (osCall_apply .tlsHandshake s)]
    by_cases hcode : s.nextCode .tlsHandshake = osSuccess
    · rw [if_neg (not_not.mpr hcode), hcode]
      rfl
    · rw [if_pos hcode]
      rfl
  have hrun : CcInitStep.run P fuel .glueTlsHandshake x s =
      .ok (s.nextCode .tlsHandshake, x) (s.called .tlsHandshake) := bind_eq_of_ok hhandshake
  rw [takeSteps, post_bind, post_of_ok hrun]
  dsimp only
  by_cases hcode : s.nextCode .tlsHandshake = osSuccess
  · rw [if_neg (not_not.mpr hcode), post_bind]
    refine iff_of_true ?_ (Or.inl hcode)
    have hrest := post_takeSteps P fuel [.mqttClientConnect, .semPost] x
      (s.called .tlsHandshake)
    refine hrest.mono (fun r t hr code hmem ↦ ?_) fun _ _ _ ↦ trivial
    rcases List.mem_append.mp hmem with hmem | hmem
    · exact absurd hmem (htaken code)
    rcases List.mem_cons.mp hmem with hhead | hmem
    · exact Or.inl ((Prod.mk.inj hhead).2.trans hcode)
    · exact absurd hmem (notMem_handshake hr (by decide) code)
  · rw [if_pos hcode, post_pure]
    simp [htaken]

theorem ret_eq_of_returnsFirstFailure {self : CcFsm} {s t t' : Sys World}
    {r : List (CcInitStep × ℤ) × CcInitState} {r' : ℤ × CcFsm} {step : CcInitStep} {code : ℤ}
    (hr : takeCcInitSteps P fuel ccInitSteps self s = .ok r t)
    (hr' : handleCcFsmInit P fuel self s = .ok r' t') (hmem : (step, code) ∈ r.1)
    (hcode : code ≠ osSuccess) (h : ReturnsFirstFailure P fuel self s) :
    r'.1 = if step = .mqttClientConnect then -1 else code := by
  obtain ⟨-, ret, hret, -, hpassed⟩ := h.ok hr
  obtain ⟨rfl, -⟩ := Outcome.ok.inj (hret.symm.trans hr')
  exact hpassed _ _ hmem hcode

/-- `handle_CC_FSM_INIT` returns the code of the first step that fails if and only if the handshake,
when it is reached, succeeds or fails with 1. -/
theorem returnsFirstFailure_iff (P : Platform) (fuel : ℕ) (self : CcFsm) (s : Sys World) :
    ReturnsFirstFailure P fuel self s ↔ HandshakeFailsWithOne P fuel self s := by
  have hbefore := post_takeSteps P fuel stepsToHandshake ⟨self, fun _ ↦ []⟩ s
  rw [returnsFirstFailure_iff_codes, takeCcInitSteps, ccInitSteps, takeSteps_append, post_bind]
  refine post_congr fun r t h ↦ ?_
  obtain ⟨taken, x⟩ := r
  have hnone := notMem_handshake (hbefore.ok h) (by decide)
  dsimp only
  by_cases hall : ∀ c ∈ taken, c.2 = osSuccess
  · rw [if_pos hall, post_bind]
    exact (post_takeSteps_handshake taken hnone x t).trans (imp_iff_right hall).symm
  · rw [if_neg hall]
    exact iff_of_true (fun code hmem ↦ absurd hmem (hnone code)) fun h ↦ absurd h hall

end Main

/-- Every call succeeds up to the handshake, which fails with -5. -/
def World.failingHandshake : World :=
  { World.steady [] with
    answers := { Answers.steady with
      returnCode := fun call _ ↦ if call = .tlsHandshake then -5 else 0 } }

/-- The code of the handshake is -5, and 1 is returned. -/
theorem not_returnsFirstFailure_of_handshake :
    ¬ReturnsFirstFailure (Platform.reference false) 4 CcFsm.zeroed
      ⟨World.failingHandshake, []⟩ := by
  have htaken : (takeCcInitSteps (Platform.reference false) 4 ccInitSteps CcFsm.zeroed
      ⟨World.failingHandshake, []⟩).view? (fun r _ ↦ r.1.getLast?) =
        some (some (.glueTlsHandshake, -5)) := by decide +kernel
  have hreturned : (handleCcFsmInit (Platform.reference false) 4 CcFsm.zeroed
      ⟨World.failingHandshake, []⟩).view? (fun r _ ↦ r.1) = some 1 := by decide +kernel
  obtain ⟨r, t, hr, hlast⟩ := Outcome.view?_eq_some_iff.mp htaken
  obtain ⟨r', t', hr', hone⟩ := Outcome.view?_eq_some_iff.mp hreturned
  refine mt (ret_eq_of_returnsFirstFailure hr hr' (List.mem_of_getLast? hlast) (by decide)) ?_
  rw [hone]
  decide

end DemoIotApp
