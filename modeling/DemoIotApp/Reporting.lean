import DemoIotApp.AckMatching
import DemoIotApp.Session

/-!
# What the sensor is told

A handler returns a code, and behind it the semaphore is posted. The sensor sees what
`handle_CC_FSM_NEW_MESSAGE` returns, and that is the result of the post.
-/

namespace DemoIotApp

open Library Prog

/-! ## The report -/

/-- One of the fourteen packet types that the dispatcher knows. -/
def SensorPort.IsKnown (sensorPort : SensorPort) : Prop :=
  (PacketType.ofCode (headerType (sensorPort.bytes.headD 0))).isSome = true

instance (sensorPort : SensorPort) : Decidable sensorPort.IsKnown :=
  inferInstanceAs (Decidable (_ = true))

def Event.isSemPost {W : Type} : Event W → Bool
  | .call .semPost _ => true
  | _ => false

/-- The token was released once: `sem_post` was called one time, and that call succeeded. -/
def PostsOnce (s t : Sys World) : Prop :=
  ∃ es, t.trace = s.trace ++ es ∧ es.countP Event.isSemPost = 1 ∧ Event.call .semPost 0 ∈ es

/-- The answer of a `sem_post` called in this state. -/
def postAnswer (s : Sys World) : ℤ :=
  s.world.answers.returnCode .semPost s.world.calls

/-- A message was taken at `s`, its processing has begun at `u`, and the handler returned `rc`.
The call reports success only for a known packet type and a handler that returned zero, it
reports everything else as an error, and it releases the token once. -/
def ReportsFailure (P : Platform) (fuel : ℕ) (self : CcFsm) (sensorPort : SensorPort)
    (s u : Sys World) (rc : ℤ) : Prop :=
  ∃ newRet ret self' t, handleCcFsmNewMessage P fuel self sensorPort u = .ok (newRet, self') t ∧
    cloudConnectorRpcWrite P fuel self sensorPort s = .ok (ret, self') t ∧ PostsOnce u t ∧
      (ret = osSuccess → sensorPort.IsKnown ∧ rc = 0) ∧
        (¬sensorPort.IsKnown ∨ rc ≠ 0 → newRet ≠ 0 ∧ ret ≠ osSuccess)

/-- Among these packets is an acknowledgement of that type that the library can read. -/
def BringsAck (P : Platform) (type : PacketType) (packets : List (ℤ × List UInt8)) : Prop :=
  ∃ buffer, ((type.code : ℤ), buffer) ∈ packets ∧ (P.paho.deserializeAck buffer).1 = 1

/-- The packet type is known, and for an accepted message a PUBACK comes in between `u` and `v`. -/
def HandlesMessage (P : Platform) (self : CcFsm) (sensorPort : SensorPort) (u v : Sys World) :
    Prop :=
  sensorPort.IsKnown ∧ ∀ self', acceptMessage P self sensorPort u = .ok (some self') u →
    BringsAck P .puback (received (v.trace.drop u.trace.length))

/-! ## What a publish has received -/

/-- From `s` to `t` an acknowledgement of that type came in exactly when the step succeeded. -/
def AnswersWith {W : Type} (P : Platform) (type : PacketType) (s t : Sys W) (succeeded : Prop) :
    Prop :=
  ∃ es, t.trace = s.trace ++ es ∧ (succeeded ↔ BringsAck P type (received es))

section Answered

variable {W : Type} {P : Platform} {type : PacketType} {self self' : MqttClient W}
  {timer : Option Timer} {fuel : ℕ} {s t u : Sys W} {ret : ℤ} {succeeded succeeded' : Prop}

theorem not_bringsAck_nil : ¬BringsAck P type [] :=
  fun ⟨_, hmem, _⟩ ↦ List.not_mem_nil hmem

/-- A step that receives nothing and fails. -/
theorem AnswersWith.of_silent (h : Extends (fun e ↦ e.received = none) s t) (hfailed : ¬succeeded) :
    AnswersWith P type s t succeeded := by
  obtain ⟨es, htrace, hes⟩ := h
  refine ⟨es, htrace, iff_of_false hfailed ?_⟩
  rw [received_eq_nil hes]
  exact not_bringsAck_nil

theorem AnswersWith.of_silent_before (h : Extends (fun e ↦ e.received = none) s t)
    (h' : AnswersWith P type t u succeeded) : AnswersWith P type s u succeeded := by
  obtain ⟨es, htrace, hes⟩ := h
  obtain ⟨es', htrace', hiff⟩ := h'
  refine ⟨es ++ es', by rw [htrace', htrace, List.append_assoc], ?_⟩
  rwa [received_append, received_eq_nil hes, List.nil_append]

theorem AnswersWith.of_silent_behind (h : AnswersWith P type s t succeeded)
    (h' : Extends (fun e ↦ e.received = none) t u) : AnswersWith P type s u succeeded := by
  obtain ⟨es, htrace, hiff⟩ := h
  obtain ⟨es', htrace', hes'⟩ := h'
  refine ⟨es ++ es', by rw [htrace', htrace, List.append_assoc], ?_⟩
  rwa [received_append, received_eq_nil hes', List.append_nil]

theorem AnswersWith.congr (h : AnswersWith P type s t succeeded) (hiff : succeeded' ↔ succeeded) :
    AnswersWith P type s t succeeded' := by
  obtain ⟨es, htrace, hbrings⟩ := h
  exact ⟨es, htrace, hiff.trans hbrings⟩

variable [Clock W]

theorem expectAck_answers {data data' : AckData} (hoff : self.keepAliveIntervalMs = 0)
    (h : expectAck P fuel self type data timer s = .ok (ret, data', self') t) :
    AnswersWith P type s t (ret = mqttSuccess) := by
  have hpos : (0 : ℤ) < type.code := by cases type <;> decide
  obtain ⟨⟨ret₁, data₁, self₁⟩, u, hread, hrest⟩ := bind_eq_ok_iff.mp h
  obtain ⟨⟨ret₂, self₂⟩, v, hwait, hack⟩ := bind_eq_ok_iff.mp hread
  dsimp only at hack hrest
  by_cases hret₂ : ret₂ ≠ mqttSuccess
  -- the wait has failed
  · rw [if_pos hret₂] at hack
    obtain ⟨rfl, -, rfl⟩ := Outcome.ok_pair_inj hack
    rw [if_pos (by decide)] at hrest
    obtain ⟨rfl, -, rfl⟩ := Outcome.ok_pair_inj hrest
    obtain ⟨es, htrace, hothers⟩ := waitForSpecificPacket_misses hpos hoff hwait hret₂
    refine ⟨es, htrace, iff_of_false (by decide) ?_⟩
    rintro ⟨buffer, hmem, -⟩
    exact hothers _ hmem rfl
  -- the first packet of the type decides
  obtain rfl := not_not.mp hret₂
  rw [if_neg hret₂] at hack
  obtain ⟨hret₁, hr, rfl⟩ := Outcome.ok_pair_inj hack
  obtain ⟨rfl, rfl⟩ := Prod.mk.inj hr
  subst hret₁
  obtain ⟨es, packets, htrace, hreceived, hothers⟩ := waitForSpecificPacket_received hpos hwait
  have hbrings : BringsAck P type (received es) ↔
      (P.paho.deserializeAck self₂.readbuf).1 = 1 := by
    rw [hreceived]
    constructor
    · rintro ⟨buffer, hmem, hone⟩
      rcases List.mem_append.mp hmem with hmem | hmem
      · exact absurd rfl (hothers _ hmem)
      · obtain ⟨-, rfl⟩ := Prod.mk.inj (List.mem_singleton.mp hmem)
        exact hone
    · exact fun hone ↦ ⟨self₂.readbuf, by simp, hone⟩
  by_cases hlen : (P.paho.deserializeAck self₂.readbuf).1 ≠ 1
  · rw [if_pos hlen, if_pos (by decide)] at hrest
    obtain ⟨rfl, -, rfl⟩ := Outcome.ok_pair_inj hrest
    exact ⟨es, htrace, iff_of_false (by decide) (hbrings.not.mpr hlen)⟩
  · rw [if_neg hlen, if_neg (by simp)] at hrest
    obtain ⟨_, w, hassert, hreturn⟩ := bind_eq_ok_iff.mp hrest
    obtain rfl := ((post_debugAssert _ _ _).ok hassert).1
    obtain ⟨rfl, -, rfl⟩ := Outcome.ok_pair_inj hreturn
    exact ⟨es, htrace, iff_of_true rfl (hbrings.mpr (not_not.mp hlen))⟩

theorem checkPublishQos_answers (hoff : self.keepAliveIntervalMs = 0)
    (h : checkPublishQos P fuel self 1 timer s = .ok (ret, self') t) :
    AnswersWith P .puback s t (ret = mqttSuccess) := by
  obtain ⟨⟨ret₁, data₁, self₁⟩, u, hack, hrest⟩ := bind_eq_ok_iff.mp h
  obtain ⟨rfl, -, rfl⟩ := Outcome.ok_pair_inj hrest
  refine (expectAck_answers hoff hack).congr ?_
  split_ifs with hret₁
  · exact iff_of_false (by decide) hret₁
  · exact iff_of_true rfl (not_not.mp hret₁)

/-- A publish of quality of service 1 succeeds exactly when a PUBACK is received. -/
theorem mqttClientPublish_answers {memory : Ptr → List UInt8} {topicName : Ptr}
    {msg msg' : MqttMessage} (hqos : msg.qos = 1) (hoff : self.keepAliveIntervalMs = 0)
    (h : mqttClientPublish P fuel memory self topicName msg timer s = .ok (ret, msg', self') t) :
    AnswersWith P .puback s t (ret = mqttSuccess) := by
  unfold mqttClientPublish at h
  by_cases hconnected : ¬self.isConnected = true
  · rw [if_pos hconnected] at h
    obtain ⟨rfl, -, rfl⟩ := Outcome.ok_pair_inj h
    exact .of_silent (.refl _ _) (by decide)
  rw [if_neg hconnected] at h
  obtain ⟨⟨msg₁, self₁⟩, u, hassign, hrest⟩ := bind_eq_ok_iff.mp h
  obtain ⟨rfl, hqos₁, hoff₁, -⟩ := assignPacketId_eq_ok hassign
  obtain ⟨⟨ret₁, self₂⟩, v, hsend, hrest⟩ := bind_eq_ok_iff.mp hrest
  dsimp only at hrest
  have hsent : Extends (fun e ↦ e.received = none) u v :=
    (emits_sendSerialized self₁ fun _ _ _ _ _ _ _ ↦ rfl).ok hsend
  have hoff₂ : self₂.keepAliveIntervalMs = 0 := by
    rw [(sendSerialized_eq_ok hsend).2]
    exact hoff₁.trans hoff
  by_cases hret₁ : ret₁ ≠ mqttSuccess
  · rw [if_pos hret₁] at hrest
    obtain ⟨rfl, -, rfl⟩ := Outcome.ok_pair_inj hrest
    exact .of_silent hsent (by decide)
  rw [if_neg hret₁] at hrest
  obtain ⟨⟨ret₂, self₃⟩, w, hcheck, hrest⟩ := bind_eq_ok_iff.mp hrest
  dsimp only at hrest
  rw [hqos₁.trans hqos] at hcheck
  have hanswers := (checkPublishQos_answers hoff₂ hcheck).of_silent_before hsent
  by_cases hret₂ : ret₂ ≠ mqttSuccess
  · rw [if_pos hret₂] at hrest
    obtain ⟨rfl, -, rfl⟩ := Outcome.ok_pair_inj hrest
    exact hanswers.congr (iff_of_false (by decide) hret₂)
  · rw [if_neg hret₂] at hrest
    obtain ⟨rfl, -, rfl⟩ := Outcome.ok_pair_inj hrest
    exact hanswers.congr (iff_of_true rfl (not_not.mp hret₂))

end Answered

/-- The message is relayed exactly when a PUBACK is received. The DISCONNECT behind a failure is
not answered. -/
theorem relayPublish_answers {P : Platform} {fuel : ℕ} {self : CcFsm} {s t : Sys World}
    {r : ℤ × CcFsm} (hqos : self.tmpDataPublish.msg.qos = 1)
    (hoff : self.client.keepAliveIntervalMs = 0) (h : relayPublish P fuel self s = .ok r t) :
    AnswersWith P .puback s t (r.1 = 0) := by
  obtain ⟨⟨ret, msg, client⟩, u, hpublish, hrest⟩ := bind_eq_ok_iff.mp h
  have hanswers := mqttClientPublish_answers hqos hoff hpublish
  dsimp only at hrest
  by_cases hret : ret ≠ mqttSuccess
  · rw [if_pos hret] at hrest
    obtain ⟨client', v, hdisconnect, hreturn⟩ := bind_eq_ok_iff.mp hrest
    obtain ⟨rfl, rfl⟩ := Outcome.ok.inj hreturn
    have hquiet : Emits (fun e ↦ e.received = none) (mqttClientDisconnect P client) :=
      (Emits.ite (Emits.pure _) ((emits_sendWithTimeout _ _ _ fun _ _ _ _ ↦ rfl).bind
        fun _ ↦ Emits.pure _)).bind fun _ ↦ Emits.pure _
    exact (hanswers.of_silent_behind (hquiet.ok hdisconnect)).congr
      (iff_of_false (by simp) hret)
  · rw [if_neg hret] at hrest
    obtain ⟨rfl, rfl⟩ := Outcome.ok.inj hrest
    exact hanswers.congr (iff_of_true rfl (not_not.mp hret))

section Report

variable {P : Platform} {fuel netFuel : ℕ} {self self' : CcFsm} {sensorPort : SensorPort}
  {s t u v : Sys World} {rc w : ℤ}

/-! ## The handlers -/

theorem handleMqttConnect_eq_ok {r : ℤ × CcFsm} (h : handleMqttConnect P self s = .ok r t) :
    r.1 = 0 := by
  obtain ⟨_, _, -, hreturn⟩ := bind_eq_ok_iff.mp h
  obtain ⟨rfl, -⟩ := Outcome.ok.inj hreturn
  rfl

theorem handlesMessage_iff_of_none (haccept : acceptMessage P self sensorPort u = .ok none u) :
    HandlesMessage P self sensorPort u v ↔ sensorPort.IsKnown :=
  and_iff_left fun _ hsome ↦ nomatch haccept.symm.trans hsome

theorem isKnown_of_type {type : PacketType}
    (h : headerType (sensorPort.bytes.headD 0) = type.code) : sensorPort.IsKnown := by
  rw [SensorPort.IsKnown, PacketType.ofCode_eq_some_iff.mpr h]
  rfl

/-- The handler returns zero exactly for a message that is handled. -/
theorem processMessage_eq_zero_iff (hP : P.ProcessesPackets) (hself : self.Ready netFuel)
    (hprocess : processMessage P fuel self sensorPort u = .ok (rc, self') v) :
    rc = 0 ↔ HandlesMessage P self sensorPort u v := by
  have hpost : Post (processMessage P fuel self sensorPort) u
      (fun r v ↦ r.1 = 0 ↔ HandlesMessage P self sensorPort u v) fun _ _ ↦ True := by
    apply post_processMessage hP hself sensorPort trivial trivial
    · intro self' haccept _ _
      rw [handlesMessage_iff_of_none haccept, SensorPort.IsKnown]
      split_ifs with hknown
      · exact iff_of_true rfl hknown
      · exact iff_of_false (by simp) hknown
    · intro htype
      have haccept : acceptMessage P self sensorPort u = .ok none u := by
        rw [acceptMessage, if_neg (by rw [htype]; decide)]
        rfl
      refine post_intro (fun r t h ↦ ?_) fun _ _ _ ↦ trivial
      rw [handlesMessage_iff_of_none haccept]
      exact iff_of_true (handleMqttConnect_eq_ok h) (isKnown_of_type htype)
    · intro self' haccept hready _
      have htype := (acceptMessage_eq_some haccept).1
      have hqos := (((post_acceptMessage hP sensorPort hself.payloadlen u).ok haccept).2
        self' rfl).2
      refine post_intro (fun r t h ↦ ?_) fun _ _ _ ↦ trivial
      obtain ⟨es, htrace, hiff⟩ :=
        relayPublish_answers hqos hready.client.keepAliveIntervalMs h
      rw [hiff, HandlesMessage, htrace, List.drop_left, and_iff_right (isKnown_of_type htype)]
      exact ⟨fun hbrings _ _ ↦ hbrings, fun hall ↦ hall self' haccept⟩
  exact hpost.ok hprocess

/-! ## The semaphore -/

/-- No handler touches the semaphore. -/
theorem processMessage_extends (hP : P.ProcessesPackets) (hself : self.Ready netFuel)
    {r : ℤ × CcFsm} (h : processMessage P fuel self sensorPort s = .ok r t) :
    Extends (fun e ↦ e.isSemPost = false) s t := by
  have hstep : ∀ u (e : Event World), e.isSemPost = false →
      Extends (fun e ↦ e.isSemPost = false) s u →
        Extends (fun e ↦ e.isSemPost = false) s { u with trace := u.trace ++ [e] } :=
    fun u e he hu ↦ hu.trans ⟨[e], rfl, by simpa using he⟩
  have hreceive : ReceiveKeeps (Extends (fun e ↦ e.isSemPost = false) s) fun _ _ ↦ True := by
    refine ⟨fun u u' hu hreceives ↦ hu.trans (hreceives.1.mono fun e he ↦ ?_),
      fun _ _ _ _ ↦ trivial⟩
    cases e <;> first | exact he.elim | rfl
  have hsend : SendKeeps (netWan netFuel) (fun _ ↦ True)
      (Extends (fun e ↦ e.isSemPost = false) s) fun _ _ ↦ True := by
    refine sendKeeps_netWan netFuel (fun packet u u' rc _ hu hsent ↦ ?_) fun _ _ ↦ trivial
    exact hu.trans ⟨_, hsent.trace, by simp [Event.isSemPost]⟩
  have hlan : SendKeeps (Network.unset .lan) (fun _ ↦ True)
      (Extends (fun e ↦ e.isSemPost = false) s) fun _ _ ↦ True :=
    sendKeeps_unset .lan (fun u hu ↦ hu.trans (Extends.of_trace_eq rfl)) fun _ _ _ _ ↦ trivial
  exact ((keeps_processMessage fuel (hreceive.waitKeeps P netFuel pahoRecvBuffSize) hP
    (fun _ _ ↦ trivial) hsend P.paho.sendsOnly_true sensorPort (fun _ ↦ hlan) hself s
    (Extends.refl _ s)).ok h).2

/-- Behind a handler the token is released once exactly when the post succeeds. -/
theorem postsOnce_afterSem_iff {newRet : ℤ} {token : Bool}
    (hquiet : Extends (fun e ↦ e.isSemPost = false) u v) :
    PostsOnce u (afterSem .semPost newRet token v) ↔ newRet = 0 := by
  obtain ⟨es, htrace, hnone⟩ := hquiet
  have hend : (afterSem .semPost newRet token v).trace =
      u.trace ++ (es ++ [.call .semPost newRet]) := by
    rw [afterSem, htrace, List.append_assoc]
  constructor
  · rintro ⟨es', htrace', -, hmem⟩
    obtain rfl := List.append_cancel_left (hend.symm.trans htrace')
    rcases List.mem_append.mp hmem with hmem | hmem
    · exact absurd (hnone _ hmem) (by simp [Event.isSemPost])
    · have heq := List.mem_singleton.mp hmem
      injection heq with _ hzero
      exact hzero.symm
  · rintro rfl
    refine ⟨_, hend, ?_, by simp⟩
    rw [List.countP_append, List.countP_eq_zero.mpr fun e he ↦ by simp [hnone e he]]
    rfl

/-- A call reports what became of its message exactly when there is no failure to report and
the post behind the handler succeeds. -/
theorem reportsFailure_iff (hP : P.ProcessesPackets) {ctorRet : ℤ}
    (hself : Reachable P ctorRet self) (hwait : semWait s = .ok w u)
    (hprocess : processMessage P fuel self sensorPort u = .ok (rc, self') v) :
    ReportsFailure P fuel self sensorPort s u rc ↔
      HandlesMessage P self sensorPort u v ∧ postAnswer v = 0 := by
  by_cases hctor : ctorRet ≠ 0
  · rw [hself.eq_zeroed hctor, processMessage_zeroed] at hprocess
    exact nomatch hprocess
  obtain rfl := not_not.mp hctor
  obtain ⟨netFuel, hready⟩ := hself.ready hP
  have hhandled := processMessage_eq_zero_iff hP hready hprocess
  have hquiet := processMessage_extends hP hready hprocess
  obtain ⟨newRet, hnewRet, hpost⟩ := semPost_eq_ok v
  rw [postAnswer, ← hnewRet]
  have hreleased : PostsOnce u (afterSem .semPost newRet
      (if newRet = 0 then true else v.world.token) v) ↔ newRet = 0 := postsOnce_afterSem_iff hquiet
  generalize afterSem .semPost newRet (if newRet = 0 then true else v.world.token) v = t
    at hpost hreleased
  have hnew : handleCcFsmNewMessage P fuel self sensorPort u = .ok (newRet, self') t :=
    (bind_eq_of_ok hprocess).trans (bind_eq_of_ok hpost)
  have hrpc : cloudConnectorRpcWrite P fuel self sensorPort s =
      .ok (if newRet ≠ osSuccess then P.osError .generic else osSuccess, self') t :=
    (bind_eq_of_ok hwait).trans (bind_eq_of_ok hnew)
  constructor
  · rintro ⟨newRet', ret, self'', t', hnew', -, hposts, -, hfails⟩
    obtain ⟨hpair, rfl⟩ := Outcome.ok.inj (hnew.symm.trans hnew')
    obtain rfl : newRet = newRet' := congrArg Prod.fst hpair
    have hzero := hreleased.mp hposts
    refine ⟨hhandled.mp ?_, hzero⟩
    by_contra hrc
    exact (hfails (Or.inr hrc)).1 hzero
  · rintro ⟨hdone, hzero⟩
    refine ⟨newRet, _, self', t, hnew, hrpc, hreleased.mpr hzero,
      fun _ ↦ ⟨hdone.1, hhandled.mpr hdone⟩, fun hbad ↦ ?_⟩
    exact hbad.elim (fun hunknown ↦ absurd hdone.1 hunknown)
      fun hrc ↦ absurd (hhandled.mpr hdone) hrc

end Report

/-! ## Fixed messages -/

/-- Every call succeeds and the token is there. -/
def readySys : Sys World := ⟨{ World.steady [] with token := true }, []⟩

/-- The codes of `sem_wait` and of the handler for one message. -/
def handlerCodes (self : CcFsm) (sensorPort : SensorPort) : Prog Stop (Sys World) (ℤ × ℤ) := do
  let w ← semWait
  let (rc, _) ← processMessage (Platform.reference false) 4 self sensorPort
  return (w, rc)

theorem handlerCodes_eq_ok {self : CcFsm} {sensorPort : SensorPort} {s v : Sys World} {w rc : ℤ}
    (h : handlerCodes self sensorPort s = .ok (w, rc) v) :
    ∃ u self', semWait s = .ok w u ∧
      processMessage (Platform.reference false) 4 self sensorPort u = .ok (rc, self') v := by
  obtain ⟨w', u, hwait, hrest⟩ := bind_eq_ok_iff.mp h
  obtain ⟨⟨rc', self'⟩, v', hprocess, hreturn⟩ := bind_eq_ok_iff.mp hrest
  obtain ⟨hpair, rfl⟩ := Outcome.ok.inj hreturn
  obtain ⟨rfl, rfl⟩ := Prod.mk.inj hpair
  exact ⟨u, self', hwait, hprocess⟩

/-- The message is relayed and acknowledged, and success is reported. -/
theorem reportsFailure_of_puback :
    ∃ self s u v, Reachable (Platform.reference false) 0 self ∧
      (received v.trace).map Prod.fst = [(PacketType.connack.code : ℤ), PacketType.puback.code] ∧
      HandlesMessage (Platform.reference false) self smallPublish u v ∧
      ReportsFailure (Platform.reference false) 4 self smallPublish s u 0 := by
  have hview : ((handleCcFsmInit (Platform.reference false) 4 (CcFsm.constructed 4) >>= fun r ↦
      handlerCodes r.2 smallPublish) ⟨World.steady [0x20, 2, 0, 0, 0x40, 2, 0, 2], []⟩).view?
        (fun r t ↦ (r, postAnswer t, (received t.trace).map Prod.fst)) =
      some ((0, 0), 0, [2, 4]) := by decide +kernel
  obtain ⟨⟨w, rc⟩, v, hrun, hcodes⟩ := Outcome.view?_eq_some_iff.mp hview
  obtain ⟨hpair, hanswers⟩ := Prod.mk.inj hcodes
  obtain ⟨hpost, hreceived⟩ := Prod.mk.inj hanswers
  obtain ⟨rfl, rfl⟩ := Prod.mk.inj hpair
  obtain ⟨⟨ret, self⟩, s, hinit, hhandle⟩ := bind_eq_ok_iff.mp hrun
  obtain ⟨u, self', hwait, hprocess⟩ := handlerCodes_eq_ok hhandle
  have hself : Reachable (Platform.reference false) 0 self :=
    (reachable_constructed _ 4).init rfl hinit
  have hP := Platform.reference_processesPackets false
  obtain ⟨netFuel, hready⟩ := hself.ready hP
  have hhandles := (processMessage_eq_zero_iff hP hready hprocess).mp rfl
  exact ⟨self, s, u, v, hself, hreceived, hhandles,
    (reportsFailure_iff hP hself hwait hprocess).mpr ⟨hhandles, hpost⟩⟩

/-- The client is not connected, so the PUBLISH cannot be relayed. The sensor is told that
it was. -/
theorem not_reportsFailure_of_publish :
    Reachable (Platform.reference false) 0 (CcFsm.constructed 4) ∧
      ∃ u self' v, semWait readySys = .ok 0 u ∧
        processMessage (Platform.reference false) 4 (CcFsm.constructed 4) smallPublish u =
          .ok (-1, self') v ∧
        ¬ReportsFailure (Platform.reference false) 4 (CcFsm.constructed 4) smallPublish
          readySys u (-1) := by
  have hcodes : (handlerCodes (CcFsm.constructed 4) smallPublish readySys).view?
      (fun r _ ↦ r) = some (0, -1) := by decide +kernel
  have hview : (cloudConnectorRpcWrite (Platform.reference false) 4 (CcFsm.constructed 4)
      smallPublish readySys).view? (fun r _ ↦ r.1) = some osSuccess := by decide +kernel
  obtain ⟨_, v, hhandle, rfl⟩ := Outcome.view?_eq_some_iff.mp hcodes
  obtain ⟨u, self', hwait, hprocess⟩ := handlerCodes_eq_ok hhandle
  obtain ⟨r, t, hrpc, hret⟩ := Outcome.view?_eq_some_iff.mp hview
  refine ⟨reachable_constructed _ 4, u, self', v, hwait, hprocess, ?_⟩
  rintro ⟨newRet, ret, self'', t', -, hrpc', -, hsuccess, -⟩
  obtain rfl : r = (ret, self'') := (Outcome.ok.inj (hrpc.symm.trans hrpc')).1
  exact absurd (hsuccess hret).2 (by decide)

end DemoIotApp
