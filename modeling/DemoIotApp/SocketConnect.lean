import DemoIotApp.Reference

/-!
# The socket under the TLS connection

`connectSocket` waits in a loop for the event that tells whether the connection was
established. Each turn of the loop learns one thing, and only the last turn decides.
-/

namespace DemoIotApp

open Library Prog

/-! ## What a turn learns -/

/-- A call that failed, a number of sockets with events, or the event of the only one. -/
inductive SocketReport where
  | failed (ret : ℤ)
  | pending (count : ℤ)
  | event (evt : SocketEvent)

/-- The report of a turn that begins after `k` calls, and the calls made at its end. An event
is looked at only if it is the only pending one. -/
def Answers.socketReport (answers : Answers) (k : ℕ) : SocketReport × ℕ :=
  if answers.returnCode .socketWait k ≠ osSuccess then
    (.failed (answers.returnCode .socketWait k), k + 1)
  else if answers.returnCode .socketGetPendingEvents (k + 1) ≠ osSuccess then
    (.failed (answers.returnCode .socketGetPendingEvents (k + 1)), k + 2)
  else if answers.numberOfSocketsWithEvents (k + 2) ≠ 1 then
    (.pending (answers.numberOfSocketsWithEvents (k + 2)), k + 3)
  else
    (.event (answers.socketEvent (k + 3)), k + 4)

/-- What the loop returns after a turn, if it returns. -/
def SocketReport.verdict (P : Platform) (handleId : ℤ) : SocketReport → Option ℤ
  | .failed ret => some ret
  | .pending count => if count = 0 then none else some (P.osError .invalidState)
  | .event evt =>
      if evt.socketHandle ≠ handleId then some (P.osError .invalidHandle)
      else if evt.fin then some (P.osError .networkConnRefused)
      else if evt.connEst then some osSuccess
      else if evt.close then some (P.osError .connectionClosed)
      else if evt.error then some evt.currentError
      else none

/-- The report of the last turn, when the loop begins after `k` calls. -/
inductive LastReport (P : Platform) (answers : Answers) (handleId : ℤ) : ℕ → SocketReport → Prop
  | last {k : ℕ} {ret : ℤ} (h : (answers.socketReport k).1.verdict P handleId = some ret) :
      LastReport P answers handleId k (answers.socketReport k).1
  | later {k : ℕ} {report : SocketReport}
      (h : (answers.socketReport k).1.verdict P handleId = none)
      (hrest : LastReport P answers handleId (answers.socketReport k).2 report) :
      LastReport P answers handleId k report

/-- The sockets that were closed, in order. -/
def closedSockets (es : List (Event World)) : List ℤ :=
  es.filterMap fun
    | .call (.socketClose handleId) _ => some handleId
    | _ => none

theorem closedSockets_append (es es' : List (Event World)) :
    closedSockets (es ++ es') = closedSockets es ++ closedSockets es' :=
  List.filterMap_append

theorem closedSockets_call {call : Call} {rc : ℤ} {es : List (Event World)}
    (h : ∀ handleId, call ≠ .socketClose handleId) :
    closedSockets (es ++ [.call call rc]) = closedSockets es := by
  cases call <;> simp_all [closedSockets]

section Report

variable {P : Platform} {answers : Answers} {handleId : ℤ} {k : ℕ} {report report' : SocketReport}

theorem LastReport.unique (h : LastReport P answers handleId k report)
    (h' : LastReport P answers handleId k report') : report = report' := by
  induction h with
  | last hsome =>
      cases h' with
      | last => rfl
      | later hnone => exact absurd (hsome.symm.trans hnone) (by simp)
  | later hnone _ ih =>
      cases h' with
      | last hsome => exact absurd (hsome.symm.trans hnone) (by simp)
      | later _ hrest => exact ih hrest

theorem LastReport.exists_turn (h : LastReport P answers handleId k report) :
    ∃ j, report = (answers.socketReport j).1 := by
  induction h with
  | last => exact ⟨_, rfl⟩
  | later _ _ ih => exact ih

theorem socketReport_failed_ne {ret : ℤ} (h : (answers.socketReport k).1 = .failed ret) :
    ret ≠ osSuccess := by
  unfold Answers.socketReport at h
  split_ifs at h with hwait hget
  · cases h
    exact hwait
  · cases h
    exact hget

theorem socketReport_event {evt : SocketEvent} (h : (answers.socketReport k).1 = .event evt) :
    ∃ j, evt = answers.socketEvent j := by
  unfold Answers.socketReport at h
  split_ifs at h
  cases h
  exact ⟨_, rfl⟩

variable (P handleId) in
/-- The loop ends well for one kind of event only. -/
theorem verdict_eq_osSuccess_iff (h : ∃ j, report = (answers.socketReport j).1)
    (hcurrent : ∀ j, (answers.socketEvent j).error = true →
      (answers.socketEvent j).currentError ≠ osSuccess) :
    report.verdict P handleId = some osSuccess ↔
      ∃ evt, report = .event evt ∧ evt.socketHandle = handleId ∧ evt.connEst = true ∧
        evt.fin = false := by
  obtain ⟨j, hj⟩ := h
  cases report with
  | failed ret =>
      have hret := socketReport_failed_ne hj.symm
      simp [SocketReport.verdict, hret]
  | pending count =>
      have hstate : P.osError .invalidState ≠ osSuccess := P.osError_ne_zero _
      simp [SocketReport.verdict, hstate]
  | event evt =>
      have hhandle : P.osError .invalidHandle ≠ osSuccess := P.osError_ne_zero _
      have hrefused : P.osError .networkConnRefused ≠ osSuccess := P.osError_ne_zero _
      have hclosed : P.osError .connectionClosed ≠ osSuccess := P.osError_ne_zero _
      have herror : evt.error = true → evt.currentError ≠ osSuccess := by
        obtain ⟨i, rfl⟩ := socketReport_event hj.symm
        exact hcurrent i
      simp only [SocketReport.verdict, SocketReport.event.injEq, exists_eq_left']
      split_ifs <;> simp_all

theorem LastReport.succeeds_iff {ret : ℤ} (hlast : LastReport P answers handleId k report)
    (hverdict : report.verdict P handleId = some ret)
    (hcurrent : ∀ j, (answers.socketEvent j).error = true →
      (answers.socketEvent j).currentError ≠ osSuccess) :
    ret = osSuccess ↔ ∃ evt, LastReport P answers handleId k (.event evt) ∧
      evt.socketHandle = handleId ∧ evt.connEst = true ∧ evt.fin = false := by
  have hiff := verdict_eq_osSuccess_iff P handleId hlast.exists_turn hcurrent
  rw [hverdict, Option.some_inj] at hiff
  rw [hiff]
  constructor
  · rintro ⟨evt, rfl, hevt⟩
    exact ⟨evt, hlast, hevt⟩
  · rintro ⟨evt, hevent, hevt⟩
    exact ⟨evt, hlast.unique hevent, hevt⟩

end Report

/-! ## The loop -/

section Loop

variable {P : Platform} {handleId : ℤ}

/-- The tests of an event, in the order in which the loop makes them. -/
theorem verdict_event_apply (evt : SocketEvent) (next : Prog Stop (Sys World) ℤ) (s : Sys World) :
    (if evt.socketHandle ≠ handleId then return P.osError .invalidHandle
      else if evt.fin then return P.osError .networkConnRefused
      else if evt.connEst then return osSuccess
      else if evt.close then return P.osError .connectionClosed
      else if evt.error then return evt.currentError
      else next : Prog Stop (Sys World) ℤ) s =
    match (SocketReport.event evt).verdict P handleId with
    | some ret => .ok ret s
    | none => next s := by
  simp only [SocketReport.verdict]
  split_ifs <;> rfl

variable (P handleId) in
/-- One turn moves on in the calls and closes nothing. -/
theorem waitForConnection_succ (fuel : ℕ) (s : Sys World) :
    ∃ t : Sys World, t.world.answers = s.world.answers ∧
      t.world.calls = (s.world.answers.socketReport s.world.calls).2 ∧
      closedSockets t.trace = closedSockets s.trace ∧
      waitForConnection P handleId (fuel + 1) s =
        match (s.world.answers.socketReport s.world.calls).1.verdict P handleId with
        | some ret => .ok ret t
        | none => waitForConnection P handleId fuel t := by
  have hclosed₁ : closedSockets (s.called .socketWait).trace = closedSockets s.trace :=
    closedSockets_call (by simp)
  have hclosed₂ : closedSockets ((s.called .socketWait).called .socketGetPendingEvents).trace =
      closedSockets s.trace :=
    (closedSockets_call (by simp)).trans hclosed₁
  rw [waitForConnection, bind_eq_of_ok (osCall_apply .socketWait s)]
  by_cases hwait : s.nextCode .socketWait ≠ osSuccess
  · have hreport : s.world.answers.socketReport s.world.calls =
        (.failed (s.nextCode .socketWait), s.world.calls + 1) := if_pos hwait
    rw [hreport, if_pos hwait]
    exact ⟨s.called .socketWait, rfl, rfl, hclosed₁, rfl⟩
  rw [if_neg hwait, bind_eq_of_ok (osCall_apply .socketGetPendingEvents (s.called .socketWait))]
  by_cases hget : (s.called .socketWait).nextCode .socketGetPendingEvents ≠ osSuccess
  · have hreport : s.world.answers.socketReport s.world.calls =
        (.failed ((s.called .socketWait).nextCode .socketGetPendingEvents),
          s.world.calls + 2) := (if_neg hwait).trans (if_pos hget)
    rw [hreport, if_pos hget]
    exact ⟨(s.called .socketWait).called .socketGetPendingEvents, rfl, rfl, hclosed₂, rfl⟩
  rw [if_neg hget, bind_eq_of_ok (onWorld_ask_apply Answers.numberOfSocketsWithEvents
    ((s.called .socketWait).called .socketGetPendingEvents))]
  generalize hs₂ : (s.called .socketWait).called .socketGetPendingEvents = s₂ at hclosed₂ ⊢
  have hanswers : s₂.world.answers = s.world.answers := by rw [← hs₂]; rfl
  have hcalls : s₂.world.calls = s.world.calls + 2 := by rw [← hs₂]; rfl
  by_cases hcount : s₂.world.answers.numberOfSocketsWithEvents s₂.world.calls = 1
  · have hreport : s.world.answers.socketReport s.world.calls =
        (.event (s₂.world.answers.socketEvent s₂.asked.world.calls), s.world.calls + 4) := by
      rw [Sys.asked_calls, hanswers, hcalls]
      rw [hanswers, hcalls] at hcount
      exact (if_neg hwait).trans ((if_neg hget).trans (if_neg (not_not.mpr hcount)))
    have hsome : s₂.world.answers.numberOfSocketsWithEvents s₂.world.calls ≠ 0 := by
      rw [hcount]
      decide
    rw [hreport, if_neg hsome, if_neg (not_not.mpr hcount),
      bind_eq_of_ok (onWorld_ask_apply Answers.socketEvent s₂.asked)]
    exact ⟨s₂.asked.asked, hanswers, congrArg (· + 2) hcalls, hclosed₂, verdict_event_apply _ _ _⟩
  · have hreport : s.world.answers.socketReport s.world.calls =
        (.pending (s₂.world.answers.numberOfSocketsWithEvents s₂.world.calls),
          s.world.calls + 3) := by
      rw [hanswers, hcalls] at hcount ⊢
      exact (if_neg hwait).trans ((if_neg hget).trans (if_pos hcount))
    rw [hreport]
    refine ⟨s₂.asked, hanswers, congrArg (· + 1) hcalls, hclosed₂, ?_⟩
    dsimp only [SocketReport.verdict]
    by_cases hnone : s₂.world.answers.numberOfSocketsWithEvents s₂.world.calls = 0
    · rw [if_pos hnone, if_pos hnone]
    · rw [if_neg hnone, if_neg hnone, if_pos hcount]
      rfl

theorem waitForConnection_eq_ok {fuel : ℕ} {s t : Sys World} {ret : ℤ}
    (h : waitForConnection P handleId fuel s = .ok ret t) :
    ∃ report, LastReport P s.world.answers handleId s.world.calls report ∧
      report.verdict P handleId = some ret ∧ closedSockets t.trace = closedSockets s.trace := by
  induction fuel generalizing s with
  | zero => exact absurd h (by simp [waitForConnection, Prog.stop])
  | succ fuel ih =>
      obtain ⟨u, hanswers, hcalls, hclosed, hturn⟩ := waitForConnection_succ P handleId fuel s
      rw [h] at hturn
      cases hverdict : (s.world.answers.socketReport s.world.calls).1.verdict P handleId with
      | some ret' =>
          rw [hverdict] at hturn
          obtain ⟨rfl, rfl⟩ := Outcome.ok.inj hturn
          exact ⟨_, .last hverdict, hverdict, hclosed⟩
      | none =>
          rw [hverdict] at hturn
          obtain ⟨report, hlast, hret, hclosed'⟩ := ih hturn.symm
          rw [hanswers, hcalls] at hlast
          exact ⟨report, .later hverdict hlast, hret, hclosed'.trans hclosed⟩

end Loop

/-! ## The whole connect -/

/-- `connectSocket` succeeds if and only if the socket was created and connected and the last
event is the only pending one, of this socket, tells that the connection is there and not that it
was refused. Otherwise a socket that was created is closed once. -/
theorem connectSocket_closes_once {P : Platform} {fuel : ℕ} {s t : Sys World} {ret : ℤ}
    (hcurrent : ∀ k, (s.world.answers.socketEvent k).error = true →
      (s.world.answers.socketEvent k).currentError ≠ osSuccess)
    (h : connectSocket P fuel s = .ok ret t) :
    let answers := s.world.answers
    let created := answers.returnCode .socketCreate s.world.calls
    let handleId := answers.handleId (s.world.calls + 1)
    let connected := answers.returnCode (.socketConnect handleId) (s.world.calls + 2)
    (ret = osSuccess ↔ created = osSuccess ∧ connected = osSuccess ∧
      ∃ evt, LastReport P answers handleId (s.world.calls + 3) (.event evt) ∧
        evt.socketHandle = handleId ∧ evt.connEst = true ∧ evt.fin = false) ∧
    closedSockets t.trace = closedSockets s.trace ++
      if created = osSuccess ∧ ret ≠ osSuccess then [handleId] else [] := by
  intro answers created handleId connected
  have hclose : ∀ u : Sys World, closedSockets (u.called (.socketClose handleId)).trace =
      closedSockets u.trace ++ [handleId] := fun u ↦ closedSockets_append _ _
  have hcreate : closedSockets (s.called .socketCreate).trace = closedSockets s.trace :=
    closedSockets_call (by simp)
  rw [connectSocket, bind_eq_of_ok (osCall_apply .socketCreate s)] at h
  by_cases hcreated : created ≠ osSuccess
  · rw [if_pos (show s.nextCode .socketCreate ≠ osSuccess from hcreated)] at h
    obtain ⟨rfl, rfl⟩ := Outcome.ok.inj h
    rw [if_neg fun h ↦ hcreated h.1, List.append_nil]
    exact ⟨iff_of_false hcreated fun h ↦ hcreated h.1, hcreate⟩
  rw [if_neg (show ¬s.nextCode .socketCreate ≠ osSuccess from hcreated),
    bind_eq_of_ok (onWorld_ask_apply Answers.handleId (s.called .socketCreate))] at h
  change (osCall (.socketConnect handleId) >>= _) (s.called .socketCreate).asked = _ at h
  rw [bind_eq_of_ok (osCall_apply (.socketConnect handleId) (s.called .socketCreate).asked)] at h
  generalize hs₃ : (s.called .socketCreate).asked.called (.socketConnect handleId) = s₃ at h
  have hanswers : s₃.world.answers = answers := by rw [← hs₃]; rfl
  have hcalls : s₃.world.calls = s.world.calls + 3 := by rw [← hs₃]; rfl
  have hclosed₃ : closedSockets s₃.trace = closedSockets s.trace := by
    rw [← hs₃]
    exact (closedSockets_call (by simp)).trans hcreate
  have hcode : (s.called .socketCreate).asked.nextCode (.socketConnect handleId) = connected := rfl
  rw [hcode] at h
  by_cases hconnected : connected ≠ osSuccess
  · rw [if_pos hconnected] at h
    obtain ⟨rfl, rfl⟩ := Outcome.ok.inj h
    rw [if_pos ⟨not_not.mp hcreated, hconnected⟩]
    exact ⟨iff_of_false hconnected fun h ↦ hconnected h.2.1, (hclose s₃).trans (by rw [hclosed₃])⟩
  rw [if_neg hconnected] at h
  obtain ⟨ret', u, hloop, hend⟩ := bind_eq_ok_iff.mp h
  obtain ⟨report, hlast, hverdict, hclosed⟩ := waitForConnection_eq_ok hloop
  rw [hanswers, hcalls] at hlast
  have hret : ret' = osSuccess ↔ created = osSuccess ∧ connected = osSuccess ∧
      ∃ evt, LastReport P answers handleId (s.world.calls + 3) (.event evt) ∧
        evt.socketHandle = handleId ∧ evt.connEst = true ∧ evt.fin = false := by
    refine (hlast.succeeds_iff hverdict hcurrent).trans ⟨fun hevt ↦ ?_, fun h ↦ h.2.2⟩
    exact ⟨not_not.mp hcreated, not_not.mp hconnected, hevt⟩
  by_cases hsuccess : ret' ≠ osSuccess
  · rw [if_pos hsuccess] at hend
    obtain ⟨rfl, rfl⟩ := Outcome.ok.inj hend
    rw [if_pos ⟨not_not.mp hcreated, hsuccess⟩]
    exact ⟨hret, (hclose u).trans (by rw [hclosed, hclosed₃])⟩
  · rw [if_neg hsuccess] at hend
    obtain ⟨rfl, rfl⟩ := Outcome.ok.inj hend
    rw [if_neg fun h ↦ hsuccess h.2, List.append_nil]
    exact ⟨hret, hclosed.trans hclosed₃⟩

/-- The first turn finds no event and the second one the connection. -/
def Answers.connects : Answers :=
  { (World.steady []).answers with
    numberOfSocketsWithEvents := fun k ↦ if k = 5 then 0 else 1
    socketEvent := fun _ ↦ ⟨7, false, true, false, false, 0⟩
    handleId := fun _ ↦ 7 }

theorem connectSocket_second_turn :
    ∃ t, connectSocket (Platform.reference false) 2
        ⟨{ World.steady [] with answers := .connects }, []⟩ = .ok osSuccess t ∧
      closedSockets t.trace = [] := by
  obtain ⟨t, hrun⟩ : ∃ t, connectSocket (Platform.reference false) 2
      ⟨{ World.steady [] with answers := .connects }, []⟩ = .ok osSuccess t := ⟨_, rfl⟩
  have hcloses := (connectSocket_closes_once (by simp [Answers.connects]) hrun).2
  exact ⟨t, hrun, hcloses⟩

end DemoIotApp
