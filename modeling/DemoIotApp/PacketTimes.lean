import DemoIotApp.ClientInvariants
import DemoIotApp.KeepAlive
import DemoIotApp.Timeouts

/-!
# When packets are sent

A packet is sent between two readings of the clock. As long as the clock does not go
back, what a client has sent since some time lies between that time and now, whatever
the client has done and whatever the network did to it.
-/

namespace DemoIotApp

open Library Prog

variable {W : Type} [Clock W]

/-! ## Time and packets -/

/-- The world behind a packet that was sent as a whole. -/
def Event.sentAfter : Event W → Option W
  | .sendPacket _ _ _ after (some rc) => if rc = mqttSuccess then some after else none
  | _ => none

/-- The worlds behind the packets that were sent. -/
def sentWorlds (es : List (Event W)) : List W := es.filterMap Event.sentAfter

omit [Clock W] in
theorem sentWorlds_append (es es' : List (Event W)) :
    sentWorlds (es ++ es') = sentWorlds es ++ sentWorlds es' :=
  List.filterMap_append

/-- The world in which the sending of a packet began. -/
def Event.sendBegin : Event W → Option W
  | .sendPacket _ _ before _ _ => some before
  | _ => none

/-- The clock never goes back, whatever the network does. A read leaves as many bytes
as it was to read. -/
structure TimePasses (I : W → Prop) (n : Network W) : Prop where
  clock : ∀ w, I w → I (Clock.now w).2 ∧ timeAt w ≤ timeAt (Clock.now w).2
  read : ∀ mqttread buffer timeoutMs w, n.mqttread = some mqttread → buffer ≠ [] → I w →
    Post (mqttread buffer timeoutMs) w
      (fun r w' ↦ r.2.length = buffer.length ∧ I w' ∧ timeAt w ≤ timeAt w') fun _ _ ↦ True
  write : ∀ mqttwrite packet timeoutMs w, n.mqttwrite = some mqttwrite → I w →
    Post (mqttwrite packet timeoutMs) w (fun _ w' ↦ I w' ∧ timeAt w ≤ timeAt w') fun _ _ ↦ True

/-- A packet was sent between two times. -/
def Event.SentBetween (early late : ℕ) : Event W → Prop
  | .sendPacket _ _ before after _ => early ≤ timeAt before ∧ timeAt after ≤ late
  | _ => True

theorem Event.SentBetween.mono {early late late' : ℕ} {e : Event W}
    (h : e.SentBetween early late) (hle : late ≤ late') : e.SentBetween early late' := by
  cases e with
  | sendPacket => exact ⟨h.1, h.2.trans hle⟩
  | read | readPacket | call => trivial

theorem Event.SentBetween.sentAfter {early late : ℕ} {e : Event W} {sent : W}
    (h : e.SentBetween early late) (hsent : e.sentAfter = some sent) : timeAt sent ≤ late := by
  cases e with
  | sendPacket link packet before after rc =>
      cases rc with
      | none => simp [Event.sentAfter] at hsent
      | some rc =>
          obtain ⟨-, heq⟩ := Option.ite_none_right_eq_some.mp hsent
          obtain rfl := Option.some.inj heq
          exact h.2
  | read | readPacket | call => simp [Event.sentAfter] at hsent

/-- What was sent since the trace ended with `base` was sent between `early` and now. -/
def Since (I : W → Prop) (early : ℕ) (base : List (Event W)) (s : Sys W) : Prop :=
  I s.world ∧ early ≤ timeAt s.world ∧
    ∃ es, s.trace = base ++ es ∧ ∀ e ∈ es, e.SentBetween early (timeAt s.world)

section Since

variable {I : W → Prop} {early : ℕ} {base : List (Event W)} {n : Network W} {s : Sys W} {w : W}

theorem Since.refl (hI : I s.world) : Since I (timeAt s.world) s.trace s :=
  ⟨hI, Nat.le_refl _, [], (List.append_nil _).symm, by simp⟩

theorem Since.onWorld (h : Since I early base s) (hI : I w) (hle : timeAt s.world ≤ timeAt w) :
    Since I early base { s with world := w } := by
  obtain ⟨-, hearly, es, htrace, hes⟩ := h
  exact ⟨hI, hearly.trans hle, es, htrace, fun e he ↦ (hes e he).mono hle⟩

theorem Since.log (h : Since I early base s) {e : Event W}
    (he : e.SentBetween early (timeAt s.world)) :
    Since I early base { s with trace := s.trace ++ [e] } := by
  obtain ⟨hI, hearly, es, htrace, hes⟩ := h
  refine ⟨hI, hearly, es ++ [e], by rw [htrace, List.append_assoc], ?_⟩
  intro e' he'
  rcases List.mem_append.mp he' with he' | he'
  · exact hes e' he'
  · exact List.mem_singleton.mp he' ▸ he

variable (htime : TimePasses I n)

include htime

theorem keeps_readClock_since :
    Keeps (Since I early base) (fun _ _ ↦ True) (fun _ ↦ True) readClock := by
  intro s hs
  obtain ⟨hI, hle⟩ := htime.clock s.world hs.1
  exact ⟨trivial, hs.onWorld hI hle⟩

theorem keeps_timeoutOf_since (timer : Option Timer) :
    Keeps (Since I early base) (fun _ _ ↦ True) (fun _ ↦ True) (timeoutOf timer) := by
  cases timer with
  | none => exact keeps_pure trivial
  | some timer => exact (keeps_readClock_since htime).bind fun _ _ ↦ keeps_pure trivial

theorem readKeeps_since : ReadKeeps n (Since I early base) fun _ _ ↦ True where
  read := by
    intro buffer timer hbuffer s hs
    unfold mqttNetworkRead
    rw [Sys.post_observed]
    apply (keeps_timeoutOf_since htime timer s hs).bind
    rintro timeoutMs t ⟨-, ht⟩
    cases hread : n.mqttread with
    | none => trivial
    | some mqttread =>
        dsimp only
        rw [Sys.post_onWorld]
        refine (htime.read mqttread buffer timeoutMs t.world hread hbuffer ht.1).mono ?_
          fun _ _ _ ↦ trivial
        rintro r w ⟨hlen, hI, hle⟩
        exact ⟨hlen, (ht.onWorld hI hle).log trivial⟩
  overrun _ _ := trivial

theorem sendKeeps_since :
    SendKeeps n (fun _ ↦ True) (Since I early base) fun _ _ ↦ True := by
  intro packet timer _ s hs
  unfold mqttNetworkSendPacket mqttNetworkWrite
  rw [Sys.post_observed]
  apply (keeps_timeoutOf_since htime timer s hs).bind
  rintro timeoutMs t ⟨-, ht⟩
  cases hwrite : n.mqttwrite with
  | none => trivial
  | some mqttwrite =>
      dsimp only
      rw [Sys.post_onWorld]
      refine (htime.write mqttwrite packet timeoutMs t.world hwrite ht.1).mono ?_
        fun _ _ _ ↦ trivial
      rintro rc w ⟨hI, hle⟩
      exact ⟨trivial, (ht.onWorld hI hle).log ⟨hs.2.1, Nat.le_refl _⟩⟩

theorem waitKeeps_since (P : Platform) (size keepAliveMs : ℕ) :
    WaitKeeps P n size keepAliveMs (Since I early base) fun _ _ ↦ True where
  clock := keeps_readClock_since htime
  receive := by
    rintro readbuf timer rfl s hs
    rw [Sys.post_observed]
    apply ((readKeeps_since htime).mqttNetworkReadPacket P.paho readbuf timer s hs).mono
    · exact fun r t ht ↦ ⟨ht.1, ht.2.log trivial⟩
    · exact fun _ _ _ ↦ trivial
  ping _ packet timer := sendKeeps_since htime packet timer trivial
  unfinished _ _ := trivial
  assertion _ _ := trivial

end Since

/-! ## Time on the TLS connection -/

/-- The calls go on, and what they answer is fixed. -/
def Proceeds (w w' : World) : Prop := w'.answers = w.answers ∧ w.calls ≤ w'.calls

theorem Proceeds.refl (w : World) : Proceeds w w := ⟨rfl, Nat.le_refl _⟩

theorem Proceeds.trans (w w' w'' : World) (h : Proceeds w w') (h' : Proceeds w' w'') :
    Proceeds w w'' :=
  ⟨h'.1.trans h.1, h.2.trans h'.2⟩

theorem proceeds_getTimeMs : Frame Proceeds glueTlsMqttGetTimeMs :=
  fun _ ↦ ⟨rfl, Nat.le_succ _⟩

theorem Proceeds.of_calls {α : Type} {m : Prog Stop World α}
    (h : ∀ w, Post m w (fun _ w' ↦ w'.answers = w.answers ∧ w'.calls = w.calls + 1)
      fun _ _ ↦ False) : Frame Proceeds m := by
  intro w
  cases hm : m w with
  | ok a w' =>
      obtain ⟨hanswers, hcalls⟩ := (h w).ok hm
      exact ⟨hanswers, hcalls ▸ Nat.le_succ _⟩
  | stop e w' => exact ((h w).stop hm).elim

theorem proceeds_writeRemaining (entryTime : UInt64) (timeoutMs : ℤ) (fuel : ℕ) :
    ∀ remaining, Frame Proceeds (writeRemaining entryTime timeoutMs fuel remaining) := by
  induction fuel with
  | zero => exact fun _ ↦ frame_stop Proceeds.refl _
  | succ fuel ih =>
      intro remaining
      refine frame_ite (frame_pure Proceeds.refl _) ?_
      refine frame_bind Proceeds.trans proceeds_getTimeMs fun now ↦ ?_
      refine frame_ite (frame_pure Proceeds.refl _) ?_
      refine frame_bind Proceeds.trans (.of_calls (osTlsWrite_calls remaining)) fun result ↦ ?_
      cases result with
      | success actualLen => exact ih _
      | wouldBlock => exact ih _
      | error code => exact frame_pure Proceeds.refl _

theorem proceeds_readRemaining (entryTime : UInt64) (timeoutMs : ℤ) (fuel : ℕ) :
    ∀ received remainingLen,
      Frame Proceeds (readRemaining entryTime timeoutMs fuel received remainingLen) := by
  induction fuel with
  | zero => exact fun _ _ ↦ frame_stop Proceeds.refl _
  | succ fuel ih =>
      intro received remainingLen
      refine frame_ite (frame_pure Proceeds.refl _) ?_
      refine frame_bind Proceeds.trans proceeds_getTimeMs fun now ↦ ?_
      refine frame_ite (frame_pure Proceeds.refl _) ?_
      refine frame_bind Proceeds.trans (.of_calls (osTlsRead_calls remainingLen)) fun r ↦ ?_
      obtain ⟨result, bytes⟩ := r
      cases result with
      | success actualLen => exact ih _ _
      | wouldBlock => exact ih _ _
      | error code => exact frame_pure Proceeds.refl _

/-- Time passes on the TLS connection when it passes on the clock. -/
theorem timePasses_netWan {answers : Answers}
    (hclock : ∀ i j, i ≤ j → answers.timerNow i ≤ answers.timerNow j) (fuel : ℕ) :
    TimePasses (fun w ↦ w.answers = answers) (netWan fuel) := by
  have hpasses : ∀ w w' : World, w.answers = answers → Proceeds w w' →
      w'.answers = answers ∧ timeAt w ≤ timeAt w' := by
    rintro w w' rfl ⟨hanswers, hcalls⟩
    refine ⟨hanswers, ?_⟩
    show w.answers.timerNow w.calls ≤ w'.answers.timerNow w'.calls
    rw [hanswers]
    exact hclock _ _ hcalls
  refine ⟨fun w hw ↦ hpasses w _ hw ⟨rfl, Nat.le_succ _⟩, ?_, ?_⟩
  · rintro mqttread buffer timeoutMs w hread hbuffer hw
    obtain rfl := Option.some.inj hread
    have hframe : Frame Proceeds (glueTlsMqttRead fuel buffer timeoutMs) :=
      frame_bind Proceeds.trans proceeds_getTimeMs fun entryTime ↦
        frame_ite (frame_pure Proceeds.refl _) (proceeds_readRemaining _ _ _ _ _)
    apply ((post_glueTlsMqttRead fuel buffer timeoutMs w hbuffer).and (hframe.post w)).mono
    · exact fun r w' h ↦ ⟨h.1.1, hpasses w w' hw h.2⟩
    · exact fun _ _ _ ↦ trivial
  · rintro mqttwrite packet timeoutMs w hwrite hw
    obtain rfl := Option.some.inj hwrite
    have hframe : Frame Proceeds (glueTlsMqttWrite fuel packet timeoutMs) :=
      frame_bind Proceeds.trans proceeds_getTimeMs fun entryTime ↦
        frame_ite (frame_pure Proceeds.refl _) (proceeds_writeRemaining _ _ _ _)
    exact (hframe.post w).mono (fun _ w' h ↦ hpasses w w' hw h) fun _ _ _ ↦ trivial

end DemoIotApp
