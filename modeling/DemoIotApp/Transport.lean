import DemoIotApp.GlueTls

/-!
# What the transport does to the two byte streams

The layers above the transport need little of it: a read delivers the next
bytes of the incoming stream, a write appends to the outgoing one. Both are
stated for an arbitrary `Network` and proved for the TLS connection.
-/

namespace DemoIotApp

open Library Prog

/-! ## Laws -/

/-- A read into a buffer. When it succeeds it has delivered exactly the bytes
that fill the buffer, and when it fails it has delivered fewer. -/
def Delivers (buffer rx rx' : List UInt8) (r : ℤ × List UInt8) : Prop :=
  r.2.length = buffer.length ∧ ∃ delivered, rx = delivered ++ rx' ∧
    (r.1 = mqttSuccess ∧ r.2 = delivered ∨ r.1 < 0 ∧ delivered.length < buffer.length)

/-- A write of a buffer. It has written a prefix, and all of it exactly when
it succeeds. -/
def Writes (buffer wire wire' : List UInt8) (rc : ℤ) : Prop :=
  ∃ written rest, buffer = written ++ rest ∧ wire' = wire ++ written ∧
    (rc = mqttSuccess ∧ rest = [] ∨ rc < 0 ∧ (rest ≠ [] ∨ buffer = []))

section

variable {W : Type} [Clock W]

/-- The network delivers the incoming stream `rx`. -/
structure ReadsStream (rx : W → List UInt8) (n : Network W) : Prop where
  clock : ∀ w, rx (Clock.now w).2 = rx w
  read : ∀ mqttread buffer timeoutMs w, n.mqttread = some mqttread → buffer ≠ [] →
    Post (mqttread buffer timeoutMs) w (fun r w' ↦ Delivers buffer (rx w) (rx w') r)
      fun _ _ ↦ True
  write : ∀ mqttwrite packet timeoutMs w, n.mqttwrite = some mqttwrite →
    Post (mqttwrite packet timeoutMs) w (fun _ w' ↦ rx w' = rx w) fun _ _ ↦ True

end

/-! ## Invariants of the world -/

namespace World

variable {α : Type} {I : World → Prop}

theorem keeps_ask (hI : ∀ w calls, I w → I { w with calls := calls })
    (question : Answers → ℕ → α) :
    Keeps I (fun e w ↦ e = .unfinished ∧ I w) (fun _ ↦ True) (ask question) :=
  fun w hw ↦ ⟨trivial, hI w _ hw⟩

theorem keeps_getTimeMs (hI : ∀ w calls, I w → I { w with calls := calls }) :
    Keeps I (fun e w ↦ e = .unfinished ∧ I w) (fun _ ↦ True) glueTlsMqttGetTimeMs :=
  (keeps_ask hI _).bind fun _ _ ↦ keeps_pure trivial

section Write

variable (hI : ∀ w calls wire, I w → I { w with calls := calls, wire := wire })

include hI

theorem keeps_osTlsWrite (bytes : List UInt8) :
    Keeps I (fun e w ↦ e = .unfinished ∧ I w) (fun _ ↦ True) (osTlsWrite bytes) := by
  apply (keeps_ask (fun w calls hw ↦ hI w calls w.wire hw) _).bind
  intro result _
  cases result with
  | success actualLen => exact fun w hw ↦ ⟨trivial, hI w w.calls _ hw⟩
  | wouldBlock => exact keeps_pure trivial
  | error code => exact keeps_pure trivial

theorem keeps_writeRemaining (entryTime : UInt64) (timeoutMs : ℤ) (fuel : ℕ) :
    ∀ remaining, Keeps I (fun e w ↦ e = .unfinished ∧ I w) (fun _ ↦ True)
      (writeRemaining entryTime timeoutMs fuel remaining) := by
  induction fuel with
  | zero => exact fun _ ↦ keeps_stop fun _ hw ↦ ⟨rfl, hw⟩
  | succ fuel ih =>
      intro remaining
      refine keeps_ite (fun _ ↦ keeps_pure trivial) fun _ ↦ ?_
      apply (keeps_getTimeMs fun w calls hw ↦ hI w calls w.wire hw).bind
      intro now _
      refine keeps_ite (fun _ ↦ keeps_pure trivial) fun _ ↦ ?_
      apply (keeps_osTlsWrite hI remaining).bind
      intro result _
      cases result with
      | success actualLen => exact ih _
      | wouldBlock => exact ih _
      | error code => exact keeps_pure trivial

theorem keeps_glueTlsMqttWrite (fuel : ℕ) (buf : List UInt8) (timeoutMs : ℤ) :
    Keeps I (fun e w ↦ e = .unfinished ∧ I w) (fun _ ↦ True)
      (glueTlsMqttWrite fuel buf timeoutMs) := by
  apply (keeps_getTimeMs fun w calls hw ↦ hI w calls w.wire hw).bind
  intro entryTime _
  exact keeps_ite (fun _ ↦ keeps_pure trivial) fun _ ↦ keeps_writeRemaining hI _ _ _ _

end Write

section Read

variable (hI : ∀ w calls rx, I w → I { w with calls := calls, rx := rx })

include hI

theorem keeps_osTlsRead (len : ℕ) :
    Keeps I (fun e w ↦ e = .unfinished ∧ I w) (fun _ ↦ True) (osTlsRead len) := by
  apply (keeps_ask (fun w calls hw ↦ hI w calls w.rx hw) _).bind
  intro result _
  cases result with
  | success actualLen => exact fun w hw ↦ ⟨trivial, hI w w.calls _ hw⟩
  | wouldBlock => exact keeps_pure trivial
  | error code => exact keeps_pure trivial

theorem keeps_readRemaining (entryTime : UInt64) (timeoutMs : ℤ) (fuel : ℕ) :
    ∀ received remainingLen, Keeps I (fun e w ↦ e = .unfinished ∧ I w) (fun _ ↦ True)
      (readRemaining entryTime timeoutMs fuel received remainingLen) := by
  induction fuel with
  | zero => exact fun _ _ ↦ keeps_stop fun _ hw ↦ ⟨rfl, hw⟩
  | succ fuel ih =>
      intro received remainingLen
      refine keeps_ite (fun _ ↦ keeps_pure trivial) fun _ ↦ ?_
      apply (keeps_getTimeMs fun w calls hw ↦ hI w calls w.rx hw).bind
      intro now _
      refine keeps_ite (fun _ ↦ keeps_pure trivial) fun _ ↦ ?_
      apply (keeps_osTlsRead hI remainingLen).bind
      rintro ⟨result, bytes⟩ _
      cases result with
      | success actualLen => exact ih _ _
      | wouldBlock => exact ih _ _
      | error code => exact keeps_pure trivial

theorem keeps_glueTlsMqttRead (fuel : ℕ) (buf : List UInt8) (timeoutMs : ℤ) :
    Keeps I (fun e w ↦ e = .unfinished ∧ I w) (fun _ ↦ True)
      (glueTlsMqttRead fuel buf timeoutMs) := by
  apply (keeps_getTimeMs fun w calls hw ↦ hI w calls w.rx hw).bind
  intro entryTime _
  exact keeps_ite (fun _ ↦ keeps_pure trivial) fun _ ↦ keeps_readRemaining hI _ _ _ _ _

end Read

end World

/-! ## The TLS connection -/

theorem post_osTlsWrite (bytes : List UInt8) (w : World) :
    Post (osTlsWrite bytes) w
      (fun result w' ↦ match result with
        | .success actualLen => w'.wire = w.wire ++ bytes.take actualLen
        | _ => w'.wire = w.wire)
      fun _ _ ↦ False := by
  unfold osTlsWrite
  rw [post_bind]
  show Post (match w.answers.tlsWrite w.calls with
    | .success actualLen => _
    | result => _) _ _ _
  cases w.answers.tlsWrite w.calls with
  | success actualLen => rfl
  | wouldBlock => rfl
  | error code => rfl

theorem post_osTlsRead (len : ℕ) (w : World) :
    Post (osTlsRead len) w
      (fun r w' ↦ w.rx = r.2 ++ w'.rx ∧ r.2.length ≤ len ∧ match r.1 with
        | .success actualLen => actualLen = r.2.length
        | _ => r.2 = [])
      fun _ _ ↦ False := by
  unfold osTlsRead
  rw [post_bind]
  show Post (match w.answers.tlsRead w.calls with
    | .success actualLen => _
    | result => _) _ _ _
  cases w.answers.tlsRead w.calls with
  | success actualLen =>
      refine ⟨(List.take_append_drop _ _).symm, ?_, rfl⟩
      simp only [List.length_take]
      omega
  | wouldBlock => exact ⟨rfl, Nat.zero_le _, rfl⟩
  | error code => exact ⟨rfl, Nat.zero_le _, rfl⟩

/-- The loop writes a prefix of what remains, however it ends. -/
theorem post_writeRemaining (entryTime : UInt64) (timeoutMs : ℤ) (fuel : ℕ) :
    ∀ remaining w, Post (writeRemaining entryTime timeoutMs fuel remaining) w
      (fun rc w' ↦ ∃ written rest, remaining = written ++ rest ∧ w'.wire = w.wire ++ written ∧
        (rc = mqttSuccess ∧ rest = [] ∨ rc < 0 ∧ rest ≠ []))
      (fun _ w' ↦ ∃ written rest, remaining = written ++ rest ∧ w'.wire = w.wire ++ written) := by
  induction fuel with
  | zero => exact fun remaining w ↦ ⟨[], remaining, rfl, (List.append_nil _).symm⟩
  | succ fuel ih =>
      intro remaining w
      unfold writeRemaining
      by_cases hnil : remaining = []
      · rw [if_pos hnil]
        exact ⟨[], [], by simp [hnil], by simp, Or.inl ⟨rfl, rfl⟩⟩
      rw [if_neg hnil, post_bind]
      show Post (ite _ _ _) _ _ _
      split
      · exact ⟨[], remaining, rfl, by simp, Or.inr ⟨mqttTimeout_neg, hnil⟩⟩
      · rw [post_bind]
        apply (post_osTlsWrite remaining _).mono _ fun _ _ h ↦ h.elim
        intro result w' hwire
        cases result with
        | success actualLen =>
            have hsplit : ∀ written rest, remaining.drop actualLen = written ++ rest →
                remaining = (remaining.take actualLen ++ written) ++ rest := by
              intro written rest h
              rw [List.append_assoc, ← h, List.take_append_drop]
            apply (ih _ w').mono
            · rintro rc w'' ⟨written, rest, hrem, hw'', hrc⟩
              exact ⟨_, rest, hsplit written rest hrem, by rw [hw'', hwire, List.append_assoc], hrc⟩
            · rintro e w'' ⟨written, rest, hrem, hw''⟩
              exact ⟨_, rest, hsplit written rest hrem, by rw [hw'', hwire, List.append_assoc]⟩
        | wouldBlock => exact hwire ▸ ih remaining w'
        | error code =>
            exact ⟨[], remaining, rfl, by simpa using hwire, Or.inr ⟨mqttFailure_neg, hnil⟩⟩

theorem post_glueTlsMqttWrite (fuel : ℕ) (buf : List UInt8) (timeoutMs : ℤ) (w : World) :
    Post (glueTlsMqttWrite fuel buf timeoutMs) w
      (fun rc w' ↦ Writes buf w.wire w'.wire rc)
      (fun _ w' ↦ ∃ written rest, buf = written ++ rest ∧ w'.wire = w.wire ++ written) := by
  unfold glueTlsMqttWrite
  rw [post_bind]
  show Post (ite _ _ _) _ _ _
  split
  · refine ⟨[], buf, rfl, by simp, Or.inr ⟨mqttFailure_neg, ?_⟩⟩
    exact (em (buf = [])).symm
  · apply (post_writeRemaining _ _ _ _ _).mono _ fun _ _ h ↦ h
    rintro rc w' ⟨written, rest, hbuf, hwire, hrc⟩
    exact ⟨written, rest, hbuf, hwire, hrc.imp_right fun h ↦ ⟨h.1, Or.inl h.2⟩⟩

/-- The buffer after a read of so many bytes: what was delivered stands at the front, and
zeros are behind it. -/
def filled (len : ℕ) (delivered : List UInt8) : List UInt8 :=
  delivered ++ List.replicate (len - delivered.length) 0

theorem length_filled {len : ℕ} {delivered : List UInt8} (h : delivered.length ≤ len) :
    (filled len delivered).length = len := by
  simp only [filled, List.length_append, List.length_replicate]
  omega

theorem append_filled (received bytes delivered : List UInt8) (len : ℕ) :
    (received ++ bytes) ++ filled (len - bytes.length) delivered =
      received ++ filled len (bytes ++ delivered) := by
  simp only [filled, List.append_assoc, List.length_append, Nat.sub_sub]

/-- The loop stores what is delivered behind what it has received before. -/
theorem post_readRemaining (entryTime : UInt64) (timeoutMs : ℤ) (fuel : ℕ) :
    ∀ received remainingLen w,
      Post (readRemaining entryTime timeoutMs fuel received remainingLen) w
        (fun r w' ↦ ∃ delivered, w.rx = delivered ++ w'.rx ∧ delivered.length ≤ remainingLen ∧
          r.2 = received ++ filled remainingLen delivered ∧
            (r.1 = mqttSuccess ∧ delivered.length = remainingLen ∨
              r.1 < 0 ∧ delivered.length < remainingLen))
        fun _ _ ↦ True := by
  induction fuel with
  | zero => exact fun _ _ _ ↦ trivial
  | succ fuel ih =>
      intro received remainingLen w
      unfold readRemaining
      by_cases hzero : remainingLen = 0
      · rw [if_pos hzero]
        exact ⟨[], rfl, Nat.zero_le _, by simp [filled, hzero], Or.inl ⟨rfl, hzero.symm⟩⟩
      have hpos : 0 < remainingLen := Nat.pos_of_ne_zero hzero
      rw [if_neg hzero, post_bind]
      show Post (ite _ _ _) _ _ _
      split
      · exact ⟨[], rfl, Nat.zero_le _, rfl, Or.inr ⟨mqttTimeout_neg, hpos⟩⟩
      · rw [post_bind]
        apply (post_osTlsRead remainingLen _).mono _ fun _ _ h ↦ h.elim
        rintro ⟨result, bytes⟩ w' ⟨hrx, hle, hresult⟩
        cases result with
        | success actualLen =>
            obtain rfl : actualLen = bytes.length := hresult
            apply (ih _ _ w').mono _ fun _ _ h ↦ h
            rintro ⟨rc, buffer⟩ w'' ⟨delivered, hrx', hlen, hbuffer, hrc⟩
            have hrx'' : w.rx = (bytes ++ delivered) ++ w''.rx := by
              rw [List.append_assoc, ← hrx']
              exact hrx
            dsimp only at hle
            refine ⟨bytes ++ delivered, hrx'', ?_, hbuffer.trans (append_filled _ _ _ _), ?_⟩
            · rw [List.length_append]
              omega
            · rw [List.length_append]
              omega
        | wouldBlock =>
            obtain rfl : bytes = [] := hresult
            have hrx' : w.rx = w'.rx := hrx
            exact hrx' ▸ ih received remainingLen w'
        | error code =>
            obtain rfl : bytes = [] := hresult
            exact ⟨[], hrx, Nat.zero_le _, rfl, Or.inr ⟨mqttFailure_neg, hpos⟩⟩

theorem post_glueTlsMqttRead (fuel : ℕ) (buf : List UInt8) (timeoutMs : ℤ) (w : World)
    (hbuf : buf ≠ []) :
    Post (glueTlsMqttRead fuel buf timeoutMs) w (fun r w' ↦ Delivers buf w.rx w'.rx r)
      fun _ _ ↦ True := by
  have hpos : 0 < buf.length := List.length_pos_iff.mpr hbuf
  unfold glueTlsMqttRead
  rw [post_bind]
  show Post (ite _ _ _) _ _ _
  split
  · exact ⟨rfl, [], rfl, Or.inr ⟨mqttFailure_neg, hpos⟩⟩
  · apply (post_readRemaining _ _ _ _ _ _).mono _ fun _ _ h ↦ h
    rintro ⟨rc, buffer⟩ w' ⟨delivered, hrx, hlen, hbuffer, hrc⟩
    obtain rfl : buffer = filled buf.length delivered := hbuffer
    refine ⟨length_filled hlen, delivered, hrx, hrc.imp_left fun h ↦ ⟨h.1, ?_⟩⟩
    simp [filled, h.2]

theorem readsStream_netWan (fuel : ℕ) : ReadsStream World.rx (netWan fuel) where
  clock _ := rfl
  read := by
    rintro mqttread buffer timeoutMs w h hbuffer
    obtain rfl := Option.some.inj h
    exact post_glueTlsMqttRead fuel buffer timeoutMs w hbuffer
  write := by
    rintro mqttwrite packet timeoutMs w h
    obtain rfl := Option.some.inj h
    have hkeeps := World.keeps_glueTlsMqttWrite (I := fun w' ↦ w'.rx = w.rx)
      (fun _ _ _ hw ↦ hw) fuel packet timeoutMs
    exact (hkeeps w rfl).mono (fun _ _ h ↦ h.2) fun _ _ _ ↦ trivial

/-! ## No byte is lost or doubled -/

/-- The clock gives no time when the transport is entered. A reading of zero counts as none. -/
def EntryTimeFails (w : World) : Prop := (w.answers.getTime w.calls).getD 0 = 0

theorem post_glueTlsMqttGetTimeMs (w : World) :
    Post glueTlsMqttGetTimeMs w
      (fun entryTime w' ↦ (entryTime = 0 ↔ EntryTimeFails w) ∧
        w' = { w with calls := w.calls + 1 })
      fun _ _ ↦ False :=
  ⟨Iff.rfl, rfl⟩

theorem post_glueTlsMqttWrite_exact (fuel : ℕ) (buf : List UInt8) (timeoutMs : ℤ) (w : World) :
    Post (glueTlsMqttWrite fuel buf timeoutMs) w
      (fun rc w' ↦ ∃ written rest, buf = written ++ rest ∧ w'.wire = w.wire ++ written ∧
        (rc = mqttSuccess ↔ rest = [] ∧ ¬(buf = [] ∧ EntryTimeFails w)) ∧
          (EntryTimeFails w → rc = mqttFailure))
      fun _ _ ↦ True := by
  unfold glueTlsMqttWrite
  apply ((post_glueTlsMqttGetTimeMs w).mono (fun _ _ h ↦ h) fun _ _ h ↦ h.elim).bind
  rintro entryTime _ ⟨htime, rfl⟩
  refine post_ite (fun hzero ↦ ?_) fun hpos ↦ ?_
  · have hfails := htime.mp hzero
    refine ⟨[], buf, rfl, (List.append_nil _).symm, ?_, fun _ ↦ rfl⟩
    exact iff_of_false mqttFailure_ne_mqttSuccess fun h ↦ h.2 ⟨h.1, hfails⟩
  · have hfine : ¬EntryTimeFails w := fun h ↦ hpos (htime.mpr h)
    apply (post_writeRemaining entryTime timeoutMs fuel buf _).mono _ fun _ _ _ ↦ trivial
    rintro rc w' ⟨written, rest, hbuf, hwire, hrc⟩
    refine ⟨written, rest, hbuf, hwire, ?_, fun h ↦ absurd h hfine⟩
    rcases hrc with ⟨rfl, rfl⟩ | ⟨hneg, hrest⟩
    · exact iff_of_true rfl ⟨rfl, fun h ↦ hfine h.2⟩
    · exact iff_of_false (Int.ne_of_lt hneg) fun h ↦ hrest h.1

theorem post_glueTlsMqttRead_exact (fuel : ℕ) (buf : List UInt8) (timeoutMs : ℤ) (w : World) :
    Post (glueTlsMqttRead fuel buf timeoutMs) w
      (fun r w' ↦ ∃ delivered, w.rx = delivered ++ w'.rx ∧ delivered.length ≤ buf.length ∧
        r.2.length = buf.length ∧ delivered <+: r.2 ∧
          (r.1 = mqttSuccess ↔ delivered.length = buf.length ∧ ¬(buf = [] ∧ EntryTimeFails w)) ∧
            (EntryTimeFails w → r.1 = mqttFailure))
      fun _ _ ↦ True := by
  unfold glueTlsMqttRead
  apply ((post_glueTlsMqttGetTimeMs w).mono (fun _ _ h ↦ h) fun _ _ h ↦ h.elim).bind
  rintro entryTime _ ⟨htime, rfl⟩
  refine post_ite (fun hzero ↦ ?_) fun hpos ↦ ?_
  · have hfails := htime.mp hzero
    refine ⟨[], rfl, Nat.zero_le _, rfl, List.nil_prefix, ?_, fun _ ↦ rfl⟩
    exact iff_of_false mqttFailure_ne_mqttSuccess fun h ↦
      h.2 ⟨List.length_eq_zero_iff.mp h.1.symm, hfails⟩
  · have hfine : ¬EntryTimeFails w := fun h ↦ hpos (htime.mpr h)
    apply (post_readRemaining entryTime timeoutMs fuel [] buf.length _).mono _ fun _ _ _ ↦ trivial
    rintro ⟨rc, buffer⟩ w' ⟨delivered, hrx, hlen, hbuffer, hrc⟩
    obtain rfl : buffer = filled buf.length delivered := hbuffer
    refine ⟨delivered, hrx, hlen, length_filled hlen, List.prefix_append _ _, ?_,
      fun h ↦ absurd h hfine⟩
    rcases hrc with ⟨rfl, hall⟩ | ⟨hneg, hlt⟩
    · exact iff_of_true rfl ⟨hall, fun h ↦ hfine h.2⟩
    · exact iff_of_false (Int.ne_of_lt hneg) fun h ↦ absurd h.1 (Nat.ne_of_lt hlt)

/-- However the transfers go, what was passed on is a prefix of the buffer and what was
delivered is stored in front, and success is reported for the whole buffer only. An empty
buffer alone can fail, when there is no time at entry. -/
theorem glueTls_transfers_in_order (fuel : ℕ) (buf : List UInt8) (timeoutMs : ℤ) (w : World) :
    Post (glueTlsMqttWrite fuel buf timeoutMs) w
      (fun rc w' ↦ ∃ written rest, buf = written ++ rest ∧ w'.wire = w.wire ++ written ∧
        (rc = mqttSuccess ↔ rest = [] ∧ ¬(buf = [] ∧ EntryTimeFails w)) ∧
          (EntryTimeFails w → rc = mqttFailure))
      (fun e _ ↦ e = .unfinished) ∧
    Post (glueTlsMqttRead fuel buf timeoutMs) w
      (fun r w' ↦ ∃ delivered, w.rx = delivered ++ w'.rx ∧ delivered.length ≤ buf.length ∧
        r.2.length = buf.length ∧ delivered <+: r.2 ∧
          (r.1 = mqttSuccess ↔ delivered.length = buf.length ∧ ¬(buf = [] ∧ EntryTimeFails w)) ∧
            (EntryTimeFails w → r.1 = mqttFailure))
      (fun e _ ↦ e = .unfinished) := by
  have hwrite := World.keeps_glueTlsMqttWrite (I := fun _ ↦ True) (fun _ _ _ _ ↦ trivial)
    fuel buf timeoutMs w trivial
  have hread := World.keeps_glueTlsMqttRead (I := fun _ ↦ True) (fun _ _ _ _ ↦ trivial)
    fuel buf timeoutMs w trivial
  refine ⟨?_, ?_⟩
  · exact ((post_glueTlsMqttWrite_exact fuel buf timeoutMs w).and hwrite).mono
      (fun _ _ h ↦ h.1) fun _ _ h ↦ h.2.1
  · exact ((post_glueTlsMqttRead_exact fuel buf timeoutMs w).and hread).mono
      (fun _ _ h ↦ h.1) fun _ _ h ↦ h.2.1

end DemoIotApp
