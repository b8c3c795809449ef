import DemoIotApp.Library.Polling
import DemoIotApp.Reference
import DemoIotApp.Transport

/-!
# When the transport reports a timeout

Both transfers poll the clock: it is read on entry and then before every call of
the TLS library. A reading that fails counts as zero, and the unsigned distance
of zero from the time of entry is nearly always large enough for a timeout.
-/

namespace DemoIotApp

open Library Prog

/-! ## The two loops -/

/-- What is left to write behind a call, unless it fails. -/
def leftToWrite (remaining : List UInt8) : TlsResult → Option (List UInt8)
  | .success actualLen => some (remaining.drop actualLen)
  | .wouldBlock => some remaining
  | .error _ => none

def writePolling (entryTime : UInt64) (timeoutMs : ℤ) :
    Polling Stop World (Option UInt64) (List UInt8) where
  done remaining := decide (remaining = [])
  read := World.ask Answers.getTime
  inTime ms := withinTimeout entryTime (ms.getD 0) timeoutMs
  transfer remaining := do
    let result ← osTlsWrite remaining
    return leftToWrite remaining result
  giveUp := .unfinished

/-- How many bytes are left to read behind a call, unless it fails. -/
def leftToRead (remainingLen : ℕ) : TlsResult → Option ℕ
  | .success actualLen => some (remainingLen - actualLen)
  | .wouldBlock => some remainingLen
  | .error _ => none

def readPolling (entryTime : UInt64) (timeoutMs : ℤ) :
    Polling Stop World (Option UInt64) ℕ where
  done remainingLen := decide (remainingLen = 0)
  read := World.ask Answers.getTime
  inTime ms := withinTimeout entryTime (ms.getD 0) timeoutMs
  transfer remainingLen := do
    let (result, _) ← osTlsRead remainingLen
    return leftToRead remainingLen result
  giveUp := .unfinished

section Loops

variable {entryTime : UInt64} {timeoutMs : ℤ} {w w' : World}

theorem glueTlsMqttGetTimeMs_apply (w : World) :
    glueTlsMqttGetTimeMs w =
      .ok ((w.answers.getTime w.calls).getD 0) { w with calls := w.calls + 1 } := rfl

theorem writePolling_transfer {remaining : List UInt8} {result : TlsResult}
    (h : osTlsWrite remaining w = .ok result w') :
    (writePolling entryTime timeoutMs).transfer remaining w =
      .ok (leftToWrite remaining result) w' :=
  bind_eq_of_ok h

theorem readPolling_transfer {remainingLen : ℕ} {result : TlsResult} {bytes : List UInt8}
    (h : osTlsRead remainingLen w = .ok (result, bytes) w') :
    (readPolling entryTime timeoutMs).transfer remainingLen w =
      .ok (leftToRead remainingLen result) w' :=
  bind_eq_of_ok h

theorem writeRemaining_eq_timeout_iff {fuel : ℕ} {remaining : List UInt8} :
    writeRemaining entryTime timeoutMs fuel remaining w = .ok mqttTimeout w' ↔
      (writePolling entryTime timeoutMs).run fuel remaining w = .ok .late w' := by
  induction fuel generalizing remaining w with
  | zero => simp [writeRemaining, Polling.run, Prog.stop]
  | succ fuel ih =>
      rw [writeRemaining]
      by_cases hnil : remaining = []
      · rw [if_pos hnil, Polling.run_succ_of_done fuel (by simp [writePolling, hnil]), pure_apply]
        simp [mqttSuccess, mqttTimeout]
      rw [if_neg hnil, bind_eq_of_ok (glueTlsMqttGetTimeMs_apply w),
        Polling.run_succ_of_more fuel (by simp [writePolling, hnil]) rfl]
      by_cases hlate :
          withinTimeout entryTime ((w.answers.getTime w.calls).getD 0) timeoutMs = false
      · rw [if_pos hlate, if_pos (by exact hlate), pure_apply]
        simp
      rw [if_neg hlate, if_neg (by exact hlate)]
      have hwrites := post_osTlsWrite remaining { w with calls := w.calls + 1 }
      cases hwrite : osTlsWrite remaining { w with calls := w.calls + 1 } with
      | stop e w₂ => exact (hwrites.stop hwrite).elim
      | ok result w₂ =>
          rw [bind_eq_of_ok hwrite, writePolling_transfer hwrite]
          cases result with
          | success actualLen => exact ih
          | wouldBlock => exact ih
          | error code => simp [leftToWrite, pure_apply, mqttFailure, mqttTimeout]

theorem readRemaining_eq_timeout_iff {fuel : ℕ} {received : List UInt8} {remainingLen : ℕ} :
    (∃ buffer, readRemaining entryTime timeoutMs fuel received remainingLen w =
        .ok (mqttTimeout, buffer) w') ↔
      (readPolling entryTime timeoutMs).run fuel remainingLen w = .ok .late w' := by
  induction fuel generalizing received remainingLen w with
  | zero => simp [readRemaining, Polling.run, Prog.stop]
  | succ fuel ih =>
      simp only [readRemaining]
      by_cases hzero : remainingLen = 0
      · rw [Polling.run_succ_of_done fuel (by simp [readPolling, hzero])]
        simp [hzero, pure_apply, mqttSuccess, mqttTimeout]
      simp only [if_neg hzero, bind_eq_of_ok (glueTlsMqttGetTimeMs_apply w)]
      rw [Polling.run_succ_of_more fuel (by simp [readPolling, hzero]) rfl]
      by_cases hlate :
          withinTimeout entryTime ((w.answers.getTime w.calls).getD 0) timeoutMs = false
      · rw [if_pos (show (readPolling entryTime timeoutMs).inTime _ = false from hlate)]
        simp [hlate, pure_apply]
      rw [if_neg (show ¬(readPolling entryTime timeoutMs).inTime _ = false from hlate)]
      simp only [if_neg hlate]
      have hreads := post_osTlsRead remainingLen { w with calls := w.calls + 1 }
      cases hread : osTlsRead remainingLen { w with calls := w.calls + 1 } with
      | stop e w₂ => exact (hreads.stop hread).elim
      | ok r w₂ =>
          obtain ⟨result, bytes⟩ := r
          simp only [bind_eq_of_ok hread, readPolling_transfer hread]
          cases result with
          | success actualLen => exact ih
          | wouldBlock => exact ih
          | error code => simp [leftToRead, pure_apply, mqttFailure, mqttTimeout]

end Loops

/-! ## The readings of the clock -/

/-- The loop reads the clock before each of its transfers, and a transfer is one call. -/
structure PollsClock {σ : Type} (entryTime : UInt64) (timeoutMs : ℤ)
    (p : Polling Stop World (Option UInt64) σ) : Prop where
  read : p.read = World.ask Answers.getTime
  inTime : ∀ ms, p.inTime ms = withinTimeout entryTime (ms.getD 0) timeoutMs
  transfer : ∀ {x w r w'}, p.transfer x w = .ok r w' →
    w'.answers = w.answers ∧ w'.calls = w.calls + 1

theorem osTlsWrite_calls (bytes : List UInt8) (w : World) :
    Post (osTlsWrite bytes) w (fun _ w' ↦ w'.answers = w.answers ∧ w'.calls = w.calls + 1)
      fun _ _ ↦ False := by
  have hasked : World.ask Answers.tlsWrite w =
      .ok (w.answers.tlsWrite w.calls) { w with calls := w.calls + 1 } := rfl
  rw [osTlsWrite, post_bind, post_of_ok hasked]
  cases w.answers.tlsWrite w.calls with
  | success actualLen => exact ⟨rfl, rfl⟩
  | wouldBlock => exact ⟨rfl, rfl⟩
  | error code => exact ⟨rfl, rfl⟩

theorem osTlsRead_calls (len : ℕ) (w : World) :
    Post (osTlsRead len) w (fun _ w' ↦ w'.answers = w.answers ∧ w'.calls = w.calls + 1)
      fun _ _ ↦ False := by
  have hasked : World.ask Answers.tlsRead w =
      .ok (w.answers.tlsRead w.calls) { w with calls := w.calls + 1 } := rfl
  rw [osTlsRead, post_bind, post_of_ok hasked]
  cases w.answers.tlsRead w.calls with
  | success actualLen => exact ⟨rfl, rfl⟩
  | wouldBlock => exact ⟨rfl, rfl⟩
  | error code => exact ⟨rfl, rfl⟩

theorem pollsClock_writePolling (entryTime : UInt64) (timeoutMs : ℤ) :
    PollsClock entryTime timeoutMs (writePolling entryTime timeoutMs) where
  read := rfl
  inTime _ := rfl
  transfer {remaining w r w'} h := by
    obtain ⟨result, w₁, hwrite, hr⟩ := bind_eq_ok_iff.mp h
    obtain ⟨-, rfl⟩ := Outcome.ok.inj hr
    exact (osTlsWrite_calls remaining w).ok hwrite

theorem pollsClock_readPolling (entryTime : UInt64) (timeoutMs : ℤ) :
    PollsClock entryTime timeoutMs (readPolling entryTime timeoutMs) where
  read := rfl
  inTime _ := rfl
  transfer {remainingLen w r w'} h := by
    obtain ⟨result, w₁, hread, hr⟩ := bind_eq_ok_iff.mp h
    obtain ⟨-, rfl⟩ := Outcome.ok.inj hr
    exact (osTlsRead_calls remainingLen w).ok hread

/-- The calls which read the clock in a transfer that starts in `w`: the first one for the time
of entry, and then every second one. -/
def IsClockCall (w : World) (k : ℕ) : Prop := k = w.calls ∨ ∃ i, k = w.calls + 1 + 2 * i

/-- No successful reading of the transfer lies before an earlier one. -/
def ClockRises (w : World) : Prop :=
  ∀ i j time time', IsClockCall w i → IsClockCall w j → i ≤ j →
    w.answers.getTime i = some time → w.answers.getTime j = some time' → time ≤ time'

/-- The limit has passed at a time that was read between `w` and `w'`. -/
def TimesOutLate (entryTime : UInt64) (timeoutMs : ℤ) (w w' : World) : Prop :=
  0 ≤ timeoutMs ∧ ∃ k time, IsClockCall w k ∧ k < w'.calls ∧
    w.answers.getTime k = some time ∧ timeoutMs ≤ (time.toNat : ℤ) - entryTime.toNat

/-- The clock answers whenever the loop asks for the time, except where zero counts as in time
or no time is given anyway. -/
def ClockServes {σ : Type} (entryTime : UInt64) (timeoutMs : ℤ)
    (p : Polling Stop World (Option UInt64) σ) (x : σ) (w : World) : Prop :=
  ∀ readings x' w', p.Turns x w readings x' w' → p.done x' = false →
    (w'.answers.getTime w'.calls).isSome ∨ timeoutMs = 0 ∨
      withinTimeout entryTime 0 timeoutMs = true

section Clock

variable {σ : Type} {entryTime : UInt64} {timeoutMs : ℤ}
  {p : Polling Stop World (Option UInt64) σ} {x x' : σ} {w w' : World}
  {readings : List (Option UInt64)}

theorem PollsClock.turns (hp : PollsClock entryTime timeoutMs p)
    (h : p.Turns x w readings x' w') :
    w'.answers = w.answers ∧ w'.calls = w.calls + 2 * readings.length ∧
      ∀ i < readings.length, w.answers.getTime (w.calls + 2 * i) ∈ readings := by
  induction h with
  | refl => exact ⟨rfl, rfl, by simp⟩
  | turn hmore hread hin htransfer hrest ih =>
      rw [hp.read] at hread
      obtain ⟨rfl, rfl⟩ := Outcome.ok.inj hread
      obtain ⟨hanswers, hcalls⟩ := hp.transfer htransfer
      obtain ⟨ihanswers, ihcalls, ihread⟩ := ih
      dsimp only at hanswers hcalls
      refine ⟨ihanswers.trans hanswers, ?_, fun i hi ↦ ?_⟩
      · rw [ihcalls, hcalls, List.length_cons]
        omega
      · cases i with
        | zero => simp
        | succ i =>
            have h := ihread i (by simpa using hi)
            rw [hanswers, hcalls] at h
            rw [show 2 * (i + 1) = 1 + 1 + 2 * i by omega, ← Nat.add_assoc, ← Nat.add_assoc]
            exact List.mem_cons_of_mem _ h

theorem withinTimeout_eq_false_iff {time : UInt64} (hne : entryTime ≠ 0) (hmin : -1 ≤ timeoutMs)
    (hmax : timeoutMs < 2 ^ 31) (hle : entryTime ≤ time) :
    withinTimeout entryTime time timeoutMs = false ↔
      0 ≤ timeoutMs ∧ timeoutMs ≤ (time.toNat : ℤ) - entryTime.toNat := by
  have hpos : entryTime.toNat ≠ 0 := fun h ↦ hne (UInt64.toNat_inj.mp h)
  have hlt : time.toNat < 2 ^ 64 := time.toNat_lt
  have hlimit : (UInt64.ofInt timeoutMs).toNat = (timeoutMs % 2 ^ 64).toNat := by
    rw [UInt64.ofInt, UInt64.toNat_ofNat', Nat.mod_eq_of_lt (by omega)]
  rw [UInt64.le_iff_toNat_le] at hle
  rw [withinTimeout, decide_eq_false_iff_not, UInt64.lt_iff_toNat_lt,
    UInt64.toNat_sub_of_le _ _ (UInt64.le_iff_toNat_le.mpr hle), hlimit]
  omega

theorem ClockRises.entry_le (hrises : ClockRises w)
    (hentry : w.answers.getTime w.calls = some entryTime) {k : ℕ} {time : UInt64}
    (hk : IsClockCall w k) (htime : w.answers.getTime k = some time) : entryTime ≤ time := by
  refine hrises w.calls k entryTime time (.inl rfl) hk ?_ hentry htime
  rcases hk with rfl | ⟨i, rfl⟩ <;> omega

/-- A loop that times out only late is served by the clock: at a reading that fails it would
otherwise time out early. -/
theorem PollsClock.clockServes (hp : PollsClock entryTime timeoutMs p)
    (hentry : w.answers.getTime w.calls = some entryTime) (hne : entryTime ≠ 0)
    (hmin : -1 ≤ timeoutMs) (hmax : timeoutMs < 2 ^ 31) (hrises : ClockRises w)
    (hlate : ∀ fuel w', p.run fuel x { w with calls := w.calls + 1 } = .ok .late w' →
      TimesOutLate entryTime timeoutMs w w') :
    ClockServes entryTime timeoutMs p x { w with calls := w.calls + 1 } := by
  intro readings x₁ w₁ hturns hmore
  by_contra hfails
  simp only [not_or, Bool.not_eq_true, Option.isSome_eq_false_iff, Option.isNone_iff_eq_none]
    at hfails
  obtain ⟨hnone, hzero, hwrapped⟩ := hfails
  obtain ⟨hanswers, hcalls, hread⟩ := hp.turns hturns
  dsimp only at hanswers hcalls hread
  have hreading : p.read w₁ = .ok none { w₁ with calls := w₁.calls + 1 } := by
    rw [hp.read, ← hnone]
    rfl
  obtain ⟨fuel, hfuel⟩ := Polling.run_eq_late_iff.mpr
    ⟨readings, x₁, w₁, none, hturns, hmore, hreading, (hp.inTime none).trans hwrapped⟩
  obtain ⟨hnonneg, k, time, hk, hklt, htime, hlimit⟩ := hlate fuel _ hfuel
  rcases hk with rfl | ⟨i, rfl⟩
  -- The distance of the time of entry from itself is zero.
  · rw [hentry] at htime
    obtain rfl := Option.some.inj htime
    omega
  · rcases Nat.lt_or_ge i readings.length with hi | hi
    -- A reading of an earlier turn was in time.
    · have hin := hturns.inTime _ (hread i hi)
      rw [hp.inTime, htime, Option.getD_some, ← Bool.not_eq_false,
        withinTimeout_eq_false_iff hne hmin hmax
          (hrises.entry_le hentry (.inr ⟨i, rfl⟩) htime)] at hin
      exact hin ⟨hnonneg, hlimit⟩
    -- The last reading has failed.
    · obtain rfl : i = readings.length := by
        dsimp only at hklt
        omega
      rw [hanswers, hcalls, htime] at hnone
      simp at hnone

/-- A loop that the clock serves times out only at a reading behind the limit. -/
theorem PollsClock.timesOutLate (hp : PollsClock entryTime timeoutMs p)
    (hentry : w.answers.getTime w.calls = some entryTime) (hne : entryTime ≠ 0)
    (hmin : -1 ≤ timeoutMs) (hmax : timeoutMs < 2 ^ 31) (hrises : ClockRises w)
    (hserves : ClockServes entryTime timeoutMs p x { w with calls := w.calls + 1 })
    {fuel : ℕ} {w' : World} (hrun : p.run fuel x { w with calls := w.calls + 1 } = .ok .late w') :
    TimesOutLate entryTime timeoutMs w w' := by
  obtain ⟨readings, x₁, w₁, reading, hturns, hmore, hread, hlate⟩ :=
    Polling.run_eq_late_iff.mp ⟨fuel, hrun⟩
  obtain ⟨hanswers, hcalls, -⟩ := hp.turns hturns
  dsimp only at hanswers hcalls
  rw [hp.read] at hread
  obtain ⟨rfl, rfl⟩ := Outcome.ok.inj hread
  rw [hp.inTime] at hlate
  have hclock : IsClockCall w w₁.calls := .inr ⟨readings.length, hcalls⟩
  cases htime : w₁.answers.getTime w₁.calls with
  | some time =>
      rw [htime, Option.getD_some] at hlate
      rw [hanswers] at htime
      obtain ⟨hnonneg, hlimit⟩ := (withinTimeout_eq_false_iff hne hmin hmax
        (hrises.entry_le hentry hclock htime)).mp hlate
      exact ⟨hnonneg, w₁.calls, time, hclock, Nat.lt_succ_self _, htime, hlimit⟩
  | none =>
      rw [htime] at hlate
      rcases hserves readings x₁ w₁ hturns hmore with h | h | h
      · simp [htime] at h
      · exact ⟨Int.le_of_eq h.symm, w.calls, entryTime, .inl rfl, by dsimp only; omega, hentry,
          by omega⟩
      · exact absurd (hlate.symm.trans h) (by simp)

/-- What is left when a loop starts in `w` and times out only late: the clock serves it. -/
theorem PollsClock.timesOutLate_iff (hp : PollsClock entryTime timeoutMs p)
    (hentry : w.answers.getTime w.calls = some entryTime) (hne : entryTime ≠ 0)
    (hmin : -1 ≤ timeoutMs) (hmax : timeoutMs < 2 ^ 31) (hrises : ClockRises w) :
    (∀ fuel w', p.run fuel x { w with calls := w.calls + 1 } = .ok .late w' →
      TimesOutLate entryTime timeoutMs w w') ↔
    ClockServes entryTime timeoutMs p x { w with calls := w.calls + 1 } :=
  ⟨hp.clockServes hentry hne hmin hmax hrises, fun hserves _ _ hrun ↦
    hp.timesOutLate hentry hne hmin hmax hrises hserves hrun⟩

end Clock

/-! ## Timeouts -/

section

variable {entryTime : UInt64} {timeoutMs : ℤ} {w w' : World}

theorem glueTlsMqttWrite_apply (hentry : w.answers.getTime w.calls = some entryTime)
    (hne : entryTime ≠ 0) (fuel : ℕ) (buf : List UInt8) :
    glueTlsMqttWrite fuel buf timeoutMs w =
      writeRemaining entryTime timeoutMs fuel buf { w with calls := w.calls + 1 } := by
  rw [glueTlsMqttWrite, bind_eq_of_ok (glueTlsMqttGetTimeMs_apply w), hentry, Option.getD_some,
    if_neg hne]

theorem glueTlsMqttRead_apply (hentry : w.answers.getTime w.calls = some entryTime)
    (hne : entryTime ≠ 0) (fuel : ℕ) (buf : List UInt8) :
    glueTlsMqttRead fuel buf timeoutMs w =
      readRemaining entryTime timeoutMs fuel [] buf.length { w with calls := w.calls + 1 } := by
  rw [glueTlsMqttRead, bind_eq_of_ok (glueTlsMqttGetTimeMs_apply w), hentry, Option.getD_some,
    if_neg hne]

/-- A write reports a timeout only when the time is over. -/
def WriteTimesOutLate (entryTime : UInt64) (timeoutMs : ℤ) (buf : List UInt8) (w : World) : Prop :=
  ∀ fuel w', glueTlsMqttWrite fuel buf timeoutMs w = .ok mqttTimeout w' →
    TimesOutLate entryTime timeoutMs w w'

/-- A read reports a timeout only when the time is over. -/
def ReadTimesOutLate (entryTime : UInt64) (timeoutMs : ℤ) (buf : List UInt8) (w : World) : Prop :=
  ∀ fuel buffer w', glueTlsMqttRead fuel buf timeoutMs w = .ok (mqttTimeout, buffer) w' →
    TimesOutLate entryTime timeoutMs w w'

/-- With a clock that never goes back, a transfer reports no timeout before its limit exactly as
long as no reading fails that the loop still needs. -/
theorem timesOutLate_iff_clockServes (buf : List UInt8)
    (hentry : w.answers.getTime w.calls = some entryTime) (hne : entryTime ≠ 0)
    (hmin : -1 ≤ timeoutMs) (hmax : timeoutMs < 2 ^ 31) (hrises : ClockRises w) :
    (WriteTimesOutLate entryTime timeoutMs buf w ↔
      ClockServes entryTime timeoutMs (writePolling entryTime timeoutMs) buf
        { w with calls := w.calls + 1 }) ∧
    (ReadTimesOutLate entryTime timeoutMs buf w ↔
      ClockServes entryTime timeoutMs (readPolling entryTime timeoutMs) buf.length
        { w with calls := w.calls + 1 }) := by
  constructor
  · rw [← (pollsClock_writePolling entryTime timeoutMs).timesOutLate_iff hentry hne hmin hmax
      hrises]
    refine forall_congr' fun fuel ↦ forall_congr' fun w' ↦ ?_
    rw [glueTlsMqttWrite_apply hentry hne, writeRemaining_eq_timeout_iff]
  · rw [← (pollsClock_readPolling entryTime timeoutMs).timesOutLate_iff hentry hne hmin hmax hrises]
    refine forall_congr' fun fuel ↦ ?_
    rw [forall_comm]
    refine forall_congr' fun w' ↦ ?_
    simp only [glueTlsMqttRead_apply hentry hne, ← exists_imp, readRemaining_eq_timeout_iff]

/-- The clock answers every time and jumps on while the TLS library is not ready. -/
def World.lagging : World :=
  ⟨{ Answers.steady with
      getTime := fun k ↦ some (if k < 3 then 1000 else 1100)
      tlsWrite := fun _ ↦ .wouldBlock
      tlsRead := fun _ ↦ .wouldBlock },
    0, [0xD0, 0], [], false⟩

/-- With a limit of 50 both transfers end at the reading of 1100, and not before. -/
theorem timesOutLate_of_lagging :
    (WriteTimesOutLate 1000 50 [0xC0, 0] World.lagging ∧
      ReadTimesOutLate 1000 50 [0] World.lagging) ∧
      glueTlsMqttWrite 2 [0xC0, 0] 50 World.lagging =
        .ok mqttTimeout { World.lagging with calls := 4 } ∧
      glueTlsMqttRead 2 [0] 50 World.lagging =
        .ok (mqttTimeout, [0]) { World.lagging with calls := 4 } := by
  have hrises : ClockRises World.lagging := by
    rintro i j time time' - - hle htime htime'
    obtain rfl := Option.some.inj htime
    obtain rfl := Option.some.inj htime'
    by_cases hi : i < 3
    · rw [if_pos hi]
      split_ifs <;> decide
    · rw [if_neg hi, if_neg (by omega)]
      exact UInt64.le_refl 1100
  have hentry : World.lagging.answers.getTime 0 = some 1000 := rfl
  have hmin : (-1 : ℤ) ≤ 50 := by decide
  have hiff (buf : List UInt8) := timesOutLate_iff_clockServes (w := World.lagging) buf hentry
    (by decide) hmin (by decide) hrises
  refine ⟨⟨(hiff [0xC0, 0]).1.mpr ?_, (hiff [0]).2.mpr ?_⟩, rfl, rfl⟩
  · intro readings x w hturns _
    rw [((pollsClock_writePolling 1000 50).turns hturns).1]
    exact .inl rfl
  · intro readings x w hturns _
    rw [((pollsClock_readPolling 1000 50).turns hturns).1]
    exact .inl rfl

/-- The clock fails behind the first reading. -/
def World.losingTime : World :=
  ⟨{ Answers.steady with getTime := fun k ↦ if k = 0 then some 1000 else none }, 0, [0xD0, 0], [],
    false⟩

/-- Five minutes are given, and the first failed reading ends the write and the read at once. -/
theorem not_timesOutLate_of_failed_reading :
    ¬WriteTimesOutLate 1000 300000 [0xC0, 0] World.losingTime ∧
      ¬ReadTimesOutLate 1000 300000 [0] World.losingTime := by
  have hnot : ¬TimesOutLate 1000 300000 World.losingTime { World.losingTime with calls := 2 } := by
    rintro ⟨-, k, time, -, -, htime, hlimit⟩
    obtain ⟨-, heq⟩ := Option.ite_none_right_eq_some.mp htime
    obtain rfl := Option.some.inj heq
    exact absurd hlimit (by decide)
  exact ⟨fun h ↦ hnot (h 1 _ rfl), fun h ↦ hnot (h 1 [0] _ rfl)⟩

end

end DemoIotApp
