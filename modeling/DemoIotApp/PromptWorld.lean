import DemoIotApp.IncomingFraming
import DemoIotApp.RelayMachine

/-!
# A connection that stays up

The transport fails in many ways. Here it does not: it may cut everything into single bytes and
let its caller wait, but no transfer fails and the clock goes on slowly enough. Then a packet
that is sent arrives, and a packet that has arrived is read.
-/

namespace DemoIotApp

open Library Prog

/-! ## What the world answers -/

/-- No transfer fails, and out of `patience + 1` turns of a loop one moves a byte. There are two
calls in a turn, one for the time and one for the transfer. -/
structure Flows (transfer : ℕ → TlsResult) (patience : ℕ) : Prop where
  ne_error : ∀ k code, transfer k ≠ .error code
  moves : ∀ k, ∃ j ≤ patience, ∃ n, transfer (k + 2 * j) = .success (n + 1)

/-- The loop over `left` bytes, whose next transfer is the `k`-th call, needs no more than `n`
turns. -/
def EndsWithin (transfer : ℕ → TlsResult) (patience n left k : ℕ) : Prop :=
  left = 0 ∨ ∃ j, (∃ m, transfer (k + 2 * j) = .success (m + 1)) ∧
    (patience + 1) * (left - 1) + j + 1 ≤ n

section Flows

variable {transfer : ℕ → TlsResult} {patience n left k : ℕ}

theorem Flows.endsWithin (h : Flows transfer patience) (left k : ℕ) :
    EndsWithin transfer patience ((patience + 1) * left) left k := by
  cases left with
  | zero => exact Or.inl rfl
  | succ left =>
      obtain ⟨j, hj, hmoves⟩ := h.moves k
      refine Or.inr ⟨j, hmoves, ?_⟩
      rw [Nat.add_sub_cancel, Nat.mul_add_one]
      omega

/-- A turn moves some bytes or none, and in both cases the loop is nearer to its end. -/
theorem Flows.turn (h : Flows transfer patience) (hends : EndsWithin transfer patience n left k)
    (hleft : left ≠ 0) :
    (∃ m, transfer k = .success m ∧ ∃ n' < n,
        EndsWithin transfer patience n' (left - m) (k + 2)) ∨
      transfer k = .wouldBlock ∧ ∃ n' < n, EndsWithin transfer patience n' left (k + 2) := by
  obtain ⟨j, hmoves, hle⟩ := hends.resolve_left hleft
  have hlater : (∀ m, transfer k ≠ .success (m + 1)) →
      ∃ n' < n, EndsWithin transfer patience n' left (k + 2) := by
    intro hnone
    cases j with
    | zero => exact absurd hmoves.choose_spec (hnone _)
    | succ j =>
        refine ⟨n - 1, by omega, Or.inr ⟨j, ?_, by omega⟩⟩
        rwa [show k + 2 + 2 * j = k + 2 * (j + 1) by omega]
  cases hk : transfer k with
  | error code => exact absurd hk (h.ne_error k code)
  | wouldBlock => exact Or.inr ⟨rfl, hlater fun m hm ↦ by simp [hk] at hm⟩
  | success m =>
      refine Or.inl ⟨m, rfl, ?_⟩
      cases m with
      | zero => exact hlater fun m hm ↦ by simp [hk] at hm
      | succ m =>
          have hfewer : (patience + 1) * (left - (m + 1)) ≤ (patience + 1) * (left - 1) :=
            Nat.mul_le_mul_left _ (by omega)
          exact ⟨_, by omega, h.endsWithin (left - (m + 1)) (k + 2)⟩

end Flows

namespace Answers

/-- The reading of the clock at the `k`-th call. -/
def timeMs (answers : Answers) (k : ℕ) : UInt64 := (answers.getTime k).getD 0

/-- The connection stays up. The clocks never go on by more than `tick` between two calls, so that
a whole send buffer is out before the timer of a command expires. -/
structure Prompt (answers : Answers) (patience tick : ℕ) : Prop where
  writes : Flows answers.tlsWrite patience
  reads : Flows answers.tlsRead patience
  timeMs_ne : ∀ k, answers.timeMs k ≠ 0
  timeMs_step : ∀ k, (answers.timeMs (k + 1) - answers.timeMs k).toNat ≤ tick
  timerNow_le : ∀ k, answers.timerNow k ≤ answers.timerNow (k + 1)
  timerNow_step : ∀ k, answers.timerNow (k + 1) ≤ answers.timerNow k + tick
  inTime : tick * (2 * ((patience + 1) * pahoSendBuffSize) + 1) < pahoTimeoutMsCommand

section Prompt

variable {answers : Answers} {patience tick : ℕ}

theorem Prompt.elapsed (h : answers.Prompt patience tick) (k d : ℕ) :
    (answers.timeMs (k + d) - answers.timeMs k).toNat ≤ tick * d := by
  induction d with
  | zero => simp
  | succ d ih =>
      have hstep := h.timeMs_step (k + d)
      rw [← Nat.add_assoc, Nat.mul_add_one]
      simp only [UInt64.toNat_sub] at hstep ih ⊢
      have hk := (answers.timeMs k).toNat_lt
      have hd := (answers.timeMs (k + d)).toNat_lt
      omega

/-- A transfer of so many bytes takes less time than a command has. -/
theorem Prompt.inTime_of_le (h : answers.Prompt patience tick) {len : ℕ}
    (hlen : len ≤ pahoSendBuffSize) :
    tick * (2 * ((patience + 1) * len)) + tick < pahoTimeoutMsCommand := by
  have hle := Nat.mul_le_mul_left tick (Nat.mul_le_mul_left 2
    (Nat.mul_le_mul_left (patience + 1) hlen))
  have htime := h.inTime
  rw [Nat.mul_add_one] at htime
  omega

theorem withinTimeout_of_lt {entryTime now : UInt64} {timeoutMs : ℤ}
    (h : (now - entryTime).toNat < (UInt64.ofInt timeoutMs).toNat) :
    withinTimeout entryTime now timeoutMs = true :=
  decide_eq_true (UInt64.lt_iff_toNat_lt.mpr h)

end Prompt

end Answers

/-! ## Bytes in and out -/

/-- Some bytes have come in, some have gone out, and nothing else has changed but the number of
calls. -/
structure World.Moved (w w' : World) (received written : List UInt8) : Prop where
  answers : w'.answers = w.answers
  token : w'.token = w.token
  rx : w.rx = received ++ w'.rx
  wire : w'.wire = w.wire ++ written

section Transfer

variable {w w₁ w₂ : World} {received received' written written' : List UInt8}

theorem World.Moved.refl (w : World) : w.Moved w [] [] :=
  ⟨rfl, rfl, rfl, (List.append_nil _).symm⟩

theorem World.Moved.trans (h : w.Moved w₁ received written)
    (h' : w₁.Moved w₂ received' written') :
    w.Moved w₂ (received ++ received') (written ++ written') :=
  ⟨h'.answers.trans h.answers, h'.token.trans h.token,
    by rw [h.rx, h'.rx, List.append_assoc], by rw [h'.wire, h.wire, List.append_assoc]⟩

variable {patience tick fuel : ℕ} {buf bytes rest : List UInt8} {timeoutMs : ℤ}

theorem World.ask_of_eq {α : Type} {question : Answers → ℕ → α} {answer : α}
    (h : question w.answers w.calls = answer) :
    World.ask question w = .ok answer { w with calls := w.calls + 1 } := by
  rw [World.ask, h]

theorem glueTlsMqttGetTimeMs_eq (w : World) : glueTlsMqttGetTimeMs w =
    .ok (w.answers.timeMs w.calls) { w with calls := w.calls + 1 } := rfl

theorem osTlsWrite_of_success {m : ℕ} (h : w.answers.tlsWrite w.calls = .success m) :
    osTlsWrite buf w = .ok (.success (min m buf.length))
      { w with calls := w.calls + 1, wire := w.wire ++ buf.take (min m buf.length) } := by
  rw [osTlsWrite, bind_eq_of_ok (World.ask_of_eq h)]
  rfl

theorem osTlsWrite_of_wouldBlock (h : w.answers.tlsWrite w.calls = .wouldBlock) :
    osTlsWrite buf w = .ok .wouldBlock { w with calls := w.calls + 1 } := by
  rw [osTlsWrite, bind_eq_of_ok (World.ask_of_eq h)]
  rfl

/-- A turn of the loop that is in time. -/
theorem writeRemaining_succ {entryTime : UInt64} (hne : buf ≠ [])
    (hin : withinTimeout entryTime (w.answers.timeMs w.calls) timeoutMs = true) :
    writeRemaining entryTime timeoutMs (fuel + 1) buf w =
      (osTlsWrite buf >>= fun result ↦ match result with
        | .success actualLen => writeRemaining entryTime timeoutMs fuel (buf.drop actualLen)
        | .wouldBlock => writeRemaining entryTime timeoutMs fuel buf
        | .error _ => pure mqttFailure) { w with calls := w.calls + 1 } := by
  rw [writeRemaining, if_neg hne, bind_eq_of_ok (glueTlsMqttGetTimeMs_eq w)]
  exact congrFun (if_neg (by simp [hin])) _

/-- All of the buffer goes out. -/
theorem post_glueTlsMqttWrite_prompt (h : w.answers.Prompt patience tick)
    (hfuel : (patience + 1) * buf.length < fuel)
    (htime : tick * (2 * ((patience + 1) * buf.length)) < (UInt64.ofInt timeoutMs).toNat) :
    Post (glueTlsMqttWrite fuel buf timeoutMs) w
      (fun rc w' ↦ rc = mqttSuccess ∧ w.Moved w' [] buf) fun _ _ ↦ False := by
  rw [Post, glueTlsMqttWrite, bind_eq_of_ok (glueTlsMqttGetTimeMs_eq w),
    if_neg (h.timeMs_ne _)]
  let I : ℕ → List UInt8 → World → Prop := fun n remaining w' ↦
    ∃ written d, buf = written ++ remaining ∧ w.Moved w' [] written ∧ w'.calls = w.calls + d ∧
      EndsWithin w.answers.tlsWrite patience n remaining.length (w.calls + d + 1) ∧
        d + 2 * n ≤ 2 * ((patience + 1) * buf.length) + 1
  refine post_loop (I := I) ?_ hfuel ⟨[], 1, rfl, ⟨rfl, rfl, rfl, (List.append_nil _).symm⟩, rfl,
    h.writes.endsWithin _ _, by omega⟩
  rintro n fuel remaining w' ⟨written, d, hbuf, hmoved, hcalls, hends, hle⟩
  by_cases hne : remaining = []
  · subst hne
    rw [List.append_nil] at hbuf
    refine Or.inl ?_
    rw [writeRemaining, if_pos rfl]
    exact ⟨rfl, hbuf ▸ hmoved⟩
  have hleft : remaining.length ≠ 0 := mt List.length_eq_zero_iff.mp hne
  have hn : 0 < n := by
    obtain ⟨j, -, hj⟩ := hends.resolve_left hleft
    omega
  have hin : withinTimeout (w.answers.timeMs w.calls) (w'.answers.timeMs w'.calls) timeoutMs =
      true := by
    apply Answers.withinTimeout_of_lt
    rw [hmoved.answers, hcalls]
    exact (h.elapsed _ _).trans_lt ((Nat.mul_le_mul_left _ (by omega)).trans_lt htime)
  refine Or.inr ?_
  rw [writeRemaining_succ hne hin]
  rcases h.writes.turn hends hleft with ⟨m, hm, n', hn', hends'⟩ | ⟨hm, n', hn', hends'⟩
  · rw [← hcalls, ← hmoved.answers] at hm
    rw [bind_eq_of_ok (osTlsWrite_of_success hm)]
    refine ⟨n', hn', remaining.drop (min m remaining.length), _, rfl,
      written ++ remaining.take (min m remaining.length), d + 2, ?_,
      ⟨hmoved.answers, hmoved.token, hmoved.rx, ?_⟩, congrArg (· + 2) hcalls, ?_, by omega⟩
    · rw [List.append_assoc, List.take_append_drop, hbuf]
    · show w'.wire ++ _ = _
      rw [hmoved.wire, List.append_assoc]
    · rw [List.length_drop, show remaining.length - min m remaining.length =
        remaining.length - m by omega]
      exact hends'
  · rw [← hcalls, ← hmoved.answers] at hm
    rw [bind_eq_of_ok (osTlsWrite_of_wouldBlock hm)]
    exact ⟨n', hn', remaining, _, rfl, written, d + 2, hbuf,
      ⟨hmoved.answers, hmoved.token, hmoved.rx, hmoved.wire⟩, congrArg (· + 2) hcalls, hends',
      by omega⟩

theorem osTlsRead_of_success {m len : ℕ} (h : w.answers.tlsRead w.calls = .success m) :
    osTlsRead len w = .ok (.success (w.rx.take (min m len)).length, w.rx.take (min m len))
      { w with calls := w.calls + 1, rx := w.rx.drop (min m len) } := by
  rw [osTlsRead, bind_eq_of_ok (World.ask_of_eq h)]
  rfl

theorem osTlsRead_of_wouldBlock {len : ℕ} (h : w.answers.tlsRead w.calls = .wouldBlock) :
    osTlsRead len w = .ok (.wouldBlock, []) { w with calls := w.calls + 1 } := by
  rw [osTlsRead, bind_eq_of_ok (World.ask_of_eq h)]
  rfl

/-- A turn of the loop that is in time. -/
theorem readRemaining_succ {entryTime : UInt64} {received : List UInt8} {remainingLen : ℕ}
    (hne : remainingLen ≠ 0)
    (hin : withinTimeout entryTime (w.answers.timeMs w.calls) timeoutMs = true) :
    readRemaining entryTime timeoutMs (fuel + 1) received remainingLen w =
      (osTlsRead remainingLen >>= fun r ↦ match r with
        | (.success actualLen, bytes) => readRemaining entryTime timeoutMs fuel
            (received ++ bytes) (remainingLen - actualLen)
        | (.wouldBlock, _) => readRemaining entryTime timeoutMs fuel received remainingLen
        | (.error _, _) =>
            pure (mqttFailure, received ++ List.replicate remainingLen 0))
        { w with calls := w.calls + 1 } := by
  rw [readRemaining, if_neg hne, bind_eq_of_ok (glueTlsMqttGetTimeMs_eq w)]
  exact congrFun (if_neg (by simp [hin])) _

/-- The buffer is filled if there is enough to fill it. -/
theorem post_glueTlsMqttRead_prompt (h : w.answers.Prompt patience tick)
    (hrx : w.rx = bytes ++ rest) (hbytes : bytes.length = buf.length)
    (hfuel : (patience + 1) * buf.length < fuel)
    (htime : tick * (2 * ((patience + 1) * buf.length)) < (UInt64.ofInt timeoutMs).toNat) :
    Post (glueTlsMqttRead fuel buf timeoutMs) w
      (fun r w' ↦ r = (mqttSuccess, bytes) ∧ w.Moved w' bytes []) fun _ _ ↦ False := by
  rw [Post, glueTlsMqttRead, bind_eq_of_ok (glueTlsMqttGetTimeMs_eq w),
    if_neg (h.timeMs_ne _)]
  let I : ℕ → List UInt8 × ℕ → World → Prop := fun n x w' ↦
    ∃ d, w.Moved w' x.1 [] ∧ x.1.length + x.2 = buf.length ∧ w'.calls = w.calls + d ∧
      EndsWithin w.answers.tlsRead patience n x.2 (w.calls + d + 1) ∧
        d + 2 * n ≤ 2 * ((patience + 1) * buf.length) + 1
  let loop : ℕ → List UInt8 × ℕ → Prog Stop World (ℤ × List UInt8) := fun fuel x ↦
    readRemaining (w.answers.timeMs w.calls) timeoutMs fuel x.1 x.2
  show Post (loop fuel ([], buf.length)) { w with calls := w.calls + 1 } _ _
  refine post_loop (I := I) ?_ hfuel ⟨1, ⟨rfl, rfl, rfl, (List.append_nil _).symm⟩,
    Nat.zero_add _, rfl, h.reads.endsWithin _ _, by omega⟩
  rintro n fuel ⟨received, left⟩ w' ⟨d, hmoved, hlen, hcalls, hends, hle⟩
  dsimp only [loop] at hmoved hlen hends ⊢
  by_cases hleft : left = 0
  · subst hleft
    refine Or.inl ?_
    rw [readRemaining, if_pos rfl]
    obtain ⟨rfl, hrest⟩ := List.append_inj (hrx.symm.trans hmoved.rx) (hbytes.trans hlen.symm)
    exact ⟨rfl, hmoved⟩
  have hn : 0 < n := by
    obtain ⟨j, -, hj⟩ := hends.resolve_left hleft
    omega
  have hin : withinTimeout (w.answers.timeMs w.calls) (w'.answers.timeMs w'.calls) timeoutMs =
      true := by
    apply Answers.withinTimeout_of_lt
    rw [hmoved.answers, hcalls]
    exact (h.elapsed _ _).trans_lt ((Nat.mul_le_mul_left _ (by omega)).trans_lt htime)
  have hmore : left ≤ w'.rx.length := by
    have hsame := congrArg List.length (hrx.symm.trans hmoved.rx)
    simp only [List.length_append] at hsame
    omega
  refine Or.inr ?_
  rw [readRemaining_succ hleft hin]
  rcases h.reads.turn hends hleft with ⟨m, hm, n', hn', hends'⟩ | ⟨hm, n', hn', hends'⟩
  · rw [← hcalls, ← hmoved.answers] at hm
    have htake : (w'.rx.take (min m left)).length = min m left := by
      rw [List.length_take]
      omega
    rw [bind_eq_of_ok (osTlsRead_of_success hm)]
    dsimp only
    rw [htake]
    refine ⟨n', hn', (received ++ w'.rx.take (min m left), left - min m left), _, rfl, d + 2,
      ⟨hmoved.answers, hmoved.token, ?_, hmoved.wire⟩, ?_, congrArg (· + 2) hcalls, ?_, by omega⟩
    · rw [List.append_assoc, List.take_append_drop, hmoved.rx]
    · rw [List.length_append, htake]
      omega
    · rw [show left - min m left = left - m by omega]
      exact hends'
  · rw [← hcalls, ← hmoved.answers] at hm
    rw [bind_eq_of_ok (osTlsRead_of_wouldBlock hm)]
    exact ⟨n', hn', (received, left), _, rfl, d + 2,
      ⟨hmoved.answers, hmoved.token, hmoved.rx, hmoved.wire⟩, hlen, congrArg (· + 2) hcalls,
      hends', by omega⟩

end Transfer

/-! ## Packets -/

/-- A run has read these bytes and handed over these packets, and all of them are out. -/
structure Transfers (s t : Sys World) (received : List UInt8) (packets : List (List UInt8)) :
    Prop where
  moved : s.world.Moved t.world received packets.flatten
  sentPackets : sentPackets t.trace = sentPackets s.trace ++ packets

section Packets

variable {s t u : Sys World} {received received' : List UInt8}
  {packets packets' : List (List UInt8)}

theorem Transfers.refl (s : Sys World) : Transfers s s [] [] :=
  ⟨.refl _, (List.append_nil _).symm⟩

theorem Transfers.trans (h : Transfers s t received packets)
    (h' : Transfers t u received' packets') :
    Transfers s u (received ++ received') (packets ++ packets') where
  moved := by
    rw [List.flatten_append]
    exact h.moved.trans h'.moved
  sentPackets := by rw [h'.sentPackets, h.sentPackets, List.append_assoc]

theorem Transfers.prompt {patience tick : ℕ} (h : Transfers s t received packets)
    (hprompt : s.world.answers.Prompt patience tick) : t.world.answers.Prompt patience tick :=
  h.moved.answers ▸ hprompt

theorem Transfers.rx_eq {rest : List UInt8} (h : Transfers s t received packets)
    (hrx : s.world.rx = received ++ rest) : t.world.rx = rest :=
  List.append_cancel_left (h.moved.rx.symm.trans hrx)

/-- What the trace shows besides packets for the cloud does not count. -/
theorem Transfers.log (h : Transfers s t received packets) {e : Event World}
    (he : e.wanPacket = none) :
    Transfers s { t with trace := t.trace ++ [e] } received packets where
  moved := h.moved
  sentPackets := by
    rw [← h.sentPackets]
    simp [DemoIotApp.sentPackets, he]

variable {patience tick netFuel : ℕ} {buffer bytes rest packet : List UInt8}

/-- A packet that fits the send buffer goes out as a whole. -/
theorem post_sendWithTimeout_prompt (h : s.world.answers.Prompt patience tick) {timeoutMs : ℕ}
    (htimeoutMs : timeoutMs = pahoTimeoutMsCommand) (hlen : packet.length ≤ pahoSendBuffSize)
    (hfuel : (patience + 1) * pahoSendBuffSize < netFuel) :
    Post (sendWithTimeout (some (netWan netFuel)) timeoutMs packet) s
      (fun rc t ↦ rc = mqttSuccess ∧ Transfers s t [] [packet]) fun _ _ ↦ False := by
  have hnow := h.timerNow_le s.world.calls
  have hlater := h.timerNow_step s.world.calls
  have htime := h.inTime_of_le hlen
  have hwork := Nat.mul_le_mul_left (patience + 1) hlen
  have hpaho : pahoTimeoutMsCommand < 2 ^ 32 - 1 := by decide
  let timer : Timer := ⟨s.world.answers.timerNow s.world.calls + timeoutMs⟩
  let left := timer.deadline - s.world.answers.timerNow (s.world.calls + 1)
  have hdeadline : timer.deadline = s.world.answers.timerNow s.world.calls + timeoutMs := rfl
  have hleft : (UInt64.ofInt (left : ℤ)).toNat = left := by
    rw [UInt64.ofInt, UInt64.toNat_ofNat']
    omega
  have htimer : sendTimer timeoutMs s = .ok (some timer) s.asked := by
    rw [sendTimer, if_pos (by omega)]
    rfl
  have htimeout : timeoutOf (some timer) s.asked = .ok (left : ℤ) s.asked.asked := rfl
  rw [Post, sendWithTimeout, bind_eq_of_ok htimer]
  show Post (mqttNetworkSendPacket (netWan netFuel) packet (some timer)) s.asked _ _
  unfold mqttNetworkSendPacket
  rw [Sys.post_observed, Post, mqttNetworkWrite, bind_eq_of_ok htimeout]
  show Post (Sys.onWorld (glueTlsMqttWrite netFuel packet left)) s.asked.asked _ _
  rw [Sys.post_onWorld]
  refine (post_glueTlsMqttWrite_prompt (w := s.asked.asked.world) h (hwork.trans_lt hfuel)
    ?_).mono ?_ fun _ _ h ↦ h
  · rw [hleft]
    omega
  · rintro rc w ⟨hrc, hmoved⟩
    refine ⟨hrc, ?_, ?_⟩
    · rw [List.flatten_singleton]
      exact ⟨hmoved.answers, hmoved.token, hmoved.rx, hmoved.wire⟩
    · simp [DemoIotApp.sentPackets, Sys.asked, netWan, Event.wanPacket]

/-- A read without a timer. -/
theorem post_mqttNetworkRead_prompt (h : s.world.answers.Prompt patience tick)
    (hrx : s.world.rx = bytes ++ rest) (hbytes : bytes.length = buffer.length)
    (hlen : buffer.length ≤ pahoRecvBuffSize)
    (hfuel : (patience + 1) * pahoSendBuffSize < netFuel) :
    Post (mqttNetworkRead (netWan netFuel) buffer none) s
      (fun r t ↦ r = (mqttSuccess, bytes) ∧ Transfers s t bytes []) fun _ _ ↦ False := by
  have htime := h.inTime_of_le hlen
  have hwork := Nat.mul_le_mul_left (patience + 1) hlen
  have hpaho : pahoTimeoutMsCommand < 2 ^ 64 - 1 := by decide
  have hlimit : (UInt64.ofInt (-1)).toNat = 2 ^ 64 - 1 := by
    rw [UInt64.ofInt, UInt64.toNat_ofNat']
    omega
  unfold mqttNetworkRead
  rw [Sys.post_observed]
  show Post (Sys.onWorld (glueTlsMqttRead netFuel buffer (-1))) s _ _
  rw [Sys.post_onWorld]
  refine (post_glueTlsMqttRead_prompt h hrx hbytes (hwork.trans_lt hfuel) (by omega)).mono ?_
    fun _ _ h ↦ h
  rintro r w ⟨hr, hmoved⟩
  have htransfers : Transfers s { s with world := w } bytes [] := ⟨hmoved, (List.append_nil _).symm⟩
  exact ⟨hr, htransfers.log rfl⟩

theorem post_readInto_prompt (h : s.world.answers.Prompt patience tick)
    (hrx : s.world.rx = bytes ++ rest) {offset len : ℕ} (hbytes : bytes.length = len)
    (hfit : offset + len ≤ buffer.length) (hlen : len ≤ pahoRecvBuffSize)
    (hfuel : (patience + 1) * pahoSendBuffSize < netFuel) :
    Post (readInto (netWan netFuel) buffer offset len none) s
      (fun r t ↦ r = (mqttSuccess, buffer.take offset ++ (bytes ++ buffer.drop (offset + len))) ∧
        Transfers s t bytes []) fun _ _ ↦ False := by
  have hpart : ((buffer.drop offset).take len).length = len := by
    simp only [List.length_take, List.length_drop]
    omega
  rw [readInto, if_pos hfit]
  apply (post_mqttNetworkRead_prompt h hrx (hbytes.trans hpart.symm) (hpart.le.trans hlen)
    hfuel).bind
  rintro ⟨rc, bytes'⟩ t ⟨hr, htransfers⟩
  obtain ⟨rfl, rfl⟩ := Prod.mk.inj hr
  exact ⟨rfl, htransfers⟩

theorem exists_readsBytes_prompt (h : s.world.answers.Prompt patience tick)
    (hrx : s.world.rx = bytes ++ rest) (hfuel : (patience + 1) * pahoSendBuffSize < netFuel) :
    ∃ t, ReadsBytes (netWan netFuel) none s bytes t ∧ Transfers s t bytes [] := by
  induction bytes generalizing s with
  | nil => exact ⟨s, .refl s, .refl s⟩
  | cons b bytes ih =>
      have hread : Post (mqttNetworkRead (netWan netFuel) [0] none) s
          (fun r t ↦ r = (mqttSuccess, [b]) ∧ Transfers s t [b] []) fun _ _ ↦ False :=
        post_mqttNetworkRead_prompt h hrx rfl (by decide) hfuel
      obtain ⟨r, u, hrun, rfl, htransfers⟩ := hread.exists_ok
      obtain ⟨t, hreads, htransfers'⟩ := ih (htransfers.prompt h) (htransfers.rx_eq hrx)
      exact ⟨t, .read hrun hreads, htransfers.trans htransfers'⟩

/-- The payload is stored behind the length bytes. -/
theorem packetInBuffer_eq (header : UInt8) (payload buffer : List UInt8) :
    (header :: (Varint.encode payload.length ++
        buffer.drop (1 + (Varint.encode payload.length).length))).take
          (1 + (Varint.encode payload.length).length) ++
      (payload ++ (header :: (Varint.encode payload.length ++
        buffer.drop (1 + (Varint.encode payload.length).length))).drop
          (1 + (Varint.encode payload.length).length + payload.length)) =
      packetInBuffer header payload buffer := by
  rw [packetInBuffer, Nat.add_comm 1, List.take_succ_cons, List.take_left, Nat.add_right_comm,
    List.drop_succ_cons, List.drop_append]
  simp [List.drop_drop, Nat.add_comm, Nat.add_left_comm]

theorem Packet.length_payload_lt (p : Packet) : p.payload.length < 2 ^ 28 := by
  rw [← p.value_lenBytes]
  exact value_lt_of_length_le p.length_lenBytes_le

section Packet

variable {p : Packet}

theorem Packet.Fits.le (h : p.Fits pahoRecvBuffSize) :
    1 + (Varint.encode p.payload.length).length + p.payload.length ≤ pahoRecvBuffSize := by
  have hencode := Varint.length_encode_le (k := 4) (by omega) p.length_payload_lt
  refine PassesCheck.le h p.length_payload_lt ?_
  rw [pahoRecvBuffSize]
  omega

theorem post_readPayload_prompt (h : s.world.answers.Prompt patience tick)
    (hrx : s.world.rx = p.payload ++ rest) (hbuffer : buffer.length = pahoRecvBuffSize)
    (hfits : p.Fits pahoRecvBuffSize) (hfuel : (patience + 1) * pahoSendBuffSize < netFuel) :
    Post (readPayload (netWan netFuel) (p.header :: (Varint.encode p.payload.length ++
        buffer.drop (1 + (Varint.encode p.payload.length).length))) (buffer.length % 2 ^ 32)
        (1 + (Varint.encode p.payload.length).length) p.payload.length none) s
      (fun r t ↦ r = ((p.type : ℤ), packetInBuffer p.header p.payload buffer) ∧
        Transfers s t p.payload []) fun _ _ ↦ False := by
  have hpasses : PassesCheck buffer.length p.payload.length := hbuffer ▸ hfits
  have hfit := hbuffer ▸ hfits.le
  have hsize : (p.header :: (Varint.encode p.payload.length ++
      buffer.drop (1 + (Varint.encode p.payload.length).length))).length = buffer.length := by
    simp only [List.length_cons, List.length_append, List.length_drop]
    omega
  refine post_ite (fun _ ↦ ?_) fun hzero ↦ ?_
  · rw [if_neg (Nat.not_lt.mpr hpasses)]
    have hread := post_readInto_prompt h hrx rfl (hsize ▸ hfit)
      (show p.payload.length ≤ pahoRecvBuffSize by omega) hfuel
    apply hread.bind
    rintro ⟨rc, buffer₁⟩ t ⟨hr, htransfers⟩
    obtain ⟨rfl, rfl⟩ := Prod.mk.inj hr
    dsimp only
    rw [if_neg (by simp), packetInBuffer_eq]
    exact ⟨rfl, htransfers⟩
  · have hnil : p.payload = [] := List.length_eq_zero_iff.mp (Nat.eq_zero_of_not_pos hzero)
    rw [hnil]
    exact ⟨rfl, .refl s⟩

theorem post_readBody_prompt {P : Paho} (hP : P.EncodesLength)
    (h : s.world.answers.Prompt patience tick)
    (hrx : s.world.rx = p.lenBytes ++ (p.payload ++ rest))
    (hbuffer : buffer.length = pahoRecvBuffSize) (hfits : p.Fits pahoRecvBuffSize)
    (hfuel : (patience + 1) * pahoSendBuffSize < netFuel) :
    Post (readBody P (netWan netFuel) (p.header :: buffer.drop 1) (buffer.length % 2 ^ 32) none) s
      (fun r t ↦ r = ((p.type : ℤ), packetInBuffer p.header p.payload buffer) ∧
        Transfers s t (p.lenBytes ++ p.payload) []) fun _ _ ↦ False := by
  have hpos : 0 < p.lenBytes.length := List.length_pos_iff.mpr p.isEncoding.ne_nil
  have hroom : 1 + (Varint.encode p.payload.length).length ≤ buffer.length := by
    rw [hbuffer]
    exact (Nat.le_add_right _ _).trans hfits.le
  obtain ⟨t, hreads, htransfers⟩ := exists_readsBytes_prompt h hrx hfuel
  have hlength : mqttNetworkReadAndDecodePacketLength (netWan netFuel) none s =
      .ok (((0 + p.lenBytes.length : ℕ) : ℤ), 0 + 2 ^ 0 * Varint.value p.lenBytes) t :=
    hreads.readLengthBytes_of_isEncoding p.isEncoding p.length_lenBytes_le (by omega) (by omega)
  have hvalue : 0 + 2 ^ 0 * Varint.value p.lenBytes = p.payload.length := by
    rw [p.value_lenBytes]
    omega
  rw [Post, readBody, bind_eq_of_ok hlength, hvalue]
  dsimp only
  rw [if_neg (by omega), hP _ p.length_payload_lt,
    bind_eq_of_ok (storeAt_behind_header p.header hroom t)]
  exact (post_readPayload_prompt (htransfers.prompt h) (htransfers.rx_eq hrx) hbuffer hfits
    hfuel).mono (fun _ _ hr ↦ ⟨hr.1, htransfers.trans hr.2⟩) fun _ _ h ↦ h

/-- A packet that fits the read buffer and has arrived is read as a whole. -/
theorem post_mqttNetworkReadPacket_prompt {P : Paho} (hP : P.EncodesLength)
    (h : s.world.answers.Prompt patience tick) (hrx : s.world.rx = p.bytes ++ rest)
    (hbuffer : buffer.length = pahoRecvBuffSize) (hfits : p.Fits pahoRecvBuffSize)
    (hfuel : (patience + 1) * pahoSendBuffSize < netFuel) :
    Post (mqttNetworkReadPacket P (netWan netFuel) buffer none) s
      (fun r t ↦ r = ((p.type : ℤ), packetInBuffer p.header p.payload buffer) ∧
        Transfers s t p.bytes []) fun _ _ ↦ False := by
  have hrx : s.world.rx = [p.header] ++ (p.lenBytes ++ (p.payload ++ rest)) := by
    rw [hrx, Packet.bytes, List.cons_append, List.append_assoc]
    rfl
  have hone : 0 + 1 ≤ buffer.length := by
    rw [hbuffer]
    decide
  have hheader : Post (readInto (netWan netFuel) buffer 0 1 none) s
      (fun r t ↦ r = (mqttSuccess, p.header :: buffer.drop 1) ∧ Transfers s t [p.header] [])
      fun _ _ ↦ False := post_readInto_prompt h hrx rfl hone (by decide) hfuel
  apply hheader.bind
  rintro ⟨rc, buffer₁⟩ t ⟨hr, htransfers⟩
  obtain ⟨rfl, rfl⟩ := Prod.mk.inj hr
  dsimp only
  rw [if_neg (by simp)]
  exact (post_readBody_prompt hP (htransfers.prompt h) (htransfers.rx_eq hrx) hbuffer hfits
    hfuel).mono (fun _ _ hr ↦ ⟨hr.1, htransfers.trans hr.2⟩) fun _ _ h ↦ h

end Packet

end Packets

end DemoIotApp
