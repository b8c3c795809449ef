import DemoIotApp.Reference
import DemoIotApp.Transport
import Mathlib.Tactic.Ring

/-!
# The remaining length, byte by byte

`MQTT_network_readAndDecodePacketLength` reads one byte after the other. What it returns
is decided by the bytes that its reads leave behind, and the lemmas say how, for an
arbitrary network in an arbitrary world.
-/

namespace DemoIotApp

open Library Prog

variable {W : Type} [Clock W]

/-! ## Reads of one byte -/

section Stream

variable {rx : W → List UInt8} {n : Network W}

theorem post_timeoutOf (h : ReadsStream rx n) (timer : Option Timer) (s : Sys W) :
    Post (timeoutOf timer) s (fun _ t ↦ t.trace = s.trace ∧ rx t.world = rx s.world)
      fun _ _ ↦ True := by
  cases timer with
  | none => exact ⟨rfl, rfl⟩
  | some timer => exact ⟨rfl, h.clock s.world⟩

theorem post_mqttNetworkRead (h : ReadsStream rx n) (buffer : List UInt8) (hbuffer : buffer ≠ [])
    (timer : Option Timer) (s : Sys W) :
    Post (mqttNetworkRead n buffer timer) s
      (fun r t ↦ t.trace = s.trace ++ [.read buffer.length s.world t.world (some r.1)] ∧
        Delivers buffer (rx s.world) (rx t.world) r)
      fun _ _ ↦ True := by
  unfold mqttNetworkRead
  rw [Sys.post_observed]
  apply (post_timeoutOf h timer s).bind
  rintro timeoutMs t ⟨htrace, hrx⟩
  cases hread : n.mqttread with
  | none => exact trivial
  | some mqttread =>
      rw [Sys.post_onWorld]
      apply (h.read mqttread buffer timeoutMs t.world hread hbuffer).mono _ fun _ _ _ ↦ trivial
      intro r w hr
      exact ⟨by rw [htrace]; rfl, hrx ▸ hr⟩

end Stream

/-- Successful reads of one byte each, with the bytes in their order. -/
inductive ReadsBytes (n : Network W) (timer : Option Timer) :
    Sys W → List UInt8 → Sys W → Prop
  | refl (s : Sys W) : ReadsBytes n timer s [] s
  | read {s u t : Sys W} {bytes bs : List UInt8}
      (hread : mqttNetworkRead n [0] timer s = .ok (mqttSuccess, bytes) u)
      (hrest : ReadsBytes n timer u bs t) : ReadsBytes n timer s (bytes.headD 0 :: bs) t

/-- A read of one byte, as the trace shows it. -/
def Event.IsByteRead : Event W → Prop
  | .read len _ _ _ => len = 1
  | _ => False

/-- No more than so many reads of one byte were begun. -/
def ReadsAtMost (limit : ℕ) (s t : Sys W) : Prop :=
  ∃ es, t.trace = s.trace ++ es ∧ es.length ≤ limit ∧ ∀ e ∈ es, e.IsByteRead

section Reads

variable {n : Network W} {timer : Option Timer} {s u t : Sys W} {bs : List UInt8}

theorem ReadsBytes.concat (h : ReadsBytes n timer s bs u) {bytes : List UInt8}
    (hread : mqttNetworkRead n [0] timer u = .ok (mqttSuccess, bytes) t) :
    ReadsBytes n timer s (bs ++ [bytes.headD 0]) t := by
  induction h with
  | refl s => exact .read hread (.refl t)
  | read hfirst _ ih => exact .read hfirst (ih hread)

theorem ReadsBytes.readsAtMost (h : ReadsBytes n timer s bs t) :
    ReadsAtMost bs.length s t := by
  induction h with
  | refl s => exact ⟨[], (List.append_nil _).symm, le_rfl, by simp⟩
  | read hread _ ih =>
      obtain ⟨es, htrace, hlen, hall⟩ := ih
      rw [mqttNetworkRead_trace hread, List.append_assoc] at htrace
      exact ⟨_, htrace, Nat.succ_le_succ hlen, List.forall_mem_cons.mpr ⟨rfl, hall⟩⟩

/-- One read more, however it ends. -/
theorem ReadsBytes.readsAtMost_succ {limit : ℕ} (h : ReadsBytes n timer s bs u)
    (hlen : bs.length < limit) {before after : W} {rc : Option ℤ}
    (hread : t.trace = u.trace ++ [.read 1 before after rc]) : ReadsAtMost limit s t := by
  obtain ⟨es, htrace, hle, hall⟩ := h.readsAtMost
  refine ⟨es ++ [.read 1 before after rc], ?_, ?_, ?_⟩
  · rw [hread, htrace, List.append_assoc]
  · rw [List.length_append, List.length_singleton]
    omega
  · exact List.forall_mem_append.mpr ⟨hall, List.forall_mem_singleton.mpr rfl⟩

/-- The bytes that are read until one does not announce another one, a read fails or there
are as many as wanted. -/
theorem exists_readsBytes (n : Network W) (timer : Option Timer) (limit : ℕ) (s : Sys W) :
    ∃ bs u, ReadsBytes n timer s bs u ∧ (∀ b ∈ bs, 128 ≤ b.toNat) ∧
      (bs.length = limit ∨ bs.length < limit ∧ ∀ bytes v,
        mqttNetworkRead n [0] timer u = .ok (mqttSuccess, bytes) v →
          (bytes.headD 0).toNat < 128) := by
  induction limit generalizing s with
  | zero => exact ⟨[], s, .refl s, by simp, .inl rfl⟩
  | succ limit ih =>
      by_cases hmore : ∃ bytes v, mqttNetworkRead n [0] timer s = .ok (mqttSuccess, bytes) v ∧
          128 ≤ (bytes.headD 0).toNat
      · obtain ⟨bytes, v, hread, hbyte⟩ := hmore
        obtain ⟨bs, u, hreads, hall, hend⟩ := ih v
        refine ⟨_ :: bs, u, .read hread hreads, List.forall_mem_cons.mpr ⟨hbyte, hall⟩, ?_⟩
        exact hend.imp (congrArg Nat.succ) (And.imp_left Nat.succ_lt_succ)
      · refine ⟨[], s, .refl s, by simp, .inr ⟨Nat.succ_pos limit, fun bytes v hread ↦ ?_⟩⟩
        exact Nat.lt_of_not_le fun hbyte ↦ hmore ⟨bytes, v, hread, hbyte⟩

end Reads

/-! ## The accumulator -/

theorem and_128_eq_zero_iff {b : ℕ} (hb : b < 256) : b &&& 128 = 0 ↔ b < 128 := by
  revert b
  decide +kernel

/-- The next seven bits go in front of those that are already there. -/
theorem or_lenByte {b shift tmp : ℕ} (hshift : shift ≤ 21) (htmp : tmp < 2 ^ shift) :
    tmp ||| ((b &&& 127) <<< shift) % 2 ^ 32 = tmp + 2 ^ shift * (b % 128) := by
  have hand : b &&& 127 = b % 128 := Nat.and_two_pow_sub_one_eq_mod b 7
  have hpow : 2 ^ shift ≤ 2 ^ 21 := Nat.pow_le_pow_right (by omega) hshift
  have hlt : b % 128 * 2 ^ shift < 2 ^ 32 := by
    calc b % 128 * 2 ^ shift ≤ 127 * 2 ^ 21 := Nat.mul_le_mul (by omega) hpow
      _ < 2 ^ 32 := by decide
  rw [hand, Nat.shiftLeft_eq, Nat.mod_eq_of_lt hlt, Nat.mul_comm, Nat.or_comm,
    ← Nat.two_pow_add_eq_or_of_lt htmp, Nat.add_comm]

theorem shift_value_cons (shift tmp : ℕ) (b : UInt8) (bs : List UInt8) :
    tmp + 2 ^ shift * (b.toNat % 128) + 2 ^ (shift + 7) * Varint.value bs =
      tmp + 2 ^ shift * Varint.value (b :: bs) := by
  rw [Varint.value, Nat.pow_add]
  ring

section Loop

variable {n : Network W} {timer : Option Timer} {s u t : Sys W} {bytes bs : List UInt8}
  {left shift tmp cnt : ℕ}

theorem tmpPacketLen_lt (b : ℕ) (htmp : tmp < 2 ^ shift) :
    tmp + 2 ^ shift * (b % 128) < 2 ^ (shift + 7) := by
  have hmul : 2 ^ shift * (b % 128) ≤ 2 ^ shift * 127 := Nat.mul_le_mul le_rfl (by omega)
  have hpow : 2 ^ (shift + 7) = 2 ^ shift * 128 := Nat.pow_add 2 shift 7
  omega

/-- A byte that was read either ends the loop or goes in front of the number. -/
theorem readLengthBytes_succ (hread : mqttNetworkRead n [0] timer s = .ok (mqttSuccess, bytes) u)
    (hshift : shift ≤ 21) (htmp : tmp < 2 ^ shift) :
    readLengthBytes n timer (left + 1) shift tmp cnt s =
      if (bytes.headD 0).toNat < 128 then
        .ok (((cnt + 1 : ℕ) : ℤ), tmp + 2 ^ shift * ((bytes.headD 0).toNat % 128)) u
      else
        readLengthBytes n timer left (shift + 7)
          (tmp + 2 ^ shift * ((bytes.headD 0).toNat % 128)) (cnt + 1) u := by
  rw [readLengthBytes, bind_eq_of_ok hread]
  dsimp only
  rw [if_neg (not_not.mpr rfl), or_lenByte hshift htmp]
  by_cases hlast : (bytes.headD 0).toNat < 128
  · rw [if_pos hlast, if_pos ((and_128_eq_zero_iff (UInt8.toNat_lt _)).mpr hlast)]
    rfl
  · rw [if_neg hlast, if_neg (mt (and_128_eq_zero_iff (UInt8.toNat_lt _)).mp hlast)]

/-- Bytes that announce another one only move the loop on. -/
theorem ReadsBytes.readLengthBytes_append (h : ReadsBytes n timer s bs t) (left : ℕ)
    (hmore : ∀ b ∈ bs, 128 ≤ b.toNat) (hshift : shift + 7 * bs.length ≤ 28)
    (htmp : tmp < 2 ^ shift) :
    readLengthBytes n timer (bs.length + left) shift tmp cnt s =
      readLengthBytes n timer left (shift + 7 * bs.length)
        (tmp + 2 ^ shift * Varint.value bs) (cnt + bs.length) t := by
  induction h generalizing shift tmp cnt with
  | refl s => simp [Varint.value]
  | @read s u t bytes bs hread _ ih =>
      rw [List.forall_mem_cons] at hmore
      rw [List.length_cons] at hshift ⊢
      rw [Nat.add_right_comm bs.length, readLengthBytes_succ hread (by omega) htmp,
        if_neg (not_lt.mpr hmore.1),
        ih hmore.2 (by omega) (tmpPacketLen_lt _ htmp), shift_value_cons]
      congr 1 <;> omega

theorem ReadsBytes.readLengthBytes_of_isEncoding (h : ReadsBytes n timer s bs t)
    (henc : Varint.IsEncoding bs) (hlen : bs.length ≤ left) (hshift : shift + 7 * left ≤ 28)
    (htmp : tmp < 2 ^ shift) :
    readLengthBytes n timer left shift tmp cnt s =
      .ok (((cnt + bs.length : ℕ) : ℤ), tmp + 2 ^ shift * Varint.value bs) t := by
  induction h generalizing left shift tmp cnt with
  | refl s => exact henc.elim
  | @read s u t bytes bs hread hrest ih =>
      rw [List.length_cons] at hlen ⊢
      obtain ⟨left, rfl⟩ : ∃ left', left = left' + 1 := ⟨left - 1, by omega⟩
      rw [readLengthBytes_succ hread (by omega) htmp]
      by_cases hlast : (bytes.headD 0).toNat < 128
      · obtain rfl := (Varint.isEncoding_cons_of_lt hlast).mp henc
        cases hrest
        rw [if_pos hlast]
        simp [Varint.value]
      · rw [Varint.isEncoding_cons_of_ge (not_lt.mp hlast)] at henc
        rw [if_neg hlast, ih henc (by omega) (by omega) (tmpPacketLen_lt _ htmp), shift_value_cons,
          Nat.add_right_comm cnt, Nat.add_assoc]

end Loop

/-! ## How the loop ends -/

/-- The loop ends with the byte that announces no other one, behind as many bytes as it may
read, or with the first read that fails or never returns. -/
inductive LengthOutcome (n : Network W) (timer : Option Timer)
    (bytesLeft shift tmpPacketLen cntBytes : ℕ) (s : Sys W) :
    Outcome Stop (Sys W) (ℤ × ℕ) → Prop
  | decoded {lenBytes : List UInt8} {t : Sys W} (hreads : ReadsBytes n timer s lenBytes t)
      (henc : Varint.IsEncoding lenBytes) (hlen : lenBytes.length ≤ bytesLeft) :
      LengthOutcome n timer bytesLeft shift tmpPacketLen cntBytes s
        (.ok (((cntBytes + lenBytes.length : ℕ) : ℤ),
          tmpPacketLen + 2 ^ shift * Varint.value lenBytes) t)
  | tooLong {read : List UInt8} {t : Sys W} (hreads : ReadsBytes n timer s read t)
      (hmore : ∀ b ∈ read, 128 ≤ b.toNat) (hlen : read.length = bytesLeft) :
      LengthOutcome n timer bytesLeft shift tmpPacketLen cntBytes s (.ok (mqttFailure, 0) t)
  | failed {read bytes : List UInt8} {u t : Sys W} {rc : ℤ}
      (hreads : ReadsBytes n timer s read u) (hmore : ∀ b ∈ read, 128 ≤ b.toNat)
      (hlen : read.length < bytesLeft)
      (hread : mqttNetworkRead n [0] timer u = .ok (rc, bytes) t) (hrc : rc ≠ mqttSuccess) :
      LengthOutcome n timer bytesLeft shift tmpPacketLen cntBytes s (.ok (rc, 0) t)
  | stopped {read : List UInt8} {u t : Sys W} {e : Stop}
      (hreads : ReadsBytes n timer s read u) (hmore : ∀ b ∈ read, 128 ≤ b.toNat)
      (hlen : read.length < bytesLeft) (hread : mqttNetworkRead n [0] timer u = .stop e t) :
      LengthOutcome n timer bytesLeft shift tmpPacketLen cntBytes s (.stop e t)

section Outcomes

variable {n : Network W} {timer : Option Timer} {left shift tmp cnt : ℕ} {s : Sys W}
  {o : Outcome Stop (Sys W) (ℤ × ℕ)}

variable (n timer left shift tmp cnt s) in
theorem exists_lengthOutcome : ∃ o, LengthOutcome n timer left shift tmp cnt s o := by
  obtain ⟨read, u, hreads, hmore, hlen | ⟨hlen, hend⟩⟩ := exists_readsBytes n timer left s
  · exact ⟨_, .tooLong hreads hmore hlen⟩
  · cases hread : mqttNetworkRead n [0] timer u with
    | stop e t => exact ⟨_, .stopped hreads hmore hlen hread⟩
    | ok r t =>
        obtain ⟨rc, bytes⟩ := r
        by_cases hrc : rc = mqttSuccess
        · subst hrc
          have hlast := hend bytes t hread
          refine ⟨_, .decoded (hreads.concat hread) (Varint.isEncoding_concat hmore hlast) ?_⟩
          rw [List.length_append, List.length_singleton]
          exact hlen
        · exact ⟨_, .failed hreads hmore hlen hread hrc⟩

theorem LengthOutcome.eq (h : LengthOutcome n timer left shift tmp cnt s o)
    (hshift : shift + 7 * left ≤ 28) (htmp : tmp < 2 ^ shift) :
    readLengthBytes n timer left shift tmp cnt s = o := by
  cases h with
  | decoded hreads henc hlen => exact hreads.readLengthBytes_of_isEncoding henc hlen hshift htmp
  | @tooLong read t hreads hmore hlen =>
      subst hlen
      exact hreads.readLengthBytes_append 0 hmore hshift htmp
  | failed hreads hmore hlen hread hrc =>
      obtain ⟨rest, rfl⟩ := Nat.exists_eq_add_of_lt hlen
      rw [Nat.add_assoc, hreads.readLengthBytes_append _ hmore (by omega) htmp, readLengthBytes,
        bind_eq_of_ok hread]
      exact congrFun (if_pos hrc) _
  | stopped hreads hmore hlen hread =>
      obtain ⟨rest, rfl⟩ := Nat.exists_eq_add_of_lt hlen
      rw [Nat.add_assoc, hreads.readLengthBytes_append _ hmore (by omega) htmp, readLengthBytes,
        bind_eq_of_stop hread]

theorem lengthOutcome_iff (hshift : shift + 7 * left ≤ 28) (htmp : tmp < 2 ^ shift) :
    LengthOutcome n timer left shift tmp cnt s o ↔
      readLengthBytes n timer left shift tmp cnt s = o := by
  refine ⟨fun h ↦ h.eq hshift htmp, ?_⟩
  rintro rfl
  obtain ⟨o, h⟩ := exists_lengthOutcome n timer left shift tmp cnt s
  rwa [h.eq hshift htmp]

end Outcomes

/-! ## The whole decoder -/

/-- The transport returns a negative code for a read that has failed. -/
def Network.FailsNegative (n : Network W) : Prop :=
  ∀ mqttread buffer timeoutMs w, n.mqttread = some mqttread → buffer ≠ [] →
    Post (mqttread buffer timeoutMs) w (fun r _ ↦ r.1 ≠ mqttSuccess → r.1 < 0) fun _ _ ↦ True

/-- The decoder accepts what the grammar of the remaining length allows and nothing else. -/
structure DecodesLength (n : Network W) (timer : Option Timer) (s : Sys W) : Prop where
  reads_four : Post (mqttNetworkReadAndDecodePacketLength n timer) s
    (fun _ t ↦ ReadsAtMost 4 s t) fun _ t ↦ ReadsAtMost 4 s t
  /-- A positive count is that of the bytes up to the first one that announces no other. -/
  positive_iff : ∀ k v t, 0 < k →
    (mqttNetworkReadAndDecodePacketLength n timer s = .ok (k, v) t ↔
      ∃ lenBytes, ReadsBytes n timer s lenBytes t ∧ (lenBytes.length : ℤ) = k ∧ k ≤ 4 ∧
        Varint.IsEncoding lenBytes ∧ v = (Varint.groups lenBytes).sum)
  /-- The `unsigned int` holds every group of bits that is shifted into it. -/
  lossless : ∀ lenBytes : List UInt8, lenBytes.length ≤ 4 →
    (Varint.groups lenBytes).sum < 2 ^ 28 ∧
      lenBytes.mapIdx (fun i b ↦ ((b.toNat &&& 127) <<< (7 * i)) % 2 ^ 32) =
        Varint.groups lenBytes
  /-- Every other count is negative: four bytes that announce another one were read, or a read
  has failed with this code. -/
  nonpositive_iff : ∀ k v t, k ≤ 0 →
    (mqttNetworkReadAndDecodePacketLength n timer s = .ok (k, v) t ↔ k < 0 ∧ v = 0 ∧
      ∃ read, (∀ b ∈ read, 128 ≤ b.toNat) ∧
        (read.length = 4 ∧ ReadsBytes n timer s read t ∧ k = mqttFailure ∨
          read.length < 4 ∧ ∃ u bytes, ReadsBytes n timer s read u ∧
            mqttNetworkRead n [0] timer u = .ok (k, bytes) t))
  /-- The decoder returns unless a read does not. -/
  stop_iff : ∀ e t, mqttNetworkReadAndDecodePacketLength n timer s = .stop e t ↔
    ∃ read u, (∀ b ∈ read, 128 ≤ b.toNat) ∧ read.length < 4 ∧ ReadsBytes n timer s read u ∧
      mqttNetworkRead n [0] timer u = .stop e t
  /-- The shortest encoding is decoded, and no more is read. -/
  encode : ∀ m < 2 ^ 28, ∀ t, ReadsBytes n timer s (Varint.encode m) t →
    mqttNetworkReadAndDecodePacketLength n timer s =
        .ok (((Varint.encode m).length : ℤ), m) t ∧
      ∀ rx : W → List UInt8, ReadsStream rx n → rx s.world = Varint.encode m ++ rx t.world

section Decoder

variable {n : Network W} {timer : Option Timer} {s u t : Sys W}
  {o : Outcome Stop (Sys W) (ℤ × ℕ)}

theorem ReadsStream.failsNegative {rx : W → List UInt8} (h : ReadsStream rx n) :
    n.FailsNegative := by
  intro mqttread buffer timeoutMs w hread hbuffer
  refine (h.read mqttread buffer timeoutMs w hread hbuffer).mono ?_ fun _ _ _ ↦ trivial
  rintro r w' ⟨-, delivered, -, ⟨hrc, -⟩ | ⟨hrc, -⟩⟩ hne
  · exact absurd hrc hne
  · exact hrc

theorem Network.FailsNegative.neg (hn : n.FailsNegative) {rc : ℤ} {bytes : List UInt8}
    (h : mqttNetworkRead n [0] timer s = .ok (rc, bytes) t) (hrc : rc ≠ mqttSuccess) : rc < 0 := by
  have hpost : Post (mqttNetworkRead n [0] timer) s (fun r _ ↦ r.1 ≠ mqttSuccess → r.1 < 0)
      fun _ _ ↦ True := by
    unfold mqttNetworkRead
    rw [Sys.post_observed]
    apply (Yields.post (yields_true (timeoutOf timer)) s).bind
    intro timeoutMs u _
    cases hread : n.mqttread with
    | none => exact trivial
    | some mqttread =>
        rw [Sys.post_onWorld]
        exact hn mqttread [0] timeoutMs u.world hread (by simp)
  exact hpost.ok h hrc

theorem ReadsBytes.rx_eq {rx : W → List UInt8} (hn : ReadsStream rx n) {bs : List UInt8}
    (h : ReadsBytes n timer s bs t) : rx s.world = bs ++ rx t.world := by
  induction h with
  | refl s => rfl
  | read hread _ ih =>
      obtain ⟨-, hlen, delivered, hrx, ⟨-, hbytes⟩ | ⟨hrc, -⟩⟩ :=
        (post_mqttNetworkRead hn [0] (by simp) timer _).ok hread
      · obtain ⟨b, rfl⟩ := List.length_eq_one_iff.mp hlen
        rw [hrx, ← hbytes, ih]
        rfl
      · exact absurd rfl (Int.ne_of_lt hrc)

variable (n timer s o) in
/-- The loop begins with an empty accumulator and four bytes left. -/
theorem decode_eq_iff : mqttNetworkReadAndDecodePacketLength n timer s = o ↔
    LengthOutcome n timer 4 0 0 0 s o :=
  (lengthOutcome_iff (by omega) (by omega)).symm

theorem readsAtMost_four (n : Network W) (timer : Option Timer) (s : Sys W) :
    Post (mqttNetworkReadAndDecodePacketLength n timer) s (fun _ t ↦ ReadsAtMost 4 s t)
      fun _ t ↦ ReadsAtMost 4 s t := by
  have hreadsAtMost : ∀ {bs : List UInt8} {t : Sys W}, ReadsBytes n timer s bs t →
      bs.length ≤ 4 → ReadsAtMost 4 s t := by
    intro bs t hreads hlen
    obtain ⟨es, htrace, hle, hall⟩ := hreads.readsAtMost
    exact ⟨es, htrace, hle.trans hlen, hall⟩
  refine post_intro (fun r t h ↦ ?_) fun e t h ↦ ?_
  · cases (decode_eq_iff n timer s _).mp h with
    | decoded hreads _ hlen => exact hreadsAtMost hreads hlen
    | tooLong hreads _ hlen => exact hreadsAtMost hreads hlen.le
    | failed hreads _ hlen hread _ =>
        exact hreads.readsAtMost_succ hlen (mqttNetworkRead_trace hread)
  · cases (decode_eq_iff n timer s _).mp h with
    | stopped hreads _ hlen hread =>
        exact hreads.readsAtMost_succ hlen
          ((post_mqttNetworkRead_trace n [0] timer _).stop hread)

theorem decode_of_isEncoding {lenBytes : List UInt8} (hreads : ReadsBytes n timer s lenBytes t)
    (henc : Varint.IsEncoding lenBytes) (hlen : lenBytes.length ≤ 4) :
    mqttNetworkReadAndDecodePacketLength n timer s =
      .ok ((lenBytes.length : ℤ), Varint.value lenBytes) t := by
  have h := (decode_eq_iff n timer s _).mpr (.decoded hreads henc hlen)
  rwa [Nat.zero_add, Nat.pow_zero, Nat.one_mul, Nat.zero_add] at h

theorem decode_eq_positive_iff (hn : n.FailsNegative) {k : ℤ} {v : ℕ} (hk : 0 < k) :
    mqttNetworkReadAndDecodePacketLength n timer s = .ok (k, v) t ↔
      ∃ lenBytes, ReadsBytes n timer s lenBytes t ∧ (lenBytes.length : ℤ) = k ∧ k ≤ 4 ∧
        Varint.IsEncoding lenBytes ∧ v = (Varint.groups lenBytes).sum := by
  constructor
  · intro h
    cases (decode_eq_iff n timer s _).mp h with
    | @decoded lenBytes _ hreads henc hlen =>
        refine ⟨lenBytes, hreads, by omega, by omega, henc, ?_⟩
        rw [Varint.sum_groups]
        omega
    | tooLong => exact absurd hk (by decide)
    | failed _ _ _ hread hrc => exact absurd (hn.neg hread hrc) (by omega)
  · rintro ⟨lenBytes, hreads, rfl, hlen, henc, rfl⟩
    rw [Varint.sum_groups]
    exact decode_of_isEncoding hreads henc (by omega)

theorem decode_eq_nonpositive_iff {k : ℤ} {v : ℕ} (hk : k ≤ 0) :
    mqttNetworkReadAndDecodePacketLength n timer s = .ok (k, v) t ↔ k < 0 ∧ v = 0 ∧
      ∃ read, (∀ b ∈ read, 128 ≤ b.toNat) ∧
        (read.length = 4 ∧ ReadsBytes n timer s read t ∧ k = mqttFailure ∨
          read.length < 4 ∧ ∃ u bytes, ReadsBytes n timer s read u ∧
            mqttNetworkRead n [0] timer u = .ok (k, bytes) t) := by
  rw [decode_eq_iff]
  constructor
  · intro h
    cases h with
    | @decoded lenBytes _ _ henc _ =>
        have hpos := List.length_pos_iff.mpr henc.ne_nil
        omega
    | tooLong hreads hmore hlen =>
        exact ⟨mqttFailure_neg, rfl, _, hmore, .inl ⟨hlen, hreads, rfl⟩⟩
    | failed hreads hmore hlen hread hrc =>
        exact ⟨lt_of_le_of_ne hk hrc, rfl, _, hmore, .inr ⟨hlen, _, _, hreads, hread⟩⟩
  · rintro ⟨hneg, rfl, read, hmore, ⟨hlen, hreads, rfl⟩ | ⟨hlen, u, bytes, hreads, hread⟩⟩
    · exact .tooLong hreads hmore hlen
    · exact .failed hreads hmore hlen hread (Int.ne_of_lt hneg)

theorem decode_eq_stop_iff {e : Stop} :
    mqttNetworkReadAndDecodePacketLength n timer s = .stop e t ↔
      ∃ read u, (∀ b ∈ read, 128 ≤ b.toNat) ∧ read.length < 4 ∧ ReadsBytes n timer s read u ∧
        mqttNetworkRead n [0] timer u = .stop e t := by
  rw [decode_eq_iff]
  constructor
  · intro h
    cases h with
    | stopped hreads hmore hlen hread => exact ⟨_, _, hmore, hlen, hreads, hread⟩
  · rintro ⟨read, u, hmore, hlen, hreads, hread⟩
    exact .stopped hreads hmore hlen hread

omit [Clock W] in
theorem mapIdx_lenByte {lenBytes : List UInt8} (hlen : lenBytes.length ≤ 4) :
    lenBytes.mapIdx (fun i b ↦ ((b.toNat &&& 127) <<< (7 * i)) % 2 ^ 32) =
      Varint.groups lenBytes := by
  refine List.mapIdx_eq_mapIdx_iff.mpr fun i hi ↦ ?_
  have hor := or_lenByte (b := lenBytes[i].toNat) (show 7 * i ≤ 21 by omega)
    (Nat.two_pow_pos (7 * i))
  rw [Nat.zero_or, Nat.zero_add] at hor
  rw [hor, Nat.mul_comm, Nat.pow_mul]

end Decoder

/-- The decoder returns a positive count exactly for the bytes of a remaining length, with
the number that they spell, and a negative code and zero otherwise. -/
theorem decodesLength {n : Network W} (hn : n.FailsNegative) (timer : Option Timer) (s : Sys W) :
    DecodesLength n timer s where
  reads_four := readsAtMost_four n timer s
  positive_iff _ _ _ hk := decode_eq_positive_iff hn hk
  lossless lenBytes hlen := by
    refine ⟨?_, mapIdx_lenByte hlen⟩
    rw [Varint.sum_groups]
    exact value_lt_of_length_le hlen
  nonpositive_iff _ _ _ hk := decode_eq_nonpositive_iff hk
  stop_iff _ _ := decode_eq_stop_iff
  encode m hm t hreads := by
    have hlen : (Varint.encode m).length ≤ 4 := Varint.length_encode_le (by omega) hm
    have hdecode := decode_of_isEncoding hreads (Varint.isEncoding_encode m) hlen
    rw [Varint.value_encode] at hdecode
    exact ⟨hdecode, fun _ h ↦ hreads.rx_eq h⟩

/-- The two length bytes of 321 are read from the TLS connection, and nothing behind them. -/
theorem decodesLength_of_two_bytes :
    ∃ t, mqttNetworkReadAndDecodePacketLength (netWan 4) none
        ⟨World.steady [0xC1, 2, 7], []⟩ = .ok (2, 321) t ∧ t.world.rx = [7] := by
  obtain ⟨u, t, hfirst, hsecond⟩ : ∃ u t,
      mqttNetworkRead (netWan 4) [0] none ⟨World.steady [0xC1, 2, 7], []⟩ =
        .ok (mqttSuccess, [0xC1]) u ∧
      mqttNetworkRead (netWan 4) [0] none u = .ok (mqttSuccess, [2]) t := ⟨_, _, rfl, rfl⟩
  have hencode : Varint.encode 321 = [0xC1, 2] := by decide
  have hreads : ReadsBytes (netWan 4) none ⟨World.steady [0xC1, 2, 7], []⟩
      (Varint.encode 321) t := hencode ▸ .read hfirst (.read hsecond (.refl t))
  have hstream := readsStream_netWan 4
  obtain ⟨hdecode, hrx⟩ :=
    (decodesLength hstream.failsNegative none _).encode 321 (by decide) t hreads
  have hrest : [0xC1, 2] ++ [7] = [0xC1, 2] ++ t.world.rx := hencode ▸ hrx World.rx hstream
  rw [hencode] at hdecode
  exact ⟨t, hdecode, (List.append_cancel_left hrest).symm⟩

end DemoIotApp
