import DemoIotApp.LengthDecoding
import Mathlib.Data.List.Infix

/-!
# Reading one packet

`MQTT_network_readPacket` reads the header byte, one to four length bytes and the
payload. It stops at the first read that fails. The lemmas follow the reads over
an arbitrary network that delivers a byte stream, and say of every way to end how
much of the stream is gone.
-/

namespace DemoIotApp

open Library Prog

variable {W : Type}

/-! ## One read -/

/-- A read that has succeeded. -/
def Event.ReadOk : Event W → Prop
  | .read _ _ _ rc => rc = some mqttSuccess
  | _ => False

instance : DecidablePred (Event.ReadOk (W := W))
  | .read _ _ _ rc => inferInstanceAs (Decidable (rc = some mqttSuccess))
  | .sendPacket .. => isFalse id
  | .readPacket .. => isFalse id
  | .call .. => isFalse id

section Read

variable [Clock W] {rx : W → List UInt8} {n : Network W}

/-- A read from the network returns or stops in `E`. -/
def ReadStops (n : Network W) (E : Stop → Sys W → Prop) : Prop :=
  ∀ buffer timer s, Post (mqttNetworkRead n buffer timer) s (fun _ _ ↦ True) E

theorem readStops_true (n : Network W) : ReadStops n fun _ _ ↦ True :=
  fun _ _ _ ↦ post_intro (fun _ _ _ ↦ trivial) fun _ _ _ ↦ trivial

variable {E : Stop → Sys W → Prop}

theorem post_readInto (h : ReadsStream rx n) (hE : ReadStops n E) {buffer : List UInt8}
    {offset len : ℕ} (hlen : 0 < len) (hfit : offset + len ≤ buffer.length)
    (timer : Option Timer) (s : Sys W) :
    Post (readInto n buffer offset len timer) s
      (fun r t ↦ t.trace = s.trace ++ [.read len s.world t.world (some r.1)] ∧
        r.2.length = buffer.length ∧ ∃ delivered, rx s.world = delivered ++ rx t.world ∧
          (r.1 = mqttSuccess ∧ delivered.length = len ∧
              r.2 = buffer.take offset ++ (delivered ++ buffer.drop (offset + len)) ∨
            r.1 < 0 ∧ delivered.length < len))
      E := by
  have hpart : ((buffer.drop offset).take len).length = len := by
    simp only [List.length_take, List.length_drop]
    omega
  have hne : (buffer.drop offset).take len ≠ [] := by
    apply List.ne_nil_of_length_pos
    omega
  unfold readInto
  rw [if_pos hfit]
  have hread := (post_mqttNetworkRead h _ hne timer s).and (hE _ timer s)
  apply (hread.mono (fun _ _ h ↦ h.1) fun _ _ h ↦ h.2).bind
  rintro ⟨rc, bytes⟩ t ⟨htrace, hbytes, delivered, hrx, hrc⟩
  rw [hpart] at htrace hbytes hrc
  simp only at hbytes hrc
  refine ⟨htrace, ?_, delivered, hrx, ?_⟩
  · simp only [List.length_append, List.length_take, List.length_drop, hbytes]
    omega
  · rcases hrc with ⟨hrc, rfl⟩ | hrc
    · exact Or.inl ⟨hrc, hbytes, rfl⟩
    · exact Or.inr hrc

end Read

/-! ## The remaining length -/

section ReadLength

variable [Clock W] {rx : W → List UInt8} {n : Network W} {E : Stop → Sys W → Prop}

/-- How the loop over the length bytes ends: with an encoding, with as many bytes as it
may read and all of them announcing another one, or with a read that fails. -/
inductive LengthEnds (rx : W → List UInt8) (bytesLeft shift tmpPacketLen cntBytes : ℕ)
    (s : Sys W) : ℤ × ℕ → Sys W → Prop
  | decoded (es : List (Event W)) (lenBytes : List UInt8) (t : Sys W)
      (htrace : t.trace = s.trace ++ es) (hok : ∀ e ∈ es, e.ReadOk)
      (hrx : rx s.world = lenBytes ++ rx t.world) (henc : Varint.IsEncoding lenBytes)
      (hlen : lenBytes.length ≤ bytesLeft) :
      LengthEnds rx bytesLeft shift tmpPacketLen cntBytes s
        (((cntBytes + lenBytes.length : ℕ) : ℤ),
          tmpPacketLen + 2 ^ shift * Varint.value lenBytes) t
  | tooLong (es : List (Event W)) (read : List UInt8) (t : Sys W)
      (htrace : t.trace = s.trace ++ es) (hok : ∀ e ∈ es, e.ReadOk)
      (hrx : rx s.world = read ++ rx t.world) (hmore : ∀ b ∈ read, 128 ≤ b.toNat)
      (hlen : read.length = bytesLeft) :
      LengthEnds rx bytesLeft shift tmpPacketLen cntBytes s (mqttFailure, 0) t
  | failed (es : List (Event W)) (read : List UInt8) (rc : ℤ) (before : W) (t : Sys W)
      (htrace : t.trace = s.trace ++ (es ++ [.read 1 before t.world (some rc)]))
      (hok : ∀ e ∈ es, e.ReadOk) (hrx : rx s.world = read ++ rx before)
      (hmore : ∀ b ∈ read, 128 ≤ b.toNat) (hlen : read.length < bytesLeft) (hrc : rc < 0) :
      LengthEnds rx bytesLeft shift tmpPacketLen cntBytes s (rc, 0) t

theorem ReadsBytes.readOk {timer : Option Timer} {s t : Sys W} {bs : List UInt8}
    (h : ReadsBytes n timer s bs t) :
    ∃ es, t.trace = s.trace ++ es ∧ ∀ e ∈ es, e.ReadOk := by
  induction h with
  | refl s => exact ⟨[], (List.append_nil _).symm, by simp⟩
  | read hread _ ih =>
      obtain ⟨es, htrace, hok⟩ := ih
      rw [mqttNetworkRead_trace hread, List.append_assoc] at htrace
      exact ⟨_, htrace, List.forall_mem_cons.mpr ⟨rfl, hok⟩⟩

theorem post_readLengthBytes (h : ReadsStream rx n) (hE : ReadStops n E) (timer : Option Timer)
    {bytesLeft shift tmpPacketLen : ℕ} (cntBytes : ℕ) (s : Sys W)
    (hshift : shift + 7 * bytesLeft ≤ 28) (htmp : tmpPacketLen < 2 ^ shift) :
    Post (readLengthBytes n timer bytesLeft shift tmpPacketLen cntBytes) s
      (LengthEnds rx bytesLeft shift tmpPacketLen cntBytes s) E := by
  refine post_intro (fun r t hrun ↦ ?_) fun e t hrun ↦ ?_
  · cases (lengthOutcome_iff hshift htmp).mpr hrun with
    | decoded hreads henc hlen =>
        obtain ⟨es, htrace, hok⟩ := hreads.readOk
        exact .decoded es _ t htrace hok (hreads.rx_eq h) henc hlen
    | tooLong hreads hmore hlen =>
        obtain ⟨es, htrace, hok⟩ := hreads.readOk
        exact .tooLong es _ t htrace hok (hreads.rx_eq h) hmore hlen
    | @failed read _ u _ rc hreads hmore hlen hread hrc =>
        obtain ⟨es, htrace, hok⟩ := hreads.readOk
        refine .failed es read rc u.world t ?_ hok (hreads.rx_eq h) hmore hlen
          (h.failsNegative.neg hread hrc)
        rw [mqttNetworkRead_trace hread, htrace, List.append_assoc]
        rfl
  · cases (lengthOutcome_iff hshift htmp).mpr hrun with
    | stopped _ _ _ hread => exact (hE [0] timer _).stop hread

end ReadLength

/-! ## The whole packet -/

/-- The size check of `MQTT_network_readPacket` lets a payload of this length through. -/
def PassesCheck (size payloadLen : ℕ) : Prop :=
  payloadLen ≤ (size % 2 ^ 32 + 2 ^ 32 - (1 + (Varint.encode payloadLen).length)) % 2 ^ 32

/-- When the length bytes fit, the check lets only payloads through that fit as well. -/
theorem PassesCheck.le {size payloadLen : ℕ} (h : PassesCheck size payloadLen)
    (hlt : payloadLen < 2 ^ 28) (hroom : 1 + (Varint.encode payloadLen).length ≤ size) :
    1 + (Varint.encode payloadLen).length + payloadLen ≤ size := by
  have hlen := Varint.length_encode_le (k := 4) (by omega) hlt
  unfold PassesCheck at h
  omega

/-- For a buffer of less than four gigabytes it lets all of them through. -/
theorem passesCheck_iff {size payloadLen : ℕ} (hsize : size < 2 ^ 32)
    (hroom : 1 + (Varint.encode payloadLen).length ≤ size) :
    PassesCheck size payloadLen ↔ 1 + (Varint.encode payloadLen).length + payloadLen ≤ size := by
  unfold PassesCheck
  omega

/-- The packet with this payload at the start of the buffer. -/
def packetInBuffer (header : UInt8) (payload buffer : List UInt8) : List UInt8 :=
  let packet := header :: (Varint.encode payload.length ++ payload)
  packet ++ buffer.drop packet.length

section ReadPacket

variable [Clock W] {rx : W → List UInt8} {n : Network W} {E : Stop → Sys W → Prop}

/-- How the read of a packet ends. Only the reads of the header, of the length and of the
payload can fail, and the code of the one that does is returned. -/
inductive PacketEnds (rx : W → List UInt8) (buffer : List UInt8) (s : Sys W) :
    ℤ × List UInt8 → Sys W → Prop
  | headerFailed (rc : ℤ) (buffer' : List UInt8) (t : Sys W)
      (htrace : t.trace = s.trace ++ [.read 1 s.world t.world (some rc)])
      (hrx : rx s.world = rx t.world) (hrc : rc < 0) :
      PacketEnds rx buffer s (rc, buffer') t
  | lengthFailed (es : List (Event W)) (header : UInt8) (read : List UInt8) (rc : ℤ)
      (before : W) (buffer' : List UInt8) (t : Sys W)
      (htrace : t.trace = s.trace ++ (es ++ [.read 1 before t.world (some rc)]))
      (hok : ∀ e ∈ es, e.ReadOk) (hrx : rx s.world = header :: (read ++ rx before))
      (hmore : ∀ b ∈ read, 128 ≤ b.toNat) (hlen : read.length < 4) (hrc : rc < 0) :
      PacketEnds rx buffer s (rc, buffer') t
  | lengthTooLong (es : List (Event W)) (header : UInt8) (read : List UInt8)
      (buffer' : List UInt8) (t : Sys W) (htrace : t.trace = s.trace ++ es)
      (hok : ∀ e ∈ es, e.ReadOk) (hrx : rx s.world = header :: (read ++ rx t.world))
      (hmore : ∀ b ∈ read, 128 ≤ b.toNat) (hlen : read.length = 4) :
      PacketEnds rx buffer s (mqttFailure, buffer') t
  | overflow (after : W) (es : List (Event W)) (header : UInt8) (lenBytes : List UInt8)
      (buffer' : List UInt8) (t : Sys W)
      (htrace : t.trace = s.trace ++ .read 1 s.world after (some mqttSuccess) :: es)
      (hok : ∀ e ∈ es, e.ReadOk) (hrx : rx s.world = header :: (lenBytes ++ rx t.world))
      (henc : Varint.IsEncoding lenBytes) (hlen : lenBytes.length ≤ 4)
      (hcheck : ¬PassesCheck buffer.length (Varint.value lenBytes)) :
      PacketEnds rx buffer s (mqttBufferOverflow, buffer') t
  | payloadFailed (es : List (Event W)) (header : UInt8) (lenBytes : List UInt8) (rc : ℤ)
      (before : W) (buffer' : List UInt8) (t : Sys W)
      (htrace : t.trace = s.trace ++
        (es ++ [.read (Varint.value lenBytes) before t.world (some rc)]))
      (hok : ∀ e ∈ es, e.ReadOk) (hrx : rx s.world = header :: (lenBytes ++ rx before))
      (henc : Varint.IsEncoding lenBytes) (hlen : lenBytes.length ≤ 4)
      (hpos : 0 < Varint.value lenBytes) (hrc : rc < 0) :
      PacketEnds rx buffer s (rc, buffer') t
  | complete (es : List (Event W)) (header : UInt8) (lenBytes payload : List UInt8) (t : Sys W)
      (htrace : t.trace = s.trace ++ es) (hok : ∀ e ∈ es, e.ReadOk)
      (hrx : rx s.world = header :: (lenBytes ++ (payload ++ rx t.world)))
      (henc : Varint.IsEncoding lenBytes) (hlen : lenBytes.length ≤ 4)
      (hvalue : Varint.value lenBytes = payload.length)
      (hcheck : PassesCheck buffer.length payload.length) :
      PacketEnds rx buffer s (headerType header, packetInBuffer header payload buffer) t

theorem post_readPayload (h : ReadsStream rx n) (hE : ReadStops n E) {buffer : List UInt8}
    {s u : Sys W} {after : W} {es : List (Event W)} {header : UInt8} {lenBytes : List UInt8}
    (htrace : u.trace = s.trace ++ .read 1 s.world after (some mqttSuccess) :: es)
    (hok : ∀ e ∈ es, e.ReadOk)
    (hrx : rx s.world = header :: (lenBytes ++ rx u.world)) (henc : Varint.IsEncoding lenBytes)
    (hlen : lenBytes.length ≤ 4) {payloadLen : ℕ} (hvalue : Varint.value lenBytes = payloadLen)
    (hroom : 1 + (Varint.encode payloadLen).length ≤ buffer.length) (timer : Option Timer) :
    Post (readPayload n
        (header :: (Varint.encode payloadLen ++
          buffer.drop (1 + (Varint.encode payloadLen).length)))
        (buffer.length % 2 ^ 32) (1 + (Varint.encode payloadLen).length) payloadLen timer) u
      (PacketEnds rx buffer s) E := by
  have hlt : payloadLen < 2 ^ 28 := hvalue ▸ value_lt_of_length_le hlen
  have hheader : (Event.read 1 s.world after (some mqttSuccess)).ReadOk := rfl
  have hok' := List.forall_mem_cons.mpr ⟨hheader, hok⟩
  refine post_ite (fun hpos ↦ post_ite (fun hbig ↦ ?_) fun hcheck ↦ ?_) fun hzero ↦ ?_
  · exact .overflow after es header lenBytes _ u htrace hok hrx henc hlen
      (hvalue ▸ Nat.not_le.mpr hbig)
  · have hpasses : PassesCheck buffer.length payloadLen := Nat.not_lt.mp hcheck
    have hfit := hpasses.le hlt hroom
    have hsize : (header :: (Varint.encode payloadLen ++
        buffer.drop (1 + (Varint.encode payloadLen).length))).length = buffer.length := by
      simp only [List.length_cons, List.length_append, List.length_drop]
      omega
    apply (post_readInto h hE hpos (hsize ▸ hfit) timer u).bind
    rintro ⟨rc, buffer'⟩ t ⟨htrace', -, payload, hd, ⟨hrc, hplen, hbuffer'⟩ | ⟨hrc, -⟩⟩
    · dsimp only at hrc hbuffer' htrace' ⊢
      rw [if_neg (not_not.mpr hrc)]
      have hends : PacketEnds rx buffer s
          (headerType header, packetInBuffer header payload buffer) t := by
        refine .complete ((_ :: es) ++ [_]) header lenBytes payload t
          (by rw [htrace', htrace, List.append_assoc]) (fun e he ↦ ?_) (by rw [hrx, hd]) henc hlen
          (hvalue.trans hplen.symm) (hplen ▸ hpasses)
        rcases List.mem_append.mp he with he | he
        · exact hok' e he
        · rw [List.mem_singleton.mp he, hrc]
          rfl
      have hput : buffer' = packetInBuffer header payload buffer := by
        rw [hbuffer', packetInBuffer, hplen, Nat.add_comm 1, List.take_succ_cons,
          List.take_left, Nat.add_right_comm, List.drop_succ_cons, List.drop_append]
        simp [List.drop_drop, Nat.add_comm, Nat.add_left_comm, hplen]
      rw [hput]
      exact hends
    · have hne : rc ≠ mqttSuccess := Int.ne_of_lt hrc
      dsimp only at htrace' ⊢
      rw [if_pos hne]
      exact .payloadFailed (_ :: es) header lenBytes rc u.world buffer' t
        (by rw [htrace', htrace, hvalue, List.append_assoc]) hok' hrx henc hlen (hvalue ▸ hpos) hrc
  · obtain rfl : payloadLen = 0 := Nat.eq_zero_of_not_pos hzero
    exact .complete (_ :: es) header lenBytes [] u htrace hok' hrx henc hlen hvalue (Nat.zero_le _)

/-- The buffer has room for the header byte and for the length bytes of the packet that
the stream begins with. -/
def HasRoom (size : ℕ) (stream : List UInt8) : Prop :=
  ∀ header lenBytes rest, stream = header :: (lenBytes ++ rest) → Varint.IsEncoding lenBytes →
    lenBytes.length ≤ 4 → 1 + (Varint.encode (Varint.value lenBytes)).length ≤ size

omit [Clock W] in
theorem hasRoom_of_le {size : ℕ} (h : 5 ≤ size) (stream : List UInt8) : HasRoom size stream := by
  intro header lenBytes rest _ _ hlen
  have hle := Varint.length_encode_le (k := 4) (by omega) (value_lt_of_length_le hlen)
  omega

omit [Clock W] in
theorem storeAt_behind_header {buffer bytes : List UInt8} (header : UInt8)
    (h : 1 + bytes.length ≤ buffer.length) (s : Sys W) :
    storeAt (header :: buffer.drop 1) 1 bytes s =
      .ok (header :: (bytes ++ buffer.drop (1 + bytes.length))) s := by
  have hlen : (header :: buffer.drop 1).length = buffer.length := by
    rw [List.length_cons, List.length_drop]
    omega
  rw [storeAt, if_pos (hlen ▸ h), Nat.add_comm 1, List.drop_succ_cons, List.drop_drop,
    Nat.add_comm 1]
  rfl

theorem post_mqttNetworkReadPacket {P : Paho} (hP : P.EncodesLength) (h : ReadsStream rx n)
    (hE : ReadStops n E) {buffer : List UInt8} (hsize : 1 ≤ buffer.length) (timer : Option Timer)
    {s : Sys W} (hroom : HasRoom buffer.length (rx s.world)) :
    Post (mqttNetworkReadPacket P n buffer timer) s (PacketEnds rx buffer s) E := by
  apply (post_readInto h hE Nat.one_pos (by omega) timer s).bind
  rintro ⟨rc, buffer₁⟩ t ⟨htrace, -, delivered, hrx, ⟨hrc, hone, hbuffer₁⟩ | ⟨hrc, hnone⟩⟩
  swap
  · have hne : rc ≠ mqttSuccess := Int.ne_of_lt hrc
    obtain rfl : delivered = [] := List.length_eq_zero_iff.mp (Nat.lt_one_iff.mp hnone)
    dsimp only at htrace ⊢
    rw [if_pos hne]
    exact .headerFailed rc buffer₁ t htrace hrx hrc
  obtain ⟨header, rfl⟩ := List.length_eq_one_iff.mp hone
  dsimp only at hrc htrace hbuffer₁ ⊢
  obtain rfl := hrc
  rw [if_neg (by simp)]
  have hread : (Event.read 1 s.world t.world (some mqttSuccess)).ReadOk := rfl
  apply (post_readLengthBytes h hE timer 0 t (by omega) (by omega)).bind
  intro r u hends
  cases hends with
  | tooLong es read _ htrace' hok hrx' hmore hlen =>
      exact .lengthTooLong (_ :: es) header read buffer₁ u
        (by rw [htrace', htrace, List.append_assoc]; rfl) (List.forall_mem_cons.mpr ⟨hread, hok⟩)
        (by rw [hrx, hrx']; rfl) hmore hlen
  | failed es read rc before _ htrace' hok hrx' hmore hlen hrc =>
      dsimp only
      rw [if_pos hrc.le]
      exact .lengthFailed (_ :: es) header read rc before buffer₁ u
        (by rw [htrace', htrace, List.append_assoc]; rfl) (List.forall_mem_cons.mpr ⟨hread, hok⟩)
        (by rw [hrx, hrx']; rfl) hmore hlen hrc
  | decoded es lenBytes _ htrace' hok hrx' henc hlen =>
      have hpos : 0 < lenBytes.length := List.length_pos_iff.mpr henc.ne_nil
      have hrx'' : rx s.world = header :: (lenBytes ++ rx u.world) := by
        rw [hrx, hrx']
        rfl
      have hfit := hroom header lenBytes _ hrx'' henc hlen
      have hvalue : 0 + 2 ^ 0 * Varint.value lenBytes = Varint.value lenBytes := by omega
      obtain rfl : buffer₁ = header :: buffer.drop 1 := hbuffer₁
      dsimp only
      rw [if_neg (by omega), hvalue, hP _ (value_lt_of_length_le hlen), post_bind,
        post_of_ok (storeAt_behind_header header hfit u)]
      exact post_readPayload h hE (by rw [htrace', htrace, List.append_assoc]; rfl) hok hrx''
        henc hlen rfl hfit timer

end ReadPacket

end DemoIotApp
