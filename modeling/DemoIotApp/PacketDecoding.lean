import DemoIotApp.PacketReading

/-!
# One packet is decoded, and where it is stored

The remaining length of a packet may be written in more bytes than it needs. It is put
back into the buffer in its shortest form, so the packet in the buffer can be shorter
than the one that was read. The size of the buffer is looked at only behind these bytes.
-/

namespace DemoIotApp

open Library Prog

variable {W : Type}

/-! ## Decoding -/

/-- The code of a read that has failed. -/
def FailsWith (es : List (Event W)) (rc : ℤ) : Prop :=
  rc ≠ mqttSuccess ∧ ∃ len before after, .read len before after (some rc) ∈ es

theorem not_failsWith {es : List (Event W)} (hok : ∀ e ∈ es, e.ReadOk) (rc : ℤ) :
    ¬FailsWith es rc := by
  rintro ⟨hne, len, before, after, hmem⟩
  exact hne (Option.some.inj (hok _ hmem))

theorem FailsWith.eq_last {es : List (Event W)} {len : ℕ} {before after : W} {rc rc' : ℤ}
    (hok : ∀ e ∈ es, e.ReadOk) (h : FailsWith (es ++ [.read len before after (some rc)]) rc') :
    rc = rc' := by
  obtain ⟨hne, len', before', after', hmem⟩ := h
  rcases List.mem_append.mp hmem with hmem | hmem
  · exact absurd ⟨hne, len', before', after', hmem⟩ (not_failsWith hok rc')
  · have heq := List.mem_singleton.mp hmem
    injection heq with _ _ _ hrc
    exact (Option.some.inj hrc).symm

theorem not_forall_readOk {es : List (Event W)} {len : ℕ} {before after : W} {rc : ℤ}
    (hrc : rc < 0) : ¬∀ e ∈ es ++ [.read len before after (some rc)], e.ReadOk := by
  intro h
  have hread : (Event.read len before after (some rc)).ReadOk := h _ (by simp)
  exact Int.ne_of_lt hrc (Option.some.inj hread)

section Decode

variable [Clock W] {rx : W → List UInt8} {n : Network W} {buffer : List UInt8}
  {header : UInt8} {lenBytes rest : List UInt8} {s t : Sys W} {r : ℤ × List UInt8}

/-- What is returned for a packet with these length bytes. -/
structure Decodes (rx : W → List UInt8) (buffer : List UInt8) (header : UInt8)
    (lenBytes rest : List UInt8) (es : List (Event W)) (r : ℤ × List UInt8) (t : Sys W) :
    Prop where
  /-- A packet that fits is consumed and stored. -/
  fits : (∀ e ∈ es, e.ReadOk) → ∀ payload rest', rest = payload ++ rest' →
    payload.length = Varint.value lenBytes →
    1 + (Varint.encode payload.length).length + payload.length ≤ buffer.length →
      r = ((headerType header : ℤ), packetInBuffer header payload buffer) ∧ rx t.world = rest'
  /-- One that does not fit is refused, whatever follows its length. -/
  overflow : (∀ e ∈ es, e.ReadOk) →
    buffer.length < 1 + (Varint.encode (Varint.value lenBytes)).length + Varint.value lenBytes →
      r.1 = mqttBufferOverflow
  failed : ∀ rc, FailsWith es rc → r.1 = rc ∧ rc < 0

omit [Clock W] in
theorem decodes_of_failed {es : List (Event W)} {len : ℕ} {before after : W} {rc : ℤ}
    {buffer' : List UInt8} (hok : ∀ e ∈ es, e.ReadOk) (hrc : rc < 0) :
    Decodes rx buffer header lenBytes rest (es ++ [.read len before after (some rc)])
      (rc, buffer') t where
  fits h := absurd h (not_forall_readOk hrc)
  overflow h := absurd h (not_forall_readOk hrc)
  failed rc' h := by
    obtain rfl := h.eq_last hok
    exact ⟨rfl, hrc⟩

omit [Clock W] in
theorem PacketEnds.decodes (hsize : 5 ≤ buffer.length) (hlt : buffer.length < 2 ^ 32)
    (henc : Varint.IsEncoding lenBytes) (hlen : lenBytes.length ≤ 4)
    (hrx : rx s.world = header :: (lenBytes ++ rest)) (h : PacketEnds rx buffer s r t) :
    ∃ es, t.trace = s.trace ++ es ∧ Decodes rx buffer header lenBytes rest es r t := by
  have hencode := Varint.length_encode_le (k := 4) (by omega) (value_lt_of_length_le hlen)
  have hcheck := passesCheck_iff hlt
    (show 1 + (Varint.encode (Varint.value lenBytes)).length ≤ _ by omega)
  cases h with
  | headerFailed rc _ _ htrace _ hrc => exact ⟨[] ++ [_], htrace, decodes_of_failed (by simp) hrc⟩
  | lengthFailed es _ _ rc before _ _ htrace hok _ _ _ hrc =>
      exact ⟨_, htrace, decodes_of_failed hok hrc⟩
  | payloadFailed es _ _ rc before _ _ htrace hok _ _ _ _ hrc =>
      exact ⟨_, htrace, decodes_of_failed hok hrc⟩
  | lengthTooLong es header' read _ _ _ _ hrx' hmore hread =>
      -- an encoding has a last byte among the first four
      have htail := (List.cons.inj (hrx.symm.trans hrx')).2
      obtain ⟨back, hback, rfl, -⟩ := henc.eq_append hmore htail
      have hpos := List.length_pos_iff.mpr hback
      rw [List.length_append] at hlen
      omega
  | overflow after es header' lenBytes' _ _ htrace hok hrx' henc' _ hbig =>
      have htail := (List.cons.inj (hrx.symm.trans hrx')).2
      obtain ⟨rfl, -⟩ := henc.append_inj henc' htail
      refine ⟨_, htrace, fun _ payload rest' _ hvalue hfit ↦ ?_, fun _ _ ↦ rfl, ?_⟩
      · rw [hvalue] at hfit
        exact absurd (hcheck.mpr hfit) hbig
      · have hread : (Event.read 1 s.world after (some mqttSuccess)).ReadOk := rfl
        exact fun rc hfails ↦
          absurd hfails (not_failsWith (List.forall_mem_cons.mpr ⟨hread, hok⟩) rc)
  | complete es header' lenBytes' payload _ htrace hok hrx' henc' _ hvalue hpasses =>
      obtain ⟨rfl, htail⟩ := List.cons.inj (hrx.symm.trans hrx')
      obtain ⟨rfl, hrest⟩ := henc.append_inj henc' htail
      refine ⟨es, htrace, fun _ payload' rest' hrest' hvalue' _ ↦ ?_, fun _ hbig ↦ ?_, ?_⟩
      · obtain ⟨rfl, hend⟩ := List.append_inj (hrest.symm.trans hrest')
          (hvalue.symm.trans hvalue'.symm)
        exact ⟨rfl, hend⟩
      · rw [← hvalue] at hpasses
        exact absurd (hcheck.mp hpasses) (by omega)
      · exact fun rc hfails ↦ absurd hfails (not_failsWith hok rc)

end Decode

theorem readStops_netWan (fuel : ℕ) : ReadStops (netWan fuel) fun e _ ↦ e ≠ .overrun := by
  intro buffer timer s
  unfold mqttNetworkRead
  rw [Sys.post_observed]
  have htimeout : Keeps (fun _ ↦ True) (fun e _ ↦ e ≠ .overrun) (fun _ ↦ True)
      (timeoutOf timer : Prog Stop (Sys World) ℤ) := by
    cases timer with
    | none => exact keeps_pure trivial
    | some timer => exact fun _ _ ↦ ⟨trivial, trivial⟩
  apply (htimeout s trivial).bind
  intro timeoutMs t _
  have hread := World.keeps_glueTlsMqttRead (I := fun _ ↦ True) (fun _ _ _ _ ↦ trivial)
    fuel buffer timeoutMs t.world trivial
  refine Sys.post_onWorld.mpr (hread.mono (fun _ _ _ ↦ trivial) fun e _ he ↦ ?_)
  rw [he.1]
  exact fun h ↦ nomatch h

/-- From a stream that begins with a packet one packet is decoded: it is consumed and its
shortest form is stored if it fits, it is refused if it does not, and the code of a read
that fails is returned. The call stops only where one of its reads does. -/
theorem readPacket_decodes {P : Paho} (hP : P.EncodesLength) [Clock W] {rx : W → List UInt8}
    {n : Network W} (h : ReadsStream rx n) {E : Stop → Sys W → Prop} (hE : ReadStops n E)
    {buffer : List UInt8} (hsize : 5 ≤ buffer.length) (hlt : buffer.length < 2 ^ 32)
    (timer : Option Timer) {header : UInt8} {lenBytes rest : List UInt8}
    (henc : Varint.IsEncoding lenBytes) (hlen : lenBytes.length ≤ 4) {s : Sys W}
    (hrx : rx s.world = header :: (lenBytes ++ rest)) :
    Post (mqttNetworkReadPacket P n buffer timer) s
      (fun r t ↦ ∃ es, t.trace = s.trace ++ es ∧ Decodes rx buffer header lenBytes rest es r t)
      E := by
  have hends := post_mqttNetworkReadPacket hP h hE (by omega) timer
    (hasRoom_of_le hsize (rx s.world))
  exact hends.mono (fun _ _ hr ↦ hr.decodes hsize hlt henc hlen hrx) fun _ _ h ↦ h

/-- The bytes of a packet whose length 3 is written in two bytes, and of the next packet. -/
def longLengthStream : List UInt8 := [0x40] ++ ([0x83, 0] ++ ([7, 8, 9] ++ [0xC0, 0]))

theorem readPacket_decodes_long_length :
    ∃ t, mqttNetworkReadPacket Paho.reference (netWan 4) [0, 0, 0, 0, 0, 0] none
        ⟨World.steady longLengthStream, []⟩ = .ok (4, [0x40, 3, 7, 8, 9, 0]) t ∧
      t.world.rx = [0xC0, 0] := by
  have hview : (mqttNetworkReadPacket Paho.reference (netWan 4) [0, 0, 0, 0, 0, 0] none
      ⟨World.steady longLengthStream, []⟩).view?
        (fun _ t ↦ decide (∀ e ∈ t.trace, e.ReadOk)) = some true := by decide +kernel
  obtain ⟨r, t, hrun, hok⟩ := Outcome.view?_eq_some_iff.mp hview
  have henc : Varint.IsEncoding [0x83, 0] := by decide
  have hdecodes : ∀ s r t, s.world.rx = 0x40 :: ([0x83, 0] ++ ([7, 8, 9] ++ [0xC0, 0])) →
      mqttNetworkReadPacket Paho.reference (netWan 4) [0, 0, 0, 0, 0, 0] none s = .ok r t →
        ∃ es, t.trace = s.trace ++ es ∧ Decodes World.rx [0, 0, 0, 0, 0, 0] 0x40 [0x83, 0]
          ([7, 8, 9] ++ [0xC0, 0]) es r t := fun s r t hrx hrun ↦
    (readPacket_decodes Paho.reference.encodesLength (readsStream_netWan 4) (readStops_netWan 4)
      (by simp) (by simp) none henc (by simp) hrx).ok hrun
  obtain ⟨es, htrace, hdecodes⟩ := hdecodes _ r t rfl hrun
  rw [List.nil_append] at htrace
  obtain ⟨hr, hrest⟩ := hdecodes.fits (htrace ▸ of_decide_eq_true hok) [7, 8, 9] _ rfl rfl
    (by decide)
  have hstored : packetInBuffer 0x40 [7, 8, 9] [0, 0, 0, 0, 0, 0] = [0x40, 3, 7, 8, 9, 0] := by
    decide
  rw [hstored] at hr
  exact ⟨t, hr ▸ hrun, hrest⟩

/-! ## Where it is stored -/

section Store

variable [Clock W] {rx : W → List UInt8} {P : Paho} {n : Network W} {buffer : List UInt8}
  {timer : Option Timer} {lenBytes : List UInt8} {s u : Sys W}

/-- The reads of a header byte and of these length bytes succeed, up to the last of them. -/
def ReadsHead (n : Network W) (buffer : List UInt8) (timer : Option Timer) (s : Sys W)
    (lenBytes : List UInt8) (u : Sys W) : Prop :=
  ∃ buffer₁ t, readInto n buffer 0 1 timer s = .ok (mqttSuccess, buffer₁) t ∧
    ReadsBytes n timer t lenBytes u ∧ Varint.IsEncoding lenBytes ∧ lenBytes.length ≤ 4

/-- One of the reads of the header byte and of the length bytes fails or does not come back,
or four bytes are no end of a length. -/
def HeadFails (n : Network W) (buffer : List UInt8) (timer : Option Timer) (s : Sys W) : Prop :=
  ∀ lenBytes u, ¬ReadsHead n buffer timer s lenBytes u

/-- The call stores nothing behind the buffer, and behind the length that it reads it refuses
a payload that does not fit. -/
structure StaysInBuffer (P : Paho) (n : Network W) (buffer : List UInt8) (timer : Option Timer)
    (s : Sys W) : Prop where
  stores : Post (mqttNetworkReadPacket P n buffer timer) s (fun _ _ ↦ True)
    fun e _ ↦ e ≠ .overrun
  refuses : ∀ lenBytes u buffer', ReadsHead n buffer timer s lenBytes u →
    0 < Varint.value lenBytes →
      buffer.length < 1 + (P.packetEncode (Varint.value lenBytes)).length +
        Varint.value lenBytes →
          readPayload n buffer' (buffer.length % 2 ^ 32)
            (1 + (P.packetEncode (Varint.value lenBytes)).length) (Varint.value lenBytes)
            timer u = .ok (mqttBufferOverflow, buffer') u

theorem ReadsHead.exists_header (h : ReadsStream rx n) (hsize : 1 ≤ buffer.length)
    (hreads : ReadsHead n buffer timer s lenBytes u) :
    ∃ header t, readInto n buffer 0 1 timer s = .ok (mqttSuccess, header :: buffer.drop 1) t ∧
      ReadsBytes n timer t lenBytes u ∧ rx s.world = header :: (lenBytes ++ rx u.world) := by
  obtain ⟨buffer₁, t, hheader, hbytes, -, -⟩ := hreads
  obtain ⟨-, -, delivered, hrx, ⟨-, hone, hput⟩ | ⟨hneg, -⟩⟩ :=
    (post_readInto h (readStops_true n) Nat.one_pos (by omega) timer s).ok hheader
  · obtain ⟨header, rfl⟩ := List.length_eq_one_iff.mp hone
    obtain rfl : buffer₁ = header :: buffer.drop 1 := hput
    exact ⟨header, t, hheader, hbytes, by rw [hrx, hbytes.rx_eq h]; rfl⟩
  · exact absurd hneg (lt_irrefl _)

/-- The length is put back at once, and nothing is asked about the room for it. -/
theorem ReadsHead.stores (hP : P.EncodesLength) (h : ReadsStream rx n)
    (hsize : 1 ≤ buffer.length) (hreads : ReadsHead n buffer timer s lenBytes u)
    (hroom : ¬1 + (Varint.encode (Varint.value lenBytes)).length ≤ buffer.length) :
    mqttNetworkReadPacket P n buffer timer s = .stop .overrun u := by
  obtain ⟨-, -, -, -, henc, hlen⟩ := id hreads
  obtain ⟨header, t, hheader, hbytes, -⟩ := hreads.exists_header h hsize
  have hpos : 0 < lenBytes.length := List.length_pos_iff.mpr henc.ne_nil
  have hlength := decode_of_isEncoding hbytes henc hlen
  have hstore : storeAt (header :: buffer.drop 1) 1 (Varint.encode (Varint.value lenBytes)) u =
      .stop .overrun u := by
    have hbig : ¬1 + (Varint.encode (Varint.value lenBytes)).length ≤
        (header :: buffer.drop 1).length := by
      rw [List.length_cons, List.length_drop]
      omega
    exact congrFun (if_neg hbig) u
  unfold mqttNetworkReadPacket readBody
  rw [bind_eq_of_ok hheader]
  dsimp only
  rw [if_neg (by simp), bind_eq_of_ok hlength]
  dsimp only
  rw [if_neg (by omega), hP _ (value_lt_of_length_le hlen), bind_eq_of_stop hstore]

/-- Without a complete head nothing is put back. -/
theorem HeadFails.post (h : ReadsStream rx n) {E : Stop → Sys W → Prop} (hE : ReadStops n E)
    (hsize : 1 ≤ buffer.length) (hfails : HeadFails n buffer timer s) :
    Post (mqttNetworkReadPacket P n buffer timer) s (fun _ _ ↦ True) E := by
  have hrun : Post (readInto n buffer 0 1 timer) s
      (fun r t ↦ readInto n buffer 0 1 timer s = .ok r t) fun _ _ ↦ True :=
    post_intro (fun _ _ h ↦ h) fun _ _ _ ↦ trivial
  have hread := (post_readInto h hE Nat.one_pos (by omega) timer s).and hrun
  apply (hread.mono (fun _ _ h ↦ h.2) fun _ _ h ↦ h.1).bind
  rintro ⟨rc, buffer₁⟩ t hheader
  refine post_ite (fun _ ↦ trivial) fun hrc ↦ ?_
  obtain rfl := not_not.mp hrc
  have hends : Post (mqttNetworkReadAndDecodePacketLength n timer) t
      (LengthEnds rx 4 0 0 0 t) E :=
    post_readLengthBytes h hE timer 0 t (by omega) (by omega)
  have hlength : Post (mqttNetworkReadAndDecodePacketLength n timer) t (fun r _ ↦ r.1 ≤ 0) E := by
    refine post_intro (fun r v hdecode ↦ ?_) fun e v hdecode ↦ hends.stop hdecode
    cases (decode_eq_iff n timer t _).mp hdecode with
    | decoded hbytes henc hlen =>
        exact absurd ⟨buffer₁, t, hheader, hbytes, henc, hlen⟩ (hfails _ _)
    | tooLong => exact mqttFailure_neg.le
    | failed _ _ _ hread hrc => exact (h.failsNegative.neg hread hrc).le
  apply hlength.bind
  rintro ⟨k, payloadLen⟩ v hk
  exact post_ite (fun _ ↦ trivial) fun hpos ↦ absurd hk hpos

/-- A packet is read without a store behind the buffer, and refused when it does not fit,
exactly when there is room for the header byte and for the shortest form of its length, or
when the header byte and the length bytes are not all read. -/
theorem staysInBuffer_iff_hasRoom (hP : P.EncodesLength) (h : ReadsStream rx n)
    (hE : ReadStops n fun e _ ↦ e ≠ .overrun) (hsize : 1 ≤ buffer.length)
    (hlt : buffer.length < 2 ^ 32) :
    StaysInBuffer P n buffer timer s ↔
      HasRoom buffer.length (rx s.world) ∨ HeadFails n buffer timer s := by
  constructor
  · intro hstays
    refine or_iff_not_imp_right.mpr fun hread ↦ ?_
    obtain ⟨lenBytes, u, hreads⟩ : ∃ lenBytes u, ReadsHead n buffer timer s lenBytes u := by
      simpa [HeadFails] using hread
    obtain ⟨-, -, -, -, henc, -⟩ := id hreads
    obtain ⟨header, -, -, -, hrx⟩ := hreads.exists_header h hsize
    intro header' lenBytes' rest hrx' henc' _
    -- what is read is what the stream begins with
    obtain ⟨rfl, -⟩ := henc.append_inj henc' (List.cons.inj (hrx.symm.trans hrx')).2
    by_contra hroom
    exact hstays.stores.stop (hreads.stores hP h hsize hroom) rfl
  · rintro (hroom | hfails)
    · refine ⟨(post_mqttNetworkReadPacket hP h hE hsize timer hroom).mono
        (fun _ _ _ ↦ trivial) fun _ _ h ↦ h, ?_⟩
      intro lenBytes u buffer' hreads hpos hbig
      obtain ⟨-, -, -, -, henc, hlen⟩ := id hreads
      obtain ⟨header, -, -, -, hrx⟩ := hreads.exists_header h hsize
      rw [hP _ (value_lt_of_length_le hlen)] at hbig ⊢
      have hcheck := passesCheck_iff hlt (hroom header lenBytes _ hrx henc hlen)
      unfold PassesCheck at hcheck
      unfold readPayload
      rw [if_pos hpos, if_pos (by omega)]
      rfl
    · exact ⟨hfails.post h hE hsize, fun lenBytes u _ hreads ↦ absurd hreads (hfails lenBytes u)⟩

end Store

/-- The smallest buffer that has room for every packet. -/
theorem staysInBuffer_of_five_bytes :
    StaysInBuffer Paho.reference (netWan 4) [0, 0, 0, 0, 0] none
      ⟨World.steady [0x30, 0x80, 0x80, 0x80, 1], []⟩ :=
  (staysInBuffer_iff_hasRoom Paho.reference.encodesLength (readsStream_netWan 4)
    (readStops_netWan 4) (by decide) (by decide)).mpr (Or.inl (hasRoom_of_le le_rfl _))

/-- The length of this packet takes four bytes, and the last of them is stored behind the end
of the buffer. The check behind that would let the payload through as well. -/
theorem not_staysInBuffer_of_four_bytes :
    (mqttNetworkReadPacket Paho.reference (netWan 4) [0, 0, 0, 0] none
        ⟨World.steady [0x30, 0x80, 0x80, 0x80, 1], []⟩).reason? = some .overrun ∧
      (readPayload (netWan 4) [0, 0, 0, 0] 4 5 (2 ^ 21) none
        ⟨World.steady [], []⟩).reason? = some .overrun ∧
      ¬StaysInBuffer Paho.reference (netWan 4) [0, 0, 0, 0] none
        ⟨World.steady [0x30, 0x80, 0x80, 0x80, 1], []⟩ := by
  have hreason : (mqttNetworkReadPacket Paho.reference (netWan 4) [0, 0, 0, 0] none
      ⟨World.steady [0x30, 0x80, 0x80, 0x80, 1], []⟩).reason? = some .overrun := by
    decide +kernel
  refine ⟨hreason, by decide +kernel, ?_⟩
  have hstop : ∀ s t, mqttNetworkReadPacket Paho.reference (netWan 4) [0, 0, 0, 0] none s =
      .stop .overrun t → ¬StaysInBuffer Paho.reference (netWan 4) [0, 0, 0, 0] none s :=
    fun s t hrun hstays ↦ hstays.stores.stop hrun rfl
  obtain ⟨t, hrun⟩ := Outcome.reason?_eq_some_iff.mp hreason
  exact hstop _ t hrun

end DemoIotApp
