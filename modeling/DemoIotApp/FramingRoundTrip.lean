import DemoIotApp.ClientDelivery

/-!
# Framing there and back

One side hands packets to `MQTT_network_sendPacket`, the other side takes them from the byte
stream with `MQTT_network_readPacket`. Both go on until the first failure. Whatever the two
connections do, only packets come out that went in, in their order, and over connections that
stay up all of them do.
-/

namespace DemoIotApp

open Library Prog

section Ends

variable {W : Type} [Clock W]

/-- The packets are sent one after the other, up to the first that fails. -/
def sendPackets (net : Option (Network W)) (timeoutMs : ℕ) : List Packet → Prog Stop (Sys W) ℤ
  | [] => pure mqttSuccess
  | p :: ps => do
      let rc ← sendWithTimeout net timeoutMs p.bytes
      if rc ≠ mqttSuccess then
        return rc
      else
        sendPackets net timeoutMs ps

/-- Packets are read into the same buffer, up to the first that fails. The results are the type
and the buffer of each. -/
def readPackets (P : Paho) (n : Network W) (timer : Option Timer) :
    (count : ℕ) → List UInt8 → Prog Stop (Sys W) (List (ℤ × List UInt8))
  | 0, _ => pure []
  | count + 1, buffer => do
      let (rc, buffer) ← mqttNetworkReadPacket P n buffer timer
      if rc < 0 then
        return []
      else
        let others ← readPackets P n timer count buffer
        return (rc, buffer) :: others

end Ends

/-- The type is returned, and the buffer begins with the packet. The length bytes in it are the
shortest, also when the packet came with longer ones. -/
def ReadAs (p : Packet) (r : ℤ × List UInt8) : Prop :=
  r.1 = p.type ∧
    p.header :: (Varint.encode p.payload.length ++ p.payload) <+: r.2

theorem readAs_packetInBuffer (p : Packet) (buffer : List UInt8) :
    ReadAs p (p.type, packetInBuffer p.header p.payload buffer) :=
  ⟨rfl, List.prefix_append _ _⟩

/-! ## Sending -/

section Sending

variable {netFuel timeoutMs : ℕ} {s : Sys World}

theorem post_sendWithTimeout_written (packet : List UInt8) :
    Post (sendWithTimeout (some (netWan netFuel)) timeoutMs packet) s
      (fun rc t ↦ ∃ written, t.world.wire = s.world.wire ++ written ∧ written <+: packet ∧
        (rc = mqttSuccess → written = packet))
      fun _ t ↦ ∃ written, t.world.wire = s.world.wire ++ written ∧ written <+: packet := by
  have htimer : Keeps (fun t : Sys World ↦ t.world.wire = s.world.wire) (fun _ _ ↦ False)
      (fun _ ↦ True) (sendTimer timeoutMs) :=
    keeps_sendTimer (fun t ht ↦ ⟨trivial, ht⟩) timeoutMs
  refine Post.bind ((htimer s rfl).mono (fun _ _ h ↦ h) fun _ _ h ↦ h.elim) ?_
  rintro timer t ⟨-, hwire⟩
  apply (post_mqttNetworkSendPacket netFuel packet timer t).mono
  · rintro rc u ⟨-, -, written, rest, rfl, hwritten, hrest⟩
    refine ⟨written, hwire ▸ hwritten, List.prefix_append _ _, fun hrc ↦ ?_⟩
    rw [hrest (congrArg some hrc), List.append_nil]
  · rintro e u ⟨-, -, -, written, rest, rfl, hwritten, -⟩
    exact ⟨written, hwire ▸ hwritten, List.prefix_append _ _⟩

/-- What is on the wire of any run is a beginning of the stream of the packets. -/
theorem post_sendPackets (netFuel timeoutMs : ℕ) (ps : List Packet) (s : Sys World) :
    Post (sendPackets (some (netWan netFuel)) timeoutMs ps) s
      (fun rc t ↦ ∃ written, t.world.wire = s.world.wire ++ written ∧ written <+: stream ps ∧
        (rc = mqttSuccess → written = stream ps))
      fun _ t ↦ ∃ written, t.world.wire = s.world.wire ++ written ∧ written <+: stream ps := by
  induction ps generalizing s with
  | nil => exact ⟨[], (List.append_nil _).symm, List.nil_prefix, fun _ ↦ rfl⟩
  | cons p ps ih =>
      refine Post.bind ((post_sendWithTimeout_written p.bytes).mono (fun _ _ h ↦ h) ?_) ?_
      · rintro e t ⟨written, hwire, hwritten⟩
        exact ⟨written, hwire, hwritten.trans (List.prefix_append _ _)⟩
      rintro rc t ⟨written, hwire, hwritten, hall⟩
      refine post_ite (fun hne ↦ ?_) fun hrc ↦ ?_
      · exact ⟨written, hwire, hwritten.trans (List.prefix_append _ _), fun hrc ↦ absurd hrc hne⟩
      · rw [hall (not_not.mp hrc)] at hwire
        apply (ih t).mono
        · rintro rc' u ⟨written', hwire', hwritten', hall'⟩
          refine ⟨p.bytes ++ written', by rw [hwire', hwire, List.append_assoc],
            (List.prefix_append_right_inj _).mpr hwritten', fun hrc' ↦ ?_⟩
          rw [hall' hrc', stream_cons]
        · rintro e u ⟨written', hwire', hwritten'⟩
          exact ⟨p.bytes ++ written', by rw [hwire', hwire, List.append_assoc],
            (List.prefix_append_right_inj _).mpr hwritten'⟩

theorem post_sendPackets_prompt {patience tick : ℕ} {ps : List Packet}
    (h : s.world.answers.Prompt patience tick) (hps : ∀ p ∈ ps, p.bytes.length ≤ pahoSendBuffSize)
    (hfuel : (patience + 1) * pahoSendBuffSize < netFuel) :
    Post (sendPackets (some (netWan netFuel)) pahoTimeoutMsCommand ps) s
      (fun rc t ↦ rc = mqttSuccess ∧ Transfers s t [] (ps.map Packet.bytes)) fun _ _ ↦ False := by
  induction ps generalizing s with
  | nil => exact ⟨rfl, .refl s⟩
  | cons p ps ih =>
      obtain ⟨hp, hps⟩ := List.forall_mem_cons.mp hps
      apply (post_sendWithTimeout_prompt h rfl hp hfuel).bind
      rintro rc t ⟨hrc, ht⟩
      refine post_ite (fun hne ↦ absurd hrc hne) fun _ ↦ ?_
      exact (ih (ht.prompt h) hps).mono (fun _ _ h' ↦ ⟨h'.1, ht.trans h'.2⟩) fun _ _ h' ↦ h'

end Sending

/-! ## Reading -/

section Reading

variable {W : Type} [Clock W] {rx : W → List UInt8} {n : Network W} {P : Paho}

omit [Clock W] in
/-- A packet that is read from the beginning of a stream of packets is the first of them. -/
theorem PacketEnds.readAs {ps : List Packet} {buffer : List UInt8} {s t : Sys W}
    {r : ℤ × List UInt8} (h : PacketEnds rx buffer s r t) (hrx : rx s.world <+: stream ps)
    (hr : ¬r.1 < 0) :
    ∃ p ps', ps = p :: ps' ∧ ReadAs p r ∧ rx t.world <+: stream ps' := by
  cases h with
  | headerFailed _ _ _ _ _ hneg => exact absurd hneg hr
  | lengthFailed _ _ _ _ _ _ _ _ _ _ _ _ hneg => exact absurd hneg hr
  | lengthTooLong => exact absurd mqttFailure_neg hr
  | overflow => exact absurd (show mqttBufferOverflow < 0 by decide) hr
  | payloadFailed _ _ _ _ _ _ _ _ _ _ _ _ _ hneg => exact absurd hneg hr
  | complete es header lenBytes payload _ _ _ hread henc _ hvalue _ =>
      obtain ⟨more, hmore⟩ := hrx
      rw [hread, List.cons_append, List.append_assoc, List.append_assoc] at hmore
      cases ps with
      | nil => exact absurd hmore (List.cons_ne_nil _ _)
      | cons p ps =>
          rw [stream_cons, Packet.bytes, List.cons_append, List.append_assoc] at hmore
          obtain ⟨rfl, htail⟩ := List.cons.inj hmore
          obtain ⟨rfl, hpayload⟩ := henc.append_inj p.isEncoding htail
          obtain ⟨rfl, hrest⟩ := List.append_inj hpayload (hvalue.symm.trans p.value_lenBytes)
          exact ⟨p, ps, rfl, readAs_packetInBuffer p buffer, more, hrest⟩

/-- Induction over the number of reads: each of them takes the first packet that is left. -/
theorem post_readPackets (hP : P.EncodesLength) (h : ReadsStream rx n) (timer : Option Timer)
    (count : ℕ) {buffer : List UInt8} (hsize : 5 ≤ buffer.length) {ps : List Packet} {s : Sys W}
    (hrx : rx s.world <+: stream ps) :
    Post (readPackets P n timer count buffer) s
      (fun rs _ ↦ ∃ qs, qs <+: ps ∧ List.Forall₂ ReadAs qs rs) fun _ _ ↦ True := by
  induction count generalizing buffer ps s with
  | zero => exact ⟨[], List.nil_prefix, .nil⟩
  | succ count ih =>
      have hends := post_mqttNetworkReadPacket hP h (readStops_true n) (by omega) timer
        (hasRoom_of_le hsize (rx s.world))
      have hlength := (readKeeps_length h).mqttNetworkReadPacket P buffer timer s trivial
      apply ((hends.and hlength).mono (fun _ _ h' ↦ h') fun _ _ _ ↦ trivial).bind
      rintro ⟨rc, buffer'⟩ t ⟨hends', hlength', -⟩
      dsimp only at hlength'
      refine post_ite (fun _ ↦ ?_) fun hrc ↦ ?_
      · exact ⟨[], List.nil_prefix, .nil⟩
      · obtain ⟨p, ps', rfl, hread, hrx'⟩ := hends'.readAs hrx hrc
        apply (ih (hlength'.symm ▸ hsize) hrx').bind
        rintro rs u ⟨qs, hqs, hrs⟩
        exact ⟨p :: qs, (List.prefix_cons_inj p).mpr hqs, .cons hread hrs⟩

end Reading

section ReadingPrompt

variable {P : Paho} {patience tick netFuel : ℕ} {s : Sys World} {rest : List UInt8}

/-- A packet that fits the send buffer fits the read buffer as well. -/
theorem fits_of_length_le {p : Packet} (h : p.bytes.length ≤ pahoRecvBuffSize) :
    p.Fits pahoRecvBuffSize := by
  have hshortest : (Varint.encode p.payload.length).length ≤ p.lenBytes.length :=
    Varint.length_encode_le (List.length_pos_iff.mpr p.isEncoding.ne_nil)
      (p.value_lenBytes ▸ Varint.value_lt p.lenBytes)
  have hlen : p.bytes.length = p.lenBytes.length + p.payload.length + 1 := by simp [Packet.bytes]
  have hroom : 1 + (Varint.encode p.payload.length).length ≤ pahoRecvBuffSize := by omega
  exact (passesCheck_iff (by decide) hroom).mpr (by omega)

theorem post_readPackets_prompt (hP : P.EncodesLength) {ps : List Packet} {buffer : List UInt8}
    (h : s.world.answers.Prompt patience tick) (hrx : s.world.rx = stream ps ++ rest)
    (hps : ∀ p ∈ ps, p.bytes.length ≤ pahoRecvBuffSize)
    (hbuffer : buffer.length = pahoRecvBuffSize)
    (hfuel : (patience + 1) * pahoSendBuffSize < netFuel) :
    Post (readPackets P (netWan netFuel) none ps.length buffer) s
      (fun rs t ↦ List.Forall₂ ReadAs ps rs ∧ Transfers s t (stream ps) []) fun _ _ ↦ False := by
  induction ps generalizing buffer s with
  | nil => exact ⟨.nil, .refl s⟩
  | cons p ps ih =>
      obtain ⟨hp, hps⟩ := List.forall_mem_cons.mp hps
      have hfits : p.Fits pahoRecvBuffSize := fits_of_length_le hp
      rw [stream_cons, List.append_assoc] at hrx
      apply (post_mqttNetworkReadPacket_prompt hP h hrx hbuffer hfits hfuel).bind
      rintro ⟨rc, buffer'⟩ t ⟨hr, ht⟩
      obtain ⟨rfl, rfl⟩ := Prod.mk.inj hr
      refine post_ite (fun hneg ↦ absurd hneg (by omega)) fun _ ↦ ?_
      have hbuffer' : (packetInBuffer p.header p.payload buffer).length = pahoRecvBuffSize :=
        (length_packetInBuffer (hbuffer ▸ hfits.le)).trans hbuffer
      apply (ih (ht.prompt h) (ht.rx_eq hrx) hps hbuffer').bind
      rintro rs u ⟨hrs, hu⟩
      exact ⟨.cons (readAs_packetInBuffer p buffer) hrs, ht.trans hu⟩

end ReadingPrompt

/-! ## There and back -/

section RoundTrip

variable {P : Paho} {ps : List Packet} {buffer : List UInt8}

/-- Whatever the two connections do, at every stage of the way: what the reader has got so far of
the bytes that the sender has written gives only packets that were sent, in their order. -/
theorem readPackets_of_sendPackets (hP : P.EncodesLength) {netFuel netFuel' timeoutMs count : ℕ}
    {timer : Option Timer} {sender reader : World} {written : List UInt8}
    (hwritten : (sendPackets (some (netWan netFuel)) timeoutMs ps ⟨sender, []⟩).state.world.wire =
      sender.wire ++ written)
    (hrx : reader.rx <+: written) (hsize : 5 ≤ buffer.length) {rs : List (ℤ × List UInt8)}
    {t : Sys World}
    (hread : readPackets P (netWan netFuel') timer count buffer ⟨reader, []⟩ = .ok rs t) :
    ∃ qs, qs <+: ps ∧ List.Forall₂ ReadAs qs rs := by
  have hstream : written <+: stream ps := by
    have hsent := post_sendPackets netFuel timeoutMs ps ⟨sender, []⟩
    cases hrun : sendPackets (some (netWan netFuel)) timeoutMs ps ⟨sender, []⟩ with
    | ok rc u =>
        obtain ⟨written', hwire, hprefix, -⟩ := hsent.ok hrun
        rw [hrun] at hwritten
        exact List.append_cancel_left (hwritten.symm.trans hwire) ▸ hprefix
    | stop e u =>
        obtain ⟨written', hwire, hprefix⟩ := hsent.stop hrun
        rw [hrun] at hwritten
        exact List.append_cancel_left (hwritten.symm.trans hwire) ▸ hprefix
  exact (post_readPackets hP (readsStream_netWan netFuel') timer count hsize
    (hrx.trans hstream)).ok hread

/-- After its first answers the connection only reports errors. -/
def World.breaking (rx : List UInt8) : World :=
  ⟨{ Answers.steady with
      tlsWrite := fun k ↦ if k < 20 then .success 1 else .error (-1)
      tlsRead := fun k ↦ if k < 20 then .success 1 else .error (-1) },
    0, rx, [], false⟩

/-- The connection breaks down behind the first byte of the second packet. -/
theorem readPackets_of_sendPackets_breaking :
    ∃ qs, qs <+: nestedPacket :: emptyPackets ∧
      List.Forall₂ ReadAs qs [(3, [0x30, 4, 0x20, 0, 0x30, 0, 0, 0])] := by
  have hwritten : (sendPackets (some (netWan 8)) pahoTimeoutMsCommand
      (nestedPacket :: emptyPackets) ⟨World.breaking [], []⟩).state.world.wire =
        (World.breaking []).wire ++ [0x30, 4, 0x20, 0, 0x30, 0, 0xC0] := by decide +kernel
  have hview : (readPackets Paho.reference (netWan 8) none 3 (zeros 8)
      ⟨World.breaking [0x30, 4, 0x20, 0, 0x30, 0, 0xC0], []⟩).view? (fun rs _ ↦ rs) =
        some [(3, [0x30, 4, 0x20, 0, 0x30, 0, 0, 0])] := by decide +kernel
  obtain ⟨rs, t, hread, rfl⟩ := Outcome.view?_eq_some_iff.mp hview
  exact readPackets_of_sendPackets Paho.reference.encodesLength hwritten List.prefix_rfl
    (by decide) hread

/-- Over connections that stay up all packets come out, and nothing is left over. -/
theorem sendPackets_readPackets (hP : P.EncodesLength) {patience tick patience' tick' : ℕ}
    {sender reader : World} (hsender : sender.answers.Prompt patience tick)
    (hreader : reader.answers.Prompt patience' tick')
    (hps : ∀ p ∈ ps, p.bytes.length ≤ pahoSendBuffSize)
    (hbuffer : buffer.length = pahoRecvBuffSize) :
    ∃ k, ∀ netFuel ≥ k, ∃ t written,
      sendPackets (some (netWan netFuel)) pahoTimeoutMsCommand ps ⟨sender, []⟩ =
          .ok mqttSuccess t ∧
        t.world.wire = sender.wire ++ written ∧
        ∃ rs u, readPackets P (netWan netFuel) none ps.length buffer
            ⟨{ reader with rx := written }, []⟩ = .ok rs u ∧
          List.Forall₂ ReadAs ps rs ∧ u.world.rx = [] := by
  refine ⟨(max patience patience' + 1) * pahoSendBuffSize + 1, fun netFuel hfuel ↦ ?_⟩
  have hfuel₁ : (patience + 1) * pahoSendBuffSize < netFuel := by
    have hmax : patience + 1 ≤ max patience patience' + 1 :=
      Nat.succ_le_succ (Nat.le_max_left _ _)
    exact (Nat.mul_le_mul_right pahoSendBuffSize hmax).trans_lt hfuel
  have hfuel₂ : (patience' + 1) * pahoSendBuffSize < netFuel := by
    have hmax : patience' + 1 ≤ max patience patience' + 1 :=
      Nat.succ_le_succ (Nat.le_max_right _ _)
    exact (Nat.mul_le_mul_right pahoSendBuffSize hmax).trans_lt hfuel
  obtain ⟨rc, t, hsend, rfl, ht⟩ :=
    (post_sendPackets_prompt (s := ⟨sender, []⟩) hsender hps hfuel₁).exists_ok
  have hwire : t.world.wire = sender.wire ++ stream ps := by
    rw [ht.moved.wire, stream, List.flatMap_def]
  have hrx : stream ps = stream ps ++ [] := (List.append_nil _).symm
  obtain ⟨rs, u, hread, hrs, hu⟩ := (post_readPackets_prompt hP
    (s := ⟨{ reader with rx := stream ps }, []⟩) hreader hrx hps hbuffer hfuel₂).exists_ok
  exact ⟨t, stream ps, hsend, hwire, rs, u, hread, hrs, hu.rx_eq hrx⟩

theorem sendPackets_readPackets_dribbling :
    ∃ k, ∀ netFuel ≥ k, ∃ t written,
      sendPackets (some (netWan netFuel)) pahoTimeoutMsCommand (nestedPacket :: emptyPackets)
          ⟨World.answering, []⟩ = .ok mqttSuccess t ∧
        t.world.wire = World.answering.wire ++ written ∧
        ∃ rs u, readPackets Paho.reference (netWan netFuel) none 3 (zeros pahoRecvBuffSize)
            ⟨{ World.answering with rx := written }, []⟩ = .ok rs u ∧
          List.Forall₂ ReadAs (nestedPacket :: emptyPackets) rs ∧ u.world.rx = [] :=
  sendPackets_readPackets Paho.reference.encodesLength (prompt_dribbling _) (prompt_dribbling _)
    (by decide) List.length_replicate

end RoundTrip

end DemoIotApp
