import DemoIotApp.Session

/-!
# The framing of what is sent

A packet may be written in part: the TLS layer takes a few bytes, and then the
write fails or times out. What was written is a sequence of complete packets with
at most one incomplete packet at its end, as long as nothing follows that one. A
DISCONNECT does follow it, since it is sent whenever a publish has failed.
-/

namespace DemoIotApp

open Library Prog

/-! ## Packets that were cut short -/

/-- All bytes on the connection behind a packet of which some bytes were written,
but not all. -/
def Event.cutShort : Event World → Option (List UInt8)
  | .sendPacket .wan packet before after _ =>
      if before.wire.length < after.wire.length ∧
          after.wire.length < before.wire.length + packet.length then
        some after.wire
      else none
  | _ => none

/-- No packet was cut short. -/
def NoneCut (s : Sys World) : Prop := ∀ e ∈ s.trace, e.cutShort = none

instance (s : Sys World) : Decidable (NoneCut s) :=
  inferInstanceAs (Decidable (∀ e ∈ s.trace, e.cutShort = none))

/-- Complete packets with at most one incomplete packet at the end, and nothing
written behind a packet that was cut short. -/
structure Framed (s : Sys World) : Prop where
  stream : ∃ ps p part rest, s.world.wire = stream ps ++ part ∧
    Packet.bytes p = part ++ rest ∧ rest ≠ []
  last : ∀ e ∈ s.trace, ∀ wire ∈ e.cutShort, s.world.wire = wire

/-- Complete packets only. -/
structure Whole (s : Sys World) : Prop where
  stream : ∃ ps, s.world.wire = stream ps
  noneCut : NoneCut s

theorem Whole.framed {s : Sys World} (h : Whole s) : Framed s where
  stream := by
    obtain ⟨ps, hwire⟩ := h.stream
    let p := Packet.ofPayload 0 [] (by decide)
    refine ⟨ps, p, [], p.bytes, by simp [hwire], rfl, ?_⟩
    exact List.ne_nil_of_length_pos p.length_bytes_pos
  last := fun e he wire hwire ↦ by simp [h.noneCut e he] at hwire

theorem Event.cutShort_of_wanPacket {e : Event World} (h : e.wanPacket = none) :
    e.cutShort = none := by
  rcases e with _ | ⟨_ | _, _, _, _, _⟩ | _ | _
  case sendPacket.wan => exact nomatch h
  all_goals rfl

section Unsent

variable {s t : Sys World}

/-- Only packets for the connection can be cut short. -/
theorem Unsent.mem_cutShort (h : Unsent s t) {e : Event World} (he : e ∈ t.trace)
    {wire : List UInt8} (hwire : wire ∈ e.cutShort) : e ∈ s.trace := by
  obtain ⟨es, htrace, hes⟩ := h.trace
  rw [htrace] at he
  refine (List.mem_append.mp he).resolve_right fun he ↦ ?_
  simp [Event.cutShort_of_wanPacket (hes e he)] at hwire

theorem NoneCut.unsent (hs : NoneCut s) (h : Unsent s t) : NoneCut t := by
  intro e he
  refine Option.eq_none_iff_forall_not_mem.mpr fun wire hwire ↦ ?_
  simp [hs e (h.mem_cutShort he hwire)] at hwire

theorem NoneCut.of_unsent (ht : NoneCut t) (h : Unsent s t) : NoneCut s := by
  obtain ⟨es, htrace, -⟩ := h.trace
  exact fun e he ↦ ht e (htrace ▸ List.mem_append_left es he)

theorem Framed.unsent (hs : Framed s) (h : Unsent s t) : Framed t where
  stream := by
    obtain ⟨ps, p, part, rest, hwire, hsplit⟩ := hs.stream
    exact ⟨ps, p, part, rest, h.wire.trans hwire, hsplit⟩
  last := fun e he wire hwire ↦ h.wire.trans (hs.last e (h.mem_cutShort he hwire) wire hwire)

theorem Whole.unsent (hs : Whole s) (h : Unsent s t) : Whole t where
  stream := by
    obtain ⟨ps, hwire⟩ := hs.stream
    exact ⟨ps, h.wire.trans hwire⟩
  noneCut := hs.noneCut.unsent h

end Unsent

/-! ## One packet -/

/-- A packet behind complete packets is complete, or it was cut short. -/
theorem Sent.whole_or_cut {s t : Sys World} {bytes : List UInt8} {rc : Option ℤ}
    (h : Sent bytes s t rc) (hs : Whole s) {p : Packet} (hp : p.bytes = bytes) :
    Whole t ∨ Framed t ∧ ¬NoneCut t ∧ rc ≠ some mqttSuccess := by
  obtain ⟨written, rest, hsplit, hwire, hsuccess⟩ := h.wire
  obtain ⟨ps, hstream⟩ := hs.stream
  have hcut : (Event.sendPacket .wan bytes s.world t.world rc).cutShort =
      if written ≠ [] ∧ rest ≠ [] then some t.world.wire else none := by
    simp only [Event.cutShort, hwire, hsplit, List.length_append, Nat.lt_add_right_iff_pos,
      Nat.add_lt_add_iff_left, List.length_pos_iff]
  by_cases hboth : written ≠ [] ∧ rest ≠ []
  · rw [if_pos hboth] at hcut
    refine Or.inr ⟨⟨⟨ps, p, written, rest, by rw [hwire, hstream], hp.trans hsplit, hboth.2⟩, ?_⟩,
      fun hnone ↦ ?_, fun hrc ↦ hboth.2 (hsuccess hrc)⟩
    · intro e he wire hmem
      rw [h.trace] at he
      rcases List.mem_append.mp he with he | he
      · simp [hs.noneCut e he] at hmem
      · rw [List.mem_singleton.mp he, hcut] at hmem
        exact Option.some.inj hmem
    · have hlast := hnone (.sendPacket .wan bytes s.world t.world rc) (by simp [h.trace])
      simp [hcut] at hlast
  · rw [if_neg hboth] at hcut
    refine Or.inl ⟨?_, fun e he ↦ ?_⟩
    · by_cases hwritten : written = []
      · exact ⟨ps, by rw [hwire, hwritten, List.append_nil, hstream]⟩
      · obtain rfl : rest = [] := by_contra fun hrest ↦ hboth ⟨hwritten, hrest⟩
        exact ⟨ps ++ [p], by rw [hwire, hstream, stream_append, stream_cons, stream_nil,
          List.append_nil, hp, hsplit, List.append_nil]⟩
    · rw [h.trace] at he
      rcases List.mem_append.mp he with he | he
      · exact hs.noneCut e he
      · rw [List.mem_singleton.mp he, hcut]

theorem sessionKeeps_framed :
    SessionKeeps Whole Whole fun s ↦ Framed s ∧ (NoneCut s → Whole s) := by
  have hsends : ∀ type, Sends type Whole (fun s ↦ Framed s ∧ (NoneCut s → Whole s)) Whole := by
    rintro type packet s t rc ⟨p, hp, -⟩ hs hsent
    rcases hsent.whole_or_cut hs hp with ht | ⟨ht, hcut, hrc⟩
    · exact ⟨⟨ht.framed, fun _ ↦ ht⟩, fun _ ↦ ht⟩
    · exact ⟨⟨ht, fun hnone ↦ absurd hnone hcut⟩, fun h ↦ absurd h hrc⟩
  exact {
    any_of_new := fun s hs ↦ ⟨hs.framed, fun _ ↦ hs⟩
    any_of_open := fun s hs ↦ ⟨hs.framed, fun _ ↦ hs⟩
    new_unsent := fun _ _ ↦ Whole.unsent
    open_unsent := fun _ _ ↦ Whole.unsent
    any_unsent := fun _ _ hs hst ↦
      ⟨hs.1.unsent hst, fun hnone ↦ (hs.2 (hnone.of_unsent hst)).unsent hst⟩
    connect := hsends .connect
    publish := hsends .publish
    pubrel := hsends .pubrel
    disconnect := fun packet s t rc hpacket hs hsent ↦
      ⟨(hsends .disconnect packet s t rc hpacket hs hsent).1, fun _ ↦
        (hsends .disconnect packet s t rc hpacket hs hsent).1⟩ }

/-! ## Runs -/

/-- When the publish of an accepted message fails, no packet has been cut short by
then. What follows is the DISCONNECT. -/
def ClosesWhole (P : Platform) (fuel : ℕ) (self : CcFsm) (s : Sys World)
    (sensorPort : SensorPort) : Prop :=
  Post (publishMessage P fuel self sensorPort) s (fun ret t ↦ ret ≠ mqttSuccess → NoneCut t)
    fun _ _ ↦ True

instance (P : Platform) (fuel : ℕ) (self : CcFsm) (s : Sys World) (sensorPort : SensorPort) :
    Decidable (ClosesWhole P fuel self s sensorPort) :=
  inferInstanceAs (Decidable (Post _ _ _ _))

/-- In every run in which no DISCONNECT follows a packet that was cut short, what
was written is framed. -/
theorem framed_of_closesWhole {P : Platform} (hP : P.ProcessesPackets)
    (hpaho : P.paho.SerializesSession) (fuel : ℕ) (w : World) (hwire : w.wire = [])
    (messages : List SensorPort)
    (hmessages : Post (run P fuel) ⟨w, []⟩
      (fun r s ↦ Along (ClosesWhole P fuel) (serveMessage P fuel) messages r.2 s)
      fun _ _ ↦ True) :
    Framed (runAndServe P fuel messages ⟨w, []⟩).state := by
  have hstart : Whole ⟨w, []⟩ := ⟨⟨[], hwire⟩, fun e he ↦ absurd he (List.not_mem_nil)⟩
  refine (sessionKeeps_framed.post_runAndServe hP hpaho ?_ hstart hmessages).1
  exact fun self s sensorPort _ hcloses ↦ hcloses.mono
    (fun ret t hnone hret hany ↦ hany.2 (hnone hret)) fun _ _ h ↦ h

/-- A publish fails before its first byte, and the DISCONNECT goes out in whole. -/
theorem framed_of_failed_first_write :
    Framed (runAndServe (Platform.reference false) 5 [smallPublish]
      ⟨World.cutting (.error (-1)), []⟩).state :=
  framed_of_closesWhole (Platform.reference_processesPackets false)
    Paho.reference_serializesSession 5 _ rfl _ (by decide +kernel)

/-- A publish fails behind its third byte, and the DISCONNECT follows there. -/
theorem not_framed_of_failed_second_write :
    ¬Framed (runAndServe (Platform.reference false) 5 [smallPublish]
      ⟨World.cutting (.success 3), []⟩).state := by
  intro h
  have hcut : ∃ e ∈ (runAndServe (Platform.reference false) 5 [smallPublish]
      ⟨World.cutting (.success 3), []⟩).state.trace,
        e.cutShort.map List.length = some 24 := by decide +kernel
  have hwire : (runAndServe (Platform.reference false) 5 [smallPublish]
      ⟨World.cutting (.success 3), []⟩).state.world.wire.length = 26 := by decide +kernel
  obtain ⟨e, he, hlen⟩ := hcut
  obtain ⟨wire, hmem, hlen⟩ := Option.map_eq_some_iff.mp hlen
  rw [h.last e he wire hmem, hlen] at hwire
  exact absurd hwire (by decide)

end DemoIotApp
