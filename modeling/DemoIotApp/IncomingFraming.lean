import DemoIotApp.ClientInvariants
import DemoIotApp.PacketReading

/-!
# Where a packet begins

The broker sends one packet after the other. The wait loop keeps to the
boundaries between them as long as no packet is left in the middle. A packet
is left when it does not fit the read buffer or when one of its reads fails
after the header byte, because the loop then reads on as if a new packet began.
-/

namespace DemoIotApp

open Library Prog

/-! ## Positions in the stream -/

namespace Packet

/-- The size check of `MQTT_network_readPacket` lets the packet through. -/
def Fits (size : ℕ) (p : Packet) : Prop :=
  PassesCheck size p.payload.length

end Packet

variable {W : Type}

/-- No read leaves a packet in the middle: a header byte is taken only of a
packet that fits, and the reads that follow inside the packet succeed. -/
def KeepsPacket (rx : W → List UInt8) (size : ℕ) (ps : List Packet) : Event W → Prop
  | .read _ before _ rc =>
      ∀ pre p post tail, ps = pre ++ p :: post → tail ≠ [] → tail <:+ p.bytes →
        rx before = tail ++ stream post →
        (tail = p.bytes → rc = some mqttSuccess → p.Fits size) ∧
          (tail ≠ p.bytes → rc = some mqttSuccess)
  | _ => True

/-- What is reported to the wait loop was read from where a packet begins, and
a packet type that is reported is the type of that packet. -/
def ReportsPacket (rx : W → List UInt8) (ps : List Packet) : Event W → Prop
  | .readPacket before _ result =>
      ∃ pre post, ps = pre ++ post ∧ rx before = stream post ∧
        ∀ rc buffer, result = some (rc, buffer) → 0 ≤ rc →
          ∃ p rest, post = p :: rest ∧ rc = p.type
  | _ => True

/-! ## A whole packet -/

section ReadPacket

variable {rx : W → List UInt8} {size : ℕ} {pre post ps : List Packet} {p : Packet}

theorem KeepsPacket.read_eq (hps : ps = pre ++ p :: post) {tail : List UInt8} {len : ℕ}
    {before after : W} {rc : Option ℤ} (htail : tail ≠ [])
    (hsuffix : tail <:+ p.lenBytes ++ p.payload) (hrx : rx before = tail ++ stream post)
    (h : KeepsPacket rx size ps (.read len before after rc)) : rc = some mqttSuccess := by
  have hbytes : tail <:+ p.bytes := hsuffix.trans (List.suffix_cons _ _)
  have hne : tail ≠ p.bytes := by
    intro heq
    have hlen := hsuffix.length_le
    rw [heq, Packet.bytes, List.length_cons] at hlen
    omega
  exact (h pre p post tail hps htail hbytes hrx).2 hne

theorem KeepsPacket.not_failed (hps : ps = pre ++ p :: post) {tail : List UInt8} {len : ℕ}
    {before after : W} {rc : ℤ} (htail : tail ≠ []) (hsuffix : tail <:+ p.lenBytes ++ p.payload)
    (hrx : rx before = tail ++ stream post) (hrc : rc < 0)
    (h : KeepsPacket rx size ps (.read len before after (some rc))) : False :=
  Int.ne_of_lt hrc (Option.some.inj (h.read_eq hps htail hsuffix hrx))

/-- A packet read that begins at a boundary either stops there, or it takes the
whole packet and reports its type. -/
theorem PacketEnds.inStep {buffer : List UInt8} (hbuffer : buffer.length = size) {s t : Sys W}
    {rest : List Packet} (hps : ps = pre ++ rest) (hrest : rx s.world = stream rest)
    {r : ℤ × List UInt8} (h : PacketEnds rx buffer s r t)
    (hgood : ∀ e ∈ t.trace, KeepsPacket rx size ps e) :
    r.1 < 0 ∧ rx t.world = stream rest ∨
      ∃ p post, rest = p :: post ∧ r.1 = p.type ∧ rx t.world = stream post := by
  -- behind the header byte the stream goes on as the packet does
  have hpacket : ∀ header tail, rx s.world = header :: tail → ∃ p post, rest = p :: post ∧
      header = p.header ∧ tail = p.lenBytes ++ (p.payload ++ stream post) := by
    intro header tail hrx
    rw [hrest] at hrx
    cases rest with
    | nil => exact nomatch hrx
    | cons p post =>
        rw [stream_cons, Packet.bytes, List.cons_append, List.append_assoc] at hrx
        obtain ⟨rfl, rfl⟩ := List.cons.inj hrx
        exact ⟨p, post, rfl, rfl, rfl⟩
  cases h with
  | headerFailed rc _ _ _ hrx hrc => exact Or.inl ⟨hrc, hrx.symm.trans hrest⟩
  | lengthFailed es header read rc before _ _ htrace _ hrx hmore _ hrc =>
      obtain ⟨p, post, rfl, rfl, htail⟩ := hpacket _ _ hrx
      obtain ⟨back, hback, hlenBytes, hbefore⟩ := p.isEncoding.eq_append hmore htail.symm
      have hread : KeepsPacket rx size ps (.read 1 before t.world (some rc)) :=
        hgood _ (by rw [htrace]; simp)
      have hne : back ++ p.payload ≠ [] := by simp [hback]
      refine (hread.not_failed hps hne ⟨read, ?_⟩ ?_ hrc).elim
      · rw [hlenBytes, List.append_assoc]
      · rw [hbefore, List.append_assoc]
  | lengthTooLong es header read _ _ _ _ hrx hmore hlen =>
      obtain ⟨p, post, rfl, rfl, htail⟩ := hpacket _ _ hrx
      obtain ⟨back, hback, hlenBytes, -⟩ := p.isEncoding.eq_append hmore htail.symm
      have hle := p.length_lenBytes_le
      have hpos := List.length_pos_iff.mpr hback
      rw [hlenBytes, List.length_append] at hle
      omega
  | overflow after es header lenBytes _ _ htrace _ hrx henc _ hcheck =>
      obtain ⟨p, post, rfl, rfl, htail⟩ := hpacket _ _ hrx
      obtain ⟨rfl, -⟩ := henc.append_inj p.isEncoding htail
      have hread : KeepsPacket rx size ps (.read 1 s.world after (some mqttSuccess)) :=
        hgood _ (by rw [htrace]; simp)
      have hfits := (hread pre p post p.bytes hps (by simp [Packet.bytes]) List.suffix_rfl hrest).1
        rfl rfl
      rw [hbuffer, p.value_lenBytes] at hcheck
      exact absurd hfits hcheck
  | payloadFailed es header lenBytes rc before _ _ htrace _ hrx henc _ hpos hrc =>
      obtain ⟨p, post, rfl, rfl, htail⟩ := hpacket _ _ hrx
      obtain ⟨rfl, hbefore⟩ := henc.append_inj p.isEncoding htail
      rw [p.value_lenBytes] at hpos
      have hread : KeepsPacket rx size ps
          (.read (Varint.value p.lenBytes) before t.world (some rc)) :=
        hgood _ (by rw [htrace]; simp)
      exact (hread.not_failed hps (List.ne_nil_of_length_pos hpos) (List.suffix_append _ _)
        hbefore hrc).elim
  | complete es header lenBytes payload _ _ _ hrx henc _ hvalue _ =>
      obtain ⟨p, post, rfl, rfl, htail⟩ := hpacket _ _ hrx
      obtain ⟨rfl, hrest'⟩ := henc.append_inj p.isEncoding htail
      obtain ⟨rfl, hpost⟩ := List.append_inj hrest' (hvalue.symm.trans p.value_lenBytes)
      exact Or.inr ⟨p, post, rfl, rfl, hpost⟩

end ReadPacket

/-! ## The wait loop -/

/-- As long as no read has left a packet in the middle, the stream is at the
beginning of a packet and every report was right. -/
def InStep (rx : W → List UInt8) (size : ℕ) (ps : List Packet) (s : Sys W) : Prop :=
  (∀ e ∈ s.trace, KeepsPacket rx size ps e) →
    (∃ pre post, ps = pre ++ post ∧ rx s.world = stream post) ∧
      ∀ e ∈ s.trace, ReportsPacket rx ps e

/-- What is left of `InStep` when a run stops. -/
def Reported (rx : W → List UInt8) (size : ℕ) (ps : List Packet) (s : Sys W) : Prop :=
  (∀ e ∈ s.trace, KeepsPacket rx size ps e) → ∀ e ∈ s.trace, ReportsPacket rx ps e

section WaitLoop

variable {rx : W → List UInt8} {n : Network W} {size : ℕ} {ps : List Packet}

theorem InStep.reported {s : Sys W} (h : InStep rx size ps s) : Reported rx size ps s :=
  fun hgood ↦ (h hgood).2

theorem reportsPacket_of_isRead : ∀ e : Event W, e.IsRead → ReportsPacket rx ps e := by
  rintro (_ | _ | _ | _) he
  · trivial
  all_goals exact he.elim

theorem reportsPacket_of_isSend : ∀ e : Event W, e.IsSend → ReportsPacket rx ps e := by
  rintro (_ | _ | _ | _) he
  · exact he.elim
  · trivial
  all_goals exact he.elim

theorem Reported.of_extends {G : Event W → Prop} {s t : Sys W} (hs : Reported rx size ps s)
    (hst : Extends G s t) (hG : ∀ e, G e → ReportsPacket rx ps e) : Reported rx size ps t := by
  obtain ⟨es, htrace, hes⟩ := hst
  intro hgood e he
  rw [htrace] at hgood he
  rcases List.mem_append.mp he with he | he
  · exact hs (fun e he ↦ hgood e (List.mem_append_left _ he)) e he
  · exact hG e (hes e he)

theorem InStep.of_extends {G : Event W → Prop} {s t : Sys W} (hs : InStep rx size ps s)
    (hst : Extends G s t) (hG : ∀ e, G e → ReportsPacket rx ps e)
    (hrx : rx t.world = rx s.world) : InStep rx size ps t := by
  intro hgood
  have hgood' : ∀ e ∈ s.trace, KeepsPacket rx size ps e := by
    obtain ⟨es, htrace, -⟩ := hst
    exact fun e he ↦ hgood e (by rw [htrace]; exact List.mem_append_left _ he)
  exact ⟨hrx ▸ (hs hgood').1, hs.reported.of_extends hst hG hgood⟩

variable [Clock W]

theorem readKeeps_length (h : ReadsStream rx n) : ReadKeeps n (fun _ ↦ True) fun _ _ ↦ True where
  read := by
    intro buffer timer hbuffer s _
    exact (post_mqttNetworkRead h buffer hbuffer timer s).mono (fun _ _ hr ↦ ⟨hr.2.1, trivial⟩)
      fun _ _ _ ↦ trivial
  overrun _ _ := trivial

theorem keeps_readClock (h : ReadsStream rx n) :
    Keeps (InStep rx size ps) (fun _ ↦ Reported rx size ps) (fun _ ↦ True) readClock :=
  fun s hs ↦ ⟨trivial, hs.of_extends (Extends.of_trace_eq rfl) reportsPacket_of_isSend
    (h.clock s.world)⟩

theorem keeps_mqttNetworkSendPacket (h : ReadsStream rx n) (packet : List UInt8)
    (timer : Option Timer) :
    Keeps (InStep rx size ps) (fun _ ↦ Reported rx size ps) (fun _ ↦ True)
      (mqttNetworkSendPacket n packet timer) := by
  intro s hs
  have hrx : Post (mqttNetworkSendPacket n packet timer) s
      (fun _ t ↦ rx t.world = rx s.world) fun _ _ ↦ True := by
    unfold mqttNetworkSendPacket
    rw [Sys.post_observed]
    apply (post_timeoutOf h timer s).bind
    rintro timeoutMs t ⟨-, ht⟩
    cases hwrite : n.mqttwrite with
    | none => trivial
    | some mqttwrite =>
        rw [Sys.post_onWorld]
        apply (h.write mqttwrite packet timeoutMs t.world hwrite).mono _ fun _ _ _ ↦ trivial
        exact fun _ _ hw ↦ hw.trans ht
  have hemits : Emits Event.IsSend (mqttNetworkSendPacket n packet timer) :=
    emits_mqttNetworkSendPacket n packet timer fun _ _ _ ↦ trivial
  apply (hrx.and (hemits.post s)).mono
  · exact fun _ t ht ↦ ⟨trivial, hs.of_extends ht.2 reportsPacket_of_isSend ht.1⟩
  · exact fun _ t ht ↦ hs.reported.of_extends ht.2 reportsPacket_of_isSend

theorem keeps_receive {P : Paho} (hP : P.EncodesLength) (h : ReadsStream rx n)
    (hsize : 5 ≤ size) (buffer : List UInt8) (timer : Option Timer)
    (hbuffer : buffer.length = size) :
    Keeps (InStep rx size ps) (fun _ ↦ Reported rx size ps) (fun r ↦ r.2.length = size)
      (Sys.observed .readPacket (mqttNetworkReadPacket P n buffer timer)) := by
  intro s hs
  rw [Sys.post_observed]
  have hlength := (readKeeps_length h).mqttNetworkReadPacket P buffer timer s trivial
  have hframe := (emits_mqttNetworkReadPacket P n buffer timer).post s
  by_cases hgood : ∀ e ∈ s.trace, KeepsPacket rx size ps e
  swap
  · -- the condition is already broken, and it stays broken
    have hbad : ∀ (t : Sys W) (e : Event W), Extends Event.IsRead s t →
        ¬∀ e' ∈ t.trace ++ [e], KeepsPacket rx size ps e' := by
      rintro t e ⟨es, htrace, -⟩ hgood'
      refine hgood fun e' he' ↦ hgood' e' ?_
      rw [htrace]
      exact List.mem_append_left _ (List.mem_append_left _ he')
    apply (hlength.and hframe).mono
    · exact fun r t ht ↦ ⟨ht.1.1.trans hbuffer, fun hg ↦ (hbad t _ ht.2 hg).elim⟩
    · exact fun e t ht hg ↦ (hbad t _ ht.2 hg).elim
  obtain ⟨⟨pre, post, hps, hrx⟩, -⟩ := hs hgood
  have hends := post_mqttNetworkReadPacket hP h (readStops_true n) (by omega) timer
    (hasRoom_of_le (hbuffer ▸ hsize) (rx s.world))
  have hread := hends.mono (fun r t hr ↦ hr.inStep hbuffer hps hrx) fun _ _ h ↦ h
  apply ((hlength.and hframe).and hread).mono
  · rintro r t ⟨⟨hlen, hext⟩, hres⟩
    refine ⟨hlen.1.trans hbuffer, fun hg ↦ ?_⟩
    have hg' : ∀ e ∈ t.trace, KeepsPacket rx size ps e :=
      fun e he ↦ hg e (List.mem_append_left _ he)
    have hres := hres hg'
    refine ⟨?_, ?_⟩
    · rcases hres with ⟨-, ht⟩ | ⟨p, rest, rfl, -, ht⟩
      · exact ⟨pre, post, hps, ht⟩
      · exact ⟨pre ++ [p], rest, by simp [hps], ht⟩
    · intro e he
      rcases List.mem_append.mp he with he | he
      · exact hs.reported.of_extends hext reportsPacket_of_isRead hg' e he
      · obtain rfl := List.mem_singleton.mp he
        refine ⟨pre, post, hps, hrx, ?_⟩
        rintro rc buffer' heq hrc
        obtain rfl := Option.some.inj heq
        rcases hres with ⟨hneg, -⟩ | ⟨p, rest, hpost, htype, -⟩
        · exact absurd hrc (not_le.mpr hneg)
        · exact ⟨p, rest, hpost, htype⟩
  · rintro reason t ⟨⟨-, hext⟩, -⟩ hg e he
    rcases List.mem_append.mp he with he | he
    · exact hs.reported.of_extends hext reportsPacket_of_isRead
        (fun e he ↦ hg e (List.mem_append_left _ he)) e he
    · obtain rfl := List.mem_singleton.mp he
      exact ⟨pre, post, hps, hrx, fun _ _ h ↦ nomatch h⟩

theorem waitKeeps_inStep {P : Platform} (hP : P.paho.EncodesLength) (h : ReadsStream rx n)
    (hsize : 5 ≤ size) (keepAliveMs : ℕ) :
    WaitKeeps P n size keepAliveMs (InStep rx size ps) fun _ ↦ Reported rx size ps where
  clock := keeps_readClock h
  receive := fun buffer timer hbuffer ↦ keeps_receive hP h hsize buffer timer hbuffer
  ping := fun _ packet timer ↦ keeps_mqttNetworkSendPacket h packet timer
  unfinished := fun _ hs ↦ hs.reported
  assertion := fun _ hs ↦ hs.reported

end WaitLoop

/-! ## Runs of the wait loop -/

/-- A call of one of the two wait functions. -/
inductive WaitCall where
  | next (timer : Option Timer)
  | specific (packetType : ℤ) (timer : Option Timer)

section Runs

variable [Clock W]

def runWaitCall (P : Platform) (fuel : ℕ) (self : MqttClient W) :
    WaitCall → Prog Stop (Sys W) (MqttClient W)
  | .next timer => do
      let (_, self) ← waitForNextPacket P self timer
      return self
  | .specific packetType timer => do
      let (_, self) ← waitForSpecificPacket P packetType timer fuel self
      return self

/-- Any sequence of calls on the same client, one after the other. -/
def runWaitCalls (P : Platform) (fuel : ℕ) (self : MqttClient W) (calls : List WaitCall) :
    Prog Stop (Sys W) (MqttClient W) :=
  calls.foldlM (runWaitCall P fuel) self

theorem keeps_runWaitCall {P : Platform} {n : Network W} {size sendSize keepAliveMs : ℕ}
    {connected : Bool} {I : Sys W → Prop} {E : Stop → Sys W → Prop}
    (K : WaitKeeps P n size keepAliveMs I E) (fuel : ℕ) (self : MqttClient W) (call : WaitCall)
    (hself : Setup n size sendSize keepAliveMs connected self) :
    Keeps I E (Setup n size sendSize keepAliveMs connected) (runWaitCall P fuel self call) := by
  cases call with
  | next timer => exact (K.waitForNextPacket hself timer).bind fun r hr ↦ keeps_pure hr
  | specific packetType timer =>
      exact (K.waitForSpecificPacket packetType timer fuel hself).bind fun r hr ↦ keeps_pure hr

end Runs

/-- In every run whose reads leave no packet in the middle, every packet read
begins where a packet begins and every reported type is the type of that packet. -/
theorem reportsPacket_of_keepsPacket (P : Platform) (hP : P.paho.EncodesLength)
    (netFuel fuel : ℕ) (self : MqttClient World) (hnet : self.net = some (netWan netFuel))
    (hsize : 5 ≤ self.readbuf.length) (ps : List Packet) (calls : List WaitCall) (w : World)
    (hrx : w.rx = stream ps)
    (hkeeps : ∀ e ∈ (runWaitCalls P fuel self calls ⟨w, []⟩).state.trace,
      KeepsPacket World.rx self.readbuf.length ps e) :
    ∀ e ∈ (runWaitCalls P fuel self calls ⟨w, []⟩).state.trace, ReportsPacket World.rx ps e := by
  have K : WaitKeeps P (netWan netFuel) self.readbuf.length self.keepAliveIntervalMs
      (InStep World.rx self.readbuf.length ps) fun _ ↦ Reported World.rx self.readbuf.length ps :=
    waitKeeps_inStep hP (readsStream_netWan netFuel) hsize _
  have hrun : Keeps _ _ (Setup (netWan netFuel) self.readbuf.length self.sendbuf.length
      self.keepAliveIntervalMs self.isConnected) (runWaitCalls P fuel self calls) :=
    keeps_foldlM (fun self' call hself' ↦ keeps_runWaitCall K fuel self' call hself') calls self
      ⟨hnet, rfl, rfl, rfl, rfl⟩
  have hstart : InStep World.rx self.readbuf.length ps ⟨w, []⟩ :=
    fun _ ↦ ⟨⟨[], ps, rfl, hrx⟩, by simp⟩
  have hpost := hrun ⟨w, []⟩ hstart
  cases hres : runWaitCalls P fuel self calls ⟨w, []⟩ with
  | ok self' t =>
      rw [hres] at hkeeps
      exact (hpost.ok hres).2.reported hkeeps
  | stop e t =>
      rw [hres] at hkeeps
      exact (post_of_stop hres).mp hpost hkeeps

/-! ## Runs on fixed streams -/

/-- The results of the low-level reads. -/
def readCodes (trace : List (Event World)) : List (Option ℤ) :=
  trace.filterMap fun e ↦ match e with
    | .read _ _ _ rc => some rc
    | _ => none

/-- The unread bytes at which a packet read began, and what it reported. -/
def reports (trace : List (Event World)) : List (List UInt8 × Option ℤ) :=
  trace.filterMap fun e ↦ match e with
    | .readPacket before _ result => some (before.rx, result.map Prod.fst)
    | _ => none

/-- No packet is left when all of them fit and all reads succeed. -/
theorem keepsPacket_of_readCodes {size : ℕ} {ps : List Packet} {trace : List (Event World)}
    (hfits : ∀ p ∈ ps, p.Fits size) (hcodes : ∀ rc ∈ readCodes trace, rc = some mqttSuccess) :
    ∀ e ∈ trace, KeepsPacket World.rx size ps e := by
  intro e he
  cases e with
  | read len before after rc =>
      have hrc : rc = some mqttSuccess :=
        hcodes rc (List.mem_filterMap.mpr ⟨_, he, rfl⟩)
      rintro pre p post tail rfl - - -
      exact ⟨fun _ _ ↦ hfits p (by simp), fun _ ↦ hrc⟩
  | _ => trivial

/-- A packet with four bytes of payload, which look like two empty packets. -/
def nestedPacket : Packet := Packet.ofPayload 0x30 [0x20, 0, 0x30, 0] (by decide)

/-- Two packets without a payload. -/
def emptyPackets : List Packet :=
  [Packet.ofPayload 0xC0 [] (by decide), Packet.ofPayload 0xD0 [] (by decide)]

/-- The client waits twice, the second time for a PINGRESP. -/
def emptyPacketsRun : Outcome Stop (Sys World) (MqttClient World) :=
  runWaitCalls (Platform.reference false) 4 smallClient [.next none, .specific 13 none]
    ⟨World.steady (stream emptyPackets), []⟩

theorem reportsPacket_of_two_packets :
    reports emptyPacketsRun.state.trace = [([0xC0, 0, 0xD0, 0], some 12), ([0xD0, 0], some 13)] ∧
      ∀ e ∈ emptyPacketsRun.state.trace, ReportsPacket World.rx emptyPackets e := by
  refine ⟨by decide +kernel, ?_⟩
  refine reportsPacket_of_keepsPacket _ Paho.reference.encodesLength 4 4 smallClient rfl
    (by decide) _ _ _ rfl (keepsPacket_of_readCodes ?_ ?_)
  · simp [emptyPackets, Packet.Fits, PassesCheck, Packet.ofPayload]
  · show ∀ rc ∈ readCodes emptyPacketsRun.state.trace, rc = some mqttSuccess
    decide +kernel

/-- A packet that does not fit is rejected behind its length byte. The wait
loop reads on there and reports a CONNACK that was never sent. -/
theorem not_reportsPacket_of_oversized :
    smallClient.net = some (netWan 4) ∧ 5 ≤ smallClient.readbuf.length ∧
      ¬∀ e ∈ (runWaitCalls (Platform.reference false) 4 smallClient [.specific 2 none]
          ⟨World.steady (stream [nestedPacket]), []⟩).state.trace,
        ReportsPacket World.rx [nestedPacket] e := by
  refine ⟨rfl, by decide, fun h ↦ ?_⟩
  have hmem : ([0x20, 0, 0x30, 0], some 2) ∈ reports (runWaitCalls (Platform.reference false) 4
      smallClient [.specific 2 none] ⟨World.steady (stream [nestedPacket]), []⟩).state.trace := by
    decide +kernel
  obtain ⟨e, he, hview⟩ := List.mem_filterMap.mp hmem
  have hreport := h e he
  cases e with
  | readPacket before after result =>
      obtain ⟨pre, post, hps, hrx, -⟩ := hreport
      have hbefore : before.rx = [0x20, 0, 0x30, 0] := (Prod.mk.inj (Option.some.inj hview)).1
      have hlen : (stream post).length = 4 := by
        rw [← hrx, hbefore]
        rfl
      cases pre with
      | nil =>
          obtain rfl : post = [nestedPacket] := hps.symm
          exact absurd hlen (by decide)
      | cons p pre =>
          have hnil : post = [] := (List.append_eq_nil_iff.mp (List.cons.inj hps).2.symm).2
          rw [hnil] at hlen
          exact absurd hlen (by decide)
  | _ => exact nomatch hview

end DemoIotApp
