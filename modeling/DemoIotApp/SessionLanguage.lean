import DemoIotApp.RelayMachine
import DemoIotApp.SequentialRuns
import Mathlib.Data.List.ReduceOption

/-!
# The packets of a whole run

All that the broker ever gets of the component is one CONNECT, then the accepted messages with
the identifiers 2, 3 and so on, and then nothing but DISCONNECT packets. The machine shows
this of the messages, the initialisation adds the CONNECT, and the semaphore carries it over to
every interleaving of the two threads.
-/

namespace DemoIotApp

open Library Prog

/-! ## Outputs of the machine -/

/-- The PUBLISH packets of these messages, behind `n` others. -/
def publishes : ℕ → List Message → List (List UInt8)
  | _, [] => []
  | n, m :: ms => m.publish (n + 1) :: publishes (n + 1) ms

theorem prefix_append_cases {α : Type} {l p q : List α} (h : l <+: p ++ q) :
    l <+: p ∨ ∃ r, l = p ++ r ∧ r <+: q := by
  obtain ⟨rest, h⟩ := h
  rcases List.append_eq_append_iff.mp h with ⟨r, rfl, -⟩ | ⟨r, rfl, rfl⟩
  · exact Or.inl (List.prefix_append l r)
  · exact Or.inr ⟨r, rfl, List.prefix_append r rest⟩

theorem eq_publishes_of_prefix {n : ℕ} {ms : List Message} {packets : List (List UInt8)}
    (h : packets <+: publishes n ms) : ∃ ms', packets = publishes n ms' ∧ ms' <+: ms := by
  induction ms generalizing n packets with
  | nil => exact ⟨[], List.prefix_nil.mp h, List.prefix_rfl⟩
  | cons m ms ih =>
      cases packets with
      | nil => exact ⟨[], rfl, List.nil_prefix⟩
      | cons p packets =>
          obtain ⟨rfl, hrest⟩ := List.cons_prefix_cons.mp h
          obtain ⟨ms', rfl, hms'⟩ := ih hrest
          exact ⟨m :: ms', rfl, List.cons_prefix_cons.mpr ⟨rfl, hms'⟩⟩

section Machine

variable {n : ℕ} {ks : List (Option Message)} {a b : RelayState} {outs : List (List UInt8)}

/-- A closed relay answers every message with a DISCONNECT. -/
theorem run_closed (h : relayMachine.Run .closed ks b outs) :
    b = .closed ∧ outs = List.replicate ks.reduceOption.length disconnectPacket := by
  generalize ha : RelayState.closed = a at h
  induction h with
  | nil => exact ⟨rfl, rfl⟩
  | cons hstep _ ih =>
      subst ha
      generalize hclosed : RelayState.closed = a at hstep
      cases hstep with
      | ignored =>
          obtain ⟨rfl, rfl⟩ := ih hclosed
          exact ⟨rfl, rfl⟩
      | delivered => exact nomatch hclosed
      | lost => exact nomatch hclosed
      | refused => exact nomatch hclosed
      | rejected =>
          obtain ⟨rfl, rfl⟩ := ih rfl
          exact ⟨rfl, by rw [List.reduceOption_cons_of_some]; rfl⟩

/-- What an open relay sends: PUBLISH packets of the first messages, and then a DISCONNECT for
every other message. The one that closes the relay may have both. -/
theorem run_opened (h : relayMachine.Run (.opened n) ks b outs) :
    ∃ ms d, outs = publishes n ms ++ List.replicate d disconnectPacket ∧
      ms <+: ks.reduceOption ∧ ks.reduceOption.length ≤ ms.length + d ∧
        ms.length + d ≤ ks.reduceOption.length + 1 := by
  generalize ha : RelayState.opened n = a at h
  induction h generalizing n with
  | nil => exact ⟨[], 0, rfl, List.prefix_rfl, Nat.le_refl 0, Nat.zero_le 1⟩
  | cons hstep hrest ih =>
      cases hstep with
      | ignored => exact ih ha
      | delivered k m =>
          obtain rfl := RelayState.opened.inj ha
          obtain ⟨ms, d, rfl, hms, hle, hge⟩ := ih rfl
          refine ⟨m :: ms, d, rfl, ?_, ?_, ?_⟩
          · rw [List.reduceOption_cons_of_some]
            exact List.cons_prefix_cons.mpr ⟨rfl, hms⟩
          · simp only [List.reduceOption_cons_of_some, List.length_cons]
            omega
          · simp only [List.reduceOption_cons_of_some, List.length_cons]
            omega
      | lost k m =>
          obtain rfl := RelayState.opened.inj ha
          obtain ⟨-, rfl⟩ := run_closed hrest
          refine ⟨[m], _ + 1, rfl, ?_, ?_, ?_⟩
          · rw [List.reduceOption_cons_of_some]
            exact List.cons_prefix_cons.mpr ⟨rfl, List.nil_prefix⟩
          · simp only [List.reduceOption_cons_of_some, List.length_cons, List.length_nil]
            omega
          · simp only [List.reduceOption_cons_of_some, List.length_cons, List.length_nil]
            omega
      | refused k m =>
          obtain rfl := RelayState.opened.inj ha
          obtain ⟨-, rfl⟩ := run_closed hrest
          refine ⟨[], _ + 1, rfl, List.nil_prefix, ?_, ?_⟩
          · simp only [List.reduceOption_cons_of_some, List.length_cons, List.length_nil]
            omega
          · simp only [List.reduceOption_cons_of_some, List.length_cons, List.length_nil]
            omega
      | rejected => exact nomatch ha

end Machine

/-! ## The session before the first message -/

/-- The CONNECT is the only packet so far. -/
def Connected (s : Sys World) : Prop :=
  ∃ p, packetType p = some .connect ∧ sentPackets s.trace = [p]

/-- What the control thread leaves to the machine. -/
def Begins (packets : List (List UInt8)) : RelayState → Prop
  | .opened n => n = 0 ∧ ∃ p, packetType p = some .connect ∧ packets = [p]
  | .closed => packets = [] ∨ ∃ p, packetType p = some .connect ∧ packets = [p]

theorem opensSession_connected :
    OpensSession (fun s ↦ sentPackets s.trace = []) Connected
      fun s ↦ sentPackets s.trace = [] ∨ Connected s where
  any_of_new _ hs := Or.inl hs
  any_of_open _ hs := Or.inr hs
  new_unsent _ _ hs hst := hst.sentPackets.trans hs
  open_unsent _ _ hs hst := by
    rwa [Connected, hst.sentPackets]
  connect packet s t rc hpacket hs hsent := by
    have ht : Connected t := by
      refine ⟨packet, hpacket.packetType, ?_⟩
      rw [hsent.sentPackets, hs, List.nil_append]
    exact ⟨Or.inr ht, fun _ ↦ ht⟩

section Run

variable {P : Platform} {fuel : ℕ} {s : Sys World}

/-- The initialisation draws no identifier. -/
theorem post_run_hasDrawn (P : Platform) (fuel : ℕ) (s : Sys World) :
    Post (run P fuel) s (fun r _ ↦ r.2.client.isConnected = true → HasDrawn 0 r.2.client)
      fun _ _ ↦ True := by
  have hctor : Post (ccFsmCtor fuel) s
      (fun r _ ↦ r.2.client.isConnected = false ∧ (r.1 = 0 → HasDrawn 0 r.2.client))
      fun _ _ ↦ True := by
    have hcall : Post (osCall .initConfigHandle) s (fun _ _ ↦ True) fun _ _ ↦ True :=
      post_intro (fun _ _ _ ↦ trivial) fun _ _ _ ↦ trivial
    refine hcall.bind fun err t _ ↦ post_ite (fun _ ↦ ?_) fun _ ↦ ⟨rfl, fun _ ↦ rfl⟩
    exact ⟨rfl, fun hzero ↦ absurd hzero (by decide)⟩
  refine hctor.bind ?_
  rintro ⟨ret, self⟩ t ⟨hclosed, hdrawn⟩
  refine post_ite (fun _ hopen ↦ absurd (hclosed.symm.trans hopen) (by decide)) fun hzero ↦ ?_
  have hdrawn : HasDrawn 0 self.client := hdrawn (not_not.mp hzero)
  have hinit : Post (handleCcFsmInit P fuel self) t (fun r _ ↦ HasDrawn 0 r.2.client)
      fun _ _ ↦ True := by
    have C : CallKeeps (fun _ ↦ True) fun _ _ ↦ True :=
      ⟨fun _ _ _ ↦ trivial, fun _ _ _ _ _ ↦ trivial, fun _ _ ↦ trivial, fun _ _ _ ↦ trivial⟩
    refine post_handleCcFsmInit C (fun _ _ _ _ ↦ hdrawn) (fun options u _ _ ↦ ?_) trivial
    have hconnect : Yields (fun r ↦ r.2.2.nextPacketId = self.client.nextPacketId)
        (mqttClientConnect P fuel self.client (some options) ⟨0, 0⟩ none) :=
      yields_mqttClientConnect_nextPacketId self.client (some options) ⟨0, 0⟩ none
    have hdo : Post (doMqttConnect P fuel self.client options) u
        (fun r _ ↦ HasDrawn 0 r.2) fun _ _ ↦ True := by
      apply ((yields_true (readConnectSettings self.client)).post u).bind
      exact fun _ v _ ↦ (hconnect.post v).bind fun r _ hr ↦ hr.trans hdrawn
    refine hdo.bind fun r v hr ↦ post_ite (fun _ ↦ hr) fun _ ↦ ?_
    exact (post_intro (fun _ _ _ ↦ trivial) fun _ _ _ ↦ trivial :
      Post semPost v (fun _ _ ↦ True) fun _ _ ↦ True).bind fun _ _ _ ↦ hr
  exact hinit.bind fun r u hr _ ↦ hr

/-- The machine begins behind the CONNECT, or closed. -/
theorem post_run_begins (hpaho : P.paho.SerializesSession) (fuel : ℕ)
    (hs : sentPackets s.trace = []) :
    Post (run P fuel) s (fun r t ↦ ∃ a, Begins (sentPackets t.trace) a ∧ Relays r.2 t a)
      fun _ t ↦ Begins (sentPackets t.trace) .closed := by
  refine ((opensSession_connected.post_run hpaho hs).and (post_run_hasDrawn P fuel s)).mono ?_
    fun _ _ h ↦ h.1
  rintro ⟨ret, self⟩ t ⟨⟨⟨hany, hself⟩, -⟩, hdrawn⟩
  cases hopen : self.client.isConnected with
  | false => exact ⟨.closed, hany, hself.imp_right fun ⟨netFuel, h, _⟩ ↦ ⟨netFuel, h⟩, hopen⟩
  | true =>
      rcases hself with rfl | ⟨netFuel, hready, hconnected⟩
      · exact nomatch hopen
      · exact ⟨.opened 0, ⟨rfl, hconnected hopen⟩, Or.inr ⟨netFuel, hready⟩, hopen, hdrawn hopen⟩

/-- The messages that are accepted in a whole run. -/
def takenInRun (P : Platform) (fuel : ℕ) (messages : List SensorPort) (s : Sys World) :
    List (Option Message) :=
  match run P fuel s with
  | .ok r t => takenMessages P fuel messages r.2 t
  | .stop _ _ => []

/-- The packets of a run of the machine with the messages that the component accepts. It begins
in the state that the initialisation leaves. -/
def Serves (P : Platform) (fuel : ℕ) (messages : List SensorPort) (s : Sys World)
    (packets : List (List UInt8)) (b : RelayState) : Prop :=
  ∃ connects a outs, packets = connects ++ outs ∧ Begins connects a ∧
    (∀ r t, run P fuel s = .ok r t → Relays r.2 t a) ∧
    relayMachine.Run a (takenInRun P fuel messages s) b outs

/-- Behind the CONNECT the packets of a run are the outputs of the machine. -/
theorem post_runAndServe_serves (hP : P.ProcessesPackets) (hpaho : P.paho.SerializesSession)
    (fuel : ℕ) (messages : List SensorPort) (hs : sentPackets s.trace = []) :
    Post (runAndServe P fuel messages) s
      (fun self t ↦ ∃ b, Serves P fuel messages s (sentPackets t.trace) b ∧ InState self b)
      fun _ t ↦ ∃ b packets, Serves P fuel messages s packets b ∧
        sentPackets t.trace <+: packets := by
  unfold runAndServe Serves takenInRun
  have hbegins := post_run_begins hpaho fuel hs
  rw [post_bind]
  apply post_intro
  · rintro ⟨ret, self⟩ u hrun
    obtain ⟨a, ha, hself⟩ := hbegins.ok hrun
    have hbegun : ∀ r t, run P fuel s = .ok r t → Relays r.2 t a := by
      intro r t hrun'
      obtain ⟨rfl, rfl⟩ := Outcome.ok.inj (hrun.symm.trans hrun')
      exact hself
    rw [hrun] at hbegun ⊢
    apply ((refines_serveMessage hP hpaho).run messages hself).mono
    · rintro self' t ⟨b, outs, houts, hsent, hself'⟩
      exact ⟨b, ⟨_, a, outs, hsent, ha, hbegun, houts⟩, hself'.2⟩
    · rintro e t ⟨b, outs, sent, houts, hsent, hprefix⟩
      refine ⟨b, _, ⟨_, a, outs, rfl, ha, hbegun, houts⟩, ?_⟩
      rw [hsent]
      exact (List.prefix_append_right_inj _).mpr hprefix
  · intro e t hrun
    have ha := hbegins.stop hrun
    rw [hrun]
    exact ⟨_, _, ⟨_, _, [], rfl, ha, fun _ _ h ↦ (nomatch h), .nil _⟩, List.prefix_append _ _⟩

end Run

/-! ## The language -/

/-- At most one CONNECT, the first messages of a session in their order, and then DISCONNECT
packets only, at most one more than there are other messages. -/
def SessionLanguage (accepted : List Message) (packets : List (List UInt8)) : Prop :=
  ∃ connects ms d, packets = connects ++ (publishes 0 ms ++ List.replicate d disconnectPacket) ∧
    (connects = [] ∧ ms = [] ∨ ∃ p, packetType p = some .connect ∧ connects = [p]) ∧
    ms <+: accepted ∧ ms.length + d ≤ accepted.length + 1

section Language

variable {accepted : List Message} {packets packets' : List (List UInt8)}

theorem SessionLanguage.of_prefix (h : SessionLanguage accepted packets')
    (hpackets : packets <+: packets') : SessionLanguage accepted packets := by
  obtain ⟨connects, ms, d, rfl, hconnects, hms, hle⟩ := h
  rcases prefix_append_cases hpackets with hbefore | ⟨rest, rfl, hrest⟩
  · have hpackets : packets = [] ∨ ∃ p, packetType p = some .connect ∧ packets = [p] := by
      rcases hconnects with ⟨rfl, -⟩ | ⟨p, hp, rfl⟩
      · exact Or.inl (List.prefix_nil.mp hbefore)
      · rcases List.prefix_cons_iff.mp hbefore with rfl | ⟨rest, rfl, hrest⟩
        · exact Or.inl rfl
        · exact Or.inr ⟨p, hp, by rw [List.prefix_nil.mp hrest]⟩
    exact ⟨packets, [], 0, by simp [publishes], hpackets.imp_left fun h ↦ ⟨h, rfl⟩,
      List.nil_prefix, Nat.zero_le _⟩
  rcases prefix_append_cases hrest with hpublishes | ⟨discs, rfl, hdiscs⟩
  · obtain ⟨ms', rfl, hms'⟩ := eq_publishes_of_prefix hpublishes
    refine ⟨connects, ms', 0, by simp, hconnects.imp_left ?_, hms'.trans hms, ?_⟩
    · rintro ⟨rfl, rfl⟩
      exact ⟨rfl, List.prefix_nil.mp hms'⟩
    · exact (hms'.trans hms).length_le.trans (Nat.le_succ _)
  · obtain ⟨hlength, hdiscs⟩ := List.prefix_replicate_iff.mp hdiscs
    exact ⟨connects, ms, discs.length, by rw [← hdiscs], hconnects, hms, by omega⟩

theorem Serves.sessionLanguage {P : Platform} {fuel : ℕ} {messages : List SensorPort}
    {s : Sys World} {b : RelayState} (h : Serves P fuel messages s packets b) :
    SessionLanguage (takenInRun P fuel messages s).reduceOption packets := by
  obtain ⟨connects, a, outs, rfl, ha, -, houts⟩ := h
  cases a with
  | opened n =>
      obtain ⟨rfl, hconnects⟩ := ha
      obtain ⟨ms, d, rfl, hms, -, hle⟩ := run_opened houts
      exact ⟨connects, ms, d, rfl, Or.inr hconnects, hms, hle⟩
  | closed =>
      obtain ⟨-, rfl⟩ := run_closed houts
      exact ⟨connects, [], _, rfl, ha.imp_left fun h ↦ ⟨h, rfl⟩, List.nil_prefix,
        by rw [List.length_nil, Nat.zero_add]; exact Nat.le_succ _⟩

end Language

/-! ## Every interleaving -/

namespace Threads

section Interleave

variable {P : Platform} {fuel : ℕ} {ports messages : List SensorPort} {w : World} {s : Sys World}
  {threads : Threads}

theorem serves_of_sent (hP : P.ProcessesPackets) (hpaho : P.paho.SerializesSession)
    (h : sentPackets s.trace <+:
      sentPackets (runAndServe P fuel messages (initial w).sys).state.trace) :
    ∃ b packets, Serves P fuel messages (initial w).sys packets b ∧
      sentPackets s.trace <+: packets := by
  have hserves := post_runAndServe_serves hP hpaho fuel messages (s := (initial w).sys) rfl
  cases hrun : runAndServe P fuel messages (initial w).sys with
  | ok self t =>
      obtain ⟨b, hb, -⟩ := hserves.ok hrun
      rw [hrun] at h
      exact ⟨b, _, hb, h⟩
  | stop e t =>
      obtain ⟨b, packets, hb, hprefix⟩ := hserves.stop hrun
      rw [hrun] at h
      exact ⟨b, packets, hb, h.trans hprefix⟩

/-- Nothing is sent before the handler has read the dataport. -/
theorem Sequential.sent (h : threads.Sequential P fuel ports (initial w).sys messages) :
    sentPackets threads.sys.trace <+:
      sentPackets (runAndServe P fuel messages (initial w).sys).state.trace := by
  rcases h.trace_cases with htrace | ⟨s, sensorPort, -, hserved, hwait⟩
  · exact htrace.filterMap Event.wanPacket
  · obtain ⟨-, -, hsys⟩ := (post_semWait s).ok hwait
    have hsent : sentPackets threads.sys.trace = sentPackets s.trace := by
      rw [hsys, afterSem, sentPackets, List.filterMap_append]
      exact List.append_nil _
    rw [hserved, hsent]
    exact List.prefix_rfl

theorem Sequential.serves (hP : P.ProcessesPackets) (hpaho : P.paho.SerializesSession)
    (h : threads.Sequential P fuel ports (initial w).sys messages) :
    ∃ b packets, Serves P fuel messages (initial w).sys packets b ∧
      sentPackets threads.sys.trace <+: packets :=
  serves_of_sent hP hpaho h.sent

theorem StopsIn.serves (hP : P.ProcessesPackets) (hpaho : P.paho.SerializesSession)
    (h : StopsIn P fuel ports (initial w).sys messages s) :
    ∃ b packets, Serves P fuel messages (initial w).sys packets b ∧
      sentPackets s.trace <+: packets := by
  apply serves_of_sent hP hpaho
  rcases h with ⟨threads, hthreads, htrace⟩ | ⟨-, e, hstop⟩
  · rw [htrace]
    exact hthreads.sent
  · rw [hstop]
    exact List.prefix_rfl

/-- The component refines the machine in every interleaving in which no `sem_wait` fails: the
packets are the outputs for those of the handled messages that it accepts, or a part of them.
Between two calls all of them are there, the threads are in the state of the sequential run with
these messages, and the client is in the state of the machine. -/
theorem interleave_refines (hP : P.ProcessesPackets) (hpaho : P.paho.SerializesSession)
    (w : World) {turns : List Turn} (hturns : ∀ turn ∈ turns, turn.Within fuel ports)
    (hwaits : WaitsSucceed P turns (initial w)) :
    Post (interleave P turns) (initial w)
      (fun _ threads ↦ ∃ b packets, Serves P fuel (handled turns) (initial w).sys packets b ∧
        sentPackets threads.sys.trace <+: packets ∧
        (threads.rpc = .idle → threads.control = .init [] →
          runAndServe P fuel (handled turns) (initial w).sys = .ok threads.self threads.sys ∧
            sentPackets threads.sys.trace = packets ∧ InState threads.self b))
      fun _ threads ↦ ∃ taken b packets, taken <+: turns ∧
        Serves P fuel (handled taken) (initial w).sys packets b ∧
          sentPackets threads.sys.trace <+: packets := by
  refine (post_interleave_sequential hP w hturns hwaits).mono ?_ ?_
  · intro _ threads h
    by_cases hbetween : threads.rpc = .idle ∧ threads.control = .init []
    · have hserved := h.served hbetween.1 hbetween.2
      have hserves :=
        post_runAndServe_serves hP hpaho fuel (handled turns) (s := (initial w).sys) rfl
      obtain ⟨b, hb, hself⟩ := hserves.ok hserved
      exact ⟨b, _, hb, List.prefix_rfl, fun _ _ ↦ ⟨hserved, rfl, hself⟩⟩
    · obtain ⟨b, packets, hb, hprefix⟩ := h.serves hP hpaho
      exact ⟨b, packets, hb, hprefix, fun hrpc hcontrol ↦ absurd ⟨hrpc, hcontrol⟩ hbetween⟩
  · rintro _ threads ⟨taken, htaken, h⟩
    obtain ⟨b, packets, hb, hprefix⟩ := h.serves hP hpaho
    exact ⟨taken, b, packets, htaken, hb, hprefix⟩

/-- A message is lost, and the next one finds the session closed. -/
def initialiseAndPublish : List Turn :=
  List.replicate 9 (.control 5) ++ List.replicate 6 (.rpc 5 smallPublish)

theorem within_initialiseAndPublish :
    ∀ turn ∈ initialiseAndPublish, turn.Within 5 [smallPublish] := by
  intro turn hturn
  rcases List.mem_append.mp hturn with hturn | hturn
  · rw [List.eq_of_mem_replicate hturn]
    rfl
  · rw [List.eq_of_mem_replicate hturn]
    exact ⟨rfl, List.mem_singleton_self _⟩

theorem handled_initialiseAndPublish :
    handled initialiseAndPublish = [smallPublish, smallPublish] := rfl

theorem interleave_refines_initialiseAndPublish :
    ∃ threads, interleave (Platform.reference false) initialiseAndPublish
        (initial (World.cutting (.error (-1)))) = .ok () threads ∧
      Serves (Platform.reference false) 5 [smallPublish, smallPublish]
        (initial (World.cutting (.error (-1)))).sys (sentPackets threads.sys.trace) .closed := by
  have hview : (interleave (Platform.reference false) initialiseAndPublish
      (initial (World.cutting (.error (-1))))).view? (fun _ threads ↦ (threads.rpc,
        threads.self.client.isConnected, threads.isDone)) = some (.idle, false, true) := by
    decide +kernel
  obtain ⟨_, threads, hrun, hresult⟩ := Outcome.view?_eq_some_iff.mp hview
  obtain ⟨hrpc, hresult⟩ := Prod.mk.inj hresult
  obtain ⟨hclosed, hcontrol⟩ := Prod.mk.inj hresult
  have hcontrol := isDone_eq_true.mp hcontrol
  obtain ⟨b, packets, hb, -, hpackets⟩ :=
    (interleave_refines (Platform.reference_processesPackets false)
      Paho.reference_serializesSession (World.cutting (.error (-1)))
      (by exact within_initialiseAndPublish) (by decide +kernel)).ok hrun
  obtain ⟨-, rfl, hself⟩ := hpackets hrpc hcontrol
  rw [handled_initialiseAndPublish] at hb
  cases b with
  | closed => exact ⟨threads, hrun, hb⟩
  | opened n => exact absurd (hclosed.symm.trans hself.1) (by decide)

/-- In every interleaving in which no `sem_wait` fails, the broker gets at most one CONNECT, then
the first of the handled messages that are accepted, in their order and with their identifiers,
and then only DISCONNECT packets. -/
theorem interleave_sessionLanguage (hP : P.ProcessesPackets) (hpaho : P.paho.SerializesSession)
    (w : World) {turns : List Turn} (hturns : ∀ turn ∈ turns, turn.Within fuel ports)
    (hwaits : WaitsSucceed P turns (initial w)) :
    Post (interleave P turns) (initial w)
      (fun _ threads ↦ SessionLanguage
        (takenInRun P fuel (handled turns) (initial w).sys).reduceOption
          (sentPackets threads.sys.trace))
      fun _ threads ↦ ∃ taken, taken <+: turns ∧ SessionLanguage
        (takenInRun P fuel (handled taken) (initial w).sys).reduceOption
          (sentPackets threads.sys.trace) := by
  refine (post_interleave_sequential hP w hturns hwaits).mono ?_ ?_
  · intro _ threads h
    obtain ⟨b, packets, hb, hprefix⟩ := h.serves hP hpaho
    exact hb.sessionLanguage.of_prefix hprefix
  · rintro _ threads ⟨taken, htaken, h⟩
    obtain ⟨b, packets, hb, hprefix⟩ := h.serves hP hpaho
    exact ⟨taken, htaken, hb.sessionLanguage.of_prefix hprefix⟩

/-- CONNECT, PUBLISH, DISCONNECT, DISCONNECT. -/
theorem interleave_sessionLanguage_initialiseAndPublish :
    ∃ threads, interleave (Platform.reference false) initialiseAndPublish
        (initial (World.cutting (.error (-1)))) = .ok () threads ∧
      (sentPackets threads.sys.trace).map packetType =
        [some .connect, some .publish, some .disconnect, some .disconnect] ∧
      SessionLanguage (takenInRun (Platform.reference false) 5 [smallPublish, smallPublish]
        (initial (World.cutting (.error (-1)))).sys).reduceOption
          (sentPackets threads.sys.trace) := by
  have hview : (interleave (Platform.reference false) initialiseAndPublish
      (initial (World.cutting (.error (-1))))).view? (fun _ threads ↦
        (sentPackets threads.sys.trace).map packetType) =
          some [some .connect, some .publish, some .disconnect, some .disconnect] := by
    decide +kernel
  obtain ⟨_, threads, hrun, hpackets⟩ := Outcome.view?_eq_some_iff.mp hview
  have hlanguage :=
    (interleave_sessionLanguage (Platform.reference_processesPackets false)
      Paho.reference_serializesSession (World.cutting (.error (-1)))
      (by exact within_initialiseAndPublish) (by decide +kernel)).ok hrun
  rw [handled_initialiseAndPublish] at hlanguage
  exact ⟨threads, hrun, hpackets, hlanguage⟩

end Interleave

end Threads

end DemoIotApp
