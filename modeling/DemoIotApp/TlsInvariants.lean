import DemoIotApp.ClientInvariants
import DemoIotApp.Transport
import DemoIotApp.WaitLoop

/-!
# Invariants over the TLS connection

Receiving changes what is left of the incoming stream and sending changes the
outgoing one; neither touches the rest of the world. A property that does not
look at what changed is kept, and a property of the outgoing stream only has to
be checked at the packets that are sent.
-/

namespace DemoIotApp

open Library Prog

/-! ## Receiving -/

/-- The state after some receiving. -/
def Receives (s t : Sys World) : Prop :=
  Extends Event.IsReceive s t ∧ ∃ calls rx, t.world = { s.world with calls := calls, rx := rx }

theorem Receives.world (s : Sys World) (calls : ℕ) (rx : List UInt8) :
    Receives s { s with world := { s.world with calls := calls, rx := rx } } :=
  ⟨Extends.of_trace_eq rfl, calls, rx, rfl⟩

theorem Receives.log (s : Sys World) {e : Event World} (he : e.IsReceive) :
    Receives s { s with trace := s.trace ++ [e] } :=
  ⟨⟨[e], rfl, by simpa using he⟩, s.world.calls, s.world.rx, rfl⟩

/-- A property that does not look at what is received. -/
structure ReceiveKeeps (I : Sys World → Prop) (E : Stop → Sys World → Prop) : Prop where
  receives : ∀ s t, I s → Receives s t → I t
  stops : ∀ e s, e = .unfinished ∨ e = .overrun ∨ e = .assertion → I s → E e s

namespace ReceiveKeeps

variable {I : Sys World → Prop} {E : Stop → Sys World → Prop}

theorem readKeeps (R : ReceiveKeeps I E) (netFuel : ℕ) :
    ReadKeeps (netWan netFuel) I fun e s ↦ (e = .unfinished ∨ e = .overrun) ∧ I s where
  read := by
    intro buffer timer hbuffer
    refine Sys.keeps_observed ?_ fun s w w' rc hs ↦ R.receives _ _ hs (Receives.log s ?_)
    swap
    · trivial
    have htimeout : Keeps I (fun e s ↦ (e = .unfinished ∨ e = .overrun) ∧ I s) (fun _ ↦ True)
        (timeoutOf timer) := by
      cases timer with
      | none => exact keeps_pure trivial
      | some timer =>
          exact fun s hs ↦ ⟨trivial, R.receives _ _ hs (Receives.world s _ s.world.rx)⟩
    apply htimeout.bind
    intro timeoutMs _
    apply Sys.keeps_onWorld
    intro s w hw
    have hkeeps := World.keeps_glueTlsMqttRead (I := fun w ↦ I { s with world := w })
      (fun w calls rx hw ↦ R.receives _ _ hw (Receives.world { s with world := w } calls rx))
      netFuel buffer timeoutMs w hw
    apply (hkeeps.and (post_glueTlsMqttRead netFuel buffer timeoutMs w hbuffer)).mono
    · exact fun r w' h ↦ ⟨h.2.1, h.1.2⟩
    · exact fun e w' h ↦ ⟨Or.inl h.1.1, h.1.2⟩
  overrun s hs := ⟨Or.inr rfl, hs⟩

theorem waitKeeps (R : ReceiveKeeps I E) (P : Platform) (netFuel size : ℕ) :
    WaitKeeps P (netWan netFuel) size 0 I E where
  clock s hs := ⟨trivial, R.receives _ _ hs (Receives.world s _ s.world.rx)⟩
  receive := by
    rintro readbuf timer rfl s hs
    have hread := (R.readKeeps netFuel).mqttNetworkReadPacket P.paho readbuf timer
    have hobserved : Keeps I _ _ (Sys.observed .readPacket _) :=
      Sys.keeps_observed hread fun s w w' r hs ↦ R.receives _ _ hs (Receives.log s trivial)
    apply (hobserved s hs).mono (fun _ _ h ↦ h)
    exact fun e t h ↦ R.stops e t (h.1.imp_right Or.inl) h.2
  ping h := absurd rfl h
  unfinished s hs := R.stops _ s (Or.inl rfl) hs
  assertion s hs := R.stops _ s (Or.inr (Or.inr rfl)) hs

end ReceiveKeeps

/-! ## Sending -/

/-- A packet was sent in whole or in part. A run that stopped has no result. -/
structure Sent (packet : List UInt8) (s t : Sys World) (rc : Option ℤ) : Prop where
  world : ∃ calls wire, t.world = { s.world with calls := calls, wire := wire }
  trace : t.trace = s.trace ++ [.sendPacket .wan packet s.world t.world rc]
  wire : ∃ written rest, packet = written ++ rest ∧ t.world.wire = s.world.wire ++ written ∧
    (rc = some mqttSuccess → rest = [])

theorem post_mqttNetworkSendPacket (netFuel : ℕ) (packet : List UInt8) (timer : Option Timer)
    (s : Sys World) :
    Post (mqttNetworkSendPacket (netWan netFuel) packet timer) s
      (fun rc t ↦ Sent packet s t (some rc))
      fun e t ↦ e = .unfinished ∧ Sent packet s t none := by
  unfold mqttNetworkSendPacket
  rw [Sys.post_observed]
  have htimeout : Post (timeoutOf timer) s
      (fun _ t ↦ t.trace = s.trace ∧ ∃ calls, t.world = { s.world with calls := calls })
      fun e t ↦ False := by
    cases timer with
    | none => exact ⟨rfl, s.world.calls, rfl⟩
    | some timer => exact ⟨rfl, s.world.calls + 1, rfl⟩
  rw [mqttNetworkWrite, post_bind]
  apply htimeout.mono _ fun _ _ h ↦ h.elim
  rintro timeoutMs t ⟨htrace, calls, hworld⟩
  have hwire : t.world.wire = s.world.wire := by rw [hworld]
  show Post (Sys.onWorld (glueTlsMqttWrite netFuel packet timeoutMs)) t _ _
  rw [Sys.post_onWorld]
  have hkeeps := World.keeps_glueTlsMqttWrite
    (I := fun w ↦ ∃ calls wire, w = { s.world with calls := calls, wire := wire })
    (by rintro w calls wire ⟨calls', wire', rfl⟩; exact ⟨calls, wire, rfl⟩)
    netFuel packet timeoutMs t.world ⟨calls, _, hworld⟩
  apply (hkeeps.and (post_glueTlsMqttWrite netFuel packet timeoutMs t.world)).mono
  · rintro rc w ⟨⟨-, hw⟩, written, rest, hpacket, hw', hrc⟩
    refine ⟨hw, by rw [htrace]; rfl, written, rest, hpacket, hwire ▸ hw', fun h ↦ ?_⟩
    rcases hrc with ⟨-, hrest⟩ | ⟨hneg, -⟩
    · exact hrest
    · exact absurd hneg (by rw [Option.some.inj h]; decide)
  · rintro e w ⟨⟨he, hw⟩, written, rest, hpacket, hw'⟩
    exact ⟨he, hw, by rw [htrace]; rfl, written, rest, hpacket, hwire ▸ hw', fun h ↦ nomatch h⟩

/-- What holds behind a packet only has to be checked at the packets that are sent. -/
theorem sendLeaves_netWan {I J K : Sys World → Prop} {E : Stop → Sys World → Prop}
    {Q : List UInt8 → Prop} (netFuel : ℕ) (hbefore : ∀ s, I s → J s) (hafter : ∀ s, K s → J s)
    (hsent : ∀ packet s t rc, Q packet → I s → Sent packet s t rc →
      J t ∧ (rc = some mqttSuccess → K t))
    (hstop : ∀ s, J s → E .unfinished s) : SendLeaves (netWan netFuel) Q I J K E where
  before := hbefore
  after := hafter
  send := by
    intro packet timer hQ s hs
    apply (post_mqttNetworkSendPacket netFuel packet timer s).mono
    · intro rc t ht
      obtain ⟨hJ, hK⟩ := hsent packet s t _ hQ hs ht
      exact ⟨trivial, hJ, fun hrc ↦ hK (congrArg some hrc)⟩
    · rintro e t ⟨rfl, ht⟩
      exact hstop t (hsent packet s t _ hQ hs ht).1

theorem sendKeeps_netWan {I : Sys World → Prop} {E : Stop → Sys World → Prop}
    {Q : List UInt8 → Prop} (netFuel : ℕ)
    (hsent : ∀ packet s t rc, Q packet → I s → Sent packet s t rc → I t)
    (hstop : ∀ s, I s → E .unfinished s) : SendKeeps (netWan netFuel) Q I E := by
  intro packet timer hQ
  have hleaves : SendLeaves (netWan netFuel) Q I I I E :=
    sendLeaves_netWan netFuel (fun _ hs ↦ hs) (fun _ hs ↦ hs)
      (fun packet s t rc hQ hs hsent' ↦
        have ht := hsent packet s t rc hQ hs hsent'
        ⟨ht, fun _ ↦ ht⟩) hstop
  exact (hleaves.send packet timer hQ).keeps

/-! ## A network without functions -/

/-- A packet handed to it calls a null pointer, and no byte is written. -/
theorem keeps_mqttNetworkSendPacket_unset {W : Type} [Clock W] {I : Sys W → Prop}
    {E : Stop → Sys W → Prop} (link : Link) (packet : List UInt8) (timer : Option Timer)
    (hclock : ∀ s, I s → I (afterClock s))
    (hstop : ∀ s before, I s → E .nullCall { s with
      trace := s.trace ++ [.sendPacket link packet before s.world none] }) :
    Keeps I E (fun _ ↦ False) (mqttNetworkSendPacket (Network.unset link) packet timer) := by
  intro s hs
  unfold mqttNetworkSendPacket
  rw [Sys.post_observed]
  cases timer with
  | none => exact hstop s _ hs
  | some timer => exact hstop (afterClock s) _ (hclock s hs)

theorem sendKeeps_unset {W : Type} [Clock W] {I : Sys W → Prop} {E : Stop → Sys W → Prop}
    {Q : List UInt8 → Prop} (link : Link) (hclock : ∀ s, I s → I (afterClock s))
    (hstop : ∀ s packet before, I s → E .nullCall { s with
      trace := s.trace ++ [.sendPacket link packet before s.world none] }) :
    SendKeeps (Network.unset link) Q I E :=
  fun packet timer _ ↦ (keeps_mqttNetworkSendPacket_unset link packet timer hclock
    fun s before hs ↦ hstop s packet before hs).mono fun _ h ↦ h.elim

end DemoIotApp
