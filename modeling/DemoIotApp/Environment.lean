import DemoIotApp.Library.Prog
import Mathlib.Algebra.Group.Int.Defs
import Mathlib.Algebra.Group.Nat.Defs
import Mathlib.Order.Nat

/-!
# The environment of the component

The functions of the component run in a world of their own: the transport, the
clock and the other components. The model never looks inside it. It keeps a
trace of the calls that cross the border, with the world before and after each
of them.
-/

namespace DemoIotApp

open Library

/-- Why a run ends before its function returns. -/
inductive Stop where
  /-- A function pointer that was never set is called. -/
  | nullCall
  /-- A null pointer is read. -/
  | nullDeref
  /-- A store outside its object. -/
  | overrun
  /-- A load outside its object. -/
  | overread
  /-- `Debug_ASSERT` fails in a build that checks it. -/
  | assertion
  /-- The semaphore has no token to give. -/
  | blocked
  /-- The run was observed no further. -/
  | unfinished
  deriving DecidableEq

/-- Which of the two `Network` objects of the component a packet is handed to. -/
inductive Link where
  | wan
  | lan
  deriving DecidableEq

/-- The settings that the component asks the configuration server for. -/
inductive ConfigParameter where
  | cloudServiceIP
  | serverPort
  | serverCaCert
  | iotHub
  | sharedAccessSignature
  | iotDevice
  deriving DecidableEq

/-- The calls to other components that answer with a return code. -/
inductive Call where
  | initConfigHandle
  | getConfigParameter (parameter : ConfigParameter)
  | cryptoInit
  | tlsInit
  | socketCreate
  | socketConnect (handleId : ℤ)
  | socketWait
  | socketGetPendingEvents
  | socketClose (handleId : ℤ)
  | tlsHandshake
  | semWait
  | semPost
  deriving DecidableEq

/-- The calls that the trace remembers. A call that stopped has no result. -/
inductive Event (W : Type) where
  /-- `MQTT_network_read` of so many bytes. -/
  | read (len : ℕ) (before after : W) (rc : Option ℤ)
  /-- A packet handed to `MQTT_network_sendPacket`. -/
  | sendPacket (link : Link) (packet : List UInt8) (before after : W) (rc : Option ℤ)
  /-- What `MQTT_network_readPacket` reported to the wait loop. -/
  | readPacket (before after : W) (result : Option (ℤ × List UInt8))
  /-- A call to another component and its return code. -/
  | call (call : Call) (rc : ℤ)

structure Sys (W : Type) where
  world : W
  trace : List (Event W)

variable {W α : Type}

namespace Sys

def onWorld (m : Prog Stop W α) : Prog Stop (Sys W) α :=
  Prog.zoom Sys.world (fun w s ↦ { s with world := w }) m

/-- Run a program and append what it did to the trace. -/
def observed (event : W → W → Option α → Event W) (m : Prog Stop (Sys W) α) :
    Prog Stop (Sys W) α :=
  Prog.recorded (fun s a t ↦ { t with trace := t.trace ++ [event s.world t.world a] }) m

def log (event : Event W) : Prog Stop (Sys W) Unit :=
  Prog.modify fun s ↦ { s with trace := s.trace ++ [event] }

theorem post_onWorld {m : Prog Stop W α} {s : Sys W} {Q : α → Sys W → Prop}
    {E : Stop → Sys W → Prop} :
    Prog.Post (onWorld m) s Q E ↔ Prog.Post m s.world (fun a w ↦ Q a { s with world := w })
      fun e w ↦ E e { s with world := w } :=
  Prog.post_zoom

theorem post_observed {event : W → W → Option α → Event W} {m : Prog Stop (Sys W) α} {s : Sys W}
    {Q : α → Sys W → Prop} {E : Stop → Sys W → Prop} :
    Prog.Post (observed event m) s Q E ↔ Prog.Post m s
      (fun a t ↦ Q a { t with trace := t.trace ++ [event s.world t.world (some a)] })
      fun e t ↦ E e { t with trace := t.trace ++ [event s.world t.world none] } :=
  Prog.post_recorded

/-- A property of the system that a program of the world keeps from every trace. -/
theorem keeps_onWorld {I : Sys W → Prop} {A : Stop → Prop} {V : α → Prop} {m : Prog Stop W α}
    (h : ∀ s : Sys W, Prog.Keeps (fun w ↦ I { s with world := w })
      (fun e w ↦ A e ∧ I { s with world := w }) V m) :
    Prog.Keeps I (fun e s ↦ A e ∧ I s) V (onWorld m) :=
  fun s hs ↦ post_onWorld.mpr (h s s.world hs)

theorem keeps_observed {I : Sys W → Prop} {A : Stop → Prop} {V : α → Prop}
    {event : W → W → Option α → Event W} {m : Prog Stop (Sys W) α}
    (h : Prog.Keeps I (fun e s ↦ A e ∧ I s) V m)
    (hlog : ∀ s w w' a, I s → I { s with trace := s.trace ++ [event w w' a] }) :
    Prog.Keeps I (fun e s ↦ A e ∧ I s) V (observed event m) :=
  fun s hs ↦ post_observed.mpr ((h s hs).mono (fun _ _ ht ↦ ⟨ht.1, hlog _ _ _ _ ht.2⟩)
    fun _ _ ht ↦ ⟨ht.1, hlog _ _ _ _ ht.2⟩)

end Sys

/-- `Debug_ASSERT`, in a build that checks assertions or in one that does not. -/
def debugAssert (enabled : Bool) (condition : Prop) [Decidable condition] :
    Prog Stop (Sys W) Unit :=
  if enabled = true ∧ ¬condition then Prog.stop .assertion else pure ()

theorem post_debugAssert (enabled : Bool) (condition : Prop) [Decidable condition] (s : Sys W) :
    Prog.Post (debugAssert enabled condition) s
      (fun _ t ↦ t = s ∧ (enabled = true → condition))
      fun e t ↦ t = s ∧ e = .assertion ∧ enabled = true ∧ ¬condition := by
  unfold debugAssert
  split
  · exact ⟨rfl, rfl, ‹_›⟩
  · rename_i h
    exact ⟨rfl, fun henabled ↦ by_contra fun hc ↦ h ⟨henabled, hc⟩⟩

/-! ## Timers -/

/-- A clock that timers read. Reading it may change the world. -/
class Clock (W : Type) where
  now : W → ℕ × W

section Timers

variable [Clock W]

def readClock : Prog Stop (Sys W) ℕ :=
  Sys.onWorld fun w ↦ .ok (Clock.now w).1 (Clock.now w).2

/-- A timer is the time at which it expires. -/
structure Timer where
  deadline : ℕ

/-- `TimerInit` -/
def timerInit : Timer := ⟨0⟩

/-- `TimerCountdown` and `TimerCountdownMS`, with the interval in ticks of the
clock that the timer reads. -/
def timerCountdown (interval : ℕ) : Prog Stop (Sys W) Timer := do
  let now ← readClock
  return ⟨now + interval⟩

/-- `TimerIsExpired` -/
def timerIsExpired (timer : Timer) : Prog Stop (Sys W) Bool := do
  let now ← readClock
  return decide (timer.deadline ≤ now)

/-- `TimerLeftMS` -/
def timerLeft (timer : Timer) : Prog Stop (Sys W) ℤ := do
  let now ← readClock
  return ((timer.deadline - now : ℕ) : ℤ)

end Timers

/-! ## How traces grow -/

/-- The trace is extended by events that satisfy `G`. -/
def Extends (G : Event W → Prop) (s t : Sys W) : Prop :=
  ∃ es, t.trace = s.trace ++ es ∧ ∀ e ∈ es, G e

namespace Extends

variable {G G' : Event W → Prop} {s t u : Sys W}

theorem refl (G : Event W → Prop) (s : Sys W) : Extends G s s :=
  ⟨[], by simp, by simp⟩

theorem trans (h : Extends G s t) (h' : Extends G t u) : Extends G s u := by
  obtain ⟨es, hes, hG⟩ := h
  obtain ⟨es', hes', hG'⟩ := h'
  refine ⟨es ++ es', by rw [hes', hes, List.append_assoc], ?_⟩
  intro e he
  rcases List.mem_append.mp he with he | he
  · exact hG e he
  · exact hG' e he

theorem mono (h : Extends G s t) (hG : ∀ e, G e → G' e) : Extends G' s t := by
  obtain ⟨es, hes, hall⟩ := h
  exact ⟨es, hes, fun e he ↦ hG e (hall e he)⟩

theorem of_trace_eq (h : t.trace = s.trace) : Extends G s t :=
  ⟨[], by simp [h], by simp⟩

theorem trace_eq (h : Extends (fun _ ↦ False) s t) : t.trace = s.trace := by
  obtain ⟨es, htrace, hnone⟩ := h
  rw [htrace, List.eq_nil_iff_forall_not_mem.mpr hnone, List.append_nil]

end Extends

/-- Every run of the program extends the trace by events that satisfy `G`. -/
def Emits (G : Event W → Prop) (m : Prog Stop (Sys W) α) : Prop :=
  Prog.Frame (Extends G) m

namespace Emits

variable {G G' : Event W → Prop} {β : Type}

theorem ok {m : Prog Stop (Sys W) α} (h : Emits G m) {s t : Sys W} {a : α}
    (hm : m s = .ok a t) : Extends G s t :=
  Prog.Frame.ok h hm

theorem mono {m : Prog Stop (Sys W) α} (h : Emits G m) (hG : ∀ e, G e → G' e) : Emits G' m :=
  Prog.Frame.mono h fun _ _ hst ↦ hst.mono hG

theorem pure (a : α) : Emits G (Pure.pure a : Prog Stop (Sys W) α) :=
  Prog.frame_pure (Extends.refl G) a

theorem stop (e : Stop) : Emits G (Prog.stop e : Prog Stop (Sys W) α) :=
  Prog.frame_stop (Extends.refl G) e

theorem bind {m : Prog Stop (Sys W) α} {f : α → Prog Stop (Sys W) β} (hm : Emits G m)
    (hf : ∀ a, Emits G (f a)) : Emits G (m >>= f) :=
  Prog.frame_bind (fun _ _ _ ↦ Extends.trans) hm hf

theorem ite {c : Prop} [Decidable c] {m n : Prog Stop (Sys W) α} (hm : Emits G m)
    (hn : Emits G n) : Emits G (if c then m else n) :=
  Prog.frame_ite hm hn

theorem onWorld (m : Prog Stop W α) : Emits G (Sys.onWorld m) := by
  intro s
  apply Extends.of_trace_eq
  unfold Sys.onWorld Prog.zoom
  cases m s.world <;> rfl

theorem observed {event : W → W → Option α → Event W} {m : Prog Stop (Sys W) α}
    (hm : Emits G m) (he : ∀ w w' a, G (event w w' a)) : Emits G (Sys.observed event m) := by
  intro s
  obtain ⟨es, hes, hG⟩ := hm s
  unfold Sys.observed Prog.recorded
  cases h : m s with
  | ok a t =>
      rw [h] at hes
      refine ⟨es ++ [event s.world t.world (some a)], ?_, ?_⟩
      · simp only [Outcome.state_ok] at hes ⊢
        rw [hes, List.append_assoc]
      · intro e hmem
        rcases List.mem_append.mp hmem with hmem | hmem
        · exact hG e hmem
        · exact List.mem_singleton.mp hmem ▸ he _ _ _
  | stop e t =>
      rw [h] at hes
      refine ⟨es ++ [event s.world t.world none], ?_, ?_⟩
      · simp only [Outcome.state_stop] at hes ⊢
        rw [hes, List.append_assoc]
      · intro e' hmem
        rcases List.mem_append.mp hmem with hmem | hmem
        · exact hG e' hmem
        · exact List.mem_singleton.mp hmem ▸ he _ _ _

theorem debugAssert (enabled : Bool) (c : Prop) [Decidable c] :
    Emits G (DemoIotApp.debugAssert enabled c : Prog Stop (Sys W) Unit) :=
  ite (stop _) (pure _)

variable [Clock W]

theorem readClock : Emits G (DemoIotApp.readClock : Prog Stop (Sys W) ℕ) := onWorld _

theorem timerCountdown (interval : ℕ) :
    Emits G (DemoIotApp.timerCountdown interval : Prog Stop (Sys W) Timer) :=
  readClock.bind fun _ ↦ pure _

theorem timerIsExpired (timer : Timer) :
    Emits G (DemoIotApp.timerIsExpired timer : Prog Stop (Sys W) Bool) :=
  readClock.bind fun _ ↦ pure _

theorem timerLeft (timer : Timer) :
    Emits G (DemoIotApp.timerLeft timer : Prog Stop (Sys W) ℤ) :=
  readClock.bind fun _ ↦ pure _

end Emits

end DemoIotApp
