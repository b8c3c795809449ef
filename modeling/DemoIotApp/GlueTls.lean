import DemoIotApp.MqttNet
import DemoIotApp.Platform

/-!
# `glue_tls_mqtt.c`: the TLS connection under the cloud session

The world behind the component answers its calls one after the other. What it
answers to the `k`-th call is arbitrary and fixed from the start, so that a
statement about every world covers every order of outcomes. Besides that the
world holds the bytes the broker has sent and the component has not read, the
bytes the component has written, and the token of the semaphore.
-/

namespace DemoIotApp

open Library

/-! ## The world -/

/-- The result of `OS_Tls_read` and `OS_Tls_write`. At most as many bytes are
transferred as were asked for. -/
inductive TlsResult where
  | success (actualLen : ℕ)
  | wouldBlock
  | error (code : ℤ)

/-- The states of the network stack that `waitForNetworkStackInit` tells apart. -/
inductive NetworkStackState where
  | running
  | fatalError
  | other

/-- `OS_Socket_Evt_t`, with one flag for each bit of the mask that is tested. -/
structure SocketEvent where
  socketHandle : ℤ
  fin : Bool
  connEst : Bool
  close : Bool
  error : Bool
  currentError : ℤ

/-- What the world answers, by the number of calls made before. -/
structure Answers where
  timerNow : ℕ → ℕ
  getTime : ℕ → Option UInt64
  tlsWrite : ℕ → TlsResult
  tlsRead : ℕ → TlsResult
  returnCode : Call → ℕ → ℤ
  parameter : ConfigParameter → List UInt8
  networkStackState : ℕ → NetworkStackState
  handleId : ℕ → ℤ
  numberOfSocketsWithEvents : ℕ → ℤ
  socketEvent : ℕ → SocketEvent

structure World where
  answers : Answers
  calls : ℕ
  /-- What the broker has sent and was not read yet. -/
  rx : List UInt8
  /-- Everything written on the TLS connection. -/
  wire : List UInt8
  token : Bool

namespace World

/-- Make a call and get its answer. -/
def ask {α : Type} (question : Answers → ℕ → α) : Prog Stop World α := fun w ↦
  .ok (question w.answers w.calls) { w with calls := w.calls + 1 }

instance : Clock World where
  now w := (w.answers.timerNow w.calls, { w with calls := w.calls + 1 })

end World

/-- A call that only answers with a return code. -/
def osCall (call : Call) : Prog Stop (Sys World) ℤ := do
  let ret ← Sys.onWorld (World.ask fun answers k ↦ answers.returnCode call k)
  Sys.log (.call call ret)
  return ret

namespace Sys

variable (s : Sys World) (call : Call)

/-- The system after one more answer of the world. -/
def asked : Sys World := { s with world := { s.world with calls := s.world.calls + 1 } }

/-- The return code of the next call. -/
def nextCode : ℤ := s.world.answers.returnCode call s.world.calls

/-- The system after this call. -/
def called : Sys World := { s.asked with trace := s.trace ++ [.call call (s.nextCode call)] }

@[simp] theorem asked_calls : s.asked.world.calls = s.world.calls + 1 := rfl

end Sys

theorem osCall_apply (call : Call) (s : Sys World) :
    osCall call s = .ok (s.nextCode call) (s.called call) := rfl

theorem onWorld_ask_apply {α : Type} (question : Answers → ℕ → α) (s : Sys World) :
    Sys.onWorld (World.ask question) s =
      .ok (question s.world.answers s.world.calls) s.asked := rfl

/-- The static array of a setting is read as a C string, up to its zero. -/
def readSetting (parameter : ConfigParameter) : Prog Stop (Sys World) Unit := do
  let s ← Prog.get
  if 0 ∈ s.world.answers.parameter parameter then
    return ()
  else
    Prog.stop .overread

/-! ## The connection is set up -/

def waitForNetworkStackInit (P : Platform) : (fuel : ℕ) → Prog Stop (Sys World) ℤ
  | 0 => Prog.stop .unfinished
  | fuel + 1 => do
      match ← Sys.onWorld (World.ask Answers.networkStackState) with
      | .running => return osSuccess
      | .fatalError => return P.osError .aborted
      | .other => waitForNetworkStackInit P fuel

/-- The loop of `connectSocket`. -/
def waitForConnection (P : Platform) (handleId : ℤ) : (fuel : ℕ) → Prog Stop (Sys World) ℤ
  | 0 => Prog.stop .unfinished
  | fuel + 1 => do
      let ret ← osCall .socketWait
      if ret ≠ osSuccess then return ret
      let ret ← osCall .socketGetPendingEvents
      if ret ≠ osSuccess then return ret
      let count ← Sys.onWorld (World.ask Answers.numberOfSocketsWithEvents)
      if count = 0 then
        waitForConnection P handleId fuel
      else if count ≠ 1 then
        return P.osError .invalidState
      else
        let event ← Sys.onWorld (World.ask Answers.socketEvent)
        if event.socketHandle ≠ handleId then
          return P.osError .invalidHandle
        else if event.fin then
          return P.osError .networkConnRefused
        else if event.connEst then
          return osSuccess
        else if event.close then
          return P.osError .connectionClosed
        else if event.error then
          return event.currentError
        else
          waitForConnection P handleId fuel

def connectSocket (P : Platform) (fuel : ℕ) : Prog Stop (Sys World) ℤ := do
  let ret ← osCall .socketCreate
  if ret ≠ osSuccess then return ret
  let handleId ← Sys.onWorld (World.ask Answers.handleId)
  let ret ← osCall (.socketConnect handleId)
  if ret ≠ osSuccess then
    let _ ← osCall (.socketClose handleId)
    return ret
  let ret ← waitForConnection P handleId fuel
  if ret ≠ osSuccess then
    let _ ← osCall (.socketClose handleId)
    return ret
  return ret

def glueTlsInit (P : Platform) (fuel : ℕ) : Prog Stop (Sys World) ℤ := do
  let ret ← osCall .cryptoInit
  if ret ≠ osSuccess then return ret
  -- the certificate is handed over without its length
  readSetting .serverCaCert
  let ret ← osCall .tlsInit
  if ret ≠ osSuccess then return ret
  let ret ← waitForNetworkStackInit P fuel
  if ret ≠ osSuccess then return ret
  let ret ← connectSocket P fuel
  if ret ≠ osSuccess then return ret
  return osSuccess

def glueTlsHandshake : Prog Stop (Sys World) ℤ := do
  let ret ← osCall .tlsHandshake
  if ret ≠ osSuccess then return ret
  return osSuccess

/-! ## Bytes in and out -/

/-- A failed reading counts as zero. -/
def glueTlsMqttGetTimeMs : Prog Stop World UInt64 := do
  let ms ← World.ask Answers.getTime
  return ms.getD 0

/-- `OS_Tls_write`: the bytes it takes go out in the order they were given. -/
def osTlsWrite (bytes : List UInt8) : Prog Stop World TlsResult := do
  match ← World.ask Answers.tlsWrite with
  | .success actualLen =>
      let actualLen := min actualLen bytes.length
      Prog.modify fun w ↦ { w with wire := w.wire ++ bytes.take actualLen }
      return .success actualLen
  | result => return result

/-- `OS_Tls_read`: no more is delivered than was asked for and has arrived. -/
def osTlsRead (len : ℕ) : Prog Stop World (TlsResult × List UInt8) := do
  match ← World.ask Answers.tlsRead with
  | .success actualLen =>
      let w ← Prog.get
      let bytes := w.rx.take (min actualLen len)
      Prog.modify fun w ↦ { w with rx := w.rx.drop (min actualLen len) }
      return (.success bytes.length, bytes)
  | result => return (result, [])

/-- The comparison is unsigned: a timeout of `-1` is the largest number. -/
def withinTimeout (entryTime now : UInt64) (timeoutMs : ℤ) : Bool :=
  decide (now - entryTime < UInt64.ofInt timeoutMs)

/-- The loop of `glue_tls_mqtt_write` on what is still to be written. -/
def writeRemaining (entryTime : UInt64) (timeoutMs : ℤ) :
    (fuel : ℕ) → List UInt8 → Prog Stop World ℤ
  | 0, _ => Prog.stop .unfinished
  | fuel + 1, remaining =>
      if remaining = [] then
        return mqttSuccess
      else do
        let now ← glueTlsMqttGetTimeMs
        if withinTimeout entryTime now timeoutMs = false then
          return mqttTimeout
        else
          match ← osTlsWrite remaining with
          | .success actualLen =>
              writeRemaining entryTime timeoutMs fuel (remaining.drop actualLen)
          | .wouldBlock => writeRemaining entryTime timeoutMs fuel remaining
          | .error _ => return mqttFailure

def glueTlsMqttWrite (fuel : ℕ) (buf : List UInt8) (timeoutMs : ℤ) : Prog Stop World ℤ := do
  let entryTime ← glueTlsMqttGetTimeMs
  if entryTime = 0 then
    return mqttFailure
  else
    writeRemaining entryTime timeoutMs fuel buf

/-- The loop of `glue_tls_mqtt_read`. The buffer holds what was received, and
zeros behind it. -/
def readRemaining (entryTime : UInt64) (timeoutMs : ℤ) :
    (fuel : ℕ) → (received : List UInt8) → (remainingLen : ℕ) →
      Prog Stop World (ℤ × List UInt8)
  | 0, _, _ => Prog.stop .unfinished
  | fuel + 1, received, remainingLen =>
      if remainingLen = 0 then
        return (mqttSuccess, received)
      else do
        let now ← glueTlsMqttGetTimeMs
        if withinTimeout entryTime now timeoutMs = false then
          return (mqttTimeout, received ++ List.replicate remainingLen 0)
        else
          match ← osTlsRead remainingLen with
          | (.success actualLen, bytes) =>
              readRemaining entryTime timeoutMs fuel (received ++ bytes)
                (remainingLen - actualLen)
          | (.wouldBlock, _) => readRemaining entryTime timeoutMs fuel received remainingLen
          | (.error _, _) => return (mqttFailure, received ++ List.replicate remainingLen 0)

def glueTlsMqttRead (fuel : ℕ) (buf : List UInt8) (timeoutMs : ℤ) :
    Prog Stop World (ℤ × List UInt8) := do
  let entryTime ← glueTlsMqttGetTimeMs
  if entryTime = 0 then
    return (mqttFailure, buf)
  else
    readRemaining entryTime timeoutMs fuel [] buf.length

/-- The `Network` of the cloud session. -/
def netWan (fuel : ℕ) : Network World where
  link := .wan
  mqttread := some (glueTlsMqttRead fuel)
  mqttwrite := some (glueTlsMqttWrite fuel)

end DemoIotApp
