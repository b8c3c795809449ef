import DemoIotApp.MqttNet
import DemoIotApp.Platform

/-!
# `MQTT_client.c`: one session with a broker

Every function takes the client by value and returns it as it leaves it. The
wait loop of the source has no bound of its own, so it gets fuel; a run that
uses it up is reported as unfinished and never as a result.
-/

namespace DemoIotApp

open Library

variable {W : Type}

/-! ## Data -/

/-- What a pointer of the component can point to. -/
inductive Ptr where
  | null
  | serverReadBuff (offset : ℕ)
  | tmpBuffer (offset : ℕ)
  deriving DecidableEq

/-- `MQTT_message_t`. The three flags and a padding byte share one word. -/
structure MqttMessage where
  qos : UInt8
  retained : UInt8
  dup : UInt8
  padding : UInt8
  id : UInt16
  payload : Ptr
  payloadlen : ℕ

def MqttMessage.zeroed : MqttMessage := ⟨0, 0, 0, 0, 0, .null, 0⟩

structure MqttClient (W : Type) where
  net : Option (Network W)
  sendbuf : List UInt8
  readbuf : List UInt8
  sendTimeoutMs : ℕ
  keepAliveIntervalMs : ℕ
  nextPacketId : ℕ
  isPingOutstanding : Bool
  isConnected : Bool
  timerLastSend : Timer

/-- A client in zeroed memory: its buffers are null pointers of size zero. -/
def MqttClient.zeroed : MqttClient W where
  net := none
  sendbuf := []
  readbuf := []
  sendTimeoutMs := 0
  keepAliveIntervalMs := 0
  nextPacketId := 0
  isPingOutstanding := false
  isConnected := false
  timerLastSend := timerInit

def maxPacketId : ℕ := 65535

def getNextPacketId (P : Platform) (self : MqttClient W) :
    Prog Stop (Sys W) (ℕ × MqttClient W) := do
  debugAssert P.assertions (self.nextPacketId ≤ maxPacketId)
  let next := if maxPacketId ≤ self.nextPacketId then 1 else self.nextPacketId + 1
  return (next, { self with nextPacketId := next })

/-- The identifier that the next message with quality of service 1 or 2 gets. -/
def publishId (self : MqttClient W) : UInt16 :=
  UInt16.ofNat (if maxPacketId ≤ self.nextPacketId then 1 else self.nextPacketId + 1)

def closeSession (self : MqttClient W) : MqttClient W :=
  { self with isPingOutstanding := false, isConnected := false }

variable [Clock W]

/-! ## Sending -/

/-- An `unsigned int` timeout of `-1` means none. -/
def sendTimer (timeoutMs : ℕ) : Prog Stop (Sys W) (Option Timer) :=
  if timeoutMs ≠ 2 ^ 32 - 1 then do
    let myTimer ← timerCountdown timeoutMs
    return some myTimer
  else
    return none

/-- The body that `sendPacket` of the client shares with that of the server. -/
def sendWithTimeout (net : Option (Network W)) (timeoutMs : ℕ) (packet : List UInt8) :
    Prog Stop (Sys W) ℤ := do
  let timer ← sendTimer timeoutMs
  match net with
  | none => Prog.stop .nullDeref
  | some n => mqttNetworkSendPacket n packet timer

/-- The source restarts `timerLastSend` only after it has returned. -/
def sendPacket (self : MqttClient W) (length : ℕ) : Prog Stop (Sys W) ℤ :=
  sendWithTimeout self.net self.sendTimeoutMs (self.sendbuf.take length)

/-- Serialise into the send buffer and send what was written. -/
def sendSerialized (serialize : Serializer) (self : MqttClient W) :
    Prog Stop (Sys W) (ℤ × MqttClient W) :=
  let out := serialize self.sendbuf
  let self := { self with sendbuf := out.2 }
  if out.1 ≤ 0 then
    return (mqttFailure, self)
  else do
    let ret ← sendPacket self out.1.toNat
    return (if ret ≠ mqttSuccess then mqttFailure else mqttSuccess, self)

def sendConnect (P : Platform) (self : MqttClient W) (options : ConnectData) :
    Prog Stop (Sys W) (ℤ × MqttClient W) :=
  sendSerialized (P.paho.serializeConnect options) self

/-- Alone among the senders it reports success when the transport fails. -/
def sendDisconnect (P : Platform) (self : MqttClient W) :
    Prog Stop (Sys W) (ℤ × MqttClient W) :=
  let out := P.paho.serializeDisconnect self.sendbuf
  let self := { self with sendbuf := out.2 }
  if out.1 ≤ 0 then
    return (mqttFailure, self)
  else do
    let _ ← sendPacket self out.1.toNat
    return (mqttSuccess, self)

def sendPingReq (P : Platform) (self : MqttClient W) :
    Prog Stop (Sys W) (ℤ × MqttClient W) := do
  let (ret, self) ← sendSerialized P.paho.serializePingreq self
  if ret ≠ mqttSuccess then
    return (mqttFailure, self)
  else
    return (mqttSuccess, { self with isPingOutstanding := true })

def sendAck (P : Platform) (self : MqttClient W) (ackType : PacketType) (dup : ℕ)
    (packetId : UInt16) : Prog Stop (Sys W) (ℤ × MqttClient W) :=
  sendSerialized (P.paho.serializeAck ackType dup packetId) self

def sendPublish (P : Platform) (self : MqttClient W) (args : PublishArgs) :
    Prog Stop (Sys W) (ℤ × MqttClient W) :=
  sendSerialized (P.paho.serializePublish args) self

/-! ## Receiving -/

/-- The read at the head of `waitForNextPacket`. -/
def receivePacket (P : Platform) (self : MqttClient W) (timer : Option Timer) :
    Prog Stop (Sys W) (ℤ × MqttClient W) :=
  match self.net with
  | none => Prog.stop .nullDeref
  | some n => do
      let (ret, readbuf) ← Sys.observed .readPacket
        (mqttNetworkReadPacket P.paho n self.readbuf timer)
      return (ret, { self with readbuf := readbuf })

/-- The keep-alive interval is set and has passed. -/
def keepAliveExpired (self : MqttClient W) : Prog Stop (Sys W) Bool :=
  if self.keepAliveIntervalMs ≠ 0 then timerIsExpired self.timerLastSend else pure false

/-- The keep-alive part of `waitForNextPacket`. The packet type is `-1` when
nothing was received, and then the function reports success. -/
def keepAlive (P : Platform) (self : MqttClient W) (packetType : ℤ) :
    Prog Stop (Sys W) (ℤ × MqttClient W) := do
  let expired ← keepAliveExpired self
  if expired = true then
    if self.isPingOutstanding then
      return (mqttFailure, self)
    else
      let (ret, self) ← sendPingReq P self
      if ret ≠ mqttSuccess ∧ packetType = -1 then
        return (mqttFailure, self)
      else
        return (if packetType = -1 then mqttSuccess else packetType, self)
  else
    return (if packetType = -1 then mqttSuccess else packetType, self)

def waitForNextPacket (P : Platform) (self : MqttClient W) (timer : Option Timer) :
    Prog Stop (Sys W) (ℤ × MqttClient W) := do
  let (ret, self) ← receivePacket P self timer
  -- a failed read is only logged
  if ret < 0 then
    keepAlive P self (-1)
  else if ret = PacketType.pingresp.code then
    keepAlive P { self with isPingOutstanding := false } ret
  else
    keepAlive P self ret

/-- `timer && TimerIsExpired(timer)` -/
def isTimedOut : Option Timer → Prog Stop (Sys W) Bool
  | none => pure false
  | some timer => timerIsExpired timer

def waitForSpecificPacket (P : Platform) (packetType : ℤ) (timer : Option Timer) :
    (fuel : ℕ) → MqttClient W → Prog Stop (Sys W) (ℤ × MqttClient W)
  | 0, _ => Prog.stop .unfinished
  | fuel + 1, self => do
      let timedOut ← isTimedOut timer
      if timedOut = true then
        return (mqttTimeout, self)
      else
        let (ret, self) ← waitForNextPacket P self timer
        if ret < 0 then
          return (mqttFailure, self)
        else if ret = packetType then
          return (mqttSuccess, self)
        else
          waitForSpecificPacket P packetType timer fuel self

def waitAndReadSpecificAckPacket (P : Platform) (fuel : ℕ) (self : MqttClient W)
    (ackPacketType : PacketType) (data : AckData) (timer : Option Timer) :
    Prog Stop (Sys W) (ℤ × AckData × MqttClient W) := do
  let (ret, self) ← waitForSpecificPacket P ackPacketType.code timer fuel self
  if ret ≠ mqttSuccess then
    return (mqttFailure, data, self)
  else
    let (len, data) := P.paho.deserializeAck self.readbuf
    return (if len ≠ 1 then mqttFailure else mqttSuccess, data, self)

/-! ## Quality of service -/

/-- Wait for an acknowledgement and check its type as `checkPublishQos` does
after each of its waits. -/
def expectAck (P : Platform) (fuel : ℕ) (self : MqttClient W) (ackPacketType : PacketType)
    (data : AckData) (timer : Option Timer) :
    Prog Stop (Sys W) (ℤ × AckData × MqttClient W) := do
  let (ret, data, self) ← waitAndReadSpecificAckPacket P fuel self ackPacketType data timer
  if ret ≠ mqttSuccess then
    return (mqttFailure, data, self)
  else
    debugAssert P.assertions (ackPacketType.code = data.type)
    return (mqttSuccess, data, self)

def checkPublishQos (P : Platform) (fuel : ℕ) (self : MqttClient W) (qos : UInt8)
    (timer : Option Timer) : Prog Stop (Sys W) (ℤ × MqttClient W) :=
  -- the local variable is not initialised in the source
  let ackData : AckData := ⟨0, 0, 0⟩
  if qos = 0 then
    return (mqttSuccess, self)
  else if qos = 1 then do
    let (ret, _, self) ← expectAck P fuel self .puback ackData timer
    return (if ret ≠ mqttSuccess then mqttFailure else mqttSuccess, self)
  else if qos = 2 then do
    let (ret, ackData, self) ← expectAck P fuel self .pubrec ackData timer
    if ret ≠ mqttSuccess then
      return (mqttFailure, self)
    else
      let (ret, self) ← sendAck P self .pubrel 0 ackData.packetId
      if ret ≠ mqttSuccess then
        return (mqttFailure, self)
      else
        let (ret, _, self) ← expectAck P fuel self .pubcomp ackData timer
        return (if ret ≠ mqttSuccess then mqttFailure else mqttSuccess, self)
  else
    return (mqttFailure, self)

/-! ## The interface -/

/-- The part of `MQTT_client_connect` that sends the CONNECT and waits for its answer. -/
def awaitConnack (P : Platform) (fuel : ℕ) (self : MqttClient W) (options : ConnectData)
    (timer : Option Timer) : Prog Stop (Sys W) (ℤ × MqttClient W) := do
  let timerLastSend ← timerCountdown options.keepAliveInterval
  let self := { self with
    keepAliveIntervalMs := options.keepAliveInterval, timerLastSend := timerLastSend }
  let (ret, self) ← sendConnect P self options
  if ret ≠ mqttSuccess then
    return (mqttFailure, self)
  else
    let (ret, self) ← waitForSpecificPacket P PacketType.connack.code timer fuel self
    return (if ret ≠ mqttSuccess then mqttFailure else mqttSuccess, self)

def mqttClientConnect (P : Platform) (fuel : ℕ) (self : MqttClient W)
    (options : Option ConnectData) (data : ConnackData) (timer : Option Timer) :
    Prog Stop (Sys W) (ℤ × ConnackData × MqttClient W) :=
  if self.isConnected then
    return (mqttFailure, data, self)
  else do
    let (ret, self) ← awaitConnack P fuel self (options.getD ConnectData.initializer) timer
    if ret ≠ mqttSuccess then
      return (mqttFailure, data, self)
    else
      let (ret, data) := P.paho.deserializeConnack self.readbuf ⟨0, 0⟩
      if ret ≠ 1 then
        return (mqttFailure, data, self)
      else
        return (mqttSuccess, data,
          { self with isConnected := true, isPingOutstanding := false })

/-- What `MQTT_client_publish` passes to the serialiser. -/
def publishArgs (memory : Ptr → List UInt8) (topicName : Ptr) (msg : MqttMessage) :
    PublishArgs where
  dup := 0
  qos := msg.qos.toNat
  retained := msg.retained.toNat
  packetId := msg.id
  topicName := memory topicName
  payload := memory msg.payload
  payloadLen := toCInt msg.payloadlen

/-- The identifier is drawn for the two levels that are acknowledged. -/
def assignPacketId (P : Platform) (self : MqttClient W) (msg : MqttMessage) :
    Prog Stop (Sys W) (MqttMessage × MqttClient W) :=
  if msg.qos = 1 ∨ msg.qos = 2 then do
    let (id, self) ← getNextPacketId P self
    return ({ msg with id := UInt16.ofNat id }, self)
  else
    return (msg, self)

def mqttClientPublish (P : Platform) (fuel : ℕ) (memory : Ptr → List UInt8)
    (self : MqttClient W) (topicName : Ptr) (msg : MqttMessage) (timer : Option Timer) :
    Prog Stop (Sys W) (ℤ × MqttMessage × MqttClient W) :=
  if ¬self.isConnected then
    return (mqttFailure, msg, closeSession self)
  else do
    let (msg, self) ← assignPacketId P self msg
    let (ret, self) ← sendPublish P self (publishArgs memory topicName msg)
    if ret ≠ mqttSuccess then
      return (mqttFailure, msg, closeSession self)
    else
      let (ret, self) ← checkPublishQos P fuel self msg.qos timer
      if ret ≠ mqttSuccess then
        return (mqttFailure, msg, closeSession self)
      else
        return (mqttSuccess, msg, self)

def mqttClientDisconnect (P : Platform) (self : MqttClient W) :
    Prog Stop (Sys W) (MqttClient W) := do
  let (_, self) ← sendDisconnect P self
  return closeSession self

omit [Clock W] in
/-- The pointers that the source asserts not to be null are buffers here. -/
def mqttClientInit (self : MqttClient W) (net : Network W) (sendTimeoutMs : ℕ)
    (sendbuf readbuf : List UInt8) : MqttClient W :=
  { self with
    net := some net
    sendbuf := sendbuf
    readbuf := readbuf
    sendTimeoutMs := sendTimeoutMs
    keepAliveIntervalMs := 0
    timerLastSend := timerInit
    isConnected := false
    isPingOutstanding := false
    nextPacketId := 1 }

end DemoIotApp
