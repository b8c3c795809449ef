import DemoIotApp.GlueTls
import DemoIotApp.MqttServer

/-!
# `CloudConnector.c`: from the sensor to the cloud

The control thread runs the constructor and the initialisation once. From then
on every call of `cloudConnector_rpc_write` takes the packet that the sensor
has left in its dataport. The semaphore of the component orders the two.
-/

namespace DemoIotApp

open Library

/-! ## Data -/

def pahoTimeoutMsCommand : ℕ := 1000 * 60 * 5

def pahoSendBuffSize : ℕ := 1024

def pahoRecvBuffSize : ℕ := 1024

/-- The four kilobytes that the sensor shares with the component. -/
structure SensorPort where
  bytes : List UInt8
  length_bytes : bytes.length = 4096

structure TmpDataPublish where
  msg : MqttMessage
  szTopic : Ptr
  buffer : List UInt8

structure Counters where
  connect : ℕ
  publish : ℕ

/-- `CC_FSM_t`. The client holds its own buffers; the read buffer of the
server is also read by the handlers. -/
structure CcFsm where
  client : MqttClient World
  server : MqttServer World
  serverReadBuff : List UInt8
  tmpDataPublish : TmpDataPublish
  cnt : Counters

def zeros (n : ℕ) : List UInt8 := List.replicate n 0

namespace CcFsm

def zeroed : CcFsm where
  client := MqttClient.zeroed
  server := MqttServer.zeroed
  serverReadBuff := zeros pahoRecvBuffSize
  tmpDataPublish := ⟨MqttMessage.zeroed, .null, zeros pahoRecvBuffSize⟩
  cnt := ⟨0, 0⟩

/-- What a pointer points to, up to the end of its object. -/
def memory (self : CcFsm) : Ptr → List UInt8
  | .null => []
  | .serverReadBuff offset => self.serverReadBuff.drop offset
  | .tmpBuffer offset => self.tmpDataPublish.buffer.drop offset

end CcFsm

/-! ## The semaphore -/

/-- `sem_wait` takes the token and returns zero, blocks while there is none,
or returns an error and leaves the token. -/
def semWait : Prog Stop (Sys World) ℤ := do
  let ret ← Sys.onWorld (World.ask fun answers k ↦ answers.returnCode .semWait k)
  if ret = 0 then
    let s ← Prog.get
    if s.world.token = false then Prog.stop .blocked
    Prog.modify fun s ↦ { s with world := { s.world with token := false } }
  Sys.log (.call .semWait ret)
  return ret

/-- `sem_post` on a binary semaphore. -/
def semPost : Prog Stop (Sys World) ℤ := do
  let ret ← Sys.onWorld (World.ask fun answers k ↦ answers.returnCode .semPost k)
  if ret = 0 then
    Prog.modify fun s ↦ { s with world := { s.world with token := true } }
  Sys.log (.call .semPost ret)
  return ret

/-! ## A packet of the sensor -/

namespace MqttMessage

/-- The four bytes from `qos` on, as the little-endian `int` that they are
when `&msg->qos` is cast to `int*`. -/
def qosInt : OutPtr MqttMessage ℤ where
  store z msg :=
    let n := (z % 2 ^ 32).toNat
    { msg with
      qos := UInt8.ofNat n
      retained := UInt8.ofNat (n / 2 ^ 8)
      dup := UInt8.ofNat (n / 2 ^ 16)
      padding := UInt8.ofNat (n / 2 ^ 24) }
  load msg := toCInt (msg.qos.toNat + msg.retained.toNat * 2 ^ 8 + msg.dup.toNat * 2 ^ 16 +
    msg.padding.toNat * 2 ^ 24)

/-- The pointers that `do_process_publish` passes for a message. The payload
length is a `size_t` of which only the lower half is written. -/
def out : PublishOut MqttMessage where
  dup := ⟨fun n msg ↦ { msg with dup := UInt8.ofNat n }, fun msg ↦ msg.dup.toNat⟩
  qos := qosInt
  retained := ⟨fun n msg ↦ { msg with retained := UInt8.ofNat n }, fun msg ↦ msg.retained.toNat⟩
  packetId := ⟨fun id msg ↦ { msg with id := id }, MqttMessage.id⟩
  payload :=
    ⟨fun offset msg ↦ { msg with payload := .serverReadBuff offset },
      fun msg ↦ match msg.payload with
        | .serverReadBuff offset => offset
        | _ => 0⟩
  payloadLen :=
    ⟨fun z msg ↦ { msg with
        payloadlen := msg.payloadlen / 2 ^ 32 * 2 ^ 32 + (z % 2 ^ 32).toNat },
      fun msg ↦ toCInt msg.payloadlen⟩

end MqttMessage

/-- Read so many bytes from there. -/
def loadBytes (memory : List UInt8) (len : ℕ) : Prog Stop (Sys World) (List UInt8) :=
  if len ≤ memory.length then pure (memory.take len) else Prog.stop .overread

section Publish

variable (P : Platform)

/-- The part of `do_process_publish` that copies the topic and the payload
into the temporary buffer. -/
def copyPublish (self : CcFsm) (topic : LenString) : Prog Stop (Sys World) (ℤ × CcFsm) :=
  let B := P.managedBuffer
  let tmp := self.tmpDataPublish
  let mb := B.init tmp.buffer
  if B.getFreeSpace mb < P.sizeT (topic.len + 1) then
    return (-1, self)
  else do
    let topicBytes ← loadBytes (self.serverReadBuff.drop topic.data) (P.sizeT topic.len)
    let szTopic := Ptr.tmpBuffer (B.getFreeSpacePtr mb)
    let mb := B.append mb topicBytes
    let mb := B.appendChar mb 0
    let payloadBuffer := Ptr.tmpBuffer (B.getFreeSpacePtr mb)
    if B.getFreeSpace mb < tmp.msg.payloadlen then
      return (-1, { self with
        tmpDataPublish := { tmp with szTopic := szTopic, buffer := B.memory mb } })
    else
      let payloadBytes ← loadBytes (self.memory tmp.msg.payload) tmp.msg.payloadlen
      let mb := B.append mb payloadBytes
      return (0, { self with
        tmpDataPublish :=
          { msg := { tmp.msg with payload := payloadBuffer }
            szTopic := szTopic
            buffer := B.memory mb } })

/-- What `do_process_publish` does with the result of the deserialiser. The
input buffer is always the read buffer of the server. -/
def checkPublish (self : CcFsm) (ret : ℤ) (topic : LenString) (msg : MqttMessage) :
    Prog Stop (Sys World) (ℤ × CcFsm) :=
  let inputBufLen := self.serverReadBuff.length
  if ret ≠ 1 then
    return (-1, { self with tmpDataPublish := { self.tmpDataPublish with msg := msg } })
  else do
    debugAssert P.assertions
      (P.isBufferInBuffer topic.data (P.sizeT topic.len) inputBufLen = true)
    debugAssert P.assertions
      (P.isBufferInBuffer (MqttMessage.out.payload.load msg) msg.payloadlen inputBufLen = true)
    let msg := if msg.qos ≠ 1 then { msg with qos := 1 } else msg
    let self := { self with tmpDataPublish := { self.tmpDataPublish with msg := msg } }
    if msg.dup ≠ 0 then
      return (-1, self)
    else
      copyPublish P self topic

def doProcessPublish (self : CcFsm) : Prog Stop (Sys World) (ℤ × CcFsm) :=
  let (ret, topic, msg) :=
    P.paho.deserializePublish MqttMessage.out self.serverReadBuff self.tmpDataPublish.msg
  checkPublish P self ret topic msg

end Publish

/-! ## Packet handlers -/

section Handlers

variable (P : Platform) (fuel : ℕ)

def handleMqttConnect (self : CcFsm) : Prog Stop (Sys World) (ℤ × CcFsm) := do
  let self := { self with cnt := { self.cnt with connect := self.cnt.connect + 1 } }
  let (_, server) ← mqttServerSendConnAck P self.server 0 0
  return (0, { self with server := server })

def handleMqttPingreq (self : CcFsm) : Prog Stop (Sys World) (ℤ × CcFsm) :=
  return (0, self)

def handleMqttSubscribe (self : CcFsm) : Prog Stop (Sys World) (ℤ × CcFsm) :=
  return (0, self)

def handleMqttUnsupportedPacket (self : CcFsm) : Prog Stop (Sys World) (ℤ × CcFsm) :=
  return (0, self)

/-- The part of `handle_MQTT_PUBLISH` that follows an accepted message. -/
def relayPublish (self : CcFsm) : Prog Stop (Sys World) (ℤ × CcFsm) := do
  let (ret, msg, client) ← mqttClientPublish P fuel self.memory self.client
    self.tmpDataPublish.szTopic self.tmpDataPublish.msg none
  let self := { self with
    client := client, tmpDataPublish := { self.tmpDataPublish with msg := msg } }
  if ret ≠ mqttSuccess then
    let client ← mqttClientDisconnect P self.client
    return (-1, { self with client := client })
  else
    return (0, self)

def handleMqttPublish (self : CcFsm) : Prog Stop (Sys World) (ℤ × CcFsm) := do
  let self := { self with cnt := { self.cnt with publish := self.cnt.publish + 1 } }
  let (ret, self) ← doProcessPublish P self
  if ret ≠ 0 then
    return (0, self)
  else
    relayPublish P fuel self

/-- The `switch` of `handle_CC_FSM_NEW_MESSAGE`. -/
def dispatchPacket (self : CcFsm) (packetType : ℕ) : Prog Stop (Sys World) (ℤ × CcFsm) :=
  match PacketType.ofCode packetType with
  | some .connect => handleMqttConnect P self
  | some .pingreq => handleMqttPingreq self
  | some .publish => handleMqttPublish P fuel self
  | some .subscribe => handleMqttSubscribe self
  | some _ => handleMqttUnsupportedPacket self
  | none => return (-1, self)

/-- `handle_CC_FSM_NEW_MESSAGE` up to `sem_post`. -/
def processMessage (self : CcFsm) (sensorPort : SensorPort) :
    Prog Stop (Sys World) (ℤ × CcFsm) := do
  let self := { self with serverReadBuff := sensorPort.bytes.take pahoRecvBuffSize }
  let packetType ← mqttServerReadType self.memory self.server
  dispatchPacket P fuel self packetType

/-- What the handler returned is overwritten by the result of `sem_post`. -/
def handleCcFsmNewMessage (self : CcFsm) (sensorPort : SensorPort) :
    Prog Stop (Sys World) (ℤ × CcFsm) := do
  let (_, self) ← processMessage P fuel self sensorPort
  let ret ← semPost
  return (ret, self)

/-- A failed `sem_wait` is only logged. -/
def cloudConnectorRpcWrite (self : CcFsm) (sensorPort : SensorPort) :
    Prog Stop (Sys World) (ℤ × CcFsm) := do
  let _ ← semWait
  let (ret, self) ← handleCcFsmNewMessage P fuel self sensorPort
  return (if ret ≠ osSuccess then P.osError .generic else osSuccess, self)

end Handlers

/-! ## Initialisation -/

section Init

variable (P : Platform) (fuel : ℕ)

/-- `helper_func_getConfigParameter` -/
def getConfigParameter (parameter : ConfigParameter) :
    Prog Stop (Sys World) (ℤ × List UInt8) := do
  let ret ← osCall (.getConfigParameter parameter)
  let s ← Prog.get
  return (ret, s.world.answers.parameter parameter)

/-- The handshake error is lost: the source returns the value of a comparison. -/
def doTlsHandshake : Prog Stop (Sys World) ℤ := do
  let ret ← glueTlsHandshake
  return if ret ≠ osSuccess then 1 else osSuccess

/-- The options point to the static arrays, and nobody asks whether they end with a zero. -/
def setMqttOptions (options : ConnectData) : Prog Stop (Sys World) (ℤ × ConnectData) := do
  let (ret, cloudUsername) ← getConfigParameter .iotHub
  if ret ≠ osSuccess then
    return (ret, options)
  else
    let (ret, cloudSAS) ← getConfigParameter .sharedAccessSignature
    if ret ≠ osSuccess then
      return (ret, options)
    else
      let (ret, cloudDeviceName) ← getConfigParameter .iotDevice
      if ret ≠ osSuccess then
        return (ret, options)
      else
        return (osSuccess, { options with
          willFlag := false
          mqttVersion := 4
          clientId := cloudDeviceName
          username := cloudUsername
          password := cloudSAS
          keepAliveInterval := 0
          cleansession := true
          will := ⟨asciiBytes "will topic", asciiBytes "Famous last words", 0, 0⟩ })

/-- The serialiser of the CONNECT takes the lengths of the three settings with `strlen`. A
client that is connected already sends none. -/
def readConnectSettings (client : MqttClient World) : Prog Stop (Sys World) Unit :=
  if client.isConnected then
    return ()
  else do
    readSetting .iotDevice
    readSetting .iotHub
    readSetting .sharedAccessSignature

/-- The data of the CONNACK is a local variable that nothing reads. -/
def doMqttConnect (client : MqttClient World) (options : ConnectData) :
    Prog Stop (Sys World) (ℤ × MqttClient World) := do
  readConnectSettings client
  let (ret, _, client) ← mqttClientConnect P fuel client (some options) ⟨0, 0⟩ none
  return (if ret ≠ mqttSuccess then -1 else 0, client)

/-- `handle_CC_FSM_INIT` from `do_mqtt_connect` on. -/
def openSession (self : CcFsm) (options : ConnectData) : Prog Stop (Sys World) (ℤ × CcFsm) := do
  let (ret, client) ← doMqttConnect P fuel self.client options
  let self := { self with client := client }
  if ret ≠ 0 then
    return (ret, self)
  else
    let ret ← semPost
    return (ret, self)

/-- `handle_CC_FSM_INIT` from the line on that logs the address for `glue_tls_init`. -/
def establishSession (self : CcFsm) (options : ConnectData) :
    Prog Stop (Sys World) (ℤ × CcFsm) := do
  readSetting .cloudServiceIP
  let ret ← glueTlsInit P fuel
  if ret ≠ osSuccess then
    return (ret, self)
  else
    let ret ← doTlsHandshake
    if ret ≠ osSuccess then
      return (ret, self)
    else
      openSession P fuel self options

def handleCcFsmInit (self : CcFsm) : Prog Stop (Sys World) (ℤ × CcFsm) := do
  let (ret, _) ← getConfigParameter .cloudServiceIP
  if ret ≠ osSuccess then
    return (ret, self)
  else
    let (ret, _) ← getConfigParameter .serverPort
    if ret ≠ osSuccess then
      return (ret, self)
    else
      let (ret, _) ← getConfigParameter .serverCaCert
      if ret ≠ osSuccess then
        return (ret, self)
      else
        let (ret, options) ← setMqttOptions ConnectData.initializer
        if ret ≠ osSuccess then
          return (ret, self)
        else
          establishSession P fuel self options

/-- `CC_FSM_ctor`. Only the `Network` of the cloud session gets its functions. -/
def ccFsmCtor : Prog Stop (Sys World) (ℤ × CcFsm) := do
  let self := CcFsm.zeroed
  let err ← osCall .initConfigHandle
  if err ≠ osSuccess then
    return (-1, self)
  else
    return (0, { self with
      client := mqttClientInit self.client (netWan fuel) pahoTimeoutMsCommand
        (zeros pahoSendBuffSize) (zeros pahoRecvBuffSize)
      server := mqttServerInit self.server (Network.unset .lan) pahoTimeoutMsCommand
        (zeros pahoSendBuffSize) (.serverReadBuff 0) })

/-- `run` of the control thread. -/
def run : Prog Stop (Sys World) (ℤ × CcFsm) := do
  let (ret, self) ← ccFsmCtor fuel
  if ret ≠ 0 then
    return (-1, self)
  else
    let (ret, self) ← handleCcFsmInit P fuel self
    return (if ret ≠ 0 then -1 else 0, self)

/-- One call of the sensor. What it returns is for the sensor. -/
def serveMessage (self : CcFsm) (message : SensorPort) : Prog Stop (Sys World) CcFsm := do
  let (_, self) ← cloudConnectorRpcWrite P fuel self message
  return self

/-- One message of the sensor after the other. -/
def serveMessages (self : CcFsm) (messages : List SensorPort) :
    Prog Stop (Sys World) CcFsm :=
  messages.foldlM (serveMessage P fuel) self

/-- The control thread first, and then the messages of the sensor. -/
def runAndServe (messages : List SensorPort) : Prog Stop (Sys World) CcFsm := do
  let (_, self) ← run P fuel
  serveMessages P fuel self messages

end Init

end DemoIotApp
