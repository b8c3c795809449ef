import DemoIotApp.CloudConnector
import DemoIotApp.DomainLookup

/-!
# `SensorTemp.c`: the message of the sensor

The sensor reads a payload and a topic from its settings, serialises them into one packet
and hands this packet to the CloudConnector in every turn of an endless loop. Both settings
are blobs that are used as strings: nothing but the zeros behind them in the two arrays ends
them.
-/

namespace DemoIotApp

open Library Prog

/-! ## The program -/

def domainSensor : CStr := ⟨asciiBytes "Domain-Sensor", by decide⟩

def mqttPayloadName : CStr := ⟨asciiBytes "MQTT_Payload", by decide⟩

def mqttTopicName : CStr := ⟨asciiBytes "MQTT_Topic", by decide⟩

/-- What the sensor is connected to. The answers of its calls are return codes, that of
`cloudConnector_rpc_write` for each call of it. -/
structure Sensor where
  platform : Platform
  config : ConfigService
  createHandleRemote : ℤ
  timeServerPeriodic : ℤ
  cloudConnectorWrite : ℕ → ℤ
  /-- What the local buffer holds before the packet is written. -/
  serializedMsg : List UInt8
  length_serializedMsg : serializedMsg.length = 320

/-- The dataport, and the packets that were handed over in it: the length that was passed and
the bytes that the port then held. -/
structure SensorState where
  port : SensorPort
  sent : List (ℤ × List UInt8)

/-- `memcpy` to the start of the port -/
def SensorPort.store (port : SensorPort) (bytes : List UInt8) (h : bytes.length ≤ 4096) :
    SensorPort where
  bytes := bytes ++ port.bytes.drop bytes.length
  length_bytes := by
    rw [List.length_append, List.length_drop, port.length_bytes]
    omega

namespace Sensor

variable (S : Sensor)

def initializeSensor : ℤ :=
  if S.createHandleRemote ≠ osSuccess then S.createHandleRemote
  else if 0 ≠ S.timeServerPeriodic then -1
  else osSuccess

/-- `CloudConnector_write`. The length is converted to `size_t`. -/
def write (msg : List UInt8) (len : ℤ) : Prog Stop SensorState ℤ :=
  let size := S.platform.sizeT len
  if msg.length < size then
    Prog.stop .overread
  else if h : (msg.take size).length ≤ 4096 then do
    let s ← Prog.get
    let port := s.port.store (msg.take size) h
    Prog.modify fun s ↦ ⟨port, s.sent ++ [(len, port.bytes)]⟩
    return S.cloudConnectorWrite s.sent.length
  else
    Prog.stop .overrun

/-- The loop of `run`. -/
def sendForever (msg : List UInt8) (len : ℤ) : (turns : ℕ) → Prog Stop SensorState ℤ
  | 0 => Prog.stop .unfinished
  | turns + 1 => do
      let _ ← S.write msg len
      sendForever msg len turns

/-- `helper_func_getConfigParameter` into an array of the sensor. -/
def getConfig (fuel : ℕ) (parameterName : CStr) (array : List UInt8) :
    Prog Stop SensorState (ℤ × List UInt8) :=
  match S.config.getConfigParameter fuel domainSensor.memory parameterName.memory array
      array.length with
  | none => Prog.stop .unfinished
  | some r => return r

/-- `strlen`, which runs over the end of an array without a zero. -/
def stringLength (array : List UInt8) : Prog Stop SensorState ℕ :=
  match strlen array with
  | none => Prog.stop .overread
  | some n => return n

/-- From the settings on. The topic is read as a string by the serialiser. -/
def publishForever (payload topic : List UInt8) (turns : ℕ) : Prog Stop SensorState ℤ := do
  let payloadLen ← stringLength payload
  let _ ← stringLength topic
  let (len, serializedMsg) := S.platform.paho.serializePublish
    { dup := 0, qos := 1, retained := 0, packetId := 1, topicName := topic, payload := payload,
      payloadLen := toCInt payloadLen } S.serializedMsg
  S.sendForever serializedMsg len turns

def run (fuel turns : ℕ) : Prog Stop SensorState ℤ :=
  let ret := S.initializeSensor
  if ret ≠ osSuccess then
    return ret
  else do
    let (ret, payload) ← S.getConfig fuel mqttPayloadName (zeros 128)
    if ret ≠ osSuccess then
      return ret
    else
      let (ret, topic) ← S.getConfig fuel mqttTopicName (zeros 128)
      if ret ≠ osSuccess then
        return ret
      else
        S.publishForever payload topic turns

end Sensor

end DemoIotApp
