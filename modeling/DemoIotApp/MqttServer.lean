import DemoIotApp.MqttClient

/-!
# `MQTTServer.c`: the side of the sensor

The server never reads from its network. Its read buffer is the one of the
component, which it only has a pointer to.
-/

namespace DemoIotApp

open Library

variable {W : Type}

structure MqttServer (W : Type) where
  net : Option (Network W)
  sendbuf : List UInt8
  readbuf : Ptr
  socketTimeoutMs : ℕ

def MqttServer.zeroed : MqttServer W := ⟨none, [], .null, 0⟩

/-- `MQTTServerInit` -/
def mqttServerInit (self : MqttServer W) (network : Network W) (socketTimeoutMs : ℕ)
    (sendbuf : List UInt8) (readbuf : Ptr) : MqttServer W :=
  { self with
    net := some network
    socketTimeoutMs := socketTimeoutMs
    sendbuf := sendbuf
    readbuf := readbuf }

/-- `MQTTServer_readType` -/
def mqttServerReadType (memory : Ptr → List UInt8) (self : MqttServer W) :
    Prog Stop (Sys W) ℕ :=
  mqttReadHeader (memory self.readbuf)

variable [Clock W]

/-- `MQTTServer_sendPacket` -/
def mqttServerSendPacket (self : MqttServer W) (length : ℕ) : Prog Stop (Sys W) ℤ :=
  sendWithTimeout self.net self.socketTimeoutMs (self.sendbuf.take length)

/-- `MQTTServer_sendConnAck` -/
def mqttServerSendConnAck (P : Platform) (self : MqttServer W) (connackRc sessionPresent : UInt8) :
    Prog Stop (Sys W) (ℤ × MqttServer W) :=
  let out := P.paho.serializeConnack connackRc sessionPresent self.sendbuf
  let self := { self with sendbuf := out.2 }
  if out.1 ≤ 0 then
    return (mqttFailure, self)
  else do
    let ret ← mqttServerSendPacket self out.1.toNat
    return (ret, self)

end DemoIotApp
