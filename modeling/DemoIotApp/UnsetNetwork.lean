import DemoIotApp.Relay

/-!
# The network of the server

The constructor gives functions to the network of the cloud session only. The
server never reads from its own network, and it writes to it in one place: the
answer to a CONNECT of the sensor.
-/

namespace DemoIotApp

open Library Prog

section Connect

variable {P : Platform} {netFuel fuel : ℕ} {self : CcFsm} {ret : ℤ}

/-- The answer to a CONNECT never gets further than that. -/
theorem keeps_handleMqttConnect_nullCall (hP : P.ProcessesPackets) (hself : self.Ready netFuel) :
    Keeps (fun _ ↦ True) (fun e _ ↦ e = .nullCall) (fun _ ↦ False) (handleMqttConnect P self) := by
  have hpos := serializeConnack_pos hP hself
  have hclock : Keeps (fun _ : Sys World ↦ True) (fun e _ ↦ e = .nullCall) (fun _ ↦ True)
      readClock := fun _ _ ↦ ⟨trivial, trivial⟩
  have hconnack : Keeps (fun _ ↦ True) (fun e _ ↦ e = .nullCall) (fun _ ↦ False)
      (mqttServerSendConnAck P self.server 0 0) := by
    refine keeps_ite (fun hle ↦ by omega) fun _ ↦ ?_
    unfold mqttServerSendPacket
    dsimp only
    rw [hself.net]
    have hsend : ∀ packet, Keeps (fun _ : Sys World ↦ True) (fun e _ ↦ e = .nullCall)
        (fun _ ↦ False) (sendWithTimeout (some (Network.unset .lan)) self.server.socketTimeoutMs
          packet) :=
      fun packet ↦ (keeps_sendTimer hclock self.server.socketTimeoutMs).bind fun timer _ ↦
        keeps_mqttNetworkSendPacket_unset .lan packet timer (fun _ _ ↦ trivial) fun _ _ _ ↦ rfl
    exact (hsend _).bind fun _ h ↦ h.elim
  exact hconnack.bind fun _ h ↦ h.elim

/-- Nothing else of the component calls an unset function. -/
theorem keeps_processMessage_of_not_connect (fuel : ℕ) (hP : P.ProcessesPackets)
    {sensorPort : SensorPort}
    (htype : headerType (sensorPort.bytes.headD 0) ≠ PacketType.connect.code)
    (hself : self.Ready netFuel) :
    Keeps (fun _ ↦ True) (fun e _ ↦ e ≠ .nullCall) (fun r ↦ r.2.Ready netFuel)
      (processMessage P fuel self sensorPort) := by
  have R : ReceiveKeeps (fun _ ↦ True) fun e _ ↦ e ≠ .nullCall := by
    refine ⟨fun _ _ _ _ ↦ trivial, ?_⟩
    rintro e s (rfl | rfl | rfl) - <;> decide
  exact keeps_processMessage fuel (R.waitKeeps P netFuel pahoRecvBuffSize) hP
    (fun _ _ ↦ by decide)
    (sendKeeps_netWan netFuel (fun _ _ _ _ _ _ _ ↦ trivial) fun _ _ ↦ by decide)
    P.paho.sendsOnly_true sensorPort (fun h ↦ absurd h htype) hself

/-- A message calls an unset network function exactly when it is a CONNECT and
the constructor has succeeded. -/
theorem nullCall_iff (hP : P.ProcessesPackets) (hself : Reachable P ret self)
    (sensorPort : SensorPort) (s : Sys World) :
    (∃ t, handleCcFsmNewMessage P fuel self sensorPort s = .stop .nullCall t) ↔
      headerType (sensorPort.bytes.headD 0) = PacketType.connect.code ∧ ret = 0 := by
  by_cases hret : ret = 0
  · subst hret
    obtain ⟨netFuel, hready⟩ := hself.ready hP
    constructor
    · rintro ⟨t, ht⟩
      refine ⟨by_contra fun htype ↦ ?_, rfl⟩
      obtain ⟨u, hu⟩ := handleCcFsmNewMessage_eq_stop ht
      have hkeeps := keeps_processMessage_of_not_connect fuel hP htype hready
      exact (hkeeps s trivial).stop hu rfl
    · rintro ⟨htype, -⟩
      have hconnect : processMessage P fuel self sensorPort s = handleMqttConnect P
          { self with serverReadBuff := sensorPort.bytes.take pahoRecvBuffSize } s := by
        rw [processMessage_eq hready, htype]
        rfl
      have hpost := keeps_handleMqttConnect_nullCall hP (hready.withReadBuff sensorPort) s trivial
      cases hrun : handleMqttConnect P
          { self with serverReadBuff := sensorPort.bytes.take pahoRecvBuffSize } s with
      | ok r t => exact (hpost.ok hrun).1.elim
      | stop e t =>
          obtain rfl : e = .nullCall := hpost.stop hrun
          exact ⟨t, bind_eq_of_stop (hconnect.trans hrun)⟩
  · refine iff_of_false ?_ fun h ↦ hret h.2
    rintro ⟨t, ht⟩
    rw [hself.eq_zeroed hret] at ht
    exact nomatch ht

end Connect

theorem not_nullCall_of_subscribe :
    ¬∃ t, handleCcFsmNewMessage (Platform.reference false) 4 (CcFsm.constructed 4)
      (sensorPortOf [0x82, 0]) ⟨World.steady [], []⟩ = .stop .nullCall t :=
  (nullCall_iff (Platform.reference_processesPackets false) (reachable_constructed _ 4) _ _).not.mpr
    (by decide)

/-- A CONNECT of the sensor calls the write function of the server's network. -/
theorem nullCall_of_connect :
    Reachable (Platform.reference false) 0 (CcFsm.constructed 4) ∧
      ∃ t, handleCcFsmNewMessage (Platform.reference false) 4 (CcFsm.constructed 4)
        (sensorPortOf [0x10, 0]) ⟨World.steady [], []⟩ = .stop .nullCall t :=
  ⟨reachable_constructed _ 4, Outcome.reason?_eq_some_iff.mp (by decide +kernel)⟩

end DemoIotApp
