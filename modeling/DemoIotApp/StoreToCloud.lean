import DemoIotApp.ConfigStore
import DemoIotApp.SensorToCloud

/-!
# From the configuration to the cloud

The sensor and the component read their settings from one configuration. If it has them and they
fit, nothing else is needed from it: the settings of the one become the messages, and those of the
other open the session in which they are sent.
-/

namespace DemoIotApp

open Library Prog

/-! ## The settings of the component -/

def domainCloudConnector : CStr := ⟨asciiBytes "Domain-CloudConnector", by decide⟩

namespace ConfigParameter

def parameterName : ConfigParameter → CStr
  | cloudServiceIP => ⟨asciiBytes "CloudServiceIP", by decide⟩
  | serverPort => ⟨asciiBytes "ServerPort", by decide⟩
  | serverCaCert => ⟨asciiBytes "ServerCaCert", by decide⟩
  | iotHub => ⟨asciiBytes "IoT-Hub", by decide⟩
  | sharedAccessSignature => ⟨asciiBytes "SharedAccessSignature", by decide⟩
  | iotDevice => ⟨asciiBytes "IoT-Device", by decide⟩

/-- The size of the variable that the setting is read into. -/
def size : ConfigParameter → ℕ
  | cloudServiceIP => 32
  | serverPort => 4
  | serverCaCert => 4096
  | iotHub => 128
  | sharedAccessSignature => 192
  | iotDevice => 128

end ConfigParameter

/-- The component is connected to this service. All variables but the port are static and read
into once. -/
def Answers.ReadsFrom (answers : Answers) (C : ConfigService) (fuel : ℕ) : Prop :=
  ∀ parameter : ConfigParameter, ∃ unset ret,
    unset.length = parameter.size ∧ (parameter ≠ .serverPort → unset = zeros parameter.size) ∧
    C.getConfigParameter fuel domainCloudConnector.memory parameter.parameterName.memory unset
      parameter.size = some (ret, answers.parameter parameter) ∧
    ∀ k, answers.returnCode (.getConfigParameter parameter) k = ret

/-- The settings of both components. -/
structure DemoSettings where
  topic : List UInt8
  payload : List UInt8
  cloud : ConfigParameter → List UInt8

namespace DemoSettings

variable (settings : DemoSettings)

/-- A zeroed variable into which the setting was read. -/
def array (parameter : ConfigParameter) : List UInt8 :=
  settings.cloud parameter ++
    (zeros parameter.size).drop (settings.cloud parameter).length

/-- The options of the CONNECT. -/
def connectData : ConnectData := CcInitState.options ⟨CcFsm.zeroed, settings.array⟩

/-- The strings that are read from the options are the settings. -/
structure Names (options : ConnectData) : Prop where
  clientId : cString options.clientId = settings.cloud .iotDevice
  username : cString options.username = settings.cloud .iotHub
  password : cString options.password = settings.cloud .sharedAccessSignature

/-- The configuration has these settings, and they fit. All but the port are strings that end
inside their arrays. -/
structure StoredIn (C : ConfigService) (configuration : List DomainSettings) : Prop where
  topic : C.requestedSetting configuration domainSensor mqttTopicName = .ok settings.topic
  payload : C.requestedSetting configuration domainSensor mqttPayloadName = .ok settings.payload
  cloud : ∀ parameter : ConfigParameter,
    C.requestedSetting configuration domainCloudConnector parameter.parameterName =
      .ok (settings.cloud parameter)
  topicFits : FitsAsString settings.topic
  payloadFits : FitsAsString settings.payload
  cloudFits : ∀ parameter, (settings.cloud parameter).length ≤ parameter.size
  cloudEnds : ∀ parameter, parameter ≠ .serverPort →
    (settings.cloud parameter).length < parameter.size ∧ 0 ∉ settings.cloud parameter

end DemoSettings

section Reads

variable {C : ConfigService} {configuration : List DomainSettings} {settings : DemoSettings}
  {fuel : ℕ} {answers : Answers}

/-- Reading a setting of the component. -/
theorem DemoSettings.StoredIn.read (h : settings.StoredIn C configuration)
    (hholds : C.Holds configuration) (hfuel : configuration.length < fuel)
    (parameter : ConfigParameter) {unset : List UInt8} (hunset : unset.length = parameter.size) :
    C.getConfigParameter fuel domainCloudConnector.memory parameter.parameterName.memory unset
      parameter.size = some (osSuccess, settings.cloud parameter ++
        unset.drop (settings.cloud parameter).length) := by
  rw [← hunset]
  exact hholds.delivers hfuel (h.cloud parameter) unset (hunset ▸ h.cloudFits parameter)

theorem Answers.ReadsFrom.returnCode (hreads : answers.ReadsFrom C fuel)
    (hholds : C.Holds configuration) (hfuel : configuration.length < fuel)
    (hstored : settings.StoredIn C configuration) (parameter : ConfigParameter) (k : ℕ) :
    answers.returnCode (.getConfigParameter parameter) k = osSuccess := by
  obtain ⟨unset, ret, hunset, -, hread, hret⟩ := hreads parameter
  rw [hstored.read hholds hfuel parameter hunset] at hread
  rw [hret k, (Prod.mk.inj (Option.some.inj hread)).1]

/-- Behind a string that ends inside its array there is a zero. -/
theorem DemoSettings.StoredIn.exists_array (h : settings.StoredIn C configuration)
    {parameter : ConfigParameter} (hne : parameter ≠ .serverPort) :
    ∃ rest, settings.array parameter = settings.cloud parameter ++ 0 :: rest := by
  obtain ⟨n, hn⟩ := Nat.exists_eq_add_of_lt (h.cloudEnds parameter hne).1
  refine ⟨zeros n, ?_⟩
  rw [DemoSettings.array, hn, zeros, List.drop_replicate, Nat.add_assoc, Nat.add_sub_cancel_left,
    List.replicate_succ]
  rfl

theorem DemoSettings.StoredIn.cString_array (h : settings.StoredIn C configuration)
    {parameter : ConfigParameter} (hne : parameter ≠ .serverPort) :
    cString (settings.array parameter) = settings.cloud parameter := by
  obtain ⟨rest, harray⟩ := h.exists_array hne
  rw [harray, cString_append_zero]
  exact cString_eq_self_iff.mpr (h.cloudEnds parameter hne).2

theorem DemoSettings.StoredIn.names (h : settings.StoredIn C configuration) :
    settings.Names settings.connectData where
  clientId := h.cString_array (by decide)
  username := h.cString_array (by decide)
  password := h.cString_array (by decide)

theorem Answers.ReadsFrom.parameter_eq (hreads : answers.ReadsFrom C fuel)
    (hholds : C.Holds configuration) (hfuel : configuration.length < fuel)
    (hstored : settings.StoredIn C configuration) {parameter : ConfigParameter}
    (hne : parameter ≠ .serverPort) :
    answers.parameter parameter = settings.array parameter := by
  obtain ⟨unset, ret, hunset, hzeros, hread, -⟩ := hreads parameter
  rw [hstored.read hholds hfuel parameter hunset, hzeros hne] at hread
  exact (Prod.mk.inj (Option.some.inj hread)).2.symm

theorem Answers.ReadsFrom.settingsEnd (hreads : answers.ReadsFrom C fuel)
    (hholds : C.Holds configuration) (hfuel : configuration.length < fuel)
    (hstored : settings.StoredIn C configuration) : answers.SettingsEnd := by
  intro parameter hne
  obtain ⟨rest, harray⟩ := hstored.exists_array hne
  rw [hreads.parameter_eq hholds hfuel hstored hne, harray]
  exact List.mem_append_right _ List.mem_cons_self

/-- The CONNECT is made of the stored settings. -/
theorem Answers.ReadsFrom.connectData_eq (hreads : answers.ReadsFrom C fuel)
    (hholds : C.Holds configuration) (hfuel : configuration.length < fuel)
    (hstored : settings.StoredIn C configuration) :
    answers.connectData = settings.connectData := by
  have harray : ∀ parameter, parameter ≠ .serverPort →
      answers.parameter parameter = settings.array parameter :=
    fun _ hne ↦ hreads.parameter_eq hholds hfuel hstored hne
  simp only [Answers.connectData, DemoSettings.connectData, CcInitState.options,
    harray .iotDevice (by decide), harray .iotHub (by decide),
    harray .sharedAccessSignature (by decide)]

end Reads

section Whole

variable {P : Platform} {S : Sensor} {C : ConfigService} {configuration : List DomainSettings}
  {settings : DemoSettings} {configFuel n patience tick turns : ℕ} {start : SensorState}

theorem DemoSettings.StoredIn.configured (h : settings.StoredIn S.config configuration)
    (hholds : S.config.Holds configuration) (hfuel : configuration.length < configFuel)
    (hinit : S.initializeSensor = osSuccess) :
    S.Configured configFuel settings.topic settings.payload where
  initialized := hinit
  delivers_topic := hholds.delivers hfuel h.topic
  delivers_payload := hholds.delivers hfuel h.payload
  topicFits := h.topicFits
  payloadFits := h.payloadFits

/-- When the configuration has all settings, those that are strings end inside their arrays and
the network is up, the broker gets a CONNECT of the settings of the component, and then for each
turn of the sensor a PUBLISH of its settings. -/
theorem store_to_cloud (hP : P.Connects) (hsensor : S.platform.paho.SerializesPublish)
    (hinit : S.initializeSensor = osSuccess) (hstart : start.sent = [])
    (hholds : S.config.Holds configuration) (hfuel : configuration.length < configFuel)
    (hstored : settings.StoredIn S.config configuration) {w : World}
    (hreads : w.answers.ReadsFrom S.config configFuel) (hprompt : w.answers.Prompt patience tick)
    (hup : w.answers.NetworkComesUp P turns) (hconnect : ConnectFits P settings.connectData)
    {connack : Packet} {before : List Packet} (hbrings : Brings .connack before connack)
    (hconnack : IsConnackPacket connack) {xs : List Exchange}
    (hports : xs.map (fun x ↦ x.port.bytes) =
      (S.run configFuel n start).state.sent.map Prod.snd)
    (hxs : ∀ x ∈ xs, x.message = ⟨0, settings.topic, settings.payload⟩ ∧ x.Acknowledged)
    {rest : List UInt8}
    (hrx : w.rx = stream (before ++ [connack]) ++ (xs.flatMap Exchange.incoming ++ rest)) :
    w.answers.connectData = settings.connectData ∧ settings.Names settings.connectData ∧
      ∃ k, ∀ fuel ≥ k, ∃ self t, runAndServe P fuel (xs.map Exchange.port) ⟨w, []⟩ = .ok self t ∧
        DeliversAll P fuel w rest (List.replicate n ⟨0, settings.topic, settings.payload⟩)
          self t := by
  have hdata := hreads.connectData_eq hholds hfuel hstored
  have hfavour : w.answers.Favour P patience tick turns :=
    ⟨hprompt, ⟨hup, hreads.returnCode hholds hfuel hstored,
      hreads.settingsEnd hholds hfuel hstored⟩, hdata ▸ hconnect⟩
  obtain ⟨hsucceeds, hmessages⟩ := succeeds_of_settings hsensor
    (hstored.configured hholds hfuel hinit) hstart hports hxs
  obtain ⟨k, henough⟩ := exists_enoughFuel patience turns before xs
  refine ⟨hdata, hstored.names, k, fun fuel hfuel' ↦ ?_⟩
  rw [← hmessages]
  exact (post_runAndServe_prompt hP hfavour hbrings hconnack hsucceeds hrx
    (henough fuel hfuel')).exists_ok

end Whole

/-! ## The configuration of the demo -/

/-- The settings in the files of the configuration, with a shorter certificate. -/
def demoSettings : DemoSettings where
  topic := asciiBytes "devices/tempsensor/messages/events/"
  payload := asciiBytes "Current Temperature: 23" ++ [0xC2, 0xB0, 0x43]
  cloud
    | .cloudServiceIP => asciiBytes "10.0.0.1"
    | .serverPort => [0xB3, 0x22, 0, 0]
    | .serverCaCert => asciiBytes "-----BEGIN CERTIFICATE-----"
    | .iotHub => asciiBytes "TRENTOS"
    | .sharedAccessSignature => asciiBytes "H7ExMSD&-4Em-Aft"
    | .iotDevice => asciiBytes "TempSensor_01"

/-- The domains of the configuration. -/
def demoDomains : List StoredDomain :=
  [{ name := asciiBytes "Domain-Sensor"
     parameters := [(asciiBytes "MQTT_Payload", demoSettings.payload),
       (asciiBytes "MQTT_Topic", demoSettings.topic)] },
    { name := asciiBytes "Domain-CloudConnector"
      parameters := [.serverPort, .sharedAccessSignature, .iotHub, .cloudServiceIP, .iotDevice,
        .serverCaCert].map fun parameter ↦
          (parameter.parameterName.chars, demoSettings.cloud parameter) },
    storedAddresses]

def demoSensor : Sensor :=
  { Sensor.ofSettings [] [] with config := ConfigService.ofList demoDomains }

theorem storedIn_demoDomains : demoSettings.StoredIn (ConfigService.ofList demoDomains)
    (demoDomains.map StoredDomain.settings) where
  topic := rfl
  payload := rfl
  cloud parameter := by cases parameter <;> rfl
  topicFits := by decide
  payloadFits := by decide
  cloudFits parameter := by cases parameter <;> decide
  cloudEnds parameter hne := by cases parameter <;> first | exact absurd rfl hne | decide

/-- What the sensor leaves in its port. -/
def demoPort : SensorPort := (demoSensor.run 4 1 Sensor.emptyPort).state.port

/-- The broker acknowledges the message of the demo. -/
def demoExchange : Exchange :=
  { smallExchange 2 with
    port := demoPort
    message := ⟨0, demoSettings.topic, demoSettings.payload⟩ }

/-- A connection that moves a byte at a time, and the settings of the demo. -/
def World.demo : World :=
  ⟨Answers.dribbling demoSettings.array, 0, [0x20, 2, 0, 0, 0xD0, 0, 0x40, 2, 0, 2], [], false⟩

theorem readsFrom_demo : World.demo.answers.ReadsFrom demoSensor.config 4 := by
  intro parameter
  have hlength : (zeros parameter.size).length = parameter.size := List.length_replicate
  exact ⟨zeros parameter.size, osSuccess, hlength, fun _ ↦ rfl, storedIn_demoDomains.read
    (ConfigService.holds_ofList demoDomains) (by decide) parameter hlength, fun _ ↦ rfl⟩

/-- The message of the demo is delivered. -/
theorem store_to_cloud_demo :
    World.demo.answers.connectData = demoSettings.connectData ∧
      demoSettings.Names demoSettings.connectData ∧
      ∃ k, ∀ fuel ≥ k, ∃ self t, runAndServe (Platform.reference true) fuel
          ([demoExchange].map Exchange.port) ⟨World.demo, []⟩ = .ok self t ∧
        DeliversAll (Platform.reference true) fuel World.demo []
          (List.replicate 1 ⟨0, demoSettings.topic, demoSettings.payload⟩) self t := by
  have hconfigured : demoSensor.Configured 4 demoSettings.topic demoSettings.payload :=
    storedIn_demoDomains.configured (ConfigService.holds_ofList demoDomains) (by decide) rfl
  have hports : [demoExchange].map (fun x ↦ x.port.bytes) =
      (demoSensor.run 4 1 Sensor.emptyPort).state.sent.map Prod.snd := by
    have hlength := hconfigured.length_sent Paho.reference.serializesPublish 1
      (s := Sensor.emptyPort) rfl
    obtain ⟨call, hcall⟩ := List.length_eq_one_iff.mp hlength
    obtain ⟨call', hmem, hbytes⟩ :=
      hconfigured.port Paho.reference.serializesPublish Nat.one_pos Sensor.emptyPort
    rw [hcall, List.mem_singleton] at hmem
    rw [hcall, List.map_singleton, List.map_singleton, ← hmem, hbytes, demoExchange, demoPort]
  have hxs : ∀ x ∈ [demoExchange],
      x.message = ⟨0, demoSettings.topic, demoSettings.payload⟩ ∧ x.Acknowledged := by
    intro x hx
    rw [List.mem_singleton.mp hx]
    exact ⟨rfl, (succeeds_smallExchange 2).brings, (succeeds_smallExchange 2).short⟩
  exact store_to_cloud (Platform.reference_connects true) Paho.reference.serializesPublish rfl rfl
    (ConfigService.holds_ofList demoDomains) (by decide) storedIn_demoDomains readsFrom_demo
    (prompt_dribbling _) (networkComesUp_dribbling true _) (connectFits_reference true (by decide))
    brings_acceptingConnack ⟨0, 0, rfl⟩ hports hxs rfl

end DemoIotApp
