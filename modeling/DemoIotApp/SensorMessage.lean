import DemoIotApp.Reference
import DemoIotApp.SensorTemp

/-!
# What the sensor sends

The two settings are blobs that the sensor uses as strings. Their message is sent as they are
stored exactly when both are strings that end inside their arrays.
-/

namespace DemoIotApp

open Library Prog

/-! ## What is in the arrays -/

section Arrays

/-- An array of 128 zeros into which a blob was copied. -/
def blobArray (blob : List UInt8) : List UInt8 := blob ++ (zeros 128).drop blob.length

variable {blob : List UInt8}

theorem blobArray_eq (blob : List UInt8) :
    blobArray blob = blob ++ List.replicate (128 - blob.length) 0 := by
  rw [blobArray, zeros, List.drop_replicate]

theorem cString_blobArray (blob : List UInt8) : cString (blobArray blob) = cString blob := by
  rw [blobArray_eq]
  cases 128 - blob.length with
  | zero => simp
  | succ n => rw [List.replicate_succ, cString_append_zero]

theorem take_blobArray (blob : List UInt8) :
    (blobArray blob).take (cString blob).length = cString blob := by
  have hpre : cString blob <+: blobArray blob :=
    (List.takeWhile_prefix _).trans (List.prefix_append _ _)
  exact (List.prefix_iff_eq_take.mp hpre).symm

theorem zero_mem_blobArray_iff (hlength : blob.length ≤ 128) :
    0 ∈ blobArray blob ↔ blob.length < 128 ∨ 0 ∈ blob := by
  rw [blobArray_eq, List.mem_append, List.mem_replicate]
  refine ⟨?_, ?_⟩
  · rintro (h | ⟨h, -⟩)
    · exact Or.inr h
    · exact Or.inl (by omega)
  · rintro (h | h)
    · exact Or.inr ⟨by omega, rfl⟩
    · exact Or.inl h

/-- The blob is a string that ends inside its array. -/
def FitsAsString (blob : List UInt8) : Prop := blob.length < 128 ∧ 0 ∉ blob

instance (blob : List UInt8) : Decidable (FitsAsString blob) := inferInstanceAs (Decidable (_ ∧ _))

theorem fitsAsString_iff (hlength : blob.length ≤ 128) :
    FitsAsString blob ↔ 0 ∈ blobArray blob ∧ cString blob = blob := by
  rw [zero_mem_blobArray_iff hlength, cString_eq_self_iff, FitsAsString]
  tauto

theorem length_cString_lt (hlength : blob.length ≤ 128) (hzero : 0 ∈ blobArray blob) :
    (cString blob).length < 128 := by
  have hpre : cString blob <+: blob := List.takeWhile_prefix _
  rcases (zero_mem_blobArray_iff hlength).mp hzero with h | h
  · exact hpre.length_le.trans_lt h
  · refine lt_of_lt_of_le (lt_of_le_of_ne hpre.length_le fun heq ↦ ?_) hlength
    exact cString_eq_self_iff.mp (hpre.eq_of_length heq) h

end Arrays

/-! ## What is sent -/

/-- The packet that the sensor makes of its two arrays. -/
def sensorPacket (topic payload : List UInt8) : List UInt8 :=
  publishPacket 0 1 0 1 (cString topic) (cString payload)

/-- A PUBLISH of this quality of service, topic and payload. -/
def IsPublishOf (qos : ℕ) (topic payload packet : List UInt8) : Prop :=
  ∃ dup retained packetId, packet = publishPacket dup qos retained packetId topic payload

theorem length_sensorPacket_le {topic payload : List UInt8} (htopic : (cString topic).length < 128)
    (hpayload : (cString payload).length < 128) : (sensorPacket topic payload).length ≤ 320 := by
  have hbody : (publishBody 1 1 (cString topic) (cString payload)).length ≤ 258 := by
    simp only [publishBody, List.length_append, length_u16, Nat.zero_lt_one, if_true]
    omega
  have hlen := Varint.length_encode_le (k := 2) (by omega) (hbody.trans_lt (by decide))
  simp only [sensorPacket, publishPacket, List.length_cons, List.length_append]
  omega

theorem sensorPacket_pos {topic payload : List UInt8} :
    0 < (sensorPacket topic payload).length := by
  simp [sensorPacket, publishPacket]

theorem u16_inj {m n : ℕ} (hm : m < 65536) (hn : n < 65536) (h : u16 m = u16 n) : m = n := by
  obtain ⟨hhigh, hlow⟩ := List.cons.inj h
  rw [← Paho.Reference.readU16_u16 hm, ← Paho.Reference.readU16_u16 hn, hhigh,
    (List.cons.inj hlow).1]

theorem publishPacket_inj {dup dup' qos retained retained' : ℕ} {packetId packetId' : UInt16}
    {topic topic' payload payload' : List UInt8} (hqos : 0 < qos) (htopic : topic.length < 65536)
    (htopic' : topic'.length < 65536)
    (h : publishPacket dup qos retained packetId topic payload =
      publishPacket dup' qos retained' packetId' topic' payload') :
    topic = topic' ∧ payload = payload' := by
  have hbody : publishBody qos packetId topic payload =
      publishBody qos packetId' topic' payload' :=
    ((Varint.isEncoding_encode _).append_inj (Varint.isEncoding_encode _) (List.cons.inj h).2).2
  simp only [publishBody, if_pos hqos, List.append_assoc] at hbody
  obtain ⟨hlength, hrest⟩ := List.append_inj hbody (by simp)
  obtain ⟨rfl, hids⟩ := List.append_inj hrest (u16_inj htopic htopic' hlength)
  exact ⟨rfl, (List.append_inj hids (by simp)).2⟩

namespace Sensor

variable {S : Sensor} {topic payload : List UInt8}

theorem write_packet {packet : List UInt8} (rest : List UInt8) (h : packet.length ≤ 320)
    (s : SensorState) :
    ∃ code t, S.write (packet ++ rest) packet.length s = .ok code t ∧
      ∃ bytes, t.sent = s.sent ++ [((packet.length : ℤ), bytes)] ∧
        bytes.take packet.length = packet := by
  have hsize : S.platform.sizeT packet.length = packet.length :=
    S.platform.sizeT_natCast (by omega)
  have htake : (packet ++ rest).take packet.length = packet := by simp
  have hread : ¬(packet ++ rest).length < packet.length := by simp
  have hfits : packet.length ≤ 4096 := by omega
  refine ⟨S.cloudConnectorWrite s.sent.length,
    ⟨s.port.store packet hfits,
      s.sent ++ [((packet.length : ℤ), (s.port.store packet hfits).bytes)]⟩,
    ?_, (s.port.store packet hfits).bytes, rfl, ?_⟩
  · simp only [write, hsize, if_neg hread, htake, dif_pos hfits]
    rfl
  · exact List.take_left

theorem sendForever_packet {packet : List UInt8} (rest : List UInt8) (h : packet.length ≤ 320)
    (turns : ℕ) (s : SensorState) :
    ∃ t new, S.sendForever (packet ++ rest) packet.length turns s = .stop .unfinished t ∧
      t.sent = s.sent ++ new ∧ new.length = turns ∧
        ∀ w ∈ new, w.1 = packet.length ∧ w.2.take packet.length = packet := by
  induction turns generalizing s with
  | zero => exact ⟨s, [], rfl, by simp, rfl, by simp⟩
  | succ turns ih =>
      obtain ⟨code, s₁, hwrite, bytes, hsent, hbytes⟩ := write_packet (S := S) rest h s
      obtain ⟨t, new, hrun, hnew, hlength, hall⟩ := ih s₁
      refine ⟨t, (packet.length, bytes) :: new, ?_, ?_, ?_, ?_⟩
      · exact (bind_eq_of_ok hwrite).trans hrun
      · rw [hnew, hsent, List.append_assoc, List.singleton_append]
      · rw [List.length_cons, hlength]
      · intro w hw
        rcases List.mem_cons.mp hw with rfl | hw
        · exact ⟨rfl, hbytes⟩
        · exact hall w hw

theorem serialize_sensorPacket (hpaho : S.platform.paho.SerializesPublish)
    (htopic : (cString topic).length < 128) (hpayload : (cString payload).length < 128) :
    S.platform.paho.serializePublish
        { dup := 0, qos := 1, retained := 0, packetId := 1, topicName := blobArray topic
          payload := blobArray payload, payloadLen := toCInt (cString payload).length }
        S.serializedMsg =
      (((sensorPacket topic payload).length : ℤ), sensorPacket topic payload ++
        S.serializedMsg.drop (sensorPacket topic payload).length) := by
  have hlen : toCInt (cString payload).length = (cString payload).length :=
    toCInt_of_lt (by omega)
  have hcut : (cString payload).length ≤ (blobArray payload).length :=
    (List.takeWhile_prefix _).length_le.trans (List.prefix_append _ _).length_le
  obtain ⟨hserialized, hpos⟩ := hpaho
    { dup := 0, qos := 1, retained := 0, packetId := 1, topicName := blobArray topic
      payload := blobArray payload, payloadLen := toCInt (cString payload).length }
    S.serializedMsg
  have hpacket : PublishArgs.packet
      { dup := 0, qos := 1, retained := 0, packetId := 1, topicName := blobArray topic
        payload := blobArray payload, payloadLen := toCInt (cString payload).length } =
      sensorPacket topic payload := by
    simp only [PublishArgs.packet, sensorPacket, hlen, Int.toNat_natCast, cString_blobArray,
      take_blobArray]
  rw [hpacket] at hserialized hpos
  refine (hserialized (hpos ?_ ?_ ?_)).2
  · simp only [hlen]
    exact Int.natCast_nonneg _
  · simp only [hlen]
    exact_mod_cast hcut
  · exact (length_sensorPacket_le htopic hpayload).trans_eq S.length_serializedMsg.symm

end Sensor

/-! ## When the settings are sent -/

namespace Sensor

/-- The sensor goes through any number of turns, and in each of them the port holds a PUBLISH of
quality of service 1 with this topic and this payload. -/
def SendsConfigured (S : Sensor) (fuel : ℕ) (topic payload : List UInt8) (s : SensorState) : Prop :=
  ∀ turns, ∃ t new, S.run fuel turns s = .stop .unfinished t ∧ t.sent = s.sent ++ new ∧
    new.length = turns ∧ ∀ w ∈ new, 0 < w.1 ∧ w.1 ≤ 320 ∧
      IsPublishOf 1 topic payload (w.2.take w.1.toNat)

variable {S : Sensor} {topic payload : List UInt8}

theorem run_eq_publishForever (hinit : S.initializeSensor = osSuccess) {fuel : ℕ}
    (hpayload : payload.length ≤ 128) (htopic : topic.length ≤ 128)
    (hconfigPayload : S.config.Delivers fuel domainSensor mqttPayloadName payload)
    (hconfigTopic : S.config.Delivers fuel domainSensor mqttTopicName topic) (turns : ℕ) :
    S.run fuel turns = S.publishForever (blobArray payload) (blobArray topic) turns := by
  have hget : ∀ {name : CStr} {blob : List UInt8}, blob.length ≤ 128 →
      S.config.Delivers fuel domainSensor name blob →
      S.getConfig fuel name (zeros 128) = pure (osSuccess, blobArray blob) := by
    intro name blob hlength hdelivers
    have hzeros : (zeros 128).length = 128 := by simp [zeros]
    rw [getConfig, hdelivers (zeros 128) (hlength.trans_eq hzeros.symm)]
    rfl
  rw [run, if_neg (not_not.mpr hinit), hget hpayload hconfigPayload, hget htopic hconfigTopic]
  rfl

theorem stringLength_of_zero_mem {blob : List UInt8} (h : 0 ∈ blobArray blob) :
    stringLength (blobArray blob) = pure (cString blob).length := by
  rw [stringLength, strlen_eq_some_iff.mpr ⟨h, congrArg List.length (cString_blobArray blob)⟩]

theorem stringLength_of_zero_notMem {blob : List UInt8} (h : 0 ∉ blobArray blob) :
    stringLength (blobArray blob) = Prog.stop .overread := by
  rw [stringLength, strlen, if_neg h]

/-- Without a zero in one of the arrays the sensor reads over its end. -/
theorem publishForever_overread (h : ¬(0 ∈ blobArray payload ∧ 0 ∈ blobArray topic)) (turns : ℕ)
    (s : SensorState) :
    S.publishForever (blobArray payload) (blobArray topic) turns s = .stop .overread s := by
  rw [publishForever]
  by_cases hpayload : 0 ∈ blobArray payload
  · have htopic : 0 ∉ blobArray topic := fun htopic ↦ h ⟨hpayload, htopic⟩
    rw [stringLength_of_zero_mem hpayload, stringLength_of_zero_notMem htopic]
    rfl
  · rw [stringLength_of_zero_notMem hpayload]
    rfl

theorem publishForever_eq_sendForever (hpaho : S.platform.paho.SerializesPublish)
    (hpayload : payload.length ≤ 128) (htopic : topic.length ≤ 128)
    (hpayloadZero : 0 ∈ blobArray payload) (htopicZero : 0 ∈ blobArray topic) (turns : ℕ) :
    S.publishForever (blobArray payload) (blobArray topic) turns =
      S.sendForever (sensorPacket topic payload ++
        S.serializedMsg.drop (sensorPacket topic payload).length)
        (sensorPacket topic payload).length turns := by
  have hserialize := serialize_sensorPacket hpaho (length_cString_lt htopic htopicZero)
    (length_cString_lt hpayload hpayloadZero)
  rw [publishForever, stringLength_of_zero_mem hpayloadZero, stringLength_of_zero_mem htopicZero]
  funext s
  simp only [bind_apply, pure_apply, hserialize]

theorem isPublishOf_sensorPacket_iff (htopic : topic.length ≤ 128) :
    IsPublishOf 1 topic payload (sensorPacket topic payload) ↔
      cString payload = payload ∧ cString topic = topic := by
  have hlength : (cString topic).length ≤ topic.length := (List.takeWhile_prefix _).length_le
  constructor
  · rintro ⟨dup, retained, packetId, h⟩
    obtain ⟨htopics, hpayloads⟩ := publishPacket_inj (by omega) (by omega) (by omega) h
    exact ⟨hpayloads, htopics⟩
  · rintro ⟨hpayloads, htopics⟩
    exact ⟨0, 0, 1, by rw [sensorPacket, hpayloads, htopics]⟩

/-- All packets of a run are alike. -/
theorem sendsConfigured_iff_isPublishOf {fuel : ℕ} {packet rest : List UInt8}
    (hfits : packet.length ≤ 320) (hpos : 0 < packet.length)
    (hrun : ∀ turns, S.run fuel turns = S.sendForever (packet ++ rest) packet.length turns)
    (s : SensorState) :
    S.SendsConfigured fuel topic payload s ↔ IsPublishOf 1 topic payload packet := by
  constructor
  · intro h
    obtain ⟨t, new, ht, hnew, hlength, hall⟩ := h 1
    obtain ⟨t', new', ht', hnew', -, hall'⟩ :=
      sendForever_packet (S := S) rest hfits 1 s
    obtain ⟨-, rfl⟩ := Outcome.stop.inj (ht'.symm.trans ((hrun 1).symm ▸ ht))
    obtain rfl := List.append_cancel_left (hnew.symm.trans hnew')
    obtain ⟨w, rfl⟩ := List.length_eq_one_iff.mp hlength
    have hpublish := (hall w (List.mem_singleton_self w)).2.2
    obtain ⟨hlen, hpacket⟩ := hall' w (List.mem_singleton_self w)
    rwa [hlen, Int.toNat_natCast, hpacket] at hpublish
  · intro h turns
    obtain ⟨t, new, ht, hnew, hlength, hall⟩ :=
      sendForever_packet (S := S) rest hfits turns s
    refine ⟨t, new, (congrFun (hrun turns) s).trans ht, hnew, hlength, fun w hw ↦ ?_⟩
    obtain ⟨hlen, hpacket⟩ := hall w hw
    rw [hlen, Int.toNat_natCast, hpacket]
    exact ⟨by exact_mod_cast hpos, by exact_mod_cast hfits, h⟩

/-- The message is sent as it is stored if and only if both settings are strings that end inside
their arrays. -/
theorem sendsConfigured_iff (hpaho : S.platform.paho.SerializesPublish)
    (hinit : S.initializeSensor = osSuccess) {fuel : ℕ} (hpayload : payload.length ≤ 128)
    (htopic : topic.length ≤ 128)
    (hconfigPayload : S.config.Delivers fuel domainSensor mqttPayloadName payload)
    (hconfigTopic : S.config.Delivers fuel domainSensor mqttTopicName topic) (s : SensorState) :
    S.SendsConfigured fuel topic payload s ↔ FitsAsString payload ∧ FitsAsString topic := by
  have hrun := run_eq_publishForever hinit hpayload htopic hconfigPayload hconfigTopic
  rw [fitsAsString_iff hpayload, fitsAsString_iff htopic]
  by_cases hzeros : 0 ∈ blobArray payload ∧ 0 ∈ blobArray topic
  · obtain ⟨hpayloadZero, htopicZero⟩ := hzeros
    have hfits := length_sensorPacket_le (length_cString_lt htopic htopicZero)
      (length_cString_lt hpayload hpayloadZero)
    have hsend := publishForever_eq_sendForever hpaho hpayload htopic hpayloadZero htopicZero
    rw [sendsConfigured_iff_isPublishOf hfits sensorPacket_pos
      (fun turns ↦ (hrun turns).trans (hsend turns)) s, isPublishOf_sensorPacket_iff htopic]
    tauto
  · refine iff_of_false (fun h ↦ ?_) (by tauto)
    obtain ⟨t, new, ht, -⟩ := h 0
    rw [hrun, publishForever_overread hzeros] at ht
    cases ht

/-- A sensor with two settings. -/
def ofSettings (payload topic : List UInt8) : Sensor where
  platform := Platform.reference false
  config := ConfigService.ofList [⟨asciiBytes "Domain-Sensor",
    [(asciiBytes "MQTT_Payload", payload), (asciiBytes "MQTT_Topic", topic)]⟩]
  createHandleRemote := 0
  timeServerPeriodic := 0
  cloudConnectorWrite _ := 0
  serializedMsg := zeros 320
  length_serializedMsg := List.length_replicate

theorem delivers_ofSettings (payload topic : List UInt8) :
    (ofSettings payload topic).config.Delivers 2 domainSensor mqttPayloadName payload ∧
      (ofSettings payload topic).config.Delivers 2 domainSensor mqttTopicName topic := by
  have hdelivers : ∀ {name : CStr} {blob : List UInt8},
      (∀ old, (ofSettings payload topic).config.domainGetElement ⟨asciiBytes "Domain-Sensor",
        [(asciiBytes "MQTT_Payload", payload), (asciiBytes "MQTT_Topic", topic)]⟩
        ((ofSettings payload topic).config.initializeParameterName name.memory).2 old =
          (osSuccess, blob)) →
      (ofSettings payload topic).config.Delivers 2 domainSensor name blob :=
    fun helement ↦ ConfigService.delivers_of_stores (ConfigService.stores_ofList _)
      Nat.one_lt_two (Or.inl (show domainSensor.chars.length < 32 by decide)) rfl helement
      fun buffer hlength ↦ if_pos hlength
  exact ⟨hdelivers fun _ ↦ rfl, hdelivers fun _ ↦ rfl⟩

def emptyPort : SensorState := ⟨⟨zeros 4096, List.length_replicate⟩, []⟩

/-- Two short texts are sent as they are. -/
theorem sendsConfigured_short_texts :
    (ofSettings (asciiBytes "20") (asciiBytes "temperature")).SendsConfigured 2
      (asciiBytes "temperature") (asciiBytes "20") emptyPort :=
  (sendsConfigured_iff Paho.reference.serializesPublish rfl (by decide) (by decide)
    (delivers_ofSettings _ _).1 (delivers_ofSettings _ _).2 emptyPort).mpr (by decide)

/-- A payload that fills its array is not ended by a zero, and the sensor reads over the end. -/
theorem not_sendsConfigured_of_full_payload :
    ¬(ofSettings (List.replicate 128 65) (asciiBytes "temperature")).SendsConfigured 2
      (asciiBytes "temperature") (List.replicate 128 65) emptyPort := by
  intro h
  obtain ⟨t, new, ht, -⟩ := h 0
  have hlength : (List.replicate 128 (65 : UInt8)).length ≤ 128 := List.length_replicate.le
  have hzero : 0 ∉ blobArray (List.replicate 128 65) := by
    rw [zero_mem_blobArray_iff hlength]
    simp
  rw [run_eq_publishForever rfl hlength (by decide) (delivers_ofSettings _ _).1
    (delivers_ofSettings _ _).2, publishForever_overread fun hzeros ↦ hzero hzeros.1] at ht
  cases ht

end Sensor

end DemoIotApp
