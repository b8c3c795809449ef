import DemoIotApp.SessionFlag

/-!
# Packet identifiers

The identifiers come from a counter that wraps. What a run has drawn is kept next to the
client, and the client's counter is then a function of how much was drawn.
-/

namespace DemoIotApp

open Library Prog

variable {W : Type}

/-! ## The counter -/

/-- What the counter shows after `n` draws. It begins with 1. -/
def idAfter (n : ℕ) : ℕ := n % maxPacketId + 1

theorem idAfter_pos (n : ℕ) : 0 < idAfter n := Nat.succ_pos _

theorem idAfter_le (n : ℕ) : idAfter n ≤ maxPacketId :=
  Nat.mod_lt n (by simp [maxPacketId])

theorem toNat_ofNat_idAfter (n : ℕ) : (UInt16.ofNat (idAfter n)).toNat = idAfter n := by
  have hle : idAfter n ≤ 65535 := idAfter_le n
  exact UInt16.toNat_ofNat_of_lt' (Nat.lt_succ_of_le hle)

theorem idAfter_ne {i j : ℕ} (hlt : i < j) (hturn : j < i + maxPacketId) :
    idAfter i ≠ idAfter j := by
  simp only [idAfter, maxPacketId] at hturn ⊢
  omega

/-- What `n` draws have shown, and the identifiers that the messages got. -/
def draws (n : ℕ) : List (ℕ × UInt16) :=
  (List.range n).map fun i ↦ (idAfter (i + 1), UInt16.ofNat (idAfter (i + 1)))

theorem draws_succ (n : ℕ) :
    draws (n + 1) = draws n ++ [(idAfter (n + 1), UInt16.ofNat (idAfter (n + 1)))] := by
  simp [draws, List.range_succ]

theorem mem_draws {n : ℕ} {draw : ℕ × UInt16} (h : draw ∈ draws n) :
    0 < draw.1 ∧ draw.1 ≤ maxPacketId ∧ draw.2.toNat = draw.1 := by
  obtain ⟨i, -, rfl⟩ := List.mem_map.mp h
  exact ⟨idAfter_pos _, idAfter_le _, toNat_ofNat_idAfter _⟩

/-- No identifier comes twice within one turn of the counter. -/
theorem nodup_of_infix_draws {n : ℕ} {ids : List UInt16}
    (h : ids <:+: (draws n).map Prod.snd) (hlength : ids.length ≤ maxPacketId) : ids.Nodup := by
  obtain ⟨before, after, h⟩ := h
  have hget : ∀ i (hi : i < ids.length),
      ids[i] = UInt16.ofNat (idAfter (before.length + i + 1)) := by
    intro i hi
    have hlt : before.length + i < ((draws n).map Prod.snd).length := by
      rw [← h]
      simp only [List.length_append]
      omega
    have hat : ids[i] = ((draws n).map Prod.snd)[before.length + i] := by
      simp only [← h, List.append_assoc]
      rw [List.getElem_append_right (by omega), List.getElem_append_left (by simpa using hi)]
      simp
    rw [hat]
    simp [draws]
  refine List.pairwise_iff_getElem.mpr fun i j hi hj hij heq ↦ ?_
  rw [hget, hget] at heq
  have hnat := congrArg UInt16.toNat heq
  rw [toNat_ofNat_idAfter, toNat_ofNat_idAfter] at hnat
  exact idAfter_ne (by omega) (by omega) hnat

/-- A client whose counter has been drawn from `n` times. -/
def HasDrawn (n : ℕ) (self : MqttClient W) : Prop := self.nextPacketId = idAfter n

theorem HasDrawn.drawnId {n : ℕ} {self : MqttClient W} (h : HasDrawn n self) :
    drawnId self = idAfter (n + 1) := by
  have hcounter : self.nextPacketId = n % 65535 + 1 := h
  simp only [DemoIotApp.drawnId, idAfter, maxPacketId, hcounter]
  split_ifs with hlast
  · omega
  · omega

theorem HasDrawn.getNextPacketId {n : ℕ} {self : MqttClient W} (h : HasDrawn n self)
    (P : Platform) (s : Sys W) :
    getNextPacketId P self s =
      .ok (idAfter (n + 1), { self with nextPacketId := idAfter (n + 1) }) s := by
  have hle : self.nextPacketId ≤ maxPacketId := h.trans_le (idAfter_le n)
  have hassert : debugAssert P.assertions (self.nextPacketId ≤ maxPacketId) s = .ok () s := by
    rw [debugAssert, if_neg fun h ↦ h.2 hle]
    rfl
  rw [← h.drawnId]
  exact bind_eq_of_ok hassert

/-! ## What the calls draw -/

variable [Clock W]

section Calls

variable {P : Platform} {fuel : ℕ}

theorem yields_mqttClientConnect_nextPacketId (self : MqttClient W)
    (options : Option ConnectData) (data : ConnackData) (timer : Option Timer) :
    Yields (fun r ↦ r.2.2.nextPacketId = self.nextPacketId)
      (mqttClientConnect P fuel self options data timer) := by
  refine keeps_ite (fun _ ↦ keeps_pure rfl) fun _ ↦ ?_
  apply (yields_awaitConnack fuel self (options.getD ConnectData.initializer) timer).bind
  rintro r ⟨timerLastSend, hwaited⟩
  have hr : r.2.nextPacketId = self.nextPacketId := hwaited.nextPacketId
  exact keeps_ite (fun _ ↦ keeps_pure hr) fun _ ↦
    keeps_ite (fun _ ↦ keeps_pure hr) fun _ ↦ keeps_pure hr

/-- The message gets an identifier. -/
def Draws (self : MqttClient W) (msg : MqttMessage) : Prop :=
  self.isConnected = true ∧ (msg.qos = 1 ∨ msg.qos = 2)

instance (self : MqttClient W) (msg : MqttMessage) : Decidable (Draws self msg) :=
  inferInstanceAs (Decidable (_ ∧ _))

theorem yields_mqttClientPublish_nextPacketId (memory : Ptr → List UInt8)
    (self : MqttClient W) (topicName : Ptr) (msg : MqttMessage) (timer : Option Timer) :
    Yields (fun r ↦ if Draws self msg then
        r.2.1.id = publishId self ∧ r.2.2.nextPacketId = drawnId self
      else r.2.2.nextPacketId = self.nextPacketId)
      (mqttClientPublish P fuel memory self topicName msg timer) := by
  refine keeps_ite (fun hclosed ↦ keeps_pure ?_) fun hconnected ↦ ?_
  · exact (if_neg fun h : Draws self msg ↦ hclosed h.1).mpr rfl
  apply (yields_assignPacketId self msg).bind
  intro r hr
  have hdrawn : ∀ client : MqttClient W, Waited r.2 client →
      if Draws self msg then r.1.id = publishId self ∧ client.nextPacketId = drawnId self
      else client.nextPacketId = self.nextPacketId := by
    intro client hwaited
    rw [hwaited.nextPacketId, hr]
    by_cases hqos : msg.qos = 1 ∨ msg.qos = 2
    · simp [Draws, not_not.mp hconnected, hqos]
    · simp [Draws, hqos]
  apply (yields_sendSerialized _ r.2).bind
  intro r' hr'
  refine keeps_ite (fun _ ↦ keeps_pure (hdrawn r'.2 hr')) fun _ ↦ ?_
  apply (yields_checkPublishQos fuel r'.2 _ timer).bind
  intro r'' hr''
  have hlast := hdrawn r''.2 (hr'.trans hr'')
  exact keeps_ite (fun _ ↦ keeps_pure hlast) fun _ ↦ keeps_pure hlast

theorem yields_mqttClientDisconnect_nextPacketId (self : MqttClient W) :
    Yields (fun client ↦ client.nextPacketId = self.nextPacketId)
      (mqttClientDisconnect P self) :=
  (yields_sendDisconnect self).bind fun r (hr : Waited self r.2) ↦ keeps_pure hr.nextPacketId

end Calls

/-! ## Runs -/

section Runs

variable (P : Platform) (fuel : ℕ)

/-- What the counter shows after a message that gets an identifier, and this identifier,
are kept next to the client. -/
def drawingCall (h : List (ℕ × UInt16) × MqttClient W) :
    SessionCall → Prog Stop (Sys W) (List (ℕ × UInt16) × MqttClient W)
  | .connect options data timer => do
      let (_, _, client) ← mqttClientConnect P fuel h.2 options data timer
      return (h.1, client)
  | .publish memory topicName msg timer => do
      let (_, msg', client) ← mqttClientPublish P fuel memory h.2 topicName msg timer
      return (if Draws h.2 msg then h.1 ++ [(client.nextPacketId, msg'.id)] else h.1, client)
  | .disconnect => do
      let client ← mqttClientDisconnect P h.2
      return (h.1, client)

def drawingCalls (client : MqttClient W) (calls : List SessionCall) :
    Prog Stop (Sys W) (List (ℕ × UInt16) × MqttClient W) :=
  calls.foldlM (drawingCall P fuel) ([], client)

/-- The counter and what was drawn from it belong together. -/
def Drawn (h : List (ℕ × UInt16) × MqttClient W) : Prop :=
  ∃ n, h.1 = draws n ∧ HasDrawn n h.2

theorem yields_drawingCall {h : List (ℕ × UInt16) × MqttClient W} (hdrawn : Drawn h)
    (call : SessionCall) : Yields Drawn (drawingCall P fuel h call) := by
  obtain ⟨n, hids, hcounter⟩ := hdrawn
  cases call with
  | connect options data timer =>
      apply (yields_mqttClientConnect_nextPacketId h.2 options data timer).bind
      intro r hr
      exact keeps_pure ⟨n, hids, hr.trans hcounter⟩
  | publish memory topicName msg timer =>
      apply (yields_mqttClientPublish_nextPacketId memory h.2 topicName msg timer).bind
      intro r hr
      apply keeps_pure
      by_cases hdraws : Draws h.2 msg
      · rw [if_pos hdraws] at hr ⊢
        obtain ⟨hid, hnext⟩ := hr
        have hid' : r.2.1.id = UInt16.ofNat (idAfter (n + 1)) :=
          hid.trans (congrArg UInt16.ofNat hcounter.drawnId)
        have hnext' : r.2.2.nextPacketId = idAfter (n + 1) := hnext.trans hcounter.drawnId
        exact ⟨n + 1, by rw [hids, hid', hnext', draws_succ], hnext'⟩
      · rw [if_neg hdraws] at hr ⊢
        exact ⟨n, hids, hr.trans hcounter⟩
  | disconnect =>
      apply (yields_mqttClientDisconnect_nextPacketId h.2).bind
      intro client hclient
      exact keeps_pure ⟨n, hids, hclient.trans hcounter⟩

/-- After any calls on an initialised client the counter is a packet identifier and the next
draw passes the assertion. All that was drawn is an identifier that 16 bits hold, and no
65535 of the identifiers in a row, with the next one, have two alike. -/
theorem packetIds_valid_and_distinct (self : MqttClient W) (net : Network W)
    (sendTimeoutMs : ℕ) (sendbuf readbuf : List UInt8) (calls : List SessionCall) (s : Sys W) :
    Post (drawingCalls P fuel (mqttClientInit self net sendTimeoutMs sendbuf readbuf) calls) s
      (fun h _ ↦
        (0 < h.2.nextPacketId ∧ h.2.nextPacketId ≤ 65535) ∧
        (∃ next, (0 < next ∧ next ≤ 65535) ∧ (publishId h.2).toNat = next ∧
          ∀ t, getNextPacketId P h.2 t = .ok (next, { h.2 with nextPacketId := next }) t) ∧
        (∀ draw ∈ h.1, 0 < draw.1 ∧ draw.1 ≤ 65535 ∧ draw.2.toNat = draw.1) ∧
        ∀ ids, ids <:+: h.1.map Prod.snd ++ [publishId h.2] → ids.length ≤ 65535 → ids.Nodup)
      fun _ _ ↦ True := by
  have hinit : Drawn (([], mqttClientInit self net sendTimeoutMs sendbuf readbuf) :
      List (ℕ × UInt16) × MqttClient W) := ⟨0, rfl, rfl⟩
  have hrun := keeps_foldlM (fun h call (hdrawn : Drawn h) ↦
    yields_drawingCall P fuel hdrawn call) calls _ hinit
  refine (Yields.post hrun s).mono ?_ fun _ _ _ ↦ trivial
  rintro ⟨drawn, client⟩ t ⟨n, rfl, hcounter⟩
  have hid : publishId client = UInt16.ofNat (idAfter (n + 1)) :=
    congrArg UInt16.ofNat hcounter.drawnId
  refine ⟨?_, ⟨idAfter (n + 1), ?_, ?_, hcounter.getNextPacketId P⟩, fun _ ↦ mem_draws, ?_⟩
  · exact ⟨hcounter ▸ idAfter_pos n, hcounter.trans_le (idAfter_le n)⟩
  · exact ⟨idAfter_pos _, idAfter_le _⟩
  · rw [hid, toNat_ofNat_idAfter]
  · intro ids hids
    have hnext : (draws n).map Prod.snd ++ [publishId client] = (draws (n + 1)).map Prod.snd := by
      rw [hid, draws_succ, List.map_append, List.map_singleton]
    exact nodup_of_infix_draws (hnext ▸ hids)

end Runs

end DemoIotApp
