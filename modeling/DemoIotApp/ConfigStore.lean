import DemoIotApp.DomainLookup
import Mathlib.Data.List.Forall2

/-!
# Settings by name

What the configuration is for, without its enumerators and handles: a setting has a name in a
domain that has a name. The helper that all components read their settings with looks up just
that, for names that are cut where its name fields end.
-/

namespace DemoIotApp

open Library

/-! ## A configuration -/

/-- The settings of one domain, by their names. -/
structure DomainSettings where
  name : List UInt8
  value : List UInt8 → Option (List UInt8)

/-- The setting of that name in the first domain of that name. -/
def lookupSetting (configuration : List DomainSettings) (domain parameter : List UInt8) :
    Except ConfigError (List UInt8) :=
  match configuration.find? (fun d ↦ d.name = domain) with
  | none => .error .domainNotFound
  | some d =>
      match d.value parameter with
      | none => .error .parameterNotFound
      | some value => .ok value

/-- What is left of a name in a field of this size. -/
def keptName (size : ℕ) (name : CStr) : List UInt8 := name.chars.take (size - 1)

namespace ConfigService

variable (C : ConfigService)

/-- A buffer that is long enough gets the value and keeps what is behind it. -/
def HasValue (parameter : C.Parameter) (value : List UInt8) : Prop :=
  ∀ buffer length, length ≤ buffer.length →
    if value.length ≤ length then
      C.parameterGetValue parameter buffer length = (osSuccess, value ++ buffer.drop value.length)
    else (C.parameterGetValue parameter buffer length).1 ≠ osSuccess

/-- The service answers for this domain as its settings say. -/
structure HoldsDomain (d : C.Domain) (settings : DomainSettings) : Prop where
  name : C.domainName d = settings.name
  found : ∀ (name : CStr) value, settings.value (keptName C.parameterNameSize name) = some value →
    ∃ parameter, C.HasValue parameter value ∧ ∀ old,
      C.domainGetElement d (C.initializeParameterName name.memory).2 old = (osSuccess, parameter)
  missing : ∀ name : CStr, settings.value (keptName C.parameterNameSize name) = none →
    ∀ old, (C.domainGetElement d (C.initializeParameterName name.memory).2 old).1 ≠ osSuccess

/-- The enumerator goes over the domains of the configuration, in their order. -/
def Holds (configuration : List DomainSettings) : Prop :=
  ∃ ds, C.Stores ds ∧ List.Forall₂ C.HoldsDomain ds configuration

/-- The setting that a request is for, when its names are cut to the name fields. -/
def requestedSetting (configuration : List DomainSettings) (domain parameter : CStr) :
    Except ConfigError (List UInt8) :=
  lookupSetting configuration (keptName C.domainNameSize domain)
    (keptName C.parameterNameSize parameter)

/-- What a read of this setting into a buffer returns. -/
def ReadsSetting (buffer : List UInt8) (length : ℕ) :
    Except ConfigError (List UInt8) → Option (ℤ × List UInt8) → Prop
  | .error e, result => result = some (C.error e, buffer)
  | .ok value, result =>
      if value.length ≤ length then
        result = some (osSuccess, value ++ buffer.drop value.length)
      else ∃ ret buffer', result = some (ret, buffer') ∧ ret ≠ osSuccess

variable {C} {configuration : List DomainSettings} {fuel : ℕ}

/-- Searches in related lists find related elements. -/
theorem find?_of_forall₂ {α β : Type*} {R : α → β → Prop} {p : α → Bool} {q : β → Bool}
    (hpq : ∀ a b, R a b → p a = q b) {as : List α} {bs : List β} (h : List.Forall₂ R as bs) :
    as.find? p = none ∧ bs.find? q = none ∨
      ∃ a b, as.find? p = some a ∧ bs.find? q = some b ∧ R a b := by
  induction h with
  | nil => exact Or.inl ⟨rfl, rfl⟩
  | @cons a b as bs hab _ ih =>
      by_cases hq : q b = true
      · exact Or.inr ⟨a, b, List.find?_cons_of_pos (hpq a b hab ▸ hq), List.find?_cons_of_pos hq,
          hab⟩
      · rw [List.find?_cons_of_neg (hpq a b hab ▸ hq), List.find?_cons_of_neg hq]
        exact ih

/-- The helper finds the parameter of the setting, or fails with the error of the lookup. -/
theorem getParameterElement_of_holds (h : C.Holds configuration)
    (hfuel : configuration.length < fuel) (domain parameter : CStr) (old : C.Parameter) :
    ∃ ret element,
      C.getParameterElement fuel domain.memory parameter.memory old = some (ret, element) ∧
        match C.requestedSetting configuration domain parameter with
        | .error e => ret = C.error e
        | .ok value => ret = osSuccess ∧ C.HasValue element value := by
  obtain ⟨ds, hstores, hds⟩ := h
  obtain ⟨ret, e, d, hfind, hreports⟩ := findRequested_of_stores domain hstores
    (hds.length_eq ▸ hfuel) C.zeroEnumerator C.unsetDomain
  rw [findRequested] at hfind
  rw [requestedSetting, lookupSetting]
  rcases find?_of_forall₂ (p := fun d ↦ C.domainName d = keptName C.domainNameSize domain)
    (q := fun d ↦ d.name = keptName C.domainNameSize domain)
    (fun d settings hd ↦ by rw [hd.name]) hds with
      ⟨hnone, hsettings⟩ | ⟨d', settings, hsome, hsettings, hd⟩
  · rw [keptName] at hnone
    rw [hnone] at hreports
    have hret : ret ≠ osSuccess := hreports
    rw [hsettings]
    exact ⟨_, old, by simp [getParameterElement, hfind, hret], rfl⟩
  · rw [keptName] at hsome
    rw [hsome] at hreports
    obtain ⟨rfl, rfl⟩ := hreports
    rw [hsettings]
    cases hvalue : settings.value (keptName C.parameterNameSize parameter) with
    | none =>
        have hmissing := hd.missing _ hvalue old
        exact ⟨C.error .parameterNotFound,
          (C.domainGetElement d (C.initializeParameterName parameter.memory).2 old).2,
          by simp [getParameterElement, hfind, hmissing], by simp [hvalue]⟩
    | some value =>
        obtain ⟨element, helement, hget⟩ := hd.found _ _ hvalue
        exact ⟨osSuccess, element, by simp [getParameterElement, hfind, hget],
          by simp [hvalue, helement]⟩

theorem readsSetting_of_holds (h : C.Holds configuration) (hfuel : configuration.length < fuel)
    (domain parameter : CStr) {buffer : List UInt8} {length : ℕ}
    (hlength : length ≤ buffer.length) :
    C.ReadsSetting buffer length (C.requestedSetting configuration domain parameter)
      (C.getConfigParameter fuel domain.memory parameter.memory buffer length) := by
  obtain ⟨ret, element, helement, hresult⟩ :=
    getParameterElement_of_holds h hfuel domain parameter C.unsetParameter
  generalize C.requestedSetting configuration domain parameter = setting at hresult
  cases setting with
  | error e =>
      obtain rfl : ret = C.error e := hresult
      simp [ReadsSetting, getConfigParameter, helement, C.error_ne_osSuccess e]
  | ok value =>
      obtain ⟨rfl, hvalue⟩ := hresult
      have hread := hvalue buffer length hlength
      rw [ReadsSetting]
      split_ifs at hread ⊢ with hfits
      · simp [getConfigParameter, helement, hread]
      · exact ⟨(C.parameterGetValue element buffer length).1,
          (C.parameterGetValue element buffer length).2,
          by simp [getConfigParameter, helement, hread], hread⟩

/-- A setting that is there is delivered. -/
theorem Holds.delivers (h : C.Holds configuration) (hfuel : configuration.length < fuel)
    {domain parameter : CStr} {value : List UInt8}
    (hvalue : C.requestedSetting configuration domain parameter = .ok value) :
    C.Delivers fuel domain parameter value := by
  intro buffer hlength
  have hread := readsSetting_of_holds h hfuel domain parameter (Nat.le_refl buffer.length)
  rw [hvalue, ReadsSetting, if_pos hlength] at hread
  exact hread

/-- `helper_func_getConfigParameter` always returns. It succeeds if and only if the setting that is
left of the request is there and fits the buffer, which then begins with it. Without the setting
the error names what is missing, and the buffer is left alone. -/
theorem getConfigParameter_reads_setting (h : C.Holds configuration)
    (hfuel : configuration.length < fuel) (domain parameter : CStr) {buffer : List UInt8}
    {length : ℕ} (hlength : length ≤ buffer.length) :
    ∃ ret buffer',
      C.getConfigParameter fuel domain.memory parameter.memory buffer length = some (ret, buffer') ∧
        (ret = osSuccess ↔ ∃ value, C.requestedSetting configuration domain parameter = .ok value ∧
          value.length ≤ length) ∧
        (∀ value, C.requestedSetting configuration domain parameter = .ok value →
          value.length ≤ length → buffer' = value ++ buffer.drop value.length) ∧
        ∀ e, C.requestedSetting configuration domain parameter = .error e →
          ret = C.error e ∧ buffer' = buffer := by
  have hread := readsSetting_of_holds h hfuel domain parameter hlength
  cases hsetting : C.requestedSetting configuration domain parameter with
  | error e =>
      rw [hsetting, ReadsSetting] at hread
      refine ⟨_, _, hread, by simp [C.error_ne_osSuccess e], by simp, ?_⟩
      rintro e' ⟨rfl⟩
      exact ⟨rfl, rfl⟩
  | ok value =>
      rw [hsetting, ReadsSetting] at hread
      split_ifs at hread with hfits
      · exact ⟨_, _, hread, by simp [hfits], by simp, by simp⟩
      · obtain ⟨ret, buffer', hread, hret⟩ := hread
        exact ⟨ret, buffer', hread, by simp [hret, hfits], by simp [hfits], by simp⟩

end ConfigService

/-! ## A service over a list -/

/-- The service finds a parameter by the bytes of its name field. -/
def StoredDomain.settings (d : StoredDomain) : DomainSettings where
  name := cString (padName 32 d.name).bytes
  value name := (d.parameters.find? fun p ↦
    (padName 32 p.1).bytes = (initializeName 32 name).bytes).map Prod.snd

theorem initializeName_keptName (size : ℕ) (name : CStr) :
    initializeName size (keptName size name) = initializeName size name.memory := by
  have hkept : (keptName size name).takeWhile (· ≠ 0) = keptName size name :=
    takeWhile_eq_self fun h ↦ name.zero_notMem (List.mem_of_mem_take h)
  have hcopy : strncpy (List.replicate size 0) (keptName size name) (size - 1) =
      strncpy (List.replicate size 0) name.memory (size - 1) := by
    rw [strncpy, strncpy, CStr.takeWhile_memory, hkept, keptName, List.take_take, Nat.min_self]
  simp only [initializeName, hcopy]

theorem ConfigService.hasValue_ofList (domains : List StoredDomain) (value : List UInt8) :
    (ConfigService.ofList domains).HasValue value value := by
  intro buffer length _
  split_ifs with hfits
  · exact if_pos hfits
  · have hread : (ConfigService.ofList domains).parameterGetValue value buffer length =
        (-1, buffer) := if_neg hfits
    rw [hread]
    exact Int.negSucc_ne_zero 0

theorem ConfigService.holdsDomain_ofList (domains : List StoredDomain) (d : StoredDomain) :
    (ConfigService.ofList domains).HoldsDomain d d.settings := by
  have hget : ∀ (name : CStr) (old : List UInt8), (ConfigService.ofList domains).domainGetElement d
      ((ConfigService.ofList domains).initializeParameterName name.memory).2 old =
        ((d.settings.value (keptName 32 name)).map (osSuccess, ·)).getD (-1, old) := by
    intro name old
    have hsettings : d.settings.value (keptName 32 name) = (d.parameters.find? fun p ↦
        (padName 32 p.1).bytes = (initializeName 32 name.memory).bytes).map Prod.snd := by
      rw [← initializeName_keptName]
      rfl
    rw [hsettings]
    simp only [ConfigService.ofList, initializeParameterName]
    cases d.parameters.find? fun p ↦
      (padName 32 p.1).bytes = (initializeName 32 name.memory).bytes <;> rfl
  refine ⟨rfl, fun name value hvalue ↦ ?_, fun name hnone old ↦ ?_⟩
  · have hvalue : d.settings.value (keptName 32 name) = some value := hvalue
    refine ⟨value, hasValue_ofList domains value, fun old ↦ (hget name old).trans ?_⟩
    rw [hvalue]
    rfl
  · have hnone : d.settings.value (keptName 32 name) = none := hnone
    have hold := hget name old
    rw [hnone] at hold
    exact fun hsuccess ↦ Int.negSucc_ne_zero 0
      ((congrArg Prod.fst hold).symm.trans hsuccess)

theorem ConfigService.holds_ofList (domains : List StoredDomain) :
    (ConfigService.ofList domains).Holds (domains.map StoredDomain.settings) := by
  refine ⟨domains, stores_ofList domains, ?_⟩
  exact List.forall₂_map_right_iff.mpr
    (List.forall₂_same.mpr fun d _ ↦ holdsDomain_ofList domains d)

/-- The addresses of the configuration file. -/
def storedAddresses : StoredDomain where
  name := asciiBytes "Domain-NwStack"
  parameters :=
    [(asciiBytes "ETH_ADDR", asciiBytes "10.0.0.11"),
      (asciiBytes "ETH_GATEWAY_ADDR", asciiBytes "10.0.0.1"),
      (asciiBytes "ETH_SUBNET_MASK", asciiBytes "255.255.255.0")]

/-- An address is read, and a name that is not there is reported. -/
theorem getConfigParameter_reads_address :
    (∃ buffer', (ConfigService.ofList [storedAddresses]).getConfigParameter 2
        (CStr.memory ⟨asciiBytes "Domain-NwStack", by decide⟩)
        (CStr.memory ⟨asciiBytes "ETH_ADDR", by decide⟩) (List.replicate 16 0) 16 =
          some (osSuccess, buffer')) ∧
      (ConfigService.ofList [storedAddresses]).getConfigParameter 2
        (CStr.memory ⟨asciiBytes "Domain-NwStack", by decide⟩)
        (CStr.memory ⟨asciiBytes "MQTT_Topic", by decide⟩) (List.replicate 16 0) 16 =
          some (-3, List.replicate 16 0) := by
  have hholds := ConfigService.holds_ofList [storedAddresses]
  obtain ⟨ret, buffer', hread, hsuccess, -⟩ := ConfigService.getConfigParameter_reads_setting hholds
    Nat.one_lt_two ⟨asciiBytes "Domain-NwStack", by decide⟩ ⟨asciiBytes "ETH_ADDR", by decide⟩
    (List.length_replicate (n := 16) (a := 0)).ge
  obtain ⟨ret', buffer'', hread', -, -, herror⟩ := ConfigService.getConfigParameter_reads_setting
    hholds Nat.one_lt_two ⟨asciiBytes "Domain-NwStack", by decide⟩
    ⟨asciiBytes "MQTT_Topic", by decide⟩ (List.length_replicate (n := 16) (a := 0)).ge
  obtain rfl := hsuccess.mpr ⟨asciiBytes "10.0.0.11", by rfl, by decide⟩
  obtain ⟨rfl, rfl⟩ := herror .parameterNotFound (by rfl)
  exact ⟨⟨buffer', hread⟩, hread'⟩

end DemoIotApp
