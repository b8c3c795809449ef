import DemoIotApp.ConfigStore

/-!
# `NwStackConfigurator.c`: the addresses of the network stack

Before the application runs, `post_init` reads three addresses and passes them to the network
stack in one call. The arrays that it passes are those of a local variable, which nothing clears.
-/

namespace DemoIotApp

open Library

/-! ## The program -/

/-- `OS_NetworkStack_AddressConfig_t` -/
structure AddressConfig where
  devAddr : List UInt8
  gatewayAddr : List UInt8
  subnetMask : List UInt8

def domainNwStack : CStr := ⟨asciiBytes "Domain-NwStack", by decide⟩

def ethAddr : CStr := ⟨asciiBytes "ETH_ADDR", by decide⟩

def ethGatewayAddr : CStr := ⟨asciiBytes "ETH_GATEWAY_ADDR", by decide⟩

def ethSubnetMask : CStr := ⟨asciiBytes "ETH_SUBNET_MASK", by decide⟩

/-- What the configurator is connected to. -/
structure NwStackConfigurator where
  config : ConfigService
  createHandleRemote : ℤ
  /-- What the local variable holds before it is set. -/
  unsetAddrConfig : AddressConfig

namespace NwStackConfigurator

variable (N : NwStackConfigurator)

/-- `helper_func_getConfigParameter` into a whole array. -/
def getConfig (fuel : ℕ) (parameterName : CStr) (array : List UInt8) :
    Option (ℤ × List UInt8) :=
  N.config.getConfigParameter fuel domainNwStack.memory parameterName.memory array array.length

def readIpFromConfigServer (fuel : ℕ) (ipAddrConfig : AddressConfig)
    (devAddrParamName gatewayAddrParamName subnetMaskParamName : CStr) :
    Option (ℤ × AddressConfig) :=
  let ret := N.createHandleRemote
  if ret ≠ osSuccess then
    return (ret, ipAddrConfig)
  else do
    let (ret, devAddr) ← N.getConfig fuel devAddrParamName ipAddrConfig.devAddr
    let ipAddrConfig := { ipAddrConfig with devAddr := devAddr }
    if ret ≠ osSuccess then
      return (ret, ipAddrConfig)
    else
      let (ret, gatewayAddr) ← N.getConfig fuel gatewayAddrParamName ipAddrConfig.gatewayAddr
      let ipAddrConfig := { ipAddrConfig with gatewayAddr := gatewayAddr }
      if ret ≠ osSuccess then
        return (ret, ipAddrConfig)
      else
        let (ret, subnetMask) ← N.getConfig fuel subnetMaskParamName ipAddrConfig.subnetMask
        let ipAddrConfig := { ipAddrConfig with subnetMask := subnetMask }
        if ret ≠ osSuccess then
          return (ret, ipAddrConfig)
        else
          return (osSuccess, ipAddrConfig)

/-- `post_init`, with the calls of `configIpAddr` that it makes. What they return is only
logged. -/
def postInit (fuel : ℕ) : Option (List AddressConfig) := do
  let (ret, ipAddrConfig) ←
    N.readIpFromConfigServer fuel N.unsetAddrConfig ethAddr ethGatewayAddr ethSubnetMask
  if ret ≠ osSuccess then
    return []
  else
    return [ipAddrConfig]

end NwStackConfigurator

/-! ## What the network stack gets -/

/-- An array after a setting was read into it. -/
def overwritten (array value : List UInt8) : List UInt8 := value ++ array.drop value.length

/-- The arrays after the addresses were read into them. -/
def AddressConfig.overwrittenBy (unset addresses : AddressConfig) : AddressConfig where
  devAddr := overwritten unset.devAddr addresses.devAddr
  gatewayAddr := overwritten unset.gatewayAddr addresses.gatewayAddr
  subnetMask := overwritten unset.subnetMask addresses.subnetMask

namespace NwStackConfigurator

variable (N : NwStackConfigurator)

/-- The setting is there and fits the array. -/
def HasAddress (configuration : List DomainSettings) (parameterName : CStr) (array : List UInt8)
    (value : List UInt8) : Prop :=
  N.config.requestedSetting configuration domainNwStack parameterName = .ok value ∧
    value.length ≤ array.length

variable {N} {configuration : List DomainSettings} {fuel : ℕ}

/-- A read of an address returns, and it succeeds if the address is there. -/
theorem getConfig_of_holds (h : N.config.Holds configuration) (hfuel : configuration.length < fuel)
    (parameterName : CStr) (array : List UInt8) :
    ∃ ret array', N.getConfig fuel parameterName array = some (ret, array') ∧
      (ret = osSuccess ∧ (∃ value, N.HasAddress configuration parameterName array value ∧
          array' = overwritten array value) ∨
        ret ≠ osSuccess ∧ ∀ value, ¬N.HasAddress configuration parameterName array value) := by
  have hread := ConfigService.readsSetting_of_holds h hfuel domainNwStack parameterName
    (Nat.le_refl array.length)
  unfold HasAddress
  cases hsetting : N.config.requestedSetting configuration domainNwStack parameterName with
  | error e =>
      rw [hsetting, ConfigService.ReadsSetting] at hread
      exact ⟨_, _, hread, Or.inr ⟨N.config.error_ne_osSuccess e, by simp⟩⟩
  | ok value =>
      rw [hsetting, ConfigService.ReadsSetting] at hread
      split_ifs at hread with hfits
      · exact ⟨_, _, hread, Or.inl ⟨rfl, value, ⟨rfl, hfits⟩, rfl⟩⟩
      · obtain ⟨ret, array', hread, hret⟩ := hread
        refine ⟨ret, array', hread, Or.inr ⟨hret, ?_⟩⟩
        rintro value' ⟨⟨rfl⟩, hfits'⟩
        exact hfits hfits'

variable (N configuration) in
/-- The service can be reached, and the three settings are there and fit. -/
structure HasAddresses (addresses : AddressConfig) : Prop where
  reachable : N.createHandleRemote = osSuccess
  devAddr : N.HasAddress configuration ethAddr N.unsetAddrConfig.devAddr addresses.devAddr
  gatewayAddr :
    N.HasAddress configuration ethGatewayAddr N.unsetAddrConfig.gatewayAddr addresses.gatewayAddr
  subnetMask :
    N.HasAddress configuration ethSubnetMask N.unsetAddrConfig.subnetMask addresses.subnetMask

theorem HasAddress.unique {parameterName : CStr} {array value value' : List UInt8}
    (h : N.HasAddress configuration parameterName array value)
    (h' : N.HasAddress configuration parameterName array value') : value = value' :=
  Except.ok.inj (h.1.symm.trans h'.1)

theorem HasAddresses.unique {addresses addresses' : AddressConfig}
    (h : N.HasAddresses configuration addresses) (h' : N.HasAddresses configuration addresses') :
    addresses = addresses' := by
  cases addresses
  cases addresses'
  simp only [AddressConfig.mk.injEq]
  exact ⟨h.devAddr.unique h'.devAddr, h.gatewayAddr.unique h'.gatewayAddr,
    h.subnetMask.unique h'.subnetMask⟩

/-- A read of all addresses returns. It succeeds with all of them, or there is one that is not
there. -/
theorem readIpFromConfigServer_of_holds (h : N.config.Holds configuration)
    (hfuel : configuration.length < fuel) :
    ∃ ret ipAddrConfig,
      N.readIpFromConfigServer fuel N.unsetAddrConfig ethAddr ethGatewayAddr ethSubnetMask =
          some (ret, ipAddrConfig) ∧
        (ret = osSuccess ∧ (∃ addresses, N.HasAddresses configuration addresses ∧
            ipAddrConfig = N.unsetAddrConfig.overwrittenBy addresses) ∨
          ret ≠ osSuccess ∧ ∀ addresses, ¬N.HasAddresses configuration addresses) := by
  rw [readIpFromConfigServer]
  by_cases hreachable : N.createHandleRemote = osSuccess
  swap
  · simp only [ne_eq, hreachable, not_false_eq_true, if_true]
    exact ⟨_, _, rfl, Or.inr ⟨hreachable, fun addresses hall ↦ hreachable hall.reachable⟩⟩
  simp only [ne_eq, hreachable, not_true_eq_false, if_false]
  obtain ⟨ret, devAddr, hdev, ⟨rfl, dev, hdevAddr, rfl⟩ | ⟨hret, hnone⟩⟩ :=
    getConfig_of_holds h hfuel ethAddr N.unsetAddrConfig.devAddr
  swap
  · refine ⟨ret, { N.unsetAddrConfig with devAddr := devAddr }, by simp [hdev, hret], ?_⟩
    exact Or.inr ⟨hret, fun addresses hall ↦ hnone _ hall.devAddr⟩
  simp only [hdev, Option.bind_eq_bind, Option.bind_some, not_true_eq_false, if_false]
  obtain ⟨ret, gatewayAddr, hgateway, ⟨rfl, gateway, hgatewayAddr, rfl⟩ | ⟨hret, hnone⟩⟩ :=
    getConfig_of_holds h hfuel ethGatewayAddr N.unsetAddrConfig.gatewayAddr
  swap
  · refine ⟨ret, ⟨overwritten N.unsetAddrConfig.devAddr dev, gatewayAddr,
      N.unsetAddrConfig.subnetMask⟩, by simp [hgateway, hret], ?_⟩
    exact Or.inr ⟨hret, fun addresses hall ↦ hnone _ hall.gatewayAddr⟩
  simp only [hgateway, Option.bind_some, not_true_eq_false, if_false]
  obtain ⟨ret, subnetMask, hsubnet, ⟨rfl, subnet, hsubnetMask, rfl⟩ | ⟨hret, hnone⟩⟩ :=
    getConfig_of_holds h hfuel ethSubnetMask N.unsetAddrConfig.subnetMask
  swap
  · refine ⟨ret, ⟨overwritten N.unsetAddrConfig.devAddr dev,
      overwritten N.unsetAddrConfig.gatewayAddr gateway, subnetMask⟩, by simp [hsubnet, hret], ?_⟩
    exact Or.inr ⟨hret, fun addresses hall ↦ hnone _ hall.subnetMask⟩
  have hall : N.HasAddresses configuration ⟨dev, gateway, subnet⟩ :=
    ⟨hreachable, hdevAddr, hgatewayAddr, hsubnetMask⟩
  refine ⟨osSuccess, N.unsetAddrConfig.overwrittenBy ⟨dev, gateway, subnet⟩,
    by simp [hsubnet, AddressConfig.overwrittenBy], Or.inl ⟨rfl, _, hall, rfl⟩⟩

/-- The configurator with the addresses of the configuration file. -/
def stored : NwStackConfigurator where
  config := ConfigService.ofList [storedAddresses]
  createHandleRemote := osSuccess
  unsetAddrConfig :=
    { devAddr := List.replicate 16 165
      gatewayAddr := List.replicate 16 165
      subnetMask := List.replicate 16 165 }

end NwStackConfigurator

end DemoIotApp
