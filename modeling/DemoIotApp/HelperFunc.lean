import DemoIotApp.Platform

/-!
# `helper_func.c`: reading a setting

The settings are kept by the configuration service. A setting is found by the name of its
domain, by walking over all domains with an enumerator, and by its own name in the domain.
-/

namespace DemoIotApp

open Library

/-! ## The configuration service -/

/-- The name field of a domain or of a parameter. A shorter name is followed by a zero. -/
structure NameField (size : ℕ) where
  bytes : List UInt8
  length_bytes : bytes.length = size

/-- The codes of the configuration library that the helpers return. -/
inductive ConfigError where
  | generic
  | domainNotFound
  | parameterNotFound
  deriving DecidableEq

/-- `OS_ConfigService`, as it answers to one handle. What the library stores through a
pointer is returned, and a function that may leave the pointer alone takes what was there. -/
structure ConfigService where
  Domain : Type
  Parameter : Type
  Enumerator : Type
  domainNameSize : ℕ
  domainNameSize_pos : 0 < domainNameSize
  parameterNameSize : ℕ
  parameterNameSize_pos : 0 < parameterNameSize
  error : ConfigError → ℤ
  error_injective : Function.Injective error
  error_ne_osSuccess : ∀ e, error e ≠ osSuccess
  domainEnumeratorInit : Enumerator → Enumerator
  domainEnumeratorGetElement : Enumerator → Domain → ℤ × Domain
  domainEnumeratorIncrement : Enumerator → ℤ × Enumerator
  domainGetName : Domain → NameField domainNameSize
  domainGetElement : Domain → NameField parameterNameSize → Parameter → ℤ × Parameter
  parameterGetValue : Parameter → List UInt8 → ℕ → ℤ × List UInt8
  zeroEnumerator : Enumerator
  /-- What a local variable holds before it is set. -/
  unsetDomain : Domain
  unsetParameter : Parameter

/-! ## Names -/

def initializeName (size : ℕ) (name : List UInt8) : NameField size where
  bytes := strncpy (List.replicate size 0) name (size - 1)
  length_bytes := by
    rw [length_strncpy _ _ (by simp), List.length_replicate]

namespace ConfigService

variable (C : ConfigService)

def compareDomainName (a b : NameField C.domainNameSize) : ℤ :=
  if strncmp C.domainNameSize a.bytes b.bytes ≠ 0 then C.error .generic else osSuccess

def initializeDomainName (name : List UInt8) : ℤ × NameField C.domainNameSize :=
  (osSuccess, initializeName C.domainNameSize name)

def initializeParameterName (name : List UInt8) : ℤ × NameField C.parameterNameSize :=
  (osSuccess, initializeName C.parameterNameSize name)

/-! ## The search -/

/-- The loop of `find_domain`. Without a result it has been observed for too few turns. -/
def searchDomain (domainName : NameField C.domainNameSize) :
    (fuel : ℕ) → C.Enumerator → C.Domain → Option (ℤ × C.Enumerator × C.Domain)
  | 0, _, _ => none
  | fuel + 1, enumerator, domain =>
      let (ret, domain) := C.domainEnumeratorGetElement enumerator domain
      if ret ≠ osSuccess then
        some (C.error .generic, enumerator, domain)
      else if C.compareDomainName (C.domainGetName domain) domainName = osSuccess then
        some (osSuccess, enumerator, domain)
      else
        let (ret, enumerator) := C.domainEnumeratorIncrement enumerator
        if ret ≠ osSuccess then
          some (C.error .generic, enumerator, domain)
        else
          searchDomain domainName fuel enumerator domain

def findDomain (fuel : ℕ) (enumerator : C.Enumerator) (domainName : NameField C.domainNameSize)
    (domain : C.Domain) : Option (ℤ × C.Enumerator × C.Domain) :=
  C.searchDomain domainName fuel (C.domainEnumeratorInit enumerator) domain

def getParameterElement (fuel : ℕ) (domainName parameterName : List UInt8)
    (parameter : C.Parameter) : Option (ℤ × C.Parameter) := do
  let (_, domainName) := C.initializeDomainName domainName
  let (_, parameterName) := C.initializeParameterName parameterName
  let (ret, _, domain) ← C.findDomain fuel C.zeroEnumerator domainName C.unsetDomain
  if ret ≠ osSuccess then
    return (C.error .domainNotFound, parameter)
  else
    let (ret, parameter) := C.domainGetElement domain parameterName parameter
    if ret ≠ osSuccess then
      return (C.error .parameterNotFound, parameter)
    else
      return (osSuccess, parameter)

/-- `helper_func_getConfigParameter` -/
def getConfigParameter (fuel : ℕ) (domainName parameterName parameterBuffer : List UInt8)
    (parameterLength : ℕ) : Option (ℤ × List UInt8) := do
  let (ret, parameter) ← C.getParameterElement fuel domainName parameterName C.unsetParameter
  if ret ≠ osSuccess then
    return (ret, parameterBuffer)
  else
    let (ret, parameterBuffer) := C.parameterGetValue parameter parameterBuffer parameterLength
    if ret ≠ osSuccess then
      return (ret, parameterBuffer)
    else
      return (osSuccess, parameterBuffer)

/-! ## What the enumerator visits -/

/-- The enumerator goes over these domains in order and fails past the last one. -/
def Visits : C.Enumerator → List C.Domain → Prop
  | enumerator, [] => ∀ domain, (C.domainEnumeratorGetElement enumerator domain).1 ≠ osSuccess
  | enumerator, d :: ds =>
      (∀ domain, C.domainEnumeratorGetElement enumerator domain = (osSuccess, d)) ∧
        if (C.domainEnumeratorIncrement enumerator).1 = osSuccess then
          Visits (C.domainEnumeratorIncrement enumerator).2 ds
        else ds = []

/-- These domains are stored, in this order. -/
def Stores (ds : List C.Domain) : Prop :=
  ∀ enumerator, C.Visits (C.domainEnumeratorInit enumerator) ds

/-- The name of a stored domain. -/
def domainName (d : C.Domain) : List UInt8 := cString (C.domainGetName d).bytes

/-- A search reports the domain that is there to be found, or a failure. -/
def Reports : Option C.Domain → ℤ → C.Domain → Prop
  | some d, ret, domain => ret = osSuccess ∧ domain = d
  | none, ret, _ => ret ≠ osSuccess

variable {C}

theorem cString_initializeName {size : ℕ} (hsize : 0 < size) (name : List UInt8) :
    cString (initializeName size name).bytes = (cString name).take (size - 1) := by
  apply takeWhile_strncpy
  rw [List.drop_replicate, Nat.sub_sub_self hsize]
  rfl

/-- A stored domain is taken for the requested one when its name is what the name field has
kept of the request. -/
theorem compareDomainName_eq_osSuccess_iff (d : C.Domain) (name : List UInt8) :
    C.compareDomainName (C.domainGetName d) (C.initializeDomainName name).2 = osSuccess ↔
      C.domainName d = (cString name).take (C.domainNameSize - 1) := by
  have hnames := strncmp_eq_zero_iff (C.domainGetName d).length_bytes
    (C.initializeDomainName name).2.length_bytes
  change _ ↔ C.domainName d = cString (C.initializeDomainName name).2.bytes at hnames
  rw [compareDomainName, ← cString_initializeName C.domainNameSize_pos]
  split_ifs with hdiffer
  · exact iff_of_false (C.error_ne_osSuccess _) fun heq ↦ hdiffer (hnames.mpr heq)
  · exact iff_of_true rfl (hnames.mp (not_not.mp hdiffer))

/-- The search ends within one turn for each domain and one more, with the first domain whose
name is the kept one. -/
theorem searchDomain_of_visits (name : List UInt8) {ds : List C.Domain} {fuel : ℕ}
    (hfuel : ds.length < fuel) {enumerator : C.Enumerator} (hvisits : C.Visits enumerator ds)
    (domain : C.Domain) :
    ∃ ret enumerator' domain', C.searchDomain (C.initializeDomainName name).2 fuel enumerator
        domain = some (ret, enumerator', domain') ∧
      C.Reports (ds.find? fun d ↦
        C.domainName d = (cString name).take (C.domainNameSize - 1)) ret domain' := by
  induction ds generalizing fuel enumerator domain with
  | nil =>
      obtain ⟨fuel, rfl⟩ := Nat.exists_eq_add_of_lt hfuel
      simp only [List.length_nil, zero_add, searchDomain]
      rw [if_pos (hvisits domain)]
      exact ⟨_, _, _, rfl, C.error_ne_osSuccess _⟩
  | cons d ds ih =>
      obtain ⟨fuel, rfl⟩ := Nat.exists_eq_add_one.mpr (Nat.zero_lt_of_lt hfuel)
      obtain ⟨hget, hnext⟩ := hvisits
      simp only [searchDomain, hget, ne_eq, not_true_eq_false, if_false,
        compareDomainName_eq_osSuccess_iff]
      by_cases hname : C.domainName d = (cString name).take (C.domainNameSize - 1)
      · rw [if_pos hname, List.find?_cons_of_pos (by simpa using hname)]
        exact ⟨_, _, _, rfl, rfl, rfl⟩
      · rw [if_neg hname, List.find?_cons_of_neg (by simpa using hname)]
        by_cases hincrement : (C.domainEnumeratorIncrement enumerator).1 = osSuccess
        · rw [if_pos hincrement] at hnext
          rw [if_neg (not_not.mpr hincrement)]
          exact ih (Nat.lt_of_succ_lt_succ hfuel) hnext d
        · rw [if_neg hincrement] at hnext
          subst hnext
          rw [if_pos hincrement]
          exact ⟨_, _, _, rfl, C.error_ne_osSuccess _⟩

end ConfigService

/-! ## A service over a list -/

/-- A domain with the values of its parameters. -/
structure StoredDomain where
  name : List UInt8
  parameters : List (List UInt8 × List UInt8)
  deriving DecidableEq

def padName (size : ℕ) (name : List UInt8) : NameField size where
  bytes := (name ++ List.replicate size 0).take size
  length_bytes := by simp

/-- The names have 32 bytes at most, and the enumerator is a position in the list. -/
def ConfigService.ofList (domains : List StoredDomain) : ConfigService where
  Domain := StoredDomain
  Parameter := List UInt8
  Enumerator := ℕ
  domainNameSize := 32
  domainNameSize_pos := by decide
  parameterNameSize := 32
  parameterNameSize_pos := by decide
  error
    | .generic => -1
    | .domainNotFound => -2
    | .parameterNotFound => -3
  error_injective := by
    intro e e' h
    cases e <;> cases e' <;> simp_all
  error_ne_osSuccess e := by cases e <;> decide
  domainEnumeratorInit _ := 0
  domainEnumeratorGetElement i domain :=
    if h : i < domains.length then (osSuccess, domains[i]) else (-1, domain)
  domainEnumeratorIncrement i := (osSuccess, i + 1)
  domainGetName d := padName 32 d.name
  domainGetElement d name parameter :=
    match d.parameters.find? fun p ↦ (padName 32 p.1).bytes = name.bytes with
    | some p => (osSuccess, p.2)
    | none => (-1, parameter)
  parameterGetValue value buffer length :=
    if value.length ≤ length then (osSuccess, value ++ buffer.drop value.length) else (-1, buffer)
  zeroEnumerator := 0
  unsetDomain := ⟨[], []⟩
  unsetParameter := []

theorem ConfigService.visits_ofList (domains rest : List StoredDomain) (i : ℕ)
    (h : domains.drop i = rest) : (ConfigService.ofList domains).Visits i rest := by
  induction rest generalizing i with
  | nil =>
      intro domain
      have hi : ¬i < domains.length := not_lt.mpr (List.drop_eq_nil_iff.mp h)
      simp [ConfigService.ofList, hi, osSuccess]
  | cons d ds ih =>
      have hi : i < domains.length := by
        by_contra hlength
        rw [List.drop_eq_nil_of_le (not_lt.mp hlength)] at h
        cases h
      rw [List.drop_eq_getElem_cons hi] at h
      obtain ⟨hd, hds⟩ := List.cons.inj h
      refine ⟨fun domain ↦ ?_, ?_⟩
      · simp [ConfigService.ofList, hi, hd]
      · exact (if_pos (rfl : osSuccess = osSuccess)).mpr (ih (i + 1) hds)

theorem ConfigService.stores_ofList (domains : List StoredDomain) :
    (ConfigService.ofList domains).Stores domains :=
  fun _ ↦ visits_ofList domains domains 0 rfl

end DemoIotApp
