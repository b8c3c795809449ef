import DemoIotApp.HelperFunc
import Mathlib.Data.Set.Basic

/-!
# Which domain a request finds

A name field of `N` bytes may be full, but a request is cut to `N - 1` characters before it
is compared. A request that is cut can therefore find a domain that it does not name, and it
does not find the one that it names.
-/

namespace DemoIotApp

open Library

namespace ConfigService

variable (C : ConfigService)

/-- `find_domain` with the name that `get_parameter_element` makes of the request. -/
def findRequested (fuel : ℕ) (enumerator : C.Enumerator) (domain : C.Domain) (request : CStr) :
    Option (ℤ × C.Enumerator × C.Domain) :=
  C.findDomain fuel enumerator (C.initializeDomainName request.memory).2 domain

/-- The search ends with the first domain of that name, or fails if there is none, and only then
is the error that no domain was found. -/
def FindsNamed (ds : List C.Domain) (fuel : ℕ) (request : CStr) : Prop :=
  (∀ enumerator domain, ∃ ret enumerator' domain',
    C.findRequested fuel enumerator domain request = some (ret, enumerator', domain') ∧
      C.Reports (ds.find? fun d ↦ C.domainName d = request.chars) ret domain') ∧
  ∀ parameterName parameter,
    (∃ parameter', C.getParameterElement fuel request.memory parameterName parameter =
      some (C.error .domainNotFound, parameter')) ↔ ∀ d ∈ ds, C.domainName d ≠ request.chars

def Selects (fuel : ℕ) (request : CStr) (d : C.Domain) : Prop :=
  ∃ enumerator domain enumerator',
    C.findRequested fuel enumerator domain request = some (osSuccess, enumerator', d)

/-- The request fits into a name field with a zero behind it, or there is a domain neither of
its name nor of the name to which it is cut. -/
def Unambiguous (ds : List C.Domain) (request : CStr) : Prop :=
  request.chars.length < C.domainNameSize ∨ ∀ d ∈ ds, C.domainName d ≠ request.chars ∧
    C.domainName d ≠ request.chars.take (C.domainNameSize - 1)

variable {C} {ds : List C.Domain} {fuel : ℕ} {request : CStr}

variable (request) in
/-- Any request finds the first domain of the name to which it is cut. -/
theorem findRequested_of_stores (hstores : C.Stores ds) (hfuel : ds.length < fuel)
    (enumerator : C.Enumerator) (domain : C.Domain) :
    ∃ ret enumerator' domain', C.findRequested fuel enumerator domain request =
        some (ret, enumerator', domain') ∧
      C.Reports (ds.find? fun d ↦
        C.domainName d = request.chars.take (C.domainNameSize - 1)) ret domain' := by
  have hsearch := searchDomain_of_visits request.memory hfuel (hstores enumerator) domain
  rw [cString_memory] at hsearch
  exact hsearch

theorem find?_eq_none_iff_forall_ne {name : List UInt8} :
    ds.find? (fun d ↦ C.domainName d = name) = none ↔ ∀ d ∈ ds, C.domainName d ≠ name := by
  simp [List.find?_eq_none]

/-- The error that no domain was found tells that none has the name to which the request is
cut. -/
theorem getParameterElement_eq_domainNotFound_iff (hstores : C.Stores ds)
    (hfuel : ds.length < fuel) (parameterName : List UInt8) (parameter : C.Parameter) :
    (∃ parameter', C.getParameterElement fuel request.memory parameterName parameter =
        some (C.error .domainNotFound, parameter')) ↔
      ∀ d ∈ ds, C.domainName d ≠ request.chars.take (C.domainNameSize - 1) := by
  obtain ⟨ret, enumerator', domain', hfind, hresult⟩ := findRequested_of_stores request
    hstores hfuel C.zeroEnumerator C.unsetDomain
  rw [findRequested] at hfind
  rw [← find?_eq_none_iff_forall_ne]
  simp only [getParameterElement, hfind, Option.bind_eq_bind, Option.bind_some]
  cases hfound : ds.find? fun d ↦
      C.domainName d = request.chars.take (C.domainNameSize - 1) with
  | none =>
      rw [hfound] at hresult
      have hfailed : ret ≠ osSuccess := hresult
      rw [if_pos hfailed]
      exact iff_of_true ⟨_, rfl⟩ rfl
  | some d =>
      rw [hfound] at hresult
      rw [if_neg (not_not.mpr hresult.1)]
      refine iff_of_false ?_ (by simp)
      rintro ⟨parameter', heq⟩
      split_ifs at heq
      · have hcodes := C.error_injective (Prod.mk.inj (Option.some.inj heq)).1
        exact absurd hcodes (by decide)
      · exact C.error_ne_osSuccess _ (Prod.mk.inj (Option.some.inj heq)).1.symm

theorem domainName_of_find? {name : List UInt8} {d : C.Domain}
    (h : ds.find? (fun d ↦ C.domainName d = name) = some d) : C.domainName d = name := by
  simpa using List.find?_some h

theorem take_ne_chars (hlong : ¬request.chars.length < C.domainNameSize) :
    request.chars.take (C.domainNameSize - 1) ≠ request.chars := by
  intro h
  have hlength := congrArg List.length h
  rw [List.length_take] at hlength
  have hsize := C.domainNameSize_pos
  omega

/-- What a search selects is the first domain of the name to which the request is cut. -/
theorem Selects.find? (hstores : C.Stores ds) (hfuel : ds.length < fuel) {d : C.Domain}
    (h : C.Selects fuel request d) :
    ds.find? (fun d ↦ C.domainName d = request.chars.take (C.domainNameSize - 1)) = some d := by
  obtain ⟨enumerator, domain, enumerator', hselected⟩ := h
  obtain ⟨ret, e, d', hfind, hresult⟩ := findRequested_of_stores request
    hstores hfuel enumerator domain
  obtain ⟨rfl, hrest⟩ := Prod.mk.inj (Option.some.inj (hselected.symm.trans hfind))
  obtain ⟨-, rfl⟩ := Prod.mk.inj hrest
  cases hfound : ds.find? fun d ↦
      C.domainName d = request.chars.take (C.domainNameSize - 1) with
  | none =>
      rw [hfound] at hresult
      exact absurd rfl hresult
  | some d' =>
      rw [hfound] at hresult
      rw [hresult.2]

/-- An unambiguous request is not cut, or nothing is found either way. -/
theorem Unambiguous.find? (h : C.Unambiguous ds request) :
    ds.find? (fun d ↦ C.domainName d = request.chars.take (C.domainNameSize - 1)) =
      ds.find? fun d ↦ C.domainName d = request.chars := by
  rcases h with hshort | hnone
  · rw [List.take_of_length_le (Nat.le_sub_one_of_lt hshort)]
  · rw [find?_eq_none_iff_forall_ne.mpr fun d hd ↦ (hnone d hd).1,
      find?_eq_none_iff_forall_ne.mpr fun d hd ↦ (hnone d hd).2]

theorem findsNamed_iff_unambiguous (hstores : C.Stores ds) (hfuel : ds.length < fuel) :
    C.FindsNamed ds fuel request ↔ C.Unambiguous ds request := by
  constructor
  · rintro ⟨hfinds, -⟩
    by_cases hshort : request.chars.length < C.domainNameSize
    · exact Or.inl hshort
    obtain ⟨ret, e, d, hfind, hresult⟩ := hfinds C.zeroEnumerator C.unsetDomain
    have hnone : ds.find? (fun d ↦ C.domainName d = request.chars) = none := by
      cases hfound : ds.find? fun d ↦ C.domainName d = request.chars with
      | none => rfl
      | some d' =>
          rw [hfound] at hresult
          obtain ⟨rfl, rfl⟩ := hresult
          have hkept := Selects.find? hstores hfuel ⟨_, _, _, hfind⟩
          have hname := domainName_of_find? hkept
          exact absurd (hname.symm.trans (domainName_of_find? hfound)) (take_ne_chars hshort)
    rw [hnone] at hresult
    refine Or.inr fun d' hd' ↦ ⟨find?_eq_none_iff_forall_ne.mp hnone d' hd', ?_⟩
    obtain ⟨ret', e', d₁, hfind', hresult'⟩ := findRequested_of_stores request
      hstores hfuel C.zeroEnumerator C.unsetDomain
    obtain ⟨rfl, -⟩ := Prod.mk.inj (Option.some.inj (hfind.symm.trans hfind'))
    cases hfound : ds.find? fun d ↦
        C.domainName d = request.chars.take (C.domainNameSize - 1) with
    | none => exact find?_eq_none_iff_forall_ne.mp hfound d' hd'
    | some d₂ =>
        rw [hfound] at hresult'
        exact absurd hresult'.1 hresult
  · intro h
    refine ⟨fun enumerator domain ↦ ?_, fun parameterName parameter ↦ ?_⟩
    · rw [← h.find?]
      exact findRequested_of_stores request hstores hfuel enumerator domain
    · rw [getParameterElement_eq_domainNotFound_iff hstores hfuel,
        ← find?_eq_none_iff_forall_ne, ← find?_eq_none_iff_forall_ne, h.find?]

theorem Unambiguous.domainName_eq (h : C.Unambiguous ds request) (hstores : C.Stores ds)
    (hfuel : ds.length < fuel) {d : C.Domain} (hd : C.Selects fuel request d) :
    C.domainName d = request.chars :=
  domainName_of_find? (h.find?.symm.trans (hd.find? hstores hfuel))

/-- Requests find exactly the domains that they name, and different ones never the same domain,
if and only if each of them is unambiguous. -/
theorem findsNamed_forall_iff (hstores : C.Stores ds) (hfuel : ds.length < fuel)
    (requests : Set CStr) :
    ((∀ r ∈ requests, C.FindsNamed ds fuel r) ∧
      ∀ r ∈ requests, ∀ r' ∈ requests, r ≠ r' →
        ∀ d, C.Selects fuel r d → ¬C.Selects fuel r' d) ↔
      ∀ r ∈ requests, C.Unambiguous ds r := by
  constructor
  · rintro ⟨hfinds, -⟩ r hr
    exact (findsNamed_iff_unambiguous hstores hfuel).mp (hfinds r hr)
  · intro h
    refine ⟨fun r hr ↦ (findsNamed_iff_unambiguous hstores hfuel).mpr (h r hr), ?_⟩
    intro r hr r' hr' hne d hd hd'
    have hname := (h r hr).domainName_eq hstores hfuel hd
    have hname' := (h r' hr').domainName_eq hstores hfuel hd'
    exact hne (CStr.ext_chars (hname.symm.trans hname'))

/-! ## A setting that is found -/

/-- The setting is a blob, and every buffer that is large enough gets its bytes and keeps the
rest of its own. -/
def Delivers (C : ConfigService) (fuel : ℕ) (domainName parameterName : CStr)
    (blob : List UInt8) : Prop :=
  ∀ buffer, blob.length ≤ buffer.length →
    C.getConfigParameter fuel domainName.memory parameterName.memory buffer buffer.length =
      some (osSuccess, blob ++ buffer.drop blob.length)

/-- What the service has to answer for a setting to be delivered. -/
theorem delivers_of_stores {parameterName : CStr} {blob : List UInt8} {d : C.Domain}
    {parameter : C.Parameter} (hstores : C.Stores ds) (hfuel : ds.length < fuel)
    (hunambiguous : C.Unambiguous ds request)
    (hd : ds.find? (fun d ↦ C.domainName d = request.chars) = some d)
    (helement : ∀ old, C.domainGetElement d
      (C.initializeParameterName parameterName.memory).2 old = (osSuccess, parameter))
    (hvalue : ∀ buffer, blob.length ≤ buffer.length →
      C.parameterGetValue parameter buffer buffer.length =
        (osSuccess, blob ++ buffer.drop blob.length)) :
    C.Delivers fuel request parameterName blob := by
  intro buffer hlength
  obtain ⟨ret, e, d', hfind, hreports⟩ := findRequested_of_stores request
    hstores hfuel C.zeroEnumerator C.unsetDomain
  rw [hunambiguous.find?, hd] at hreports
  obtain ⟨rfl, rfl⟩ := hreports
  rw [findRequested] at hfind
  have hparameter : C.getParameterElement fuel request.memory parameterName.memory
      C.unsetParameter = some (osSuccess, parameter) := by
    simp [getParameterElement, hfind, helement]
  simp [getConfigParameter, hparameter, hvalue buffer hlength]

/-! ## Names that fit and names that do not -/

/-- A domain whose name leaves room for one zero, and the domain of the sensor. -/
def storedDomains : List StoredDomain :=
  [⟨List.replicate 31 65, []⟩, ⟨asciiBytes "Domain-Sensor", []⟩]

/-- Both a stored name and one that is not stored are found or missed as they should be. -/
theorem findsNamed_short_names :
    (ConfigService.ofList storedDomains).FindsNamed storedDomains 3
        ⟨asciiBytes "Domain-Sensor", by decide⟩ ∧
      (ConfigService.ofList storedDomains).FindsNamed storedDomains 3
        ⟨asciiBytes "Domain", by decide⟩ := by
  have hshort : ∀ r ∈ ({⟨asciiBytes "Domain-Sensor", by decide⟩,
      ⟨asciiBytes "Domain", by decide⟩} : Set CStr),
      (ConfigService.ofList storedDomains).Unambiguous storedDomains r := by
    rintro r (rfl | rfl)
    · exact Or.inl (by decide)
    · exact Or.inl (by decide)
  have hfinds :=
    (findsNamed_forall_iff (stores_ofList storedDomains) (Nat.lt_succ_self 2) _).mpr hshort
  exact ⟨hfinds.1 _ (.inl rfl), hfinds.1 _ (.inr rfl)⟩

/-- A name of 32 characters is stored, and a request for it fails. -/
theorem not_findsNamed_of_full_name :
    ¬(ConfigService.ofList [⟨List.replicate 32 65, []⟩]).FindsNamed [⟨List.replicate 32 65, []⟩] 2
      ⟨List.replicate 32 65, by decide⟩ := by
  rintro ⟨-, h⟩
  have hnot := (h [] []).mp ⟨[], rfl⟩
  exact hnot _ (List.mem_singleton_self _) (by decide)

end ConfigService

end DemoIotApp
