import Mathlib.Algebra.Ring.Int.Defs
import Mathlib.Data.List.TakeWhile
import Mathlib.Tactic.Common

/-!
# Strings that end with a zero

A C string is the memory from its first character up to a zero. The functions of the
C library below take the memory behind a pointer, up to the end of its object.
-/

namespace DemoIotApp.Library

/-- Characters that can stand in front of the zero. -/
structure CStr where
  chars : List UInt8
  zero_notMem : 0 ∉ chars

/-- The string as an object of its own. -/
def CStr.memory (s : CStr) : List UInt8 := s.chars ++ [0]

theorem CStr.ext_chars {s s' : CStr} (h : s.chars = s'.chars) : s = s' := by
  cases s
  cases s'
  cases h
  rfl

/-- `strlen`, for a string that ends inside its object. -/
def strlen (memory : List UInt8) : Option ℕ :=
  if 0 ∈ memory then some (memory.takeWhile (· ≠ 0)).length else none

/-- `strncpy` fills up with zeros when the string is shorter than the count. -/
def strncpy (dest src : List UInt8) (count : ℕ) : List UInt8 :=
  let copied := (src.takeWhile (· ≠ 0)).take count
  copied ++ List.replicate (count - copied.length) 0 ++ dest.drop count

/-- `strncmp` -/
def strncmp : ℕ → List UInt8 → List UInt8 → ℤ
  | count + 1, a :: as, b :: bs =>
      if a ≠ b then a.toNat - b.toNat else if a = 0 then 0 else strncmp count as bs
  | _, _, _ => 0

theorem takeWhile_append_zero (chars rest : List UInt8) :
    (chars ++ 0 :: rest).takeWhile (· ≠ 0) = chars.takeWhile (· ≠ 0) := by
  induction chars with
  | nil => simp
  | cons c chars ih => simp only [List.cons_append, List.takeWhile_cons, ih]

theorem takeWhile_eq_self {chars : List UInt8} (h : 0 ∉ chars) :
    chars.takeWhile (· ≠ 0) = chars := by
  rw [List.takeWhile_eq_self_iff]
  intro c hc
  simpa using ne_of_mem_of_not_mem hc h

theorem zero_notMem_takeWhile (memory : List UInt8) : 0 ∉ memory.takeWhile (· ≠ 0) := by
  intro hmem
  have hne := List.mem_takeWhile_imp hmem
  simp at hne

@[simp] theorem CStr.takeWhile_memory (s : CStr) : s.memory.takeWhile (· ≠ 0) = s.chars :=
  (takeWhile_append_zero s.chars []).trans (takeWhile_eq_self s.zero_notMem)

theorem strlen_eq_some_iff {memory : List UInt8} {n : ℕ} :
    strlen memory = some n ↔ 0 ∈ memory ∧ (memory.takeWhile (· ≠ 0)).length = n := by
  unfold strlen
  split_ifs with h
  · simp [h]
  · simp [h]

theorem length_strncpy (dest src : List UInt8) {count : ℕ} (h : count ≤ dest.length) :
    (strncpy dest src count).length = dest.length := by
  have hcopied : ((src.takeWhile (· ≠ 0)).take count).length ≤ count := List.length_take_le _ _
  simp only [strncpy, List.length_append, List.length_replicate, List.length_drop]
  omega

/-- A copy that leaves a zero behind it holds the string up to the count. -/
theorem takeWhile_strncpy {dest : List UInt8} (src : List UInt8) {count : ℕ}
    (h : dest.drop count = [0]) :
    (strncpy dest src count).takeWhile (· ≠ 0) = (src.takeWhile (· ≠ 0)).take count := by
  have hzeros : ∀ n, List.replicate n (0 : UInt8) ++ [0] = 0 :: List.replicate n 0 := by
    intro n
    rw [← List.replicate_succ', List.replicate_succ]
  have hcopied : 0 ∉ (src.takeWhile (· ≠ 0)).take count :=
    fun hmem ↦ zero_notMem_takeWhile src (List.mem_of_mem_take hmem)
  rw [strncpy, h, List.append_assoc, hzeros, takeWhile_append_zero, takeWhile_eq_self hcopied]

theorem toNat_sub_toNat_eq_zero_iff {a b : UInt8} : (a.toNat : ℤ) - b.toNat = 0 ↔ a = b := by
  rw [sub_eq_zero, Nat.cast_inj, UInt8.toNat_inj]

/-- Two objects compare equal when they begin with the same string, where an object without
a zero counts as a whole. -/
theorem strncmp_eq_zero_iff {count : ℕ} {a b : List UInt8} (ha : a.length = count)
    (hb : b.length = count) :
    strncmp count a b = 0 ↔ a.takeWhile (· ≠ 0) = b.takeWhile (· ≠ 0) := by
  induction count generalizing a b with
  | zero => simp [List.length_eq_zero_iff.mp ha, List.length_eq_zero_iff.mp hb, strncmp]
  | succ count ih =>
      obtain ⟨c, as, rfl⟩ := List.exists_cons_of_length_eq_add_one ha
      obtain ⟨d, bs, rfl⟩ := List.exists_cons_of_length_eq_add_one hb
      have hrest := ih (Nat.succ.inj ha) (Nat.succ.inj hb)
      rw [strncmp, List.takeWhile_cons, List.takeWhile_cons]
      by_cases hcd : c = d
      · subst hcd
        by_cases hc : c = 0
        · simp [hc]
        · simp [hc, hrest]
      · have hne : ¬(c.toNat : ℤ) - d.toNat = 0 := fun h ↦ hcd (toNat_sub_toNat_eq_zero_iff.mp h)
        rw [if_pos hcd]
        refine iff_of_false hne fun h ↦ ?_
        by_cases hc : c = 0 <;> by_cases hd : d = 0 <;> simp_all

end DemoIotApp.Library
