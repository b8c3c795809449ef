import Mathlib.Data.Nat.Digits.Lemmas

/-!
# Fields of a printed line

The conversions `%u`, `%.*u`, `%*u`, `%-*s` of `printf`, as ASCII bytes.
-/

namespace DemoIotApp.Library

def digitByte (digit : ℕ) : UInt8 := UInt8.ofNat (48 + digit)

def digitOfByte (byte : UInt8) : ℕ := byte.toNat - 48

/-- The digits of a number, at least as many as the precision says. -/
def zeroPadded (precision n : ℕ) : List UInt8 :=
  (Nat.digitsAppend 10 precision n).reverse.map digitByte

/-- `%u`: the default precision is one. -/
def decimal (n : ℕ) : List UInt8 := zeroPadded 1 n

def padLeft (width : ℕ) (chars : List UInt8) : List UInt8 :=
  List.replicate (width - chars.length) 32 ++ chars

def padRight (width : ℕ) (chars : List UInt8) : List UInt8 :=
  chars ++ List.replicate (width - chars.length) 32

/-- The number that a field of digits shows. -/
def ofDecimal (chars : List UInt8) : ℕ := Nat.ofDigits 10 (chars.reverse.map digitOfByte)

theorem digitOfByte_digitByte {digit : ℕ} (h : digit < 10) :
    digitOfByte (digitByte digit) = digit := by
  have hsmall : 48 + digit < 2 ^ 8 := by omega
  rw [digitOfByte, digitByte, UInt8.toNat_ofNat_of_lt' hsmall, Nat.add_sub_cancel_left]

theorem length_zeroPadded {precision n : ℕ} (h : n < 10 ^ precision) :
    (zeroPadded precision n).length = precision := by
  rw [zeroPadded, List.length_map, List.length_reverse, Nat.length_digitsAppend (by decide) _ h]

theorem ofDecimal_zeroPadded (precision n : ℕ) : ofDecimal (zeroPadded precision n) = n := by
  have hdigits : (Nat.digitsAppend 10 precision n).map (digitOfByte ∘ digitByte) =
      Nat.digitsAppend 10 precision n := by
    refine (List.map_congr_left fun digit h ↦ ?_).trans (List.map_id _)
    exact digitOfByte_digitByte (Nat.lt_of_mem_digitsAppend (by decide) _ _ h)
  simp only [ofDecimal, zeroPadded, List.map_reverse, List.reverse_reverse, List.map_map]
  rw [hdigits, Nat.digitsAppend, Nat.ofDigits_append_replicate_zero, Nat.ofDigits_digits]

theorem le_of_mem_zeroPadded {precision n : ℕ} {c : UInt8} (h : c ∈ zeroPadded precision n) :
    48 ≤ c := by
  obtain ⟨digit, hdigit, rfl⟩ := List.mem_map.mp h
  have hsmall : digit < 10 :=
    Nat.lt_of_mem_digitsAppend (by decide) _ _ (List.mem_reverse.mp hdigit)
  interval_cases digit <;> decide

theorem length_decimal_le {width n : ℕ} (hwidth : 0 < width) (h : n < 10 ^ width) :
    (decimal n).length ≤ width := by
  have hdigits : (Nat.digits 10 n).length ≤ width :=
    (Nat.digits_length_le_iff (by decide) n).mpr h
  simp only [decimal, zeroPadded, Nat.digitsAppend, List.length_map, List.length_reverse,
    List.length_append, List.length_replicate]
  omega

theorem length_padLeft {width : ℕ} {chars : List UInt8} (h : chars.length ≤ width) :
    (padLeft width chars).length = width := by
  simp only [padLeft, List.length_append, List.length_replicate]
  omega

theorem length_padRight {width : ℕ} {chars : List UInt8} (h : chars.length ≤ width) :
    (padRight width chars).length = width := by
  simp only [padRight, List.length_append, List.length_replicate]
  omega

theorem mem_padLeft {width : ℕ} {chars : List UInt8} {c : UInt8} (h : c ∈ padLeft width chars) :
    c = 32 ∨ c ∈ chars := by
  rcases List.mem_append.mp h with h | h
  · exact .inl (List.eq_of_mem_replicate h)
  · exact .inr h

theorem mem_padRight {width : ℕ} {chars : List UInt8} {c : UInt8}
    (h : c ∈ padRight width chars) : c = 32 ∨ c ∈ chars := by
  rcases List.mem_append.mp h with h | h
  · exact .inr h
  · exact .inl (List.eq_of_mem_replicate h)

end DemoIotApp.Library
