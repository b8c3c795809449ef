import Mathlib.Algebra.Group.Nat.Defs
import Mathlib.Data.List.Basic
import Mathlib.Order.Nat
import Mathlib.Tactic.Common
import Mathlib.Tactic.Ring

/-!
# Base-128 variable-length numbers

A number is written seven bits at a time, the low bits first. Bit 7 of a byte
says that another byte follows. A number has many encodings, because leading
zero groups may be written out; `encode` is the shortest one.
-/

namespace DemoIotApp.Library.Varint

/-- The number that the low seven bits of the bytes spell. -/
def value : List UInt8 → ℕ
  | [] => 0
  | b :: bs => b.toNat % 128 + 128 * value bs

/-- Every byte but the last announces another one. -/
def IsEncoding : List UInt8 → Prop
  | [] => False
  | [b] => b.toNat < 128
  | b :: c :: bs => 128 ≤ b.toNat ∧ IsEncoding (c :: bs)

instance decidableIsEncoding : (bs : List UInt8) → Decidable (IsEncoding bs)
  | [] => isFalse id
  | [b] => inferInstanceAs (Decidable (b.toNat < 128))
  | b :: c :: bs =>
      have := decidableIsEncoding (c :: bs)
      inferInstanceAs (Decidable (128 ≤ b.toNat ∧ IsEncoding (c :: bs)))

/-- The groups of seven bits, each with its weight. -/
def groups (bs : List UInt8) : List ℕ := bs.mapIdx fun i b ↦ b.toNat % 128 * 128 ^ i

/-- Split off the encoding at the start of the bytes. -/
def decode : List UInt8 → Option (ℕ × List UInt8)
  | [] => none
  | b :: bs =>
      if b.toNat < 128 then some (b.toNat, bs)
      else (decode bs).map fun p ↦ (b.toNat % 128 + 128 * p.1, p.2)

/-- The fuel only has to reach the last group; `encode` gives it the number. -/
def encodeWith : ℕ → ℕ → List UInt8
  | 0, n => [UInt8.ofNat (n % 128)]
  | fuel + 1, n =>
      if n < 128 then [UInt8.ofNat n]
      else UInt8.ofNat (n % 128 + 128) :: encodeWith fuel (n / 128)

def encode (n : ℕ) : List UInt8 := encodeWith n n

theorem encodeWith_congr : ∀ {fuel fuel' n : ℕ}, n ≤ fuel → n ≤ fuel' →
    encodeWith fuel n = encodeWith fuel' n := by
  intro fuel
  induction fuel with
  | zero =>
      intro fuel' n h _
      obtain rfl : n = 0 := by omega
      cases fuel' <;> rfl
  | succ fuel ih =>
      intro fuel' n h h'
      cases fuel' with
      | zero =>
          obtain rfl : n = 0 := by omega
          rfl
      | succ fuel' =>
          simp only [encodeWith]
          split
          · rfl
          · have hrest : n / 128 ≤ fuel := by omega
            have hrest' : n / 128 ≤ fuel' := by omega
            rw [ih hrest hrest']

theorem encode_of_lt {n : ℕ} (h : n < 128) : encode n = [UInt8.ofNat n] := by
  unfold encode
  cases n with
  | zero => rfl
  | succ n => simp only [encodeWith, if_pos h]

theorem encode_of_ge {n : ℕ} (h : 128 ≤ n) :
    encode n = UInt8.ofNat (n % 128 + 128) :: encode (n / 128) := by
  obtain ⟨m, rfl⟩ : ∃ m, n = m + 1 := ⟨n - 1, by omega⟩
  have hfuel : encodeWith m ((m + 1) / 128) = encode ((m + 1) / 128) :=
    encodeWith_congr (by omega) le_rfl
  unfold encode
  rw [encodeWith, if_neg (by omega), hfuel, encode]

theorem toNat_ofNat_of_lt {n : ℕ} (h : n < 256) : (UInt8.ofNat n).toNat = n := by
  rw [UInt8.toNat_ofNat']
  exact Nat.mod_eq_of_lt h

theorem IsEncoding.cons {b : UInt8} {bs : List UInt8} (hb : 128 ≤ b.toNat)
    (h : IsEncoding bs) : IsEncoding (b :: bs) := by
  cases bs with
  | nil => exact h.elim
  | cons c bs => exact ⟨hb, h⟩

theorem IsEncoding.ne_nil {bs : List UInt8} (h : IsEncoding bs) : bs ≠ [] := by
  rintro rfl
  exact h

theorem isEncoding_cons_of_lt {b : UInt8} {bs : List UInt8} (hb : b.toNat < 128) :
    IsEncoding (b :: bs) ↔ bs = [] := by
  cases bs with
  | nil => simp [IsEncoding, hb]
  | cons c bs => simp [IsEncoding, not_le.mpr hb]

theorem isEncoding_cons_of_ge {b : UInt8} {bs : List UInt8} (hb : 128 ≤ b.toNat) :
    IsEncoding (b :: bs) ↔ IsEncoding bs := by
  cases bs with
  | nil => simp [IsEncoding, hb]
  | cons c bs => simp [IsEncoding, hb]

theorem isEncoding_concat {bs : List UInt8} {last : UInt8} (hmore : ∀ b ∈ bs, 128 ≤ b.toNat)
    (hlast : last.toNat < 128) : IsEncoding (bs ++ [last]) := by
  induction bs with
  | nil => exact hlast
  | cons b bs ih =>
      rw [List.forall_mem_cons] at hmore
      exact (ih hmore.2).cons hmore.1

theorem isEncoding_encode (n : ℕ) : IsEncoding (encode n) := by
  induction n using Nat.strongRecOn with
  | ind n ih =>
      by_cases h : n < 128
      · simp only [encode_of_lt h, IsEncoding, toNat_ofNat_of_lt (show n < 256 by omega), h]
      · rw [encode_of_ge (not_lt.mp h)]
        apply IsEncoding.cons _ (ih (n / 128) (by omega))
        rw [toNat_ofNat_of_lt (by omega)]
        omega

@[simp] theorem value_encode (n : ℕ) : value (encode n) = n := by
  induction n using Nat.strongRecOn with
  | ind n ih =>
      by_cases h : n < 128
      · simp only [encode_of_lt h, value, toNat_ofNat_of_lt (show n < 256 by omega)]
        omega
      · rw [encode_of_ge (not_lt.mp h), value, ih (n / 128) (by omega),
          toNat_ofNat_of_lt (by omega)]
        omega

theorem sum_groups (bs : List UInt8) : (groups bs).sum = value bs := by
  have hshifted : ∀ k, (bs.mapIdx fun i b ↦ b.toNat % 128 * 128 ^ (i + k)).sum =
      128 ^ k * value bs := by
    induction bs with
    | nil => simp [value]
    | cons b bs ih =>
        intro k
        simp only [List.mapIdx_cons, List.sum_cons, Nat.zero_add, Nat.add_assoc,
          Nat.add_comm 1 k]
        rw [ih (k + 1), value, Nat.pow_succ]
        ring
  simpa [groups] using hshifted 0

theorem value_lt (bs : List UInt8) : value bs < 128 ^ bs.length := by
  induction bs with
  | nil => simp [value]
  | cons b bs ih =>
      rw [value, List.length_cons, Nat.pow_succ]
      omega

theorem length_encode_le {n k : ℕ} (hk : 0 < k) (h : n < 128 ^ k) : (encode n).length ≤ k := by
  induction k generalizing n with
  | zero => omega
  | succ k ih =>
      by_cases hn : n < 128
      · rw [encode_of_lt hn]
        simp
      · rw [encode_of_ge (not_lt.mp hn), List.length_cons]
        have hdiv : n / 128 < 128 ^ k := by
          rw [Nat.pow_succ] at h
          omega
        have hk : 0 < k := by
          by_contra hk
          obtain rfl : k = 0 := by omega
          omega
        exact Nat.succ_le_succ (ih hk hdiv)

theorem two_le_length {bs : List UInt8} (h : 128 ≤ value bs) : 2 ≤ bs.length := by
  by_contra hlt
  have hle : 128 ^ bs.length ≤ 128 ^ 1 := Nat.pow_le_pow_right (by omega) (by omega)
  have hvalue := value_lt bs
  omega

theorem length_encode {n : ℕ} (h : n < 128 ^ 2) :
    (encode n).length = if n < 128 then 1 else 2 := by
  split_ifs with hsmall
  · rw [encode_of_lt hsmall]
    rfl
  · apply Nat.le_antisymm (length_encode_le (by omega) h)
    apply two_le_length
    rw [value_encode]
    omega

theorem decode_append {bs : List UInt8} (h : IsEncoding bs) (rest : List UInt8) :
    decode (bs ++ rest) = some (value bs, rest) := by
  induction bs with
  | nil => exact h.elim
  | cons b bs ih =>
      rw [List.cons_append, decode]
      by_cases hb : b.toNat < 128
      · rw [isEncoding_cons_of_lt hb] at h
        subst h
        simp [hb, value, Nat.mod_eq_of_lt hb]
      · rw [isEncoding_cons_of_ge (not_lt.mp hb)] at h
        simp [hb, ih h, value]

/-- Bytes that all announce another one end before the encoding does. -/
theorem IsEncoding.eq_append {bs read rest rest' : List UInt8} (h : IsEncoding bs)
    (hread : ∀ b ∈ read, 128 ≤ b.toNat) (heq : bs ++ rest = read ++ rest') :
    ∃ back, back ≠ [] ∧ bs = read ++ back ∧ rest' = back ++ rest := by
  induction read generalizing bs with
  | nil => exact ⟨bs, h.ne_nil, rfl, heq.symm⟩
  | cons b read ih =>
      cases bs with
      | nil => exact h.elim
      | cons c bs =>
          rw [List.cons_append, List.cons_append, List.cons.injEq] at heq
          obtain ⟨rfl, heq⟩ := heq
          have henc := (isEncoding_cons_of_ge (hread c (by simp))).mp h
          obtain ⟨back, hback, rfl, hrest⟩ :=
            ih henc (fun b hb ↦ hread b (List.mem_cons_of_mem c hb)) heq
          exact ⟨back, hback, rfl, hrest⟩

theorem exists_of_decode_eq_some {bs rest : List UInt8} {n : ℕ} (h : decode bs = some (n, rest)) :
    ∃ lenBytes, bs = lenBytes ++ rest ∧ IsEncoding lenBytes ∧ value lenBytes = n := by
  induction bs generalizing n with
  | nil => exact nomatch h
  | cons b bs ih =>
      rw [decode] at h
      by_cases hb : b.toNat < 128
      · rw [if_pos hb] at h
        obtain ⟨rfl, rfl⟩ := Prod.mk.inj (Option.some.inj h)
        exact ⟨[b], rfl, hb, by rw [value, value, Nat.mod_eq_of_lt hb, Nat.mul_zero, Nat.add_zero]⟩
      · rw [if_neg hb, Option.map_eq_some_iff] at h
        obtain ⟨⟨m, rest'⟩, hdecode, heq⟩ := h
        obtain ⟨rfl, rfl⟩ := Prod.mk.inj heq
        obtain ⟨lenBytes, rfl, henc, rfl⟩ := ih hdecode
        exact ⟨b :: lenBytes, rfl, henc.cons (Nat.not_lt.mp hb), rfl⟩

/-- The end of an encoding is visible in its bytes. -/
theorem IsEncoding.append_inj {bs bs' rest rest' : List UInt8} (h : IsEncoding bs)
    (h' : IsEncoding bs') (heq : bs ++ rest = bs' ++ rest') : bs = bs' ∧ rest = rest' := by
  have hrest : rest = rest' := by
    have hd := decode_append h rest
    rw [heq, decode_append h' rest'] at hd
    exact (Prod.mk.inj (Option.some.inj hd)).2.symm
  subst hrest
  exact ⟨List.append_cancel_right heq, rfl⟩

end DemoIotApp.Library.Varint
