import Mathlib.Data.List.Induction
import FileTransfer.Text.Numeral

/-!
# Numerals

Writing a number in a base up to ten and reading it back, and decimal numerals of a width.

* `readNumeral?_writeNumeral`: the numeral of a number is read as that number.
* `numeralValue_decimal`: a decimal numeral has the value it was written for, however many zeros
  fill it up.
* `decimal_numeralValue`: a run of ASCII digits is the decimal numeral of its value, filled up to
  its length.
* `length_decimal`: a number that fits in a width has a numeral of that width.
-/

namespace FileTransfer.Text
set_option autoImplicit false

/-! ## Single digits -/

theorem digitValue_digitChar {d : Nat} (h : d < 10) : digitValue (Nat.digitChar d) = d := by
  have hall : ∀ d, d < 10 → digitValue (Nat.digitChar d) = d := by decide
  exact hall d h

theorem isDigitOf_iff {base : Nat} (hbase : base ≤ 10) (c : Char) :
    isDigitOf base c = true ↔ '0' ≤ c ∧ c.toNat < '0'.toNat + base := by
  have hzero : '0'.toNat = 48 := rfl
  have hfirst : '0' ≤ c ↔ 48 ≤ c.toNat := Iff.rfl
  unfold isDigitOf digitValue
  rw [decide_eq_true_iff, hzero]
  by_cases hdigit : '0' ≤ c ∧ c ≤ '9'
  · rw [if_pos hdigit, and_iff_right hdigit.1]
    have hlo : 48 ≤ c.toNat := hdigit.1
    omega
  · rw [if_neg hdigit]
    have hout : ¬ (48 ≤ c.toNat ∧ c.toNat ≤ 57) := hdigit
    rw [hfirst]
    split
    · omega
    · split <;> omega

theorem isDigitOf_ten_iff (c : Char) : isDigitOf 10 c = true ↔ '0' ≤ c ∧ c ≤ '9' := by
  have hnine : c ≤ '9' ↔ c.toNat < '0'.toNat + 10 := Nat.lt_succ_iff.symm
  rw [isDigitOf_iff (by decide), hnine]

theorem isDigitOf_eight_iff (c : Char) : isDigitOf 8 c = true ↔ '0' ≤ c ∧ c ≤ '7' := by
  have hseven : c ≤ '7' ↔ c.toNat < '0'.toNat + 8 := Nat.lt_succ_iff.symm
  rw [isDigitOf_iff (by decide), hseven]

theorem digitChar_digitValue {c : Char} (h : isDigitOf 10 c = true) :
    Nat.digitChar (digitValue c) = c := by
  obtain ⟨hlo, hhi⟩ := (isDigitOf_ten_iff c).mp h
  have hvalue : digitValue c = c.toNat - 48 := if_pos ⟨hlo, hhi⟩
  have hlo' : 48 ≤ c.toNat := hlo
  have hhi' : c.toNat ≤ 57 := hhi
  have hd : c.toNat - 48 < 10 := by omega
  rw [hvalue]
  apply Char.toNat_inj.mp
  rw [Nat.toNat_digitChar_of_lt_ten hd]
  omega

theorem isDigitOf_digitChar {base d : Nat} (hbase : base ≤ 10) (h : d < base) :
    isDigitOf base (Nat.digitChar d) = true := by
  rw [isDigitOf, digitValue_digitChar (Nat.lt_of_lt_of_le h hbase)]
  exact decide_eq_true h

/-! ## Values of runs of digits -/

theorem numeralValue_concat (base : Nat) (s : List Char) (c : Char) :
    numeralValue base (s ++ [c]) = numeralValue base s * base + digitValue c := by
  simp [numeralValue]

theorem numeralValue_zeros (base k : Nat) (s : List Char) :
    numeralValue base (List.replicate k '0' ++ s) = numeralValue base s := by
  induction k with
  | zero => rfl
  | succ k ih =>
    rw [List.replicate_succ, List.cons_append, ← ih]
    simp [numeralValue, show digitValue '0' = 0 from rfl]

theorem numeralValue_append_zeros (base k : Nat) (s : List Char) :
    numeralValue base (s ++ List.replicate k '0') = numeralValue base s * Nat.pow base k := by
  induction k with
  | zero => simp
  | succ k ih =>
    have hpow : Nat.pow base (k + 1) = Nat.pow base k * base := rfl
    rw [List.replicate_succ', ← List.append_assoc, numeralValue_concat, ih, hpow, ← Nat.mul_assoc]
    rfl

theorem numeralValue_lt {s : List Char} (hs : ∀ c ∈ s, isDigitOf 10 c = true) :
    numeralValue 10 s < Nat.pow 10 s.length := by
  induction s using List.reverseRecOn with
  | nil => decide
  | append_singleton s c ih =>
    have hrest := ih fun x hx => hs x (List.mem_append_left _ hx)
    have hc : digitValue c < 10 := of_decide_eq_true (hs c (by simp))
    have hpow : Nat.pow 10 (s ++ [c]).length = Nat.pow 10 s.length * 10 := by
      rw [List.length_append]
      rfl
    rw [numeralValue_concat, hpow]
    omega

theorem isNumeral_iff (base : Nat) (s : List Char) :
    isNumeral base s = true ↔ s ≠ [] ∧ ∀ c ∈ s, isDigitOf base c = true := by
  simp [isNumeral]

theorem isNumeral_append_left {base : Nat} {s : List Char} (k : Nat) (hbase : 0 < base)
    (h : isNumeral base s = true) : isNumeral base (List.replicate k '0' ++ s) = true := by
  obtain ⟨hne, hall⟩ := (isNumeral_iff base s).mp h
  refine (isNumeral_iff base _).mpr ⟨List.append_ne_nil_of_right_ne_nil _ hne, ?_⟩
  intro c hc
  rcases List.mem_append.mp hc with hzero | hc
  · rw [(List.mem_replicate.mp hzero).2]
    exact decide_eq_true hbase
  · exact hall c hc

theorem isNumeral_append_zeros {base : Nat} {s : List Char} (k : Nat) (hbase : 0 < base)
    (h : isNumeral base s = true) : isNumeral base (s ++ List.replicate k '0') = true := by
  obtain ⟨hne, hall⟩ := (isNumeral_iff base s).mp h
  refine (isNumeral_iff base _).mpr ⟨List.append_ne_nil_of_left_ne_nil hne _, ?_⟩
  intro c hc
  rcases List.mem_append.mp hc with hc | hzero
  · exact hall c hc
  · rw [(List.mem_replicate.mp hzero).2]
    exact decide_eq_true hbase

/-! ## Numerals that are written -/

section Base
variable {base : Nat} (hlo : 1 < base) (hhi : base ≤ 10)
include hlo hhi

theorem numeralValue_writeNumeral (n : Nat) : numeralValue base (writeNumeral base n) = n := by
  unfold writeNumeral
  induction n using Nat.strongRecOn with
  | ind n ih =>
    rw [Nat.toDigits_eq_if hlo]
    split
    case isTrue h => simp [numeralValue, digitValue_digitChar (Nat.lt_of_lt_of_le h hhi)]
    case isFalse h =>
      have hd : n % base < base := Nat.mod_lt n (by omega)
      have hless : n / base < n := Nat.div_lt_self (by omega) hlo
      rw [numeralValue_concat, ih (n / base) hless, digitValue_digitChar (by omega)]
      exact Nat.div_add_mod' n base

theorem isNumeral_writeNumeral (n : Nat) : isNumeral base (writeNumeral base n) = true := by
  refine (isNumeral_iff base _).mpr ⟨Nat.toDigits_ne_nil, ?_⟩
  unfold writeNumeral
  induction n using Nat.strongRecOn with
  | ind n ih =>
    intro c hc
    rw [Nat.toDigits_eq_if hlo] at hc
    split at hc
    case isTrue h =>
      rw [List.mem_singleton.mp hc]
      exact isDigitOf_digitChar hhi h
    case isFalse h =>
      rcases List.mem_append.mp hc with hc | hc
      · exact ih (n / base) (Nat.div_lt_self (by omega) hlo) c hc
      · rw [List.mem_singleton.mp hc]
        exact isDigitOf_digitChar hhi (Nat.mod_lt n (by omega))

theorem readNumeral?_writeNumeral (n : Nat) : readNumeral? base (writeNumeral base n) = some n := by
  rw [readNumeral?, if_pos (isNumeral_writeNumeral hlo hhi n), numeralValue_writeNumeral hlo hhi]

end Base

theorem numeralValue_decimal (width n : Nat) : numeralValue 10 (decimal width n) = n := by
  rw [decimal, padZeros, numeralValue_zeros, numeralValue_writeNumeral (by decide) (by decide)]

theorem isNumeral_decimal (width n : Nat) : isNumeral 10 (decimal width n) = true :=
  isNumeral_append_left _ (by decide) (isNumeral_writeNumeral (by decide) (by decide) n)

/-! ## Numerals of a width -/

theorem decimal_one {n : Nat} (h : n < 10) : decimal 1 n = [Nat.digitChar n] := by
  simp [decimal, padZeros, writeNumeral, Nat.toDigits_of_lt_base h]

theorem decimal_succ (width n : Nat) :
    decimal (width + 2) n = decimal (width + 1) (n / 10) ++ [Nat.digitChar (n % 10)] := by
  unfold decimal padZeros writeNumeral
  by_cases h : n < 10
  · have hq : n / 10 = 0 := by omega
    have hr : n % 10 = n := by omega
    rw [hq, hr, Nat.toDigits_of_lt_base h, Nat.toDigits_zero]
    simp [List.replicate_succ', List.append_assoc]
  · rw [Nat.toDigits_of_base_le (b := 10) (by decide) (by omega)]
    simp only [List.length_append, List.length_singleton, List.append_assoc]
    congr 2
    omega

theorem decimal_numeralValue (s : List Char) (h : isNumeral 10 s = true) :
    decimal s.length (numeralValue 10 s) = s := by
  simp only [isNumeral, Bool.and_eq_true, Bool.not_eq_true', List.isEmpty_eq_false_iff,
    List.all_eq_true] at h
  obtain ⟨hne, hall⟩ := h
  -- The induction takes digits off the end, where the least one stands.
  induction s using List.reverseRecOn with
  | nil => exact absurd rfl hne
  | append_singleton s c ih =>
    have hc := hall c (by simp)
    have hd : digitValue c < 10 := of_decide_eq_true hc
    rw [numeralValue_concat]
    cases hs : s with
    | nil =>
      have hzero : numeralValue 10 ([] : List Char) = 0 := rfl
      rw [hzero, Nat.zero_mul, Nat.zero_add]
      exact (decimal_one hd).trans (by rw [digitChar_digitValue hc]; rfl)
    | cons a t =>
      have hs' := ih (by rw [hs]; simp) (fun x hx => hall x (by simp [hx]))
      rw [hs] at hs'
      have hq : (numeralValue 10 (a :: t) * 10 + digitValue c) / 10 = numeralValue 10 (a :: t) := by
        omega
      have hr : (numeralValue 10 (a :: t) * 10 + digitValue c) % 10 = digitValue c := by omega
      have hlen : (a :: t ++ [c]).length = t.length + 2 := by simp
      rw [hlen, decimal_succ, hq, hr, digitChar_digitValue hc]
      exact congrArg (· ++ [c]) hs'

theorem length_decimal {width n : Nat} (hwidth : 0 < width) (h : n < Nat.pow 10 width) :
    (decimal width n).length = width := by
  have hle : (writeNumeral 10 n).length ≤ width :=
    (Nat.length_toDigits_le_iff (by decide) hwidth).mpr h
  rw [decimal, padZeros, List.length_append, List.length_replicate]
  omega

end FileTransfer.Text
