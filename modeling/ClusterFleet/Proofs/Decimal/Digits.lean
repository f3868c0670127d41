import ClusterFleet.Decimal.Numeral
import ClusterFleet.Text.Blank

/-!
# Decimal — the digits of a number

Reading the digits of a number gives the number back: all of them for
the numeral (`value_numeral`), and as many as there are places for the
numeral of a fixed width (`value_fixedWidth`). Two numbers with one text
are therefore equal (`text_injective`), which is what lets a version or a
count be told by its text.
-/

namespace ClusterFleet

namespace Decimal

/-- A digit is the code point of zero and its value. -/
theorem toNat_digit (d : Nat) : (digit d).toNat = 48 + d % 10 := by
  have hall : ∀ e ∈ List.range 10, (Char.ofNat (48 + e)).toNat = 48 + e := by decide
  exact hall (d % 10) (List.mem_range.2 (Nat.mod_lt d (by omega)))

@[simp] theorem isDigit_digit (d : Nat) : isDigit (digit d) = true := by
  have := Nat.mod_lt d (show 0 < 10 by omega)
  simp only [isDigit, toNat_digit, Bool.and_eq_true, decide_eq_true_eq]
  omega

@[simp] theorem digitValue_digit (d : Nat) : digitValue (digit d) = d % 10 := by
  rw [digitValue, toNat_digit, Nat.add_sub_cancel_left]

/-- A digit is no blank. -/
theorem isBlank_of_isDigit {c : Char} (h : isDigit c = true) : Text.isBlank c = false := by
  simp only [isDigit, Bool.and_eq_true, decide_eq_true_eq] at h
  simp only [Text.isBlank, Text.blankRanges, List.any_cons, List.any_nil, Bool.or_false,
    Bool.or_eq_false_iff, Bool.and_eq_false_iff, decide_eq_false_iff_not]
  omega

/-! ## Values -/

theorem value_cons (c : Char) (cs : List Char) : value (c :: cs) = valueFrom (digitValue c) cs := by
  have hacc : 0 * 10 + digitValue c = digitValue c := by omega
  exact congrArg (valueFrom · cs) hacc

theorem valueFrom_append (acc : Nat) (xs ys : List Char) :
    valueFrom acc (xs ++ ys) = valueFrom (valueFrom acc xs) ys := by
  induction xs generalizing acc with
  | nil => rfl
  | cons x xs ih => exact ih _

theorem value_append_digit (xs : List Char) (d : Nat) :
    value (xs ++ [digit d]) = value xs * 10 + d % 10 := by
  rw [value, valueFrom_append]
  change value xs * 10 + digitValue (digit d) = _
  rw [digitValue_digit]

/-- **The numeral of a number denotes it.** -/
@[simp] theorem value_numeral (n : Nat) : value (numeral n) = n := by
  induction n using numeral.induct with
  | case1 n hlt =>
    rw [numeral, if_pos hlt]
    change 0 * 10 + digitValue (digit n) = n
    rw [digitValue_digit, Nat.mod_eq_of_lt hlt]
    omega
  | case2 n hge ih =>
    rw [numeral, if_neg hge, value_append_digit, ih]
    omega

/-- The numeral of a fixed width denotes what fits into it. -/
theorem value_fixedWidth (width n : Nat) : value (fixedWidth width n) = n % Nat.pow 10 width := by
  induction width generalizing n with
  | zero =>
    change value [] = n % 1
    rw [Nat.mod_one]
    rfl
  | succ width ih =>
    have hpow : Nat.pow 10 (width + 1) = Nat.pow 10 width * 10 := rfl
    rw [fixedWidth, value_append_digit, ih, hpow, Nat.mul_comm (Nat.pow 10 width) 10, Nat.mod_mul]
    omega

theorem value_replicate_zero (k : Nat) (xs : List Char) :
    value (List.replicate k '0' ++ xs) = value xs := by
  induction k with
  | zero => rfl
  | succ k ih =>
    have hzero : digitValue '0' = 0 := by decide
    rw [List.replicate_succ, List.cons_append, value_cons, hzero]
    exact ih

/-- Zeros in front do not count. -/
@[simp] theorem value_padded (width n : Nat) : value (padded width n) = n := by
  rw [padded, value_replicate_zero, value_numeral]

/-- Two numbers with one text are equal. -/
theorem text_injective {m n : Nat} (h : text m = text n) : m = n := by
  have hlists : numeral m = numeral n := by
    have := congrArg String.toList h
    simpa [text] using this
  rw [← value_numeral m, hlists, value_numeral]

/-! ## Lengths and digits -/

@[simp] theorem length_fixedWidth (width n : Nat) : (fixedWidth width n).length = width := by
  induction width generalizing n with
  | zero => rfl
  | succ width ih => rw [fixedWidth, List.length_append, ih, List.length_singleton]

theorem isDigit_of_mem_fixedWidth {width n : Nat} {c : Char} (h : c ∈ fixedWidth width n) :
    isDigit c = true := by
  induction width generalizing n with
  | zero => exact absurd h List.not_mem_nil
  | succ width ih =>
    rw [fixedWidth, List.mem_append, List.mem_singleton] at h
    rcases h with h | rfl
    · exact ih h
    · exact isDigit_digit n

theorem isDigit_of_mem_numeral {n : Nat} {c : Char} (h : c ∈ numeral n) : isDigit c = true := by
  induction n using numeral.induct with
  | case1 n hlt =>
    rw [numeral, if_pos hlt, List.mem_singleton] at h
    exact h ▸ isDigit_digit n
  | case2 n hge ih =>
    rw [numeral, if_neg hge, List.mem_append, List.mem_singleton] at h
    rcases h with h | rfl
    · exact ih h
    · exact isDigit_digit n

theorem isDigit_of_mem_padded {width n : Nat} {c : Char} (h : c ∈ padded width n) :
    isDigit c = true := by
  rw [padded, List.mem_append] at h
  rcases h with h | h
  · rw [(List.mem_replicate.1 h).2]
    rfl
  · exact isDigit_of_mem_numeral h

theorem padded_ne_nil (width n : Nat) : padded width n ≠ [] := by
  have hne : numeral n ≠ [] := by
    rw [numeral]
    split <;> simp
  rw [padded]
  exact fun h => hne (List.append_eq_nil_iff.1 h).2

end Decimal

end ClusterFleet
