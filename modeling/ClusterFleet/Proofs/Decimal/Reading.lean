import ClusterFleet.Proofs.Decimal.Digits
import Mathlib.Algebra.Group.Nat.Defs

/-!
# Decimal — which texts are numbers

A number is read from a text just if the text denotes it and it is not too
great (`readBounded_eq_some_iff`). Which number a row of digits denotes is
the library's reading of digits to the base of ten (`value_eq_ofDigitChars`);
zeros in front and a plus sign change nothing about it, and no text denotes
two numbers.
-/

namespace ClusterFleet

namespace Decimal

variable {bound n : Nat} {c : Char} {cs ds : List Char}

/-- **A text denotes a number**: it is a row of digits, the first of them
after a plus sign or not. -/
inductive Denotes : List Char → Nat → Prop
  | bare {ds : List Char} (some : ds ≠ []) (digits : ∀ c ∈ ds, c.isDigit = true) :
      Denotes ds (Nat.ofDigitChars 10 ds 0)
  | signed {ds : List Char} (some : ds ≠ []) (digits : ∀ c ∈ ds, c.isDigit = true) :
      Denotes ('+' :: ds) (Nat.ofDigitChars 10 ds 0)

theorem isDigit_eq (c : Char) : isDigit c = c.isDigit := by
  simp only [isDigit, Char.isDigit, ge_iff_le, UInt32.le_iff_toNat_le]
  rfl

theorem digitValue_eq (c : Char) : digitValue c = c.toNat - '0'.toNat := by
  have hzero : '0'.toNat = 48 := by decide
  rw [digitValue, hzero]

theorem valueFrom_eq_ofDigitChars (acc : Nat) (ds : List Char) :
    valueFrom acc ds = Nat.ofDigitChars 10 ds acc := by
  induction ds generalizing acc with
  | nil => exact Nat.ofDigitChars_nil.symm
  | cons c ds ih =>
    have hstep : acc * 10 + digitValue c = 10 * acc + (c.toNat - '0'.toNat) := by
      rw [digitValue_eq]
      omega
    calc valueFrom acc (c :: ds)
      _ = valueFrom (acc * 10 + digitValue c) ds := rfl
      _ = Nat.ofDigitChars 10 ds (acc * 10 + digitValue c) := ih _
      _ = Nat.ofDigitChars 10 (c :: ds) acc := by rw [hstep, Nat.ofDigitChars_cons]

/-- **The value of digits** is the one to the base of ten. -/
theorem value_eq_ofDigitChars (ds : List Char) : value ds = Nat.ofDigitChars 10 ds 0 :=
  valueFrom_eq_ofDigitChars 0 ds

theorem isNumeral_iff : isNumeral ds = true ↔ ds ≠ [] ∧ ∀ c ∈ ds, c.isDigit = true := by
  simp only [isNumeral, Bool.and_eq_true, Bool.not_eq_true', List.isEmpty_eq_false_iff,
    List.all_eq_true, isDigit_eq, ne_eq]

theorem denotes_signed_iff : Denotes ('+' :: ds) n ↔
    isNumeral ds = true ∧ value ds = n := by
  rw [isNumeral_iff, value_eq_ofDigitChars]
  constructor
  · intro h
    cases h with
    | bare _ digits => exact absurd (digits '+' List.mem_cons_self) (by decide)
    | signed some digits => exact ⟨⟨some, digits⟩, rfl⟩
  · rintro ⟨⟨some, digits⟩, rfl⟩
    exact .signed some digits

theorem denotes_bare_iff (h : ∀ ds, cs ≠ '+' :: ds) :
    Denotes cs n ↔ isNumeral cs = true ∧ value cs = n := by
  rw [isNumeral_iff, value_eq_ofDigitChars]
  constructor
  · intro hd
    cases hd with
    | bare some digits => exact ⟨⟨some, digits⟩, rfl⟩
    | signed => exact absurd rfl (h _)
  · rintro ⟨⟨some, digits⟩, rfl⟩
    exact .bare some digits

/-- **A number is read** from a text that denotes it, if it is within the
bound. -/
theorem readBounded_eq_some_iff : readBounded bound cs = some n ↔ Denotes cs n ∧ n ≤ bound := by
  have hdigits (ds : List Char) :
      (if isNumeral ds && value ds ≤ bound then some (value ds) else none) = some n ↔
        (isNumeral ds = true ∧ value ds = n) ∧ n ≤ bound := by
    rw [Option.ite_none_right_eq_some, Bool.and_eq_true, decide_eq_true_eq, Option.some.injEq]
    constructor
    · rintro ⟨⟨hnumeral, hbound⟩, rfl⟩
      exact ⟨⟨hnumeral, rfl⟩, hbound⟩
    · rintro ⟨⟨hnumeral, rfl⟩, hbound⟩
      exact ⟨⟨hnumeral, hbound⟩, rfl⟩
  unfold readBounded
  extract_lets digits
  by_cases hsigned : ∃ ds, cs = '+' :: ds
  · obtain ⟨ds, rfl⟩ := hsigned
    rw [denotes_signed_iff]
    exact hdigits ds
  · have hbare : ∀ ds, cs ≠ '+' :: ds := fun ds hcs => hsigned ⟨ds, hcs⟩
    have hself : digits = cs := by
      unfold digits
      split
      · exact absurd rfl (hbare _)
      · rfl
    rw [denotes_bare_iff hbare, hself]
    exact hdigits cs

/-- No blank stands in a text that denotes a number. -/
theorem Denotes.not_isBlank (h : Denotes cs n) : ∀ c ∈ cs, Text.isBlank c = false := by
  have hdigit {c : Char} (hc : c.isDigit = true) : Text.isBlank c = false :=
    isBlank_of_isDigit ((isDigit_eq c).trans hc)
  cases h with
  | bare _ digits => exact fun c hc => hdigit (digits c hc)
  | signed _ digits => exact List.forall_mem_cons.2 ⟨rfl, fun c hc => hdigit (digits c hc)⟩

/-- A number fits into a word just if it is below the power of two. -/
theorem le_maxWord_iff {bits : Nat} : n ≤ maxWord bits ↔ n < 2 ^ bits := by
  have := Nat.two_pow_pos bits
  show n ≤ 2 ^ bits - 1 ↔ _
  omega

end Decimal

end ClusterFleet
