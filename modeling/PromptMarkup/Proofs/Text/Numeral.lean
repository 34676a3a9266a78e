import Mathlib.Algebra.Group.Int.Defs
import Mathlib.Algebra.Group.Nat.Defs
import PromptMarkup.Number
/-!
# Text — numbers are read from their digits

The digits of a number are read as the number again (`digits?_toDigits`), with
a minus before them as its negation, and nothing in them is white space that
could be trimmed. So a count is read back (`nat64?_toString`), and so is an
integer wherever sixty-four bits hold it, signed or unsigned
(`Number.read?_toString`).
-/

namespace PromptMarkup

namespace Text

variable {c : Char} {t : List Char} {n : Nat}

/-! ## Letters, digits and other visible characters -/

theorem isDigit_iff : c.isDigit = true ↔ 48 ≤ c.toNat ∧ c.toNat ≤ 57 := by
  unfold Char.isDigit
  rw [Bool.and_eq_true, decide_eq_true_eq, decide_eq_true_eq]
  rfl

theorem isAlpha_iff : c.isAlpha = true ↔
    (65 ≤ c.toNat ∧ c.toNat ≤ 90) ∨ (97 ≤ c.toNat ∧ c.toNat ≤ 122) := by
  unfold Char.isAlpha Char.isUpper Char.isLower
  simp only [Bool.or_eq_true, Bool.and_eq_true, decide_eq_true_eq]
  rfl

/-- The visible characters of ASCII are no white space, -/
theorem isBlank_of_visible (h : 33 ≤ c.toNat ∧ c.toNat ≤ 126) : isBlank c = false := by
  rw [← Bool.not_eq_true]
  intro hblank
  simp only [isBlank, Bool.or_eq_true, Bool.and_eq_true, decide_eq_true_eq, beq_iff_eq] at hblank
  omega

/-- and its letters and digits are visible. -/
theorem visible_of_isAlphanum (h : c.isAlphanum = true) : 48 ≤ c.toNat ∧ c.toNat ≤ 122 := by
  rw [Char.isAlphanum, Bool.or_eq_true, isAlpha_iff, isDigit_iff] at h
  omega

theorem isBlank_of_isAlphanum (h : c.isAlphanum = true) : isBlank c = false := by
  have hvisible := visible_of_isAlphanum h
  exact isBlank_of_visible (by omega)

theorem isAlphanum_of_isDigit (h : c.isDigit = true) : c.isAlphanum = true := by
  rw [Char.isAlphanum, h, Bool.or_true]

/-- A text without white space is not trimmed. -/
theorem trim_eq_self (h : ∀ c ∈ t, isBlank c = false) : trim t = t := by
  have hkept : ∀ u : List Char, (∀ c ∈ u, isBlank c = false) → u.dropWhile isBlank = u := by
    intro u hu
    cases u with
    | nil => rfl
    | cons c u => rw [List.dropWhile_cons, hu c List.mem_cons_self]; rfl
  rw [trim, trimStart, trimEnd, hkept t h, hkept _ (by simpa using h), List.reverse_reverse]

/-! ## Digits -/

theorem isDigit_of_mem_toDigits (h : c ∈ Nat.toDigits 10 n) : c.isDigit = true :=
  Nat.isDigit_of_mem_toDigits (by decide) (by decide) h

/-- **The digits of a number denote it.** -/
theorem digits?_toDigits (n : Nat) : digits? (Nat.toDigits 10 n) = some n := by
  have hdigits : ∀ c ∈ Nat.toDigits 10 n, c.isDigit = true := fun c => isDigit_of_mem_toDigits
  rw [digits?, if_pos (by simpa [Nat.toDigits_ne_nil] using hdigits)]
  exact congrArg some Nat.ofDigitChars_ten_toDigits

/-- A sign is no digit. -/
theorem nat?_toDigits (n : Nat) : nat? (Nat.toDigits 10 n) = some n := by
  rw [← digits?_toDigits n, nat?.eq_def]
  split
  · next heq =>
    have hplus : '+'.isDigit = true := isDigit_of_mem_toDigits (n := n) (by simp [heq])
    exact absurd hplus (by decide)
  · rfl

theorem int?_toDigits (n : Nat) : int? (Nat.toDigits 10 n) = some (n : Int) := by
  rw [int?.eq_def]
  split
  · next heq =>
    have hminus : '-'.isDigit = true := isDigit_of_mem_toDigits (n := n) (by simp [heq])
    exact absurd hminus (by decide)
  · rw [nat?_toDigits]
    rfl

theorem int?_neg_toDigits (n : Nat) : int? ('-' :: Nat.toDigits 10 n) = some (-(n : Int)) := by
  rw [int?, digits?_toDigits]
  rfl

theorem trim_toDigits (n : Nat) : trim (Nat.toDigits 10 n) = Nat.toDigits 10 n :=
  trim_eq_self fun _ h => isBlank_of_isAlphanum (isAlphanum_of_isDigit (isDigit_of_mem_toDigits h))

theorem trim_neg_toDigits (n : Nat) :
    trim ('-' :: Nat.toDigits 10 n) = '-' :: Nat.toDigits 10 n := by
  refine trim_eq_self fun c h => ?_
  obtain rfl | h := List.mem_cons.1 h
  · decide
  · exact isBlank_of_isAlphanum (isAlphanum_of_isDigit (isDigit_of_mem_toDigits h))

theorem nat64?_toDigits (h : n < 2 ^ 64) : nat64? (Nat.toDigits 10 n) = some n := by
  rw [nat64?, nat?_toDigits]
  simpa using h

theorem int64?_toDigits (h : n < 2 ^ 63) : int64? (Nat.toDigits 10 n) = some (n : Int) := by
  rw [int64?, int?_toDigits, Option.filter_some, if_pos]
  rw [Bool.and_eq_true, decide_eq_true_eq, decide_eq_true_eq]
  omega

theorem int64?_toDigits_of_le (h : 2 ^ 63 ≤ n) : int64? (Nat.toDigits 10 n) = none := by
  rw [int64?, int?_toDigits, Option.filter_some, if_neg]
  rw [Bool.and_eq_true, decide_eq_true_eq, decide_eq_true_eq]
  omega

theorem int64?_neg_toDigits (h : n ≤ 2 ^ 63) :
    int64? ('-' :: Nat.toDigits 10 n) = some (-(n : Int)) := by
  rw [int64?, int?_neg_toDigits, Option.filter_some, if_pos]
  rw [Bool.and_eq_true, decide_eq_true_eq, decide_eq_true_eq]
  omega

/-- **A count is read from its digits.** -/
theorem nat64?_toString (h : n < 2 ^ 64) : nat64? (trim (toString n).toList) = some n := by
  rw [Nat.toString_eq_ofList_toDigits, String.toList_ofList, trim_toDigits, nat64?_toDigits h]

/-- An integer from zero on is written with its digits, -/
theorem toList_toString_ofNat (n : Nat) : (toString (Int.ofNat n)).toList = Nat.toDigits 10 n := by
  show (toString n).toList = _
  rw [Nat.toString_eq_ofList_toDigits, String.toList_ofList]

/-- and one below zero with a minus before them. -/
theorem toList_toString_negSucc (n : Nat) :
    (toString (Int.negSucc n)).toList = '-' :: Nat.toDigits 10 (n + 1) := by
  show ("-" ++ toString (n + 1)).toList = _
  rw [String.toList_append, Nat.toString_eq_ofList_toDigits]
  simp only [String.toList_ofList]
  rfl

end Text

namespace Number

open Text

/-- **An integer is read from its numeral**, if sixty-four bits hold it. -/
theorem read?_toString {n : Int} (hlow : -2 ^ 63 ≤ n) (hhigh : n < 2 ^ 64) :
    read? (toString n) = some (.integer n) := by
  cases n with
  | ofNat m =>
    have hbound : m < 2 ^ 64 := Int.ofNat_lt.1 hhigh
    rw [read?, toList_toString_ofNat, trim_toDigits]
    by_cases hsigned : m < 2 ^ 63
    · rw [int64?_toDigits hsigned]
      rfl
    · rw [int64?_toDigits_of_le (Nat.le_of_not_lt hsigned), nat64?_toDigits hbound]
      rfl
  | negSucc m =>
    have hbound : m + 1 ≤ 2 ^ 63 := by omega
    rw [read?, toList_toString_negSucc, trim_neg_toDigits, int64?_neg_toDigits hbound]
    rfl

end Number

end PromptMarkup
