import Mathlib.Data.List.Induction
import Mathlib.Data.Nat.Digits.Defs
import PromptMarkup.Proofs.Function.Parts
import PromptMarkup.Proofs.Text.Numeral
/-!
# Number — integers stay exact

A numeral is an optional sign and decimal digits, of any number, and denotes an
integer by the places of its digits (`Text.Digits`, `Text.Numeral`). Reading goes
digit by digit from the front and comes to the same (`Text.foldl_appendDigit`).
Of the three readings that a text is given, two read integers, and between them
they take the numerals within sixty-four bits and nothing else
(`Number.read?_eq_integer_iff`). So `toNumber` reads what `toString` writes
(`Functions.integers_exact`).
-/

namespace PromptMarkup

namespace Text

/-- The text is one or more decimal digits, and this is the number they denote:
the last digit counts ones, the one before it tens, and so on. -/
structure Digits (cs : List Char) (n : Nat) : Prop where
  ne_nil : cs ≠ []
  digits : ∀ c ∈ cs, c.isDigit = true
  value : n = Nat.ofDigits 10 (cs.reverse.map fun c => c.toNat - '0'.toNat)

/-- The text is an optional sign and digits, and this is the integer they
denote. -/
inductive Numeral : List Char → Int → Prop
  | unsigned {cs : List Char} {n : Nat} (h : Digits cs n) : Numeral cs n
  | plus {cs : List Char} {n : Nat} (h : Digits cs n) : Numeral ('+' :: cs) n
  | minus {cs : List Char} {n : Nat} (h : Digits cs n) : Numeral ('-' :: cs) (-n)

variable {cs : List Char} {n : Nat} {v w : Int}

/-! ## Digits -/

/-- **Digit by digit from the front** one comes to the number that the places
give. -/
theorem foldl_appendDigit (cs : List Char) :
    cs.foldl appendDigit 0 = Nat.ofDigits 10 (cs.reverse.map fun c => c.toNat - '0'.toNat) := by
  induction cs using List.reverseRecOn with
  | nil => rfl
  | append_singleton front c ih =>
    have hlast : (front ++ [c]).reverse = c :: front.reverse := List.reverse_concat
    rw [List.foldl_append, ih, hlast, List.map_cons, Nat.ofDigits_cons, List.foldl_cons,
      List.foldl_nil, appendDigit, Nat.add_comm]
    rfl

theorem digits?_eq_some_iff : digits? cs = some n ↔ Digits cs n := by
  rw [digits?, foldl_appendDigit]
  constructor
  · intro h
    split at h
    · next hdigits =>
      rw [Bool.and_eq_true, List.all_eq_true] at hdigits
      exact ⟨by simpa using hdigits.1, hdigits.2, (Option.some.inj h).symm⟩
    · cases h
  · intro h
    have hdigits : (!cs.isEmpty && cs.all Char.isDigit) = true := by
      rw [Bool.and_eq_true, List.all_eq_true]
      exact ⟨by simpa using h.ne_nil, h.digits⟩
    rw [if_pos hdigits, h.value]

/-- Digits do not begin with a sign. -/
theorem Digits.ne_sign (h : Digits cs n) (sign : Char) (hsign : sign.isDigit = false)
    (rest : List Char) : cs ≠ sign :: rest := by
  rintro rfl
  have hdigit : sign.isDigit = true := h.digits sign List.mem_cons_self
  rw [hsign] at hdigit
  cases hdigit

/-! ## Signs -/

theorem nat?_of_digits (h : Digits cs n) : nat? cs = some n := by
  rw [nat?.eq_def]
  split
  · exact absurd rfl (h.ne_sign '+' (by decide) _)
  · exact digits?_eq_some_iff.2 h

theorem numeral_of_nat? (h : nat? cs = some n) : Numeral cs n := by
  rw [nat?.eq_def] at h
  split at h
  · exact .plus (digits?_eq_some_iff.1 h)
  · exact .unsigned (digits?_eq_some_iff.1 h)

theorem int?_minus (cs : List Char) :
    int? ('-' :: cs) = (digits? cs).map fun n => -(Int.ofNat n) := by
  rw [int?]
  cases digits? cs <;> rfl

/-- Without a minus an integer is read like a natural number. -/
theorem int?_of_ne_minus (h : ∀ rest, cs ≠ '-' :: rest) : int? cs = (nat? cs).map Int.ofNat := by
  rw [int?.eq_def]
  split
  · exact absurd rfl (h _)
  · rfl

/-- **Integers are read from numerals** and from nothing else. -/
theorem int?_eq_some_iff : int? cs = some v ↔ Numeral cs v := by
  constructor
  · intro h
    by_cases hminus : ∃ rest, cs = '-' :: rest
    · obtain ⟨rest, rfl⟩ := hminus
      rw [int?_minus] at h
      obtain ⟨n, hn, rfl⟩ := Option.map_eq_some_iff.1 h
      exact .minus (digits?_eq_some_iff.1 hn)
    · rw [int?_of_ne_minus fun rest heq => hminus ⟨rest, heq⟩] at h
      obtain ⟨n, hn, rfl⟩ := Option.map_eq_some_iff.1 h
      exact numeral_of_nat? hn
  · intro h
    cases h with
    | unsigned h =>
      rw [int?_of_ne_minus (h.ne_sign '-' (by decide)), nat?_of_digits h]
      rfl
    | plus h =>
      rw [int?_of_ne_minus (by simp), nat?, digits?_eq_some_iff.2 h]
      rfl
    | minus h =>
      rw [int?_minus, digits?_eq_some_iff.2 h]
      rfl

/-- A numeral denotes one integer. -/
theorem Numeral.unique (h : Numeral cs v) (h' : Numeral cs w) : v = w := by
  have hv : int? cs = some v := int?_eq_some_iff.2 h
  rw [int?_eq_some_iff.2 h'] at hv
  exact (Option.some.inj hv).symm

/-- A numeral above zero has no minus. -/
theorem Numeral.nat?_eq (h : Numeral cs v) (hpositive : 0 < v) : nat? cs = some v.toNat := by
  cases h with
  | unsigned h => exact nat?_of_digits h
  | plus h => exact digits?_eq_some_iff.2 h
  | minus h => omega

/-! ## Bounds -/

/-- Sixty-four bits with a sign hold these integers, -/
theorem int64?_eq_some_iff :
    int64? cs = some v ↔ Numeral cs v ∧ -2 ^ 63 ≤ v ∧ v < 2 ^ 63 := by
  rw [int64?, Option.filter_eq_some_iff, int?_eq_some_iff, Bool.and_eq_true, decide_eq_true_eq,
    decide_eq_true_eq]
  norm_num

/-- and without one these numbers. -/
theorem nat64?_eq_some_iff : nat64? cs = some n ↔ nat? cs = some n ∧ n < 2 ^ 64 := by
  rw [nat64?, Option.filter_eq_some_iff, decide_eq_true_eq]
  rfl

end Text

namespace Number

open Text

variable {s : String} {v : Int}

/-- **The integers that a text is read as** are those it denotes as a numeral, up
to white space around it, within the bounds. -/
theorem read?_eq_integer_iff :
    read? s = some (.integer v) ↔
      Numeral (trim s.toList) v ∧ -2 ^ 63 ≤ v ∧ v < 2 ^ 64 := by
  rw [read?]
  constructor
  · intro h
    split at h
    · next hread =>
      cases h
      obtain ⟨hnumeral, hlow, hhigh⟩ := int64?_eq_some_iff.1 hread
      exact ⟨hnumeral, hlow, by omega⟩
    · split at h
      · next n hread =>
        cases h
        obtain ⟨hnumeral, hhigh⟩ := nat64?_eq_some_iff.1 hread
        exact ⟨numeral_of_nat? hnumeral, by omega, by omega⟩
      · split at h <;> cases h
  · rintro ⟨hnumeral, hlow, hhigh⟩
    by_cases hsmall : v < 2 ^ 63
    · have hread : int64? (trim s.toList) = some v :=
        int64?_eq_some_iff.2 ⟨hnumeral, hlow, hsmall⟩
      simp only [hread]
    · -- too great for a sign, the integer is positive and read without one
      have hsigned : int64? (trim s.toList) = none := by
        rw [Option.eq_none_iff_forall_ne_some]
        intro w hw
        obtain ⟨hother, -, hbound⟩ := int64?_eq_some_iff.1 hw
        exact hsmall (hnumeral.unique hother ▸ hbound)
      have hread : nat64? (trim s.toList) = some v.toNat :=
        nat64?_eq_some_iff.2 ⟨hnumeral.nat?_eq (by omega), by omega⟩
      have hvalue : (v.toNat : Int) = v := Int.toNat_of_nonneg (by omega)
      simp only [hsigned, hread, hvalue]

end Number

namespace Functions

open Number

/-- **Integers stay exact.** A text that is, up to white space around it, an
optional sign and decimal digits is read as the integer that they denote
wherever sixty-four bits hold it, signed or unsigned, and elsewhere as no
integer at all. And whatever else a table of functions has, an integer in these
bounds that `toString` writes is the one that `toNumber` reads. -/
theorem integers_exact (fs : Functions) :
    (∀ (s : String) (v : Int), Text.Numeral (Text.trim s.toList) v →
      (-2 ^ 63 ≤ v ∧ v < 2 ^ 64 → read? s = some (.integer v)) ∧
      (¬ (-2 ^ 63 ≤ v ∧ v < 2 ^ 64) → ∀ n, read? s ≠ some (.integer n))) ∧
    ∀ n : Int, -2 ^ 63 ≤ n → n < 2 ^ 64 →
      (withStandard fs).call "toString" [.number (.integer n)] = .ok (.text (toString n)) ∧
        (withStandard fs).call "toNumber" [.text (toString n)] =
          .ok (.number (.integer n)) := by
  refine ⟨fun s v hnumeral => ⟨fun hbounds => ?_, fun hbounds n hread => ?_⟩,
    fun n hlow hhigh => ⟨?_, ?_⟩⟩
  · exact read?_eq_integer_iff.2 ⟨hnumeral, hbounds⟩
  · obtain ⟨hother, hbounds'⟩ := read?_eq_integer_iff.1 hread
    rw [hother.unique hnumeral] at hbounds'
    exact hbounds hbounds'
  · have hstandard : Function.onText "toString" id ∈ standardList := by simp [standardList]
    exact call_withStandard hstandard rfl
  · have hstandard : Function.toNumber ∈ standardList := by simp [standardList]
    have hbody : Function.toNumber.body [.text (toString n)] = .ok (.number (.integer n)) := by
      simp only [Function.toNumber, Function.unary, read?_toString hlow hhigh]
    rw [← hbody]
    exact call_withStandard hstandard rfl

end Functions

namespace Sample

/-- A sign and zeros do not matter, the bounds do, and both of them are written
and read again. -/
theorem integers_exact_bounds :
    Number.read? " +00018446744073709551615\u3000" = some (.integer (2 ^ 64 - 1)) ∧
      (∀ n, Number.read? "18446744073709551616" ≠ some (.integer n)) ∧
      Functions.standard.call "toString" [.number (.integer (-2 ^ 63))] =
        .ok (.text (toString (-2 ^ 63 : Int))) ∧
      Functions.standard.call "toNumber" [.text (toString (-2 ^ 63 : Int))] =
        .ok (.number (.integer (-2 ^ 63))) := by
  obtain ⟨hread, hcalls⟩ := Functions.integers_exact []
  have hgreatest : Text.int? (Text.trim " +00018446744073709551615\u3000".toList) =
      some (2 ^ 64 - 1) := by decide +kernel
  have hnext : Text.int? (Text.trim "18446744073709551616".toList) = some (2 ^ 64) := by
    decide +kernel
  exact ⟨(hread _ _ (Text.int?_eq_some_iff.1 hgreatest)).1 (by decide),
    (hread _ _ (Text.int?_eq_some_iff.1 hnext)).2 (by decide), hcalls _ (by decide) (by decide)⟩

end Sample

end PromptMarkup
