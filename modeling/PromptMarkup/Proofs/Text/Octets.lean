import Mathlib.Data.Char
import Mathlib.Data.List.Basic
import PromptMarkup.Proofs.Source.Place
/-!
# Text — the order of texts is that of their bytes

Texts are compared character by character. Comparing them byte by byte, in
UTF-8, gives the same order (`Text.lt_iff_bytes_lt`): what is smaller as a
character is smaller in the first byte where two characters differ, also if one
has more bytes than the other. So a table that is in the order of its names is
in the order of their bytes.
-/

namespace PromptMarkup

namespace Text

/-- The bytes of characters, in UTF-8. -/
def octets (cs : List Char) : List UInt8 :=
  cs.flatMap String.utf8EncodeChar

@[simp] theorem octets_nil : octets [] = [] := rfl

theorem octets_cons (c : Char) (cs : List Char) :
    octets (c :: cs) = String.utf8EncodeChar c ++ octets cs := rfl

theorem octets_append (xs ys : List Char) : octets (xs ++ ys) = octets xs ++ octets ys :=
  List.flatMap_append

theorem length_octets (cs : List Char) : (octets cs).length = bytes cs := by
  induction cs with
  | nil => rfl
  | cons c cs ih =>
    rw [octets_cons, List.length_append, String.length_utf8EncodeChar, ih, bytes_cons]

theorem utf8EncodeChar_ne_nil (c : Char) : String.utf8EncodeChar c ≠ [] := by
  have hlength := String.length_utf8EncodeChar c
  have hpos := c.utf8Size_pos
  intro hnil
  rw [hnil, List.length_nil] at hlength
  omega

/-- The byte of a line feed is in the bytes of no other character. -/
theorem newline_mem_utf8EncodeChar {c : Char} : 10 ∈ String.utf8EncodeChar c ↔ c = '\n' := by
  constructor
  · intro h
    have hvalue : c.val.toNat = 10 := by
      have hten : (10 : UInt8).toNat = 10 := rfl
      simp only [String.utf8EncodeChar] at h
      generalize c.val.toNat = n at h ⊢
      split_ifs at h <;>
        simp only [List.mem_cons, List.not_mem_nil, or_false, ← UInt8.toNat_inj,
          UInt8.toNat_ofNat', Nat.reducePow, hten] at h <;>
        omega
    exact Char.ext (UInt32.toNat_inj.1 hvalue)
  · rintro rfl
    decide

/-- A number in digits of six bits. -/
theorem digits_eq (n : Nat) : n = 64 * (n / 64) + n % 64 ∧
    n / 64 = 64 * (n / 4096) + n / 64 % 64 ∧
    n / 4096 = 64 * (n / 262144) + n / 4096 % 64 := by
  omega

/-- **The smaller of two characters has the smaller bytes**, whatever follows
them. -/
theorem utf8EncodeChar_append_lt {c d : Char} (h : c < d) (xs ys : List UInt8) :
    String.utf8EncodeChar c ++ xs < String.utf8EncodeChar d ++ ys := by
  have hlt : c.val.toNat < d.val.toNat := h
  have hd : d.val.toNat < 1114112 := by
    have hvalid := d.valid
    change d.val.toNat < 55296 ∨ 57343 < d.val.toNat ∧ d.val.toNat < 1114112 at hvalid
    omega
  simp only [String.utf8EncodeChar]
  generalize c.val.toNat = n at hlt ⊢
  generalize d.val.toNat = m at hlt hd ⊢
  -- every byte is a digit behind the mark of its place, which leaves it below 256
  have hnext : ∀ k, (k % 64 + 128) % 256 = k % 64 + 128 := by omega
  have htwo : ∀ k, (k % 32 + 192) % 256 = k % 32 + 192 := by omega
  have hthree : ∀ k, (k % 16 + 224) % 256 = k % 16 + 224 := by omega
  have hfour : (n / 262144 % 8 + 240) % 256 = n / 262144 + 240 := by omega
  have hfour' : (m / 262144 % 8 + 240) % 256 = m / 262144 + 240 := by omega
  have hdigits := digits_eq n
  have hdigits' := digits_eq m
  split_ifs <;>
    simp only [List.cons_append, List.nil_append, List.cons_lt_cons_iff, UInt8.lt_iff_toNat_lt,
      UInt8.toNat_ofNat', ← UInt8.toNat_inj, Nat.reducePow, hnext, htwo, hthree, hfour, hfour'] <;>
    omega

/-- What two lists begin with alike makes no difference to their order. -/
theorem append_lt_append_iff {before xs ys : List UInt8} :
    before ++ xs < before ++ ys ↔ xs < ys := by
  induction before with
  | nil => rfl
  | cons first rest ih =>
    rw [List.cons_append, List.cons_append, List.cons_lt_cons_iff, ih]
    simp

theorem octets_lt_octets_iff {xs ys : List Char} : octets xs < octets ys ↔ xs < ys := by
  induction xs generalizing ys with
  | nil =>
    cases ys with
    | nil => simp
    | cons d ys =>
      obtain ⟨first, rest, hfirst⟩ := List.exists_cons_of_ne_nil (utf8EncodeChar_ne_nil d)
      rw [octets_cons, hfirst]
      exact iff_of_true (List.nil_lt_cons _ _) (List.nil_lt_cons _ _)
  | cons c xs ih =>
    cases ys with
    | nil => simp
    | cons d ys =>
      rw [octets_cons, octets_cons, List.cons_lt_cons_iff]
      rcases lt_trichotomy c d with hlt | rfl | hgt
      · exact iff_of_true (utf8EncodeChar_append_lt hlt _ _) (.inl hlt)
      · rw [append_lt_append_iff, ih]
        simp
      · refine iff_of_false (fun h => ?_) ?_
        · exact List.lt_asymm h (utf8EncodeChar_append_lt hgt _ _)
        · rintro (hlt | ⟨rfl, -⟩)
          · exact lt_asymm hlt hgt
          · exact lt_irrefl _ hgt

/-- **Texts are in the order of their bytes.** -/
theorem lt_iff_bytes_lt {s t : String} :
    s < t ↔ s.toUTF8.data.toList < t.toUTF8.data.toList := by
  have hbytes : ∀ s : String, s.toUTF8.data.toList = octets s.toList := by
    intro s
    have hencode : s.toUTF8 = s.toList.utf8Encode := String.utf8Encode_toList.symm
    rw [hencode, List.utf8Encode, List.data_toByteArray]
    rfl
  rw [hbytes, hbytes, octets_lt_octets_iff]
  exact Iff.rfl

end Text

end PromptMarkup
