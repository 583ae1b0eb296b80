import BodyScrub.Json.Reader
import Mathlib.Tactic.Ring

/-!
# Decimal digits of natural numbers

A natural number is written with its decimal digits, and `Json.digitsNat` reads them back. Both work on code
points; the lemmas here carry the standard library's facts on digit characters over to them.
-/

namespace BodyScrub

open Json (digitsNat)

/-- A text of digits `0` to `9` only. -/
def AllDigits (t : Text) : Prop := ∀ c ∈ t, c.isAsciiDigit = true

namespace AllDigits

theorem nil : AllDigits [] := by
  intro c hc
  exact absurd hc (List.not_mem_nil)

theorem append {a b : Text} (ha : AllDigits a) (hb : AllDigits b) : AllDigits (a ++ b) := by
  intro c hc
  rcases List.mem_append.1 hc with hc | hc
  · exact ha c hc
  · exact hb c hc

theorem of_append_left {a b : Text} (h : AllDigits (a ++ b)) : AllDigits a :=
  fun c hc => h c (List.mem_append_left b hc)

theorem of_append_right {a b : Text} (h : AllDigits (a ++ b)) : AllDigits b :=
  fun c hc => h c (List.mem_append_right a hc)

theorem zeros (n : Nat) : AllDigits (List.replicate n ('0' : CodePoint)) := by
  intro c hc
  rw [List.eq_of_mem_replicate hc]
  rfl

end AllDigits

/-! ## Reading digits -/

/-- A code point that counts as a digit has a value, by its distance from the zero. The test and the value are two
definitions, and the readers use one or the other. -/
theorem asciiDigit?_of_isAsciiDigit {c : CodePoint} (h : c.isAsciiDigit = true) :
    c.asciiDigit? = some (c.val - 0x30) := by
  unfold CodePoint.isAsciiDigit at h
  unfold CodePoint.asciiDigit?
  rw [if_pos h]

/-- Reading goes on from a number by shifting it in front of what the digits spell. This is what makes lemmas about
whole rows out of a fold. -/
theorem foldl_spelled (base n : Nat) (ds : List Nat) :
    ds.foldl (fun n d => n * base + d) n = n * base ^ ds.length + Text.spelled base ds := by
  unfold Text.spelled
  induction ds generalizing n with
  | nil => simp
  | cons d ds ih =>
    rw [List.foldl_cons, List.foldl_cons, ih, ih (0 * base + d), List.length_cons, Nat.pow_succ]
    ring

/-- Digits in two rows spell the first number, shifted by the length of the second, and the second. -/
theorem spelled_append (base : Nat) (a b : List Nat) :
    Text.spelled base (a ++ b) = Text.spelled base a * base ^ b.length + Text.spelled base b := by
  conv_lhs => rw [Text.spelled, List.foldl_append]
  exact foldl_spelled base _ b

/-- Every digit of a row has a value, so none gets lost. -/
theorem length_filterMap_asciiDigit? {t : Text} (h : AllDigits t) :
    (t.filterMap CodePoint.asciiDigit?).length = t.length := by
  induction t with
  | nil => rfl
  | cons c t ih =>
    have hc := asciiDigit?_of_isAsciiDigit (h c List.mem_cons_self)
    rw [List.filterMap_cons, hc, List.length_cons, List.length_cons,
      ih fun d hd => h d (List.mem_cons_of_mem c hd)]

/-- Texts of digits spell numbers the same way. All that is shown below of zeros in front and behind comes from this
equation. -/
theorem digitsNat_append (a : Text) {b : Text} (hb : AllDigits b) :
    digitsNat (a ++ b) = digitsNat a * 10 ^ b.length + digitsNat b := by
  unfold digitsNat
  rw [List.filterMap_append, spelled_append, length_filterMap_asciiDigit? hb]

theorem digitsNat_zeros (n : Nat) : digitsNat (List.replicate n ('0' : CodePoint)) = 0 := by
  induction n with
  | zero => rfl
  | succ n ih =>
    -- the first zero counts for nothing, wherever it is shifted to
    have hone : digitsNat [('0' : CodePoint)] = 0 := rfl
    rw [List.replicate_succ, ← List.singleton_append, digitsNat_append _ (AllDigits.zeros n), ih, hone,
      Nat.zero_mul]

theorem digitsNat_singleton_lt {c : CodePoint} (h : c.isAsciiDigit = true) : digitsNat [c] < 10 := by
  have hval := asciiDigit?_of_isAsciiDigit h
  unfold CodePoint.isAsciiDigit at h
  rw [Bool.and_eq_true, decide_eq_true_eq, decide_eq_true_eq] at h
  unfold digitsNat
  rw [List.filterMap_cons, hval]
  show 0 * 10 + (c.val - 0x30) < 10
  omega

/-- A row of digits spells a number below the power of ten of its length. The bounds on what is read as an integer
or overflows as a double rest on this. -/
theorem digitsNat_lt {t : Text} (h : AllDigits t) : digitsNat t < 10 ^ t.length := by
  induction t with
  | nil => decide
  | cons c t ih =>
    have hrest : AllDigits t := h.of_append_right (a := [c])
    have hc := digitsNat_singleton_lt (h c List.mem_cons_self)
    have ht := ih hrest
    rw [← List.singleton_append, digitsNat_append _ hrest, List.length_append, List.length_singleton, Nat.pow_add]
    -- the rest is below the power of ten that the first digit is multiplied by
    calc digitsNat [c] * 10 ^ t.length + digitsNat t < (digitsNat [c] + 1) * 10 ^ t.length := by
          rw [Nat.add_mul, Nat.one_mul]
          exact Nat.add_lt_add_left ht _
      _ ≤ 10 ^ 1 * 10 ^ t.length := Nat.mul_le_mul_right _ hc

/-! ## The digits of a natural number -/

namespace Text

/-- The digits that the library writes are digits for the reader. -/
theorem isAsciiDigit_ofChar {c : Char} (h : c.isDigit = true) : (CodePoint.ofChar c).isAsciiDigit = true := by
  simp only [Char.isDigit, Bool.and_eq_true, decide_eq_true_eq] at h
  have h₁ : ('0' : Char).val.toNat ≤ c.val.toNat := UInt32.le_iff_toNat_le.1 h.1
  have h₂ : c.val.toNat ≤ ('9' : Char).val.toNat := UInt32.le_iff_toNat_le.1 h.2
  unfold CodePoint.isAsciiDigit
  rw [Bool.and_eq_true, decide_eq_true_eq, decide_eq_true_eq]
  exact ⟨h₁, h₂⟩

theorem allDigits_ofNat (n : Nat) : AllDigits (ofNat n) := by
  intro c hc
  obtain ⟨d, hd, rfl⟩ := List.mem_map.1 hc
  exact isAsciiDigit_ofChar (Nat.isDigit_of_mem_toDigits (by decide) (by decide) hd)

theorem ofNat_of_lt {n : Nat} (h : n < 10) : ofNat n = [CodePoint.ofChar n.digitChar] := by
  unfold ofNat
  rw [Nat.toDigits_of_lt_base h, List.map_singleton]

/-- A larger number is written as a tenth of it and then its last digit. With `ofNat_of_lt` this is the recursion
that proofs about the text of a number follow. -/
theorem ofNat_of_le {n : Nat} (h : 10 ≤ n) :
    ofNat n = ofNat (n / 10) ++ [CodePoint.ofChar (n % 10).digitChar] := by
  unfold ofNat
  rw [Nat.toDigits_of_base_le (by decide) h, List.map_append, List.map_singleton]

theorem digitsNat_digitChar {d : Nat} (h : d < 10) : digitsNat [CodePoint.ofChar d.digitChar] = d := by
  have hval : (CodePoint.ofChar d.digitChar).val = 48 + d := Nat.toNat_digitChar_of_lt_ten h
  have hdigit : (CodePoint.ofChar d.digitChar).asciiDigit? = some d := by
    rw [asciiDigit?_of_isAsciiDigit, hval, Nat.add_sub_cancel_left]
    unfold CodePoint.isAsciiDigit
    rw [hval, Bool.and_eq_true, decide_eq_true_eq, decide_eq_true_eq]
    omega
  unfold digitsNat
  rw [List.filterMap_cons, hdigit]
  show 0 * 10 + d = d
  omega

/-- The text of a number is read as the number. The induction takes off the last digit, as the writing of a number
does. -/
theorem digitsNat_ofNat (n : Nat) : digitsNat (ofNat n) = n := by
  induction n using Nat.strongRecOn with
  | ind n ih =>
    by_cases h : n < 10
    · rw [ofNat_of_lt h, digitsNat_digitChar h]
    · -- the last digit is the remainder, and the induction gives all before it
      have hlast : AllDigits [CodePoint.ofChar (n % 10).digitChar] := by
        rw [← ofNat_of_lt (show n % 10 < 10 from Nat.mod_lt _ (by decide))]
        exact allDigits_ofNat _
      rw [ofNat_of_le (by omega), digitsNat_append _ hlast, ih (n / 10) (by omega),
        digitsNat_digitChar (Nat.mod_lt _ (by decide)), List.length_singleton]
      omega

/-- A number other than zero is not written with a zero in front, so its digits may stand before the point of a
numeral. -/
theorem ofNat_eq_cons {n : Nat} (hn : n ≠ 0) : ∃ c t, ofNat n = c :: t ∧ c ≠ CodePoint.ofChar '0' := by
  induction n using Nat.strongRecOn with
  | ind n ih =>
    by_cases h : n < 10
    -- a single digit is zero only for the number zero
    · refine ⟨_, [], ofNat_of_lt h, ?_⟩
      intro hc
      have hval : (CodePoint.ofChar n.digitChar).val = 48 + n := Nat.toNat_digitChar_of_lt_ten h
      rw [hc] at hval
      have : (CodePoint.ofChar '0').val = 48 := rfl
      omega
    -- a tenth of the number is not zero either, and begins with the same digit
    · obtain ⟨c, t, ht, hc⟩ := ih (n / 10) (by omega) (by omega)
      refine ⟨c, t ++ [CodePoint.ofChar (n % 10).digitChar], ?_, hc⟩
      rw [ofNat_of_le (by omega), ht, List.cons_append]

/-- The length of the text of a number bounds the number, and the other way round. The limits on digits of integers
and of indices are limits on numbers by this. -/
theorem length_ofNat_le_iff {n k : Nat} (hk : 0 < k) : (ofNat n).length ≤ k ↔ n < 10 ^ k := by
  unfold ofNat
  rw [List.length_map]
  exact Nat.length_toDigits_le_iff (by decide) hk

theorem ofNat_zero : ofNat 0 = [CodePoint.ofChar '0'] := rfl

/-- Every number is written with a digit at least, zero as well. -/
theorem ofNat_ne_nil (n : Nat) : ofNat n ≠ [] := by
  unfold ofNat
  rw [Ne, List.map_eq_nil_iff]
  exact Nat.toDigits_ne_nil

end Text

end BodyScrub
