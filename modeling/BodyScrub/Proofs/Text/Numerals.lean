import BodyScrub.Proofs.Number.Digits
import BodyScrub.Proofs.Text.Classes
import BodyScrub.Proofs.Text.Parts

/-!
# Numerals

What an integer is written with, how large it is by its digits, and how it is read back: the decimal digits of a
natural number are read as that number, unless they are too many (`integer?_ofNat`).
-/

namespace BodyScrub

namespace Text

/-- Decimal digits spell a number below the power of ten with as many zeros as there are digits. -/
theorem spelled_lt {ds : List Nat} (h : ∀ d ∈ ds, d < 10) : spelled 10 ds < 10 ^ ds.length := by
  induction ds with
  | nil => decide
  | cons d ds ih =>
    have hd : d < 10 := h d List.mem_cons_self
    have hds := ih fun e he => h e (List.mem_cons_of_mem d he)
    have hsplit : spelled 10 (d :: ds) = d * 10 ^ ds.length + spelled 10 ds := by
      have hone : spelled 10 [d] = d := Nat.zero_add d
      rw [← List.singleton_append, spelled_append, hone]
    -- the first digit is below ten, so there is room for one more
    calc spelled 10 (d :: ds) < d * 10 ^ ds.length + 10 ^ ds.length := by
          rw [hsplit]
          exact Nat.add_lt_add_left hds _
      _ = (d + 1) * 10 ^ ds.length := by rw [Nat.add_mul, Nat.one_mul]
      _ ≤ 10 * 10 ^ ds.length := Nat.mul_le_mul_right _ hd
      _ = 10 ^ (d :: ds).length := by rw [List.length_cons, Nat.pow_succ, Nat.mul_comm]

/-- An integer is written with digits, and a hyphen if it is negative. Nothing of it is a bracket or a blank. -/
theorem mem_ofInt {i : Int} {c : CodePoint} (h : c ∈ ofInt i) : c = '-' ∨ c.isAsciiDigit = true := by
  unfold ofInt at h
  split at h
  · rcases List.mem_cons.1 h with rfl | h
    · exact Or.inl rfl
    · exact Or.inr (allDigits_ofNat _ c h)
  · exact Or.inr (allDigits_ofNat _ c h)

theorem strip_ofInt (i : Int) : (ofInt i).strip = ofInt i := by
  refine strip_eq_self fun c hc => ?_
  rcases mem_ofInt hc with rfl | hdigit
  · decide
  · exact CodePoint.isBlank_of_isAsciiDigit hdigit

/-! ## Reading integers -/

/-- Digits without underscores between them are in no need of being put together. -/
theorem ungroup?_of_allDigits {t : Text} (hne : t ≠ []) (h : AllDigits t) :
    ungroup? t = some (t.filterMap CodePoint.asciiDigit?) := by
  match t with
  | [] => exact absurd rfl hne
  | [c] =>
    have hc := h c List.mem_cons_self
    simp [ungroup?, CodePoint.digit?_of_isAsciiDigit hc, asciiDigit?_of_isAsciiDigit hc]
  | c :: d :: t =>
    have hc := h c List.mem_cons_self
    have hd := h d (List.mem_cons_of_mem c List.mem_cons_self)
    -- the second code point is a digit and so no underscore
    have hunderscore : d ≠ '_' := by
      rintro rfl
      exact absurd hd (by decide)
    have hrest := ungroup?_of_allDigits (List.cons_ne_nil d t) fun e he => h e (List.mem_cons_of_mem c he)
    rw [ungroup?, if_neg hunderscore, hrest, CodePoint.digit?_of_isAsciiDigit hc]
    simp [asciiDigit?_of_isAsciiDigit hc]

/-- A natural number is read back from its digits, unless they are too many. There is nothing to strip and no
underscore to take out in what is written. -/
theorem integer?_ofNat {n : Nat} (h : (ofNat n).length ≤ maxIntegerDigits) : integer? (ofNat n) = some (n : Int) := by
  have hdigits := allDigits_ofNat n
  have hstrip : (ofNat n).strip = ofNat n := strip_eq_self fun c hc => CodePoint.isBlank_of_isAsciiDigit (hdigits c hc)
  have hungroup := ungroup?_of_allDigits (ofNat_ne_nil n) hdigits
  have hvalue : spelled 10 ((ofNat n).filterMap CodePoint.asciiDigit?) = n := digitsNat_ofNat n
  rw [← length_filterMap_asciiDigit? hdigits] at h
  unfold integer?
  rw [hstrip]
  -- the first code point is a digit and no sign
  cases htext : ofNat n with
  | nil => exact absurd htext (ofNat_ne_nil n)
  | cons c t =>
    rw [htext] at hungroup hvalue hdigits h
    have hc := hdigits c List.mem_cons_self
    have hminus : c ≠ '-' := by
      rintro rfl
      exact absurd hc (by decide)
    have hplus : c ≠ '+' := by
      rintro rfl
      exact absurd hc (by decide)
    dsimp only
    rw [if_neg hminus, if_neg hplus, hungroup, Option.bind_some, if_pos h, hvalue]
    rfl

end Text

end BodyScrub
