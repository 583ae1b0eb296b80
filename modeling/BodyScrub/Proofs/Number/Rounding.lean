import BodyScrub.Number.Decimal
import Mathlib.Tactic.Ring
import Mathlib.Tactic.Linarith

/-!
# Rounding depends on the number alone

`Double.ofDecimal` settles very large and very small decimals by their magnitude and divides natural numbers for
all others. Here the three ways are shown to be one: the quotient `units d / unitsBelow d`, rounded by `ofUnits`.
So two decimals for one number are read as one double (`ofDecimal_scale`), and a double is read back from the
decimal of all its digits (`ofDecimal_allDigits`).

* **`ofUnits_eq_of_cross`**: equal quotients are rounded alike.
* **`ofUnits_units`**: a finite double is the rounding of its own magnitude.
* **`ofDecimal_eq_ofUnits`**: the short cuts for extreme decimals agree with the division.
-/

namespace BodyScrub.Double

/-! ## Quotients -/

/-- A common factor of both numbers does not change how a quotient is rounded. The remainder gets the factor as
well, so a tie stays a tie. -/
theorem divideNearest_mul (a b : Nat) {c : Nat} (hc : 0 < c) :
    divideNearest (a * c) (b * c) = divideNearest a b := by
  have hq : a * c / (b * c) = a / b := Nat.mul_div_mul_right a b hc
  have hr : a * c % (b * c) = a % b * c := Nat.mul_mod_mul_right c a b
  have hlt : b * c < 2 * (a % b * c) ↔ b < 2 * (a % b) := by
    rw [← Nat.mul_assoc]
    exact Nat.mul_lt_mul_right hc
  -- the half is at the half of both, so ties stay ties
  have heq : (2 * (a % b * c) == b * c) = (2 * (a % b) == b) := by
    rw [← Nat.mul_assoc, Bool.eq_iff_iff, beq_iff_eq, beq_iff_eq]
    exact Nat.mul_right_cancel_iff hc
  unfold divideNearest
  simp only [hq, hr, hlt, heq]

/-- Rounding is one division at the scale of the quotient, and then packing. -/
theorem ofUnits_eq_pack (negative : Bool) (num den : Nat) :
    ofUnits negative num den
      = pack negative (divideNearest num (den * 2 ^ droppedBits (num / den))) (droppedBits (num / den)) := rfl

/-- A common factor does not change the double either, as the scale is that of the quotient. -/
theorem ofUnits_mul (negative : Bool) (a b : Nat) {c : Nat} (hc : 0 < c) :
    ofUnits negative (a * c) (b * c) = ofUnits negative a b := by
  rw [ofUnits_eq_pack, ofUnits_eq_pack, Nat.mul_div_mul_right a b hc]
  simp only [show b * c * 2 ^ droppedBits (a / b) = b * 2 ^ droppedBits (a / b) * c from by ring,
    divideNearest_mul _ _ hc]

/-- Equal quotients are rounded alike. Every comparison of two decimals comes down to this one. -/
theorem ofUnits_eq_of_cross (negative : Bool) {a b c d : Nat} (hb : 0 < b) (hd : 0 < d)
    (h : a * d = c * b) : ofUnits negative a b = ofUnits negative c d := by
  rw [← ofUnits_mul negative a b hd, ← ofUnits_mul negative c d hb, h, Nat.mul_comm b d]

/-! ## A double is the rounding of its own magnitude -/

/-- A quotient without a remainder is not rounded. Doubles are read back exactly for this reason: their magnitudes
are such quotients. -/
theorem divideNearest_mul_self (n : Nat) {c : Nat} (hc : 0 < c) : divideNearest (n * c) c = n := by
  unfold divideNearest
  simp [hc.ne', hc.ne]

/-- A significand of 53 bits at a scale has its leading bit at that scale, so the scale is found again from the
magnitude. -/
theorem log2_mul_two_pow {m k : Nat} (h₁ : leadingBit ≤ m) (h₂ : m < 2 * leadingBit) :
    (m * 2 ^ k).log2 = 52 + k := by
  have hpos : 0 < 2 ^ k := Nat.two_pow_pos k
  have hm : m ≠ 0 := by unfold leadingBit at h₁; omega
  rw [Nat.log2_eq_iff (Nat.mul_ne_zero hm hpos.ne')]
  constructor
  · rw [Nat.pow_add]
    exact Nat.mul_le_mul_right _ h₁
  · rw [show 52 + k + 1 = 53 + k from by omega, Nat.pow_add]
    exact Nat.mul_lt_mul_of_pos_right h₂ hpos

/-- A significand of 53 bits at a scale is rounded to itself, and packed at that scale. -/
theorem ofUnits_normal (negative : Bool) {m k : Nat} (h₁ : leadingBit ≤ m) (h₂ : m < 2 * leadingBit) :
    ofUnits negative (m * 2 ^ k) 1 = pack negative m k := by
  rw [ofUnits_eq_pack, Nat.div_one]
  have hscale : droppedBits (m * 2 ^ k) = k := by
    unfold droppedBits
    rw [log2_mul_two_pow h₁ h₂]
    split
    · next hlt =>
      -- the product is below two leading bits only where the scale is zero
      cases k with
      | zero => rfl
      | succ k =>
        have hpow : 2 ≤ 2 ^ (k + 1) := by rw [Nat.pow_succ]; have := Nat.one_le_two_pow (n := k); omega
        have := Nat.mul_le_mul h₁ hpow
        omega
    · omega
  simp only [hscale, Nat.one_mul]
  rw [divideNearest_mul_self m (Nat.two_pow_pos k)]

/-- The magnitude of a finite double in units of the smallest one. A subnormal has no leading bit, and has the scale
of the smallest normal ones. -/
theorem units_finite (s : Bool) (e : Fin 2047) (f : Fin 4503599627370496) :
    (finite s e f).units = (if e.val = 0 then f.val else leadingBit + f.val) * 2 ^ (e.val - 1) := rfl

/-- A finite double is the rounding of its own magnitude. Normal and subnormal ones are two cases, since the leading
bit of a significand tells the scale only for the first. -/
theorem ofUnits_units (s : Bool) (e : Fin 2047) (f : Fin 4503599627370496) :
    ofUnits s (finite s e f).units 1 = finite s e f := by
  have hf : f.val < leadingBit := f.isLt
  rw [units_finite]
  by_cases he : e.val = 0
  · -- a subnormal: nothing is dropped
    have hscale : droppedBits f.val = 0 := by
      unfold droppedBits
      rw [if_pos (by omega)]
    simp only [he, if_true, Nat.zero_sub, Nat.pow_zero, Nat.mul_one]
    rw [ofUnits_eq_pack, Nat.div_one]
    simp only [hscale, Nat.pow_zero, Nat.mul_one]
    have hself : divideNearest f.val 1 = f.val := by simpa using divideNearest_mul_self f.val Nat.one_pos
    rw [hself]
    unfold pack
    simp only [hf, if_true]
    simp only [show (0 : Nat) < 2047 from by decide, dite_true]
    congr 1
    · exact Fin.ext he.symm
    · exact Fin.ext (Nat.mod_eq_of_lt hf)
  -- a normal double: the leading bit is put in for the rounding and dropped by the packing
  · rw [if_neg he, ofUnits_normal s (by omega) (by omega)]
    unfold pack
    have hsmall : ¬leadingBit + f.val < leadingBit := by omega
    have hbig : leadingBit + f.val < 2 * leadingBit := by omega
    have hexp : e.val - 1 + 1 = e.val := by omega
    simp only [hsmall, if_false, hbig, if_true, hexp, e.isLt, dite_true]
    have hmod : (leadingBit + f.val) % leadingBit = f.val := by
      rw [Nat.add_mod_left]
      exact Nat.mod_eq_of_lt hf
    congr 1
    exact Fin.ext hmod

/-! ## Extreme quotients -/

/-- A magnitude beyond every exponent is infinite. The reader settles decimals with a large exponent without
computing their magnitude, and gives the same by this lemma. -/
theorem ofUnits_infinite (negative : Bool) {n k : Nat} (hk : 2099 ≤ k) (h : 2 ^ k ≤ n) :
    ofUnits negative n 1 = infinite negative := by
  have hn : n ≠ 0 := (lt_of_lt_of_le (Nat.two_pow_pos k) h).ne'
  have hlog : k ≤ n.log2 := (Nat.le_log2 hn).2 h
  have hscale : droppedBits n = n.log2 - 52 := by
    have hle : 2 ^ 53 ≤ 2 ^ k := Nat.pow_le_pow_right (by decide) (by omega)
    unfold droppedBits leadingBit
    rw [if_neg (by omega)]
  have hself : 2 ^ n.log2 ≤ n := Nat.log2_self_le hn
  have hquot : leadingBit ≤ n / 2 ^ (n.log2 - 52) := by
    rw [Nat.le_div_iff_mul_le (Nat.two_pow_pos _)]
    calc leadingBit * 2 ^ (n.log2 - 52) = 2 ^ (52 + (n.log2 - 52)) := by rw [Nat.pow_add]; rfl
      _ = 2 ^ n.log2 := by rw [show 52 + (n.log2 - 52) = n.log2 from by omega]
      _ ≤ n := hself
  -- the rounded quotient keeps the leading bit, so that the exponent is as large as the scale
  have hsig : leadingBit ≤ divideNearest n (2 ^ (n.log2 - 52)) := by
    unfold divideNearest
    dsimp only
    split <;> omega
  rw [ofUnits_eq_pack, Nat.div_one]
  simp only [hscale, Nat.one_mul]
  unfold pack
  rw [dif_neg]
  rw [if_neg (by omega)]
  split <;> omega

/-- A quotient below one half is zero. The same shortcut is taken for very small decimals. -/
theorem ofUnits_zero (negative : Bool) {a b : Nat} (h : 2 * a < b) :
    ofUnits negative a b = finite negative 0 0 := by
  have hdiv : a / b = 0 := Nat.div_eq_of_lt (by omega)
  have hscale : droppedBits 0 = 0 := by
    unfold droppedBits leadingBit
    rfl
  have hnear : divideNearest a b = 0 := by
    unfold divideNearest
    have hlt : ¬b < 2 * a := by omega
    have hne : (2 * a == b) = false := by rw [beq_eq_false_iff_ne]; omega
    simp only [hdiv, Nat.mod_eq_of_lt (show a < b from by omega), hlt, hne, decide_false, Bool.false_and,
      Bool.or_false, Bool.false_eq_true, if_false]
  rw [ofUnits_eq_pack, hdiv]
  simp only [hscale, Nat.pow_zero, Nat.mul_one]
  rw [hnear]
  rfl

/-! ## Decimals -/

/-- The number of units that a decimal counts, times `unitsBelow`. -/
def unitsAbove (d : Decimal) : Nat := d.digits * 10 ^ d.exponent.toNat * 2 ^ unitExponent

/-- The power of ten by which the units of a decimal are divided. -/
def unitsBelow (d : Decimal) : Nat := 10 ^ (-d.exponent).toNat

theorem unitsBelow_pos (d : Decimal) : 0 < unitsBelow d := Nat.pow_pos (by decide)

/-- A number is below the power of ten of its count of digits, which bounds very small decimals from above. -/
theorem lt_ten_pow_digitCount (n : Nat) : n < 10 ^ digitCount n :=
  (Nat.length_toDigits_le_iff (by decide) Nat.length_toDigits_pos).1 (Nat.le_refl _)

/-- The short cuts for extreme decimals agree with the division. From here on a decimal stands for a quotient,
however large or small it is. -/
theorem ofDecimal_eq_ofUnits (negative : Bool) {d : Decimal} (hd : d.digits ≠ 0) :
    ofDecimal negative d = ofUnits negative (unitsAbove d) (unitsBelow d) := by
  unfold ofDecimal
  rw [if_neg hd]
  split
  · next hbig =>
    -- ten to the 310th is beyond the largest exponent
    have hbelow : unitsBelow d = 1 := by
      unfold unitsBelow
      rw [show (-d.exponent).toNat = 0 from by omega, Nat.pow_zero]
    obtain ⟨k, hk⟩ : ∃ k, d.exponent.toNat = 310 + k := ⟨d.exponent.toNat - 310, by omega⟩
    have hten : 2 ^ 1025 ≤ 10 ^ 310 := by decide +kernel
    rw [hbelow, ofUnits_infinite negative (Nat.le_refl 2099)]
    unfold unitsAbove unitExponent
    rw [hk, Nat.pow_add 10 310 k]
    calc 2 ^ 2099 = 1 * (2 ^ 1025 * 1) * 2 ^ 1074 := by rw [Nat.one_mul, Nat.mul_one, ← Nat.pow_add]
      _ ≤ d.digits * (10 ^ 310 * 10 ^ k) * 2 ^ 1074 :=
        Nat.mul_le_mul_right _ (Nat.mul_le_mul (by omega) (Nat.mul_le_mul hten (Nat.pow_pos (by decide))))
  · next hbig =>
    split
    · next hsmall =>
      -- ten to the minus 331st is less than half a unit
      obtain ⟨k, hk⟩ : ∃ k, (-d.exponent).toNat = 331 + digitCount d.digits + k :=
        ⟨(-d.exponent).toNat - (331 + digitCount d.digits), by omega⟩
      have hten : 2 * 2 ^ 1074 ≤ 10 ^ 331 := by decide +kernel
      have htenPos : 0 < 10 ^ 331 := by decide +kernel
      have hdigits := lt_ten_pow_digitCount d.digits
      rw [ofUnits_zero]
      unfold unitsAbove unitsBelow unitExponent
      rw [show d.exponent.toNat = 0 from by omega, hk, Nat.pow_zero, Nat.mul_one]
      calc 2 * (d.digits * 2 ^ 1074) = d.digits * (2 * 2 ^ 1074) := Nat.mul_left_comm _ _ _
        _ ≤ d.digits * 10 ^ 331 := Nat.mul_le_mul_left _ hten
        _ < 10 ^ digitCount d.digits * 10 ^ 331 :=
          Nat.mul_lt_mul_of_pos_right hdigits htenPos
        _ = 10 ^ (331 + digitCount d.digits) * 1 := by
          rw [Nat.mul_one, Nat.pow_add 10 331, Nat.mul_comm]
        _ ≤ 10 ^ (331 + digitCount d.digits + k) := by
          rw [Nat.pow_add 10 (331 + digitCount d.digits) k]
          exact Nat.mul_le_mul_left _ (Nat.pow_pos (by decide))
    · split
      -- an exponent that is not negative multiplies, any other one divides
      · next hpos =>
        unfold unitsAbove unitsBelow
        rw [show (-d.exponent).toNat = 0 from by omega, Nat.pow_zero, Nat.pow_eq, Nat.pow_eq]
      · next hneg =>
        unfold unitsAbove unitsBelow
        rw [show d.exponent.toNat = 0 from by omega, Nat.pow_zero, Nat.mul_one, Nat.pow_eq, Nat.pow_eq]

/-- A decimal with zeros at the end of its digits is the decimal without them. Both are one quotient, with powers of
ten on either side of the line. -/
theorem ofDecimal_scale (negative : Bool) (n k : Nat) (e : Int) :
    ofDecimal negative ⟨n * 10 ^ k, e⟩ = ofDecimal negative ⟨n, e + k⟩ := by
  by_cases hn : n = 0
  · subst hn
    simp [ofDecimal]
  · have hnk : n * 10 ^ k ≠ 0 := Nat.mul_ne_zero hn (Nat.pow_pos (by decide)).ne'
    rw [ofDecimal_eq_ofUnits negative (d := ⟨n * 10 ^ k, e⟩) hnk,
      ofDecimal_eq_ofUnits negative (d := ⟨n, e + k⟩) hn]
    refine ofUnits_eq_of_cross negative (unitsBelow_pos _) (unitsBelow_pos _) ?_
    unfold unitsAbove unitsBelow
    -- the zeros count once, with the digits or with the exponent
    have hexp : k + e.toNat + (-(e + k)).toNat = (e + k).toNat + (-e).toNat := by omega
    have hpow : 10 ^ k * 10 ^ e.toNat * 10 ^ (-(e + k)).toNat = 10 ^ (e + k).toNat * 10 ^ (-e).toNat := by
      rw [← Nat.pow_add, ← Nat.pow_add, ← Nat.pow_add, hexp]
    calc n * 10 ^ k * 10 ^ e.toNat * 2 ^ unitExponent * 10 ^ (-(e + k)).toNat
        = n * (10 ^ k * 10 ^ e.toNat * 10 ^ (-(e + k)).toNat) * 2 ^ unitExponent := by ring
      _ = n * (10 ^ (e + k).toNat * 10 ^ (-e).toNat) * 2 ^ unitExponent := by rw [hpow]
      _ = n * 10 ^ (e + k).toNat * 2 ^ unitExponent * 10 ^ (-e).toNat := by ring

/-- All digits of a finite double, written in full, are read back. The search for fewer digits falls back on these. -/
theorem ofDecimal_allDigits (s : Bool) (e : Fin 2047) (f : Fin 4503599627370496)
    (hx : (finite s e f).units ≠ 0) :
    ofDecimal s ⟨(finite s e f).allDigits, -(unitExponent : Int)⟩ = finite s e f := by
  have hfive : ∀ k, Nat.pow 5 k ≠ 0 := fun k => (Nat.pow_pos (by decide)).ne'
  have hall : (finite s e f).allDigits ≠ 0 := Nat.mul_ne_zero hx (hfive unitExponent)
  rw [ofDecimal_eq_ofUnits s (d := ⟨(finite s e f).allDigits, -(unitExponent : Int)⟩) hall]
  have hcross : unitsAbove ⟨(finite s e f).allDigits, -(unitExponent : Int)⟩ * 1
      = (finite s e f).units * unitsBelow ⟨(finite s e f).allDigits, -(unitExponent : Int)⟩ := by
    unfold unitsAbove unitsBelow allDigits
    dsimp only
    rw [Nat.pow_eq, Int.neg_neg, Int.toNat_natCast, Int.toNat_neg_natCast, Nat.pow_zero, Nat.mul_one, Nat.mul_one,
      Nat.mul_assoc, ← Nat.mul_pow]
  rw [ofUnits_eq_of_cross s (unitsBelow_pos _) Nat.one_pos hcross, ofUnits_units]

end BodyScrub.Double
