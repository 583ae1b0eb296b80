import BodyScrub.Proofs.Number.Rounding

/-!
# Which decimals are read as infinite

A decimal is read as a finite double exactly where it is nearer to the largest double than to the next power of two.
The bound is the middle between the two, and the middle itself is rounded up, since the last bit of the largest
significand is odd.

* **`Decimal.Overflows`**: the magnitude reaches that bound.
* **`isFinite_ofUnits_iff`**, **`isFinite_ofDecimal_iff`**: what is finite stays below it.
-/

namespace BodyScrub

/-- The middle between the largest double and the next power of two. -/
def overflowBound : Nat := (2 ^ 54 - 1) * 2 ^ 970

/-- The magnitude reaches `overflowBound`. -/
def Decimal.Overflows (d : Decimal) : Prop :=
  overflowBound * 10 ^ (-d.exponent).toNat ≤ d.digits * 10 ^ d.exponent.toNat

namespace Double

/-- A quotient is rounded beyond an odd number exactly from the middle to the next one on: the middle goes to the
even neighbour above. -/
theorem divideNearest_le_iff {num den m : Nat} (hden : 0 < den) (hm : m % 2 = 1) :
    divideNearest num den ≤ m ↔ 2 * num < (2 * m + 1) * den := by
  have hsum : den * (num / den) + num % den = num := Nat.div_add_mod num den
  have hrest : num % den < den := Nat.mod_lt num hden
  unfold divideNearest
  generalize num / den = q at hsum ⊢
  generalize num % den = r at hsum hrest ⊢
  dsimp only
  rcases Nat.lt_trichotomy q m with hlt | rfl | hgt
  · -- a smaller quotient is rounded to `m` at most
    have hprod : den * (q + 1) ≤ den * m := Nat.mul_le_mul_left den hlt
    constructor
    · intro _
      nlinarith
    · intro _
      split <;> omega
  -- the quotient is `m` itself, and the remainder decides
  · simp only [hm, beq_self_eq_true, Bool.and_true, Bool.or_eq_true, decide_eq_true_eq, beq_iff_eq]
    split
    · next hup =>
      have hhalf : den ≤ 2 * r := by omega
      constructor
      · intro h
        omega
      · intro h
        nlinarith
    · next hdown =>
      constructor
      · intro _
        nlinarith [show 2 * r < den from by omega]
      · intro _
        exact Nat.le_refl _
  -- a larger quotient is never rounded down to `m`
  · have hprod : den * (m + 1) ≤ den * q := Nat.mul_le_mul_left den hgt
    constructor
    · intro h
      split at h <;> omega
    · intro h
      nlinarith

/-- What is packed is finite unless its exponent gets beyond the largest, be it by its scale or by a carry out of
the significand. -/
theorem isFinite_pack_iff (negative : Bool) (significand scale : Nat) :
    (pack negative significand scale).isFinite = true
      ↔ significand < leadingBit ∨ scale < 2045 ∨ scale = 2045 ∧ significand < 2 * leadingBit := by
  have hdite : ∀ exponent : Nat, (if h : exponent < 2047 then
      finite negative ⟨exponent, h⟩ ⟨significand % leadingBit, Nat.mod_lt _ (by decide)⟩
      else infinite negative).isFinite = true ↔ exponent < 2047 := by
    intro exponent
    split
    · next h => exact iff_of_true rfl h
    · next h => exact iff_of_false Bool.false_ne_true h
  unfold pack
  rw [hdite]
  split
  · omega
  · split <;> omega

/-- A number of units is read as finite exactly below the bound. Numbers of one scale are settled by the carry, and
all others by their scale alone. -/
theorem isFinite_ofUnits_iff (negative : Bool) (num : Nat) {den : Nat} (hden : 0 < den) :
    (ofUnits negative num den).isFinite = true ↔ num < overflowBound * 2 ^ unitExponent * den := by
  -- the exponent is kept as a name, so that no step computes the power
  obtain ⟨e, he⟩ : ∃ e, e = 970 + unitExponent := ⟨_, rfl⟩
  have hbound : overflowBound * 2 ^ unitExponent = (2 ^ 54 - 1) * 2 ^ e := by
    unfold overflowBound
    rw [he, Nat.pow_add, Nat.mul_assoc]
  have hpos : 1 ≤ 2 ^ e := Nat.one_le_two_pow
  have hexp : e + 1 = 2045 := congrArg (· + 1) he
  have hlower : num / den * den ≤ num := Nat.div_mul_le_self num den
  have hupper : num < (num / den + 1) * den := Nat.lt_mul_of_div_lt (Nat.lt_succ_self _) hden
  rw [ofUnits_eq_pack, isFinite_pack_iff, hbound]
  unfold droppedBits leadingBit
  generalize hq : num / den = q at hlower hupper
  split
  · next hsmall =>
    -- nothing is dropped, and the number is far below the bound
    have hle : q + 1 ≤ (2 ^ 54 - 1) * 2 ^ e := by omega
    exact iff_of_true (Or.inr (Or.inl (by decide))) (hupper.trans_le (Nat.mul_le_mul_right den hle))
  · next hlarge =>
    have hq0 : q ≠ 0 := by omega
    have hlow : 2 ^ q.log2 ≤ q := Nat.log2_self_le hq0
    have hhigh : q < 2 ^ (q.log2 + 1) := Nat.lt_log2_self
    obtain ⟨k, hk⟩ : ∃ k, q.log2 = 52 + k := by
      have hlog : 53 ≤ q.log2 := (Nat.le_log2 hq0).2 (by omega)
      exact ⟨q.log2 - 52, by omega⟩
    rw [hk] at hlow hhigh
    rw [hk, Nat.add_sub_cancel_left]
    -- the leading bit is kept, so only the scale and a carry out of the significand count
    have hkept : ¬divideNearest num (den * 2 ^ k) < 4503599627370496 := by
      have hquot : 2 ^ 52 ≤ num / (den * 2 ^ k) := by
        rw [← Nat.div_div_eq_div_mul, hq, Nat.le_div_iff_mul_le (Nat.two_pow_pos k), ← Nat.pow_add]
        exact hlow
      unfold divideNearest
      dsimp only
      split <;> omega
    rw [or_iff_right hkept]
    rcases Nat.lt_trichotomy k (e + 1) with hlt | rfl | hgt
    -- a smaller scale: finite whatever is carried
    · have hpow : 2 ^ (52 + k + 1) ≤ 2 ^ 53 * 2 ^ e := by
        rw [← Nat.pow_add]
        exact Nat.pow_le_pow_right (by decide) (by omega)
      have hle : q + 1 ≤ (2 ^ 54 - 1) * 2 ^ e := by omega
      exact iff_of_true (Or.inl (by omega)) (hupper.trans_le (Nat.mul_le_mul_right den hle))
    -- the largest scale: a carry is what makes the number infinite
    · have hround := @divideNearest_le_iff num (den * 2 ^ (e + 1)) (2 ^ 53 - 1)
        (Nat.mul_pos hden (Nat.two_pow_pos (e + 1))) (by decide)
      have hdouble : (2 * (2 ^ 53 - 1) + 1) * (den * 2 ^ (e + 1)) = 2 * ((2 ^ 54 - 1) * 2 ^ e * den) := by
        rw [Nat.pow_succ]
        ring
      rw [hdouble] at hround
      have hcarry : divideNearest num (den * 2 ^ (e + 1)) < 2 * 4503599627370496
          ↔ num < (2 ^ 54 - 1) * 2 ^ e * den := by
        refine (Nat.lt_iff_le_pred (by decide)).trans (hround.trans ?_)
        exact Nat.mul_lt_mul_left Nat.two_pos
      rw [or_iff_right (Nat.not_lt.2 hexp.ge), hcarry]
      exact and_iff_right hexp
    -- a larger scale: infinite whatever the significand is
    · have hpow : 2 ^ 54 * 2 ^ e ≤ 2 ^ (52 + k) := by
        rw [← Nat.pow_add]
        exact Nat.pow_le_pow_right (by decide) (by omega)
      have hle : (2 ^ 54 - 1) * 2 ^ e ≤ q := by omega
      exact iff_of_false (by omega) (Nat.not_lt.2 ((Nat.mul_le_mul_right den hle).trans hlower))

/-- A decimal is read as finite exactly where it does not overflow. The test for very large exponents, which comes
before any rounding, has to be shown to agree with this. -/
theorem isFinite_ofDecimal_iff (negative : Bool) (d : Decimal) :
    (ofDecimal negative d).isFinite = true ↔ ¬d.Overflows := by
  unfold Decimal.Overflows
  rw [Nat.not_le]
  by_cases hd : d.digits = 0
  -- zero is settled before anything is divided
  · have hzero : ofDecimal negative d = finite negative 0 0 := by
      unfold ofDecimal
      rw [if_pos hd]
    rw [hzero, hd, Nat.zero_mul]
    have hbound : 0 < overflowBound := by decide +kernel
    exact iff_of_true rfl (Nat.mul_pos hbound (unitsBelow_pos d))
  · rw [ofDecimal_eq_ofUnits negative hd, isFinite_ofUnits_iff negative _ (unitsBelow_pos d)]
    unfold unitsAbove unitsBelow
    rw [Nat.mul_right_comm overflowBound]
    exact Nat.mul_lt_mul_right (Nat.two_pow_pos _)

end Double

end BodyScrub
