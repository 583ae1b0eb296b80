import BodyScrub.Proofs.Number.Rounding

/-!
# The shortest decimal reads back

`Double.shortest` tries the decimals of one digit, two digits and so on, and keeps the first that is read as the
double it stands for; if there were none, it would keep all digits. In every case the decimal reads back
(`ofDecimal_shortest`): the search tests what it finds, and all digits are exact.
-/

namespace BodyScrub

/-- Taking zeros off the end of the digits does not change what a decimal is read as. -/
theorem Decimal.ofDecimal_normalize (negative : Bool) (fuel : Nat) (d : Decimal) :
    Double.ofDecimal negative (d.normalize fuel) = Double.ofDecimal negative d := by
  induction fuel generalizing d with
  | zero => rfl
  | succ fuel ih =>
    unfold Decimal.normalize
    split
    · next h =>
      rw [Bool.and_eq_true, beq_iff_eq] at h
      -- a zero at the end of the digits moves into the exponent
      have hten : d.digits / 10 * 10 ^ 1 = d.digits := by omega
      have hscale := Double.ofDecimal_scale negative (d.digits / 10) 1 d.exponent
      rw [hten] at hscale
      rw [ih, hscale]
      rfl
    · rfl

namespace Double

/-- The test of the search is the equation that is wanted. -/
theorem ofDecimal_of_readsBack {x : Double} {d : Decimal} (h : readsBack x d = true) :
    ofDecimal x.isNegative d = x := by
  unfold readsBack at h
  exact eq_of_beq h

/-- A decimal that the search finds reads back, since it was tried. -/
theorem readsBack_of_roundedTo? {x : Double} {all count n : Nat} {d : Decimal}
    (h : roundedTo? x all count n = some d) : readsBack x d = true := by
  unfold roundedTo? at h
  dsimp only at h
  split at h
  -- both neighbours read back, and the nearer one is taken
  · next hbelow habove =>
    split at h
    · rw [← Option.some.inj h]; exact hbelow
    · rw [← Option.some.inj h]; exact habove
  · next hbelow _ => rw [← Option.some.inj h]; exact hbelow
  · next _ habove => rw [← Option.some.inj h]; exact habove
  · exact absurd h (by simp)

/-- What the search over all counts of digits finds reads back, as it only passes on what one of its tries found. -/
theorem readsBack_of_firstRounded? {x : Double} {all count tries n : Nat} {d : Decimal}
    (h : firstRounded? x all count tries n = some d) : readsBack x d = true := by
  induction tries generalizing n with
  | zero => cases h
  | succ tries ih =>
    unfold firstRounded? at h
    split at h
    -- this many digits were enough
    · next d' hd => exact readsBack_of_roundedTo? (hd.trans h)
    · exact ih h

/-- The search keeps what it tried, so only the decimal of all digits has to be known to read back. That the result
is the shortest one is not needed for reading. -/
theorem ofDecimal_shortestOf {x : Double} {all : Nat}
    (hall : ofDecimal x.isNegative ⟨all, -(unitExponent : Int)⟩ = x) (count tries : Nat) :
    ofDecimal x.isNegative (shortestOf x all count tries) = x := by
  unfold shortestOf
  split
  · next d hfound =>
    rw [Decimal.ofDecimal_normalize]
    exact ofDecimal_of_readsBack (readsBack_of_firstRounded? hfound)
  · exact hall

/-- The shortest decimal of a finite double is read as that double. Nothing is said of how short it is, which
reading back does not need. -/
theorem ofDecimal_shortest (s : Bool) (e : Fin 2047) (f : Fin 4503599627370496)
    (hx : (finite s e f).units ≠ 0) : ofDecimal s (shortest (finite s e f)) = finite s e f := by
  exact ofDecimal_shortestOf (x := finite s e f) (ofDecimal_allDigits s e f hx) _ _

/-- The shortest decimal of a double other than zero has digits. If it had none, it would be read as zero, and not
as this double. -/
theorem digits_shortest_ne_zero (s : Bool) (e : Fin 2047) (f : Fin 4503599627370496)
    (hx : (finite s e f).units ≠ 0) : (shortest (finite s e f)).digits ≠ 0 := by
  intro hzero
  -- a decimal without digits would be read as zero
  have hread := ofDecimal_shortest s e f hx
  unfold ofDecimal at hread
  rw [if_pos hzero] at hread
  have hnone : (finite s 0 0).units = 0 := by
    rw [units_finite, if_pos (show ((0 : Fin 2047) : Nat) = 0 from rfl)]
    exact Nat.zero_mul _
  exact hx (by rw [← hread, hnone])

end Double

end BodyScrub
