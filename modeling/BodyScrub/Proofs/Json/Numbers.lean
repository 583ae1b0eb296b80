import BodyScrub.Json.Writer
import BodyScrub.Proofs.Json.Spelling
import BodyScrub.Proofs.Number.Shortest

/-!
# Numbers as they are written

The text of an integer and the text of a double are numerals, and these are evaluated to the same integer and the
same double. For a double the four forms of `Decimal.text` are taken one by one: each moves zeros or the point, and
the decimal it spells is the shortest one up to zeros at the end.
-/

namespace BodyScrub.Json

/-! ## Integers -/

/-- The digits of a number have no zero in front, unless they are the one zero. The grammar of numbers refuses any
other leading zero, so written integers could not be read without this. -/
theorem isWhole_ofNat (n : Nat) : IsWhole (Text.ofNat n) := by
  by_cases hn : n = 0
  · rw [hn, Text.ofNat_zero]
    exact Or.inl rfl
  · obtain ⟨c, t, htext, hc⟩ := Text.ofNat_eq_cons hn
    exact Or.inr ⟨c, t, htext, hc, Text.allDigits_ofNat n⟩

/-- The numeral of an integer. -/
def Numeral.ofInt (i : Int) : Numeral :=
  ⟨i < 0, Text.ofNat i.natAbs, none, none, isWhole_ofNat _, fun _ h => absurd h (Option.not_mem_none _)⟩

theorem Numeral.text_ofInt (i : Int) : (Numeral.ofInt i).text = Text.ofInt i := by
  unfold Numeral.text Numeral.magnitudeText Text.ofInt
  simp [Numeral.ofInt, Numeral.fractionText, Numeral.exponentText]

/-- The numeral of an integer is read as the integer, if it has not too many digits. The writer has the same bound
as the reader. -/
theorem Numeral.eval_ofInt {i : Int} (h : (Text.ofNat i.natAbs).length ≤ maxIntegerDigits) :
    (Numeral.ofInt i).eval = some (.integer i) := by
  have hvalue : (if i < 0 then -(i.natAbs : Int) else i.natAbs) = i := by
    split <;> omega
  unfold Numeral.eval numberOf
  simp only [Numeral.ofInt, Option.map_none, if_pos h, Text.digitsNat_ofNat, decide_eq_true_eq, hvalue]
  rfl

/-! ## Decimals -/

/-- A numeral with a point or an exponent is a double, namely the one nearest to the decimal that it spells. -/
theorem Numeral.eval_real (n : Numeral) (h : n.fraction.isSome = true ∨ n.exponent.isSome = true) :
    n.eval = some (.real (Double.ofDecimal n.negative
      ⟨digitsNat (n.whole ++ n.fraction.getD []),
        (n.exponent.map Exponent.value).getD 0 - (n.fraction.getD []).length⟩)) := by
  obtain ⟨negative, whole, fraction, exponent, hw, hf⟩ := n
  cases fraction with
  | some ds => rfl
  | none =>
    cases exponent with
    | some e => rfl
    | none => exact absurd h (by simp)

/-- The exponent of a decimal, as it is written. -/
def Exponent.ofInt (e : Int) : Exponent where
  letter := 'e'
  sign := if e < 0 then .minus else .plus
  digits :=
    let size := Text.ofNat e.natAbs
    if size.length < 2 then ('0' : CodePoint) :: size else size
  letter_eq := Or.inl rfl
  digits_ne_nil := by
    dsimp only
    split
    · exact List.cons_ne_nil _ _
    · exact Text.ofNat_ne_nil _
  allDigits := by
    dsimp only
    split
    · exact (AllDigits.zeros 1).append (Text.allDigits_ofNat _)
    · exact Text.allDigits_ofNat _

theorem Exponent.text_ofInt (e : Int) : (Exponent.ofInt e).text = Decimal.exponentText e := by
  unfold Exponent.text Decimal.exponentText
  simp only [Exponent.ofInt]
  split <;> rfl

/-- The zero in front of a single digit does not change what the exponent comes to. It is written only so that an
exponent has two digits at least. -/
theorem Exponent.value_ofInt (e : Int) : (Exponent.ofInt e).value = e := by
  -- a zero that pads the digits counts for nothing
  have hdigits : digitsNat (Exponent.ofInt e).digits = e.natAbs := by
    simp only [Exponent.ofInt]
    split
    · have h := digitsNat_append [CodePoint.ofChar '0'] (Text.allDigits_ofNat e.natAbs)
      have hzero : digitsNat [CodePoint.ofChar '0'] = 0 := rfl
      rw [hzero, Nat.zero_mul, Nat.zero_add, Text.digitsNat_ofNat] at h
      exact h
    · exact Text.digitsNat_ofNat _
  unfold Exponent.value
  rw [hdigits]
  simp only [Exponent.ofInt]
  split
  · show -(e.natAbs : Int) = e
    omega
  · show (e.natAbs : Int) = e
    omega

section Forms

/-! The four forms of a decimal, for digits that do not begin with a zero. -/

variable (negative : Bool) {c : CodePoint} {cs : Text} (hc : c ≠ CodePoint.ofChar '0') (hall : AllDigits (c :: cs))

include hc hall

/-- One digit before the point, and an exponent. Without a second digit there is no point either. -/
theorem exists_numeral_scientific (e : Int) :
    ∃ n : Numeral, n.negative = negative ∧ n.magnitudeText = Decimal.mantissaText (c :: cs) ++ Decimal.exponentText e
      ∧ n.eval = some (.real (Double.ofDecimal negative ⟨digitsNat (c :: cs), e - cs.length⟩)) := by
  have hone : IsWhole [c] := Or.inr ⟨c, [], rfl, hc, AllDigits.of_append_left (b := cs) hall⟩
  have hrest : AllDigits cs := AllDigits.of_append_right (a := [c]) hall
  cases cs with
  | nil =>
    -- a single digit has no fraction
    refine ⟨⟨negative, [c], none, some (Exponent.ofInt e), hone, fun _ h => absurd h (Option.not_mem_none _)⟩, rfl, ?_,
      ?_⟩
    · unfold Numeral.magnitudeText
      rw [← Exponent.text_ofInt]
      rfl
    · rw [Numeral.eval_real _ (Or.inr rfl)]
      simp only [Option.map_some, Option.getD_some, Option.getD_none, Exponent.value_ofInt, List.append_nil]
  | cons d ds =>
    -- the other digits stand behind the point, which the exponent makes up for
    refine ⟨⟨negative, [c], some (d :: ds), some (Exponent.ofInt e), hone, ?_⟩, rfl, ?_, ?_⟩
    · intro t ht
      rw [← Option.some.inj ht]
      exact ⟨List.cons_ne_nil _ _, hrest⟩
    · unfold Numeral.magnitudeText
      rw [← Exponent.text_ofInt]
      rfl
    · rw [Numeral.eval_real _ (Or.inr rfl)]
      simp only [Option.map_some, Option.getD_some, Exponent.value_ofInt, List.singleton_append]

omit hc in
/-- A zero before the point, and zeros after it. Here the digits may begin with anything, as the whole part is a
zero of its own. -/
theorem exists_numeral_small (k : Nat) :
    ∃ n : Numeral, n.negative = negative
      ∧ n.magnitudeText = "0." ++ List.replicate k (CodePoint.ofChar '0') ++ (c :: cs)
      ∧ n.eval = some (.real (Double.ofDecimal negative
          ⟨digitsNat (c :: cs), -((k + (c :: cs).length : Nat) : Int)⟩)) := by
  have hbehind := (AllDigits.zeros k).append hall
  refine ⟨⟨negative, [CodePoint.ofChar '0'], some (List.replicate k (CodePoint.ofChar '0') ++ (c :: cs)), none,
    Or.inl rfl, ?_⟩, rfl, ?_, ?_⟩
  · intro t ht
    rw [← Option.some.inj ht]
    exact ⟨List.append_ne_nil_of_right_ne_nil _ (List.cons_ne_nil _ _), hbehind⟩
  · unfold Numeral.magnitudeText
    exact List.append_nil _
  · -- zeros in front of the digits count for nothing
    have hdigits : digitsNat ([CodePoint.ofChar '0'] ++ (List.replicate k (CodePoint.ofChar '0') ++ (c :: cs)))
        = digitsNat (c :: cs) := by
      show digitsNat (List.replicate (k + 1) (CodePoint.ofChar '0') ++ (c :: cs)) = _
      rw [digitsNat_append _ hall, digitsNat_zeros, Nat.zero_mul, Nat.zero_add]
    rw [Numeral.eval_real _ (Or.inl rfl)]
    simp only [Option.map_none, Option.getD_some, Option.getD_none, hdigits, List.length_append, List.length_replicate,
      Int.zero_sub]

/-- Zeros before the point, and one after it, which makes the number a double and not an integer. -/
theorem exists_numeral_large (k : Nat) :
    ∃ n : Numeral, n.negative = negative
      ∧ n.magnitudeText = (c :: cs) ++ List.replicate k (CodePoint.ofChar '0') ++ (".0" : Text)
      ∧ n.eval = some (.real (Double.ofDecimal negative ⟨digitsNat (c :: cs), k⟩)) := by
  have hwhole := hall.append (AllDigits.zeros k)
  refine ⟨⟨negative, (c :: cs) ++ List.replicate k (CodePoint.ofChar '0'), some [CodePoint.ofChar '0'], none,
    Or.inr ⟨c, _, rfl, hc, hwhole⟩, ?_⟩, rfl, ?_, ?_⟩
  · intro t ht
    rw [← Option.some.inj ht]
    exact ⟨List.cons_ne_nil _ _, AllDigits.zeros 1⟩
  · unfold Numeral.magnitudeText
    exact List.append_nil _
  · -- every zero multiplies the digits by ten, and the point in front of the last one takes that back
    have hdigits : digitsNat ((c :: cs) ++ List.replicate k (CodePoint.ofChar '0') ++ [CodePoint.ofChar '0'])
        = digitsNat (c :: cs) * 10 ^ (k + 1) := by
      rw [List.append_assoc, ← List.replicate_succ', digitsNat_append _ (AllDigits.zeros _), digitsNat_zeros,
        List.length_replicate, Nat.add_zero]
    have hscale := Double.ofDecimal_scale negative (digitsNat (c :: cs)) (k + 1) (-1)
    rw [Numeral.eval_real _ (Or.inl rfl)]
    simp only [Option.map_none, Option.getD_some, Option.getD_none, hdigits, List.length_singleton]
    rw [show (0 : Int) - (1 : Nat) = -1 from rfl, hscale, show (-1 : Int) + (k + 1 : Nat) = k from by omega]

/-- The point between two digits. The digits behind it lower the exponent by their number, so the decimal is the one
whose digits are written without the point. -/
theorem exists_numeral_middle {k : Nat} (hpos : 0 < k) (hlt : k < (c :: cs).length) :
    ∃ n : Numeral, n.negative = negative
      ∧ n.magnitudeText = (c :: cs).take k ++ CodePoint.ofChar '.' :: (c :: cs).drop k
      ∧ n.eval = some (.real (Double.ofDecimal negative
          ⟨digitsNat (c :: cs), -(((c :: cs).length - k : Nat) : Int)⟩)) := by
  obtain ⟨k, rfl⟩ : ∃ j, k = j + 1 := ⟨k - 1, by omega⟩
  have happ : (c :: cs).take (k + 1) ++ (c :: cs).drop (k + 1) = c :: cs := List.take_append_drop _ _
  have hsplit := hall
  rw [← happ] at hsplit
  refine ⟨⟨negative, (c :: cs).take (k + 1), some ((c :: cs).drop (k + 1)), none,
    Or.inr ⟨c, _, rfl, hc, hsplit.of_append_left⟩, ?_⟩, rfl, ?_, ?_⟩
  · intro t ht
    rw [← Option.some.inj ht]
    refine ⟨?_, hsplit.of_append_right⟩
    rw [Ne, List.drop_eq_nil_iff]
    omega
  · unfold Numeral.magnitudeText
    exact List.append_nil _
  · rw [Numeral.eval_real _ (Or.inl rfl)]
    simp only [Option.map_none, Option.getD_some, Option.getD_none, happ, List.length_drop, Int.zero_sub]

end Forms

/-- A decimal is written as a numeral that is read as the double nearest to it, in whichever of the four forms. -/
theorem exists_numeral_of_decimal (negative : Bool) {d : Decimal} (hd : d.digits ≠ 0) :
    ∃ n : Numeral, n.negative = negative ∧ n.magnitudeText = d.text
      ∧ n.eval = some (.real (Double.ofDecimal negative d)) := by
  obtain ⟨digits, exponent⟩ := d
  dsimp only at hd
  obtain ⟨c, cs, hcons, hc⟩ := Text.ofNat_eq_cons hd
  have hall := Text.allDigits_ofNat digits
  have hnat := Text.digitsNat_ofNat digits
  unfold Decimal.text
  dsimp only
  rw [hcons] at hall hnat ⊢
  have hlength : ((c :: cs).length : Int) = cs.length + 1 := by
    rw [List.length_cons]
    omega
  -- the forms stand in the order in which the writer tries them
  split
  · obtain ⟨n, hneg, htext, heval⟩ :=
      exists_numeral_scientific negative hc hall ((c :: cs).length + exponent - 1)
    rw [hnat, show ((c :: cs).length : Int) + exponent - 1 - cs.length = exponent from by omega] at heval
    exact ⟨n, hneg, htext, heval⟩
  · split
    -- a point in front of all digits
    · next hpoint =>
      obtain ⟨n, hneg, htext, heval⟩ :=
        exists_numeral_small negative hall (-((c :: cs).length + exponent)).toNat
      have hexp : -(((-((c :: cs).length + exponent)).toNat + (c :: cs).length : Nat) : Int) = exponent := by omega
      rw [hnat, hexp] at heval
      exact ⟨n, hneg, htext, heval⟩
    · split
      -- a point behind all digits
      · next hlen =>
        obtain ⟨n, hneg, htext, heval⟩ :=
          exists_numeral_large negative hc hall (((c :: cs).length + exponent).toNat - (c :: cs).length)
        have hexp : ((((c :: cs).length + exponent).toNat - (c :: cs).length : Nat) : Int) = exponent := by omega
        rw [hnat, hexp] at heval
        exact ⟨n, hneg, htext, heval⟩
      · next hlen =>
        obtain ⟨n, hneg, htext, heval⟩ :=
          exists_numeral_middle negative hc hall (k := ((c :: cs).length + exponent).toNat) (by omega) (by omega)
        have hexp : -(((c :: cs).length - ((c :: cs).length + exponent).toNat : Nat) : Int) = exponent := by omega
        rw [hnat, hexp] at heval
        exact ⟨n, hneg, htext, heval⟩

/-! ## Doubles -/

/-- A double without a magnitude is zero, of which there is one for each sign. Zero has no shortest digits and is
written in a form of its own. -/
theorem eq_zero_of_units {s : Bool} {e : Fin 2047} {f : Fin 4503599627370496}
    (h : (Double.finite s e f).units = 0) : Double.finite s e f = .finite s 0 0 := by
  rw [Double.units_finite] at h
  have hsig := (Nat.mul_eq_zero.1 h).resolve_right (Nat.two_pow_pos _).ne'
  split at hsig
  · next he =>
    congr 1
    · exact Fin.ext he
    · exact Fin.ext hsig
  · -- a normal double has its leading bit
    unfold Double.leadingBit at hsig
    omega

/-- The numeral of zero. -/
def Numeral.zero (negative : Bool) : Numeral where
  negative := negative
  whole := [CodePoint.ofChar '0']
  fraction := some [CodePoint.ofChar '0']
  exponent := none
  isWhole := Or.inl rfl
  isFraction := by
    intro t ht
    rw [← Option.some.inj ht]
    exact ⟨List.cons_ne_nil _ _, AllDigits.zeros 1⟩

/-- The magnitude of a finite double is a numeral of that double: the shortest decimal is nearest to no other one. -/
theorem exists_numeral_of_finite (s : Bool) (e : Fin 2047) (f : Fin 4503599627370496) :
    ∃ n : Numeral, n.negative = s ∧ n.magnitudeText = (Double.finite s e f).magnitudeText
      ∧ n.eval = some (.real (.finite s e f)) := by
  unfold Double.magnitudeText
  -- zero has a text of its own
  by_cases hx : (Double.finite s e f).units = 0
  · rw [if_pos hx]
    refine ⟨Numeral.zero s, rfl, rfl, ?_⟩
    rw [Numeral.eval_real _ (Or.inl rfl), eq_zero_of_units hx]
    rfl
  · rw [if_neg hx]
    have hread := exists_numeral_of_decimal s (Double.digits_shortest_ne_zero s e f hx)
    rw [Double.ofDecimal_shortest s e f hx] at hread
    exact hread

/-- A double is written as an atom of that double. The words for doubles that are not finite need to be allowed, by
the reader as by the writer. -/
theorem exists_atom_of_real {allowNonFinite : Bool} {x : Double} (h : (allowNonFinite || x.isFinite) = true) :
    ∃ a : Atom, a.text = x.text "Infinity" "NaN" ∧ a.eval allowNonFinite = some (.real x) := by
  cases x with
  | finite s e f =>
    obtain ⟨n, hneg, htext, heval⟩ := exists_numeral_of_finite s e f
    refine ⟨.number n, ?_, heval⟩
    show n.text = _
    unfold Numeral.text
    rw [hneg, htext]
    rfl
  | infinite s =>
    have hallow : allowNonFinite = true := by simpa [Double.isFinite] using h
    cases s with
    | false => exact ⟨.nonFinite "Infinity" (.infinite false) (by simp [nonFiniteWords]), rfl, if_pos hallow⟩
    | true => exact ⟨.nonFinite "-Infinity" (.infinite true) (by simp [nonFiniteWords]), rfl, if_pos hallow⟩
  | nan =>
    have hallow : allowNonFinite = true := by simpa [Double.isFinite] using h
    exact ⟨.nonFinite "NaN" .nan (by simp [nonFiniteWords]), rfl, if_pos hallow⟩

end BodyScrub.Json
