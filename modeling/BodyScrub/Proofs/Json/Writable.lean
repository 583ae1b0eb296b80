import BodyScrub.Proofs.Json.Contents
import BodyScrub.Proofs.Number.Overflow

/-!
# What is read can be written

An integer that is read has no more digits than are written. So a value that was read is refused by the writer only for
a double that is not finite, where such doubles are not allowed; and there it comes from a number that overflows, since
the words for such doubles were refused by the reader.

* **`Numeral.Overflows`**: the magnitude of a number, as it is spelled, is too large for a double.
* **`writeFault?_eq_none_iff`**: a value that was read is written exactly if its doubles are finite or need not be.
* **`allFinite_of_read`**: a body without a number that overflows has finite doubles only.
-/

namespace BodyScrub.Json

open Value (Everywhere)

/-! ## Numbers as they are spelled -/

namespace Numeral

/-- The magnitude of a number. -/
def decimal (n : Numeral) : Decimal :=
  ⟨digitsNat (n.whole ++ n.fraction.getD []), (n.exponent.map Exponent.value).getD 0 - (n.fraction.getD []).length⟩

/-- The magnitude of a number, as it is spelled, is too large for a double, and the number is not an integer. -/
def Overflows (n : Numeral) : Prop :=
  (n.fraction.isSome = true ∨ n.exponent.isSome = true) ∧ n.decimal.Overflows

/-- An integer that is read has no more digits than are allowed, and the magnitude that they spell. The bound is one
on digits in the text, and the writer has the same bound on the digits it writes. -/
theorem eval_integer {n : Numeral} {i : Int} (h : n.eval = some (.integer i)) :
    n.whole.length ≤ maxIntegerDigits ∧ i.natAbs = digitsNat n.whole := by
  have hnumber := eq_ok_of_toOption h
  unfold numberOf at hnumber
  split at hnumber
  · split at hnumber
    · next hlen =>
      obtain rfl := Value.integer.inj (Except.ok.inj hnumber)
      refine ⟨hlen, ?_⟩
      split <;> omega
    · cases hnumber
  · cases hnumber

/-- A number is read as a finite double exactly where it does not overflow. Nothing else makes a number infinite:
the words for that are no numerals. -/
theorem isFinite_iff_of_eval {n : Numeral} {x : Double} (h : n.eval = some (.real x)) :
    x.isFinite = true ↔ ¬n.Overflows := by
  have hpart : n.fraction.isSome = true ∨ n.exponent.isSome = true := by
    rcases hf : n.fraction with _ | f
    · rcases he : n.exponent with _ | e
      · -- a number without either is an integer
        unfold eval numberOf at h
        rw [hf, he] at h
        simp only [Option.map_none] at h
        split at h <;> cases h
      · exact Or.inr rfl
    · exact Or.inl rfl
  rw [eval_real n hpart] at h
  obtain rfl := Value.real.inj (Option.some.inj h)
  rw [Double.isFinite_ofDecimal_iff]
  exact not_congr (and_iff_right hpart).symm

/-- It takes an exponent, or more than 308 digits, to overflow. Bodies without either are told safe by their length. -/
theorem not_overflows_of_length_le {n : Numeral} (hexponent : n.exponent = none) (hlen : n.whole.length ≤ 308) :
    ¬n.Overflows := by
  rintro ⟨-, hbound⟩
  have hdigits : AllDigits (n.whole ++ n.fraction.getD []) := by
    refine n.isWhole.allDigits.append ?_
    cases hf : n.fraction with
    | none => exact fun c hc => absurd hc List.not_mem_nil
    | some ds => exact (n.isFraction ds hf).2
  have hlt := digitsNat_lt hdigits
  unfold Decimal.Overflows decimal at hbound
  rw [hexponent] at hbound
  generalize n.fraction.getD [] = ds at hlt hbound
  dsimp only [Option.map_none, Option.getD_none] at hbound
  rw [show (-((0 : Int) - ds.length)).toNat = ds.length from by omega,
    show ((0 : Int) - ds.length).toNat = 0 from by omega, Nat.pow_zero, Nat.mul_one] at hbound
  rw [List.length_append, Nat.pow_add] at hlt
  -- a power of ten with 308 zeros is below the bound
  have hsmall : 10 ^ n.whole.length < overflowBound :=
    (Nat.pow_le_pow_right (by decide) hlen).trans_lt (by decide +kernel)
  exact absurd (hbound.trans_lt hlt) (Nat.not_lt.2 (Nat.mul_le_mul_right _ hsmall.le))

end Numeral

/-- The numbers of a body satisfy `p`, as they are spelled. -/
def SpellsNumbers (p : Numeral → Prop) (body : Text) : Prop :=
  ∀ src : Source, src.text = body → ∀ n, .number n ∈ src.root.atoms → p n

/-- A short body without an exponent has no number that overflows, since its numbers are parts of it. -/
theorem spellsNumbers_of_length_le {body : Text} (hlen : body.length ≤ 308)
    (hexponent : ∀ c ∈ body, c ≠ 'e' ∧ c ≠ 'E') : SpellsNumbers (fun n => ¬n.Overflows) body := by
  rintro src rfl n hn
  have hspelled : n.text <:+: src.text := src.isInfix_of_mem_atoms hn
  have hmagnitude : n.magnitudeText <:+: n.text := by
    unfold Numeral.text
    split
    · exact (List.suffix_cons _ _).isInfix
    · exact List.infix_rfl
  refine Numeral.not_overflows_of_length_le ?_ ?_
  -- the letter of an exponent would stand in the body
  · cases he : n.exponent with
    | none => rfl
    | some e =>
      have hmem : e.letter ∈ n.magnitudeText := by
        unfold Numeral.magnitudeText
        rw [he]
        exact List.mem_append_right _ List.mem_cons_self
      have hletter := hexponent e.letter (hspelled.subset (hmagnitude.subset hmem))
      exact absurd e.letter_eq (not_or.2 hletter)
  · have hle := (hmagnitude.trans hspelled).length_le
    unfold Numeral.magnitudeText at hle
    rw [List.length_append, List.length_append] at hle
    omega

/-! ## Numbers in values -/

/-- An integer has no more digits than are read and written. -/
def Value.FitsDigits (v : Value) : Prop := ∀ i, v = .integer i → (Text.ofNat i.natAbs).length ≤ maxIntegerDigits

/-- A double is a finite number. -/
def Value.FitsDouble (v : Value) : Prop := ∀ x, v = .real x → x.isFinite = true

/-- All doubles in a value are finite. -/
def Value.AllFinite (v : Value) : Prop := v.Everywhere (fun _ => True) Value.FitsDouble

/-- The integers of what is read have no more digits than are written. A zero in front would count as a digit, but
is not read. -/
theorem fitsDigits_of_read {allowNonFinite : Bool} {body : Text} {v : Value} (h : read allowNonFinite body = .ok v) :
    v.Everywhere (fun _ => True) Value.FitsDigits := by
  obtain ⟨src, -, heval⟩ := read_eq_ok_iff.1 h
  refine src.root.everywhere_of_eval heval (fun _ _ => trivial) ?_
  rintro a - w hw i rfl
  -- a word is no integer, so a numeral spells it
  rcases Atom.exists_of_eval_number hw rfl with ⟨-, x, hx⟩ | ⟨n, rfl, hn⟩
  · cases hx
  · obtain ⟨hlen, habs⟩ := n.eval_integer hn
    rw [Text.length_ofNat_le_iff (by decide), habs]
    exact (digitsNat_lt n.isWhole.allDigits).trans_le (Nat.pow_le_pow_right (by decide) hlen)

/-- A body without a number that overflows has finite doubles only, if their words are refused. Whether it can be
written again is told from its text this way, before it is read. -/
theorem allFinite_of_read {body : Text} {v : Value} (hnumbers : SpellsNumbers (fun n => ¬n.Overflows) body)
    (h : read false body = .ok v) : v.AllFinite := by
  obtain ⟨src, htext, heval⟩ := read_eq_ok_iff.1 h
  refine src.root.everywhere_of_eval heval (fun _ _ => trivial) ?_
  rintro a ha w hw x rfl
  rcases Atom.exists_of_eval_number hw rfl with ⟨hallow, -⟩ | ⟨n, rfl, hn⟩
  · cases hallow
  · exact (n.isFinite_iff_of_eval hn).2 (hnumbers src htext n ha)

/-! ## What the writer refuses -/

section Faults

variable {okName : Text → Prop} {allowNonFinite : Bool} {v : Value}

/-- Where no integer has too many digits, only doubles that are not finite are refused. -/
theorem eq_nonFinite_of_writeFault? (h : v.Everywhere okName Value.FitsDigits) {f : WriteFault}
    (hf : v.writeFault? allowNonFinite = some f) : f = .nonFinite := by
  induction h with
  | @scalar v hscalar ok =>
    cases v with
    | integer i =>
      -- this integer has few enough digits
      rw [Value.writeFault?, if_pos (ok i rfl)] at hf
      cases hf
    | real x =>
      rw [Value.writeFault?] at hf
      split at hf
      · cases hf
      · exact (Option.some.inj hf).symm
    | array items => cases hscalar
    | object members => cases hscalar
    | _ => cases hf
  | array _ ih =>
    rw [Value.writeFault?, itemsFault?_eq_findSome?] at hf
    obtain ⟨v, hv, hfv⟩ := List.exists_of_findSome?_eq_some hf
    exact ih v hv hfv
  | object _ _ ih =>
    rw [Value.writeFault?, membersFault?_eq_findSome?] at hf
    obtain ⟨m, hm, hfm⟩ := List.exists_of_findSome?_eq_some hf
    exact ih m hm hfm

/-- A double is written if it is finite or need not be. It is the one kind of scalar of which the settings decide. -/
theorem writeFault?_real_eq_none_iff {x : Double} :
    (Value.real x).writeFault? allowNonFinite = none ↔ allowNonFinite = true ∨ Value.FitsDouble (.real x) := by
  have hfits : Value.FitsDouble (.real x) ↔ x.isFinite = true :=
    ⟨fun h => h x rfl, fun h y hy => Value.real.inj hy ▸ h⟩
  rw [Value.writeFault?, hfits]
  split
  · next h => exact iff_of_true rfl (Bool.or_eq_true_iff.1 h)
  · next h => exact iff_of_false (by simp) fun hor => h (Bool.or_eq_true_iff.2 hor)

/-- Where no integer has too many digits, a value is written exactly if its doubles are finite or need not be. The
induction is over the value, with the first fault of a container being that of its first item or member with one. -/
theorem writeFault?_eq_none_iff (h : v.Everywhere okName Value.FitsDigits) :
    v.writeFault? allowNonFinite = none ↔ allowNonFinite = true ∨ v.Everywhere okName Value.FitsDouble := by
  induction h with
  | @scalar v hscalar ok =>
    have heverywhere : v.Everywhere okName Value.FitsDouble ↔ v.FitsDouble :=
      ⟨fun h => h.of_isScalar hscalar, .scalar hscalar⟩
    rw [heverywhere]
    cases v with
    | real x => exact writeFault?_real_eq_none_iff
    | integer i =>
      rw [Value.writeFault?, if_pos (ok i rfl)]
      exact iff_of_true rfl (Or.inr fun x hx => by cases hx)
    | array items => cases hscalar
    | object members => cases hscalar
    | _ => exact iff_of_true rfl (Or.inr fun x hx => by cases hx)
  | array _ ih =>
    -- the array is written exactly if all items are
    rw [Value.writeFault?, itemsFault?_eq_findSome?, List.findSome?_eq_none_iff]
    constructor
    · intro hnone
      refine or_iff_not_imp_left.2 fun hallow => .array fun v hv => ?_
      exact ((ih v hv).1 (hnone v hv)).resolve_left hallow
    · intro h v hv
      exact (ih v hv).2 (h.imp_right fun hall => hall.of_mem_items hv)
  | object names _ ih =>
    rw [Value.writeFault?, membersFault?_eq_findSome?, List.findSome?_eq_none_iff]
    constructor
    · intro hnone
      refine or_iff_not_imp_left.2 fun hallow => .object names fun m hm => ?_
      exact ((ih m hm).1 (hnone m hm)).resolve_left hallow
    · intro h m hm
      exact (ih m hm).2 (h.imp_right fun hall => hall.of_mem_members hm)

end Faults

end BodyScrub.Json
