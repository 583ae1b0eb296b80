import BodyScrub.Proofs.Text.Classes
import BodyScrub.Proofs.Text.Parts
import BodyScrub.Text.Case

/-!
# Letter case and ASCII

Lower case writes an ASCII code point as one other, `A` to `Z` as `a` to `z`. Beyond ASCII it hardly ever leads back:
only the Kelvin sign is written as `k`, and the capital I with a dot as an `i` and a dot above. So an ending in ASCII
without a `k` was in ASCII before, up to the case of its letters, and a slash was a slash.

* **`EqIgnoringCase`**: texts that differ at most in the case of their letters `A` to `Z`.
* **`Lowers`**: what a text may be in lower case, code point by code point. A sigma has two lower cases, by what stands
  around it, so a part of a text need not be written as if it stood alone; but each part of it is `Lowers` to its part.
* **`lowers_lower`**: the lower case of a text is one of these.
* **`Lowers.exists_append_of_endsAscii`**, **`Lowers.exists_cut`**: what an ending and a slash in lower case come from.
-/

namespace BodyScrub

namespace CodePoint

variable {c d : CodePoint}

/-! ## The case of ASCII letters -/

/-- The lower case of a letter `A` to `Z` is 32 code points further on, and every other code point stays. -/
theorem val_asciiLower (c : CodePoint) :
    c.asciiLower.val = if 0x41 ≤ c.val ∧ c.val ≤ 0x5A then c.val + 32 else c.val := by
  unfold asciiLower
  simp only [Bool.and_eq_true, decide_eq_true_eq]
  split
  · exact val_ofNat (by omega)
  · rfl

/-- A code point that is no letter is the lower case of itself alone. -/
theorem asciiLower_eq_iff (hd : d.isAsciiLetter = false) : c.asciiLower = d ↔ c = d := by
  have hrange : ¬ (0x41 ≤ d.val ∧ d.val ≤ 0x5A) ∧ ¬ (0x61 ≤ d.val ∧ d.val ≤ 0x7A) := by
    simpa [isAsciiLetter] using hd
  have hval := val_asciiLower c
  constructor
  · rintro rfl
    exact val_injective (by split at hval <;> omega)
  · rintro rfl
    exact val_injective (by split at hval <;> omega)

/-- Lower case neither makes a blank nor takes one away, so it may change places with stripping. -/
theorem isBlank_asciiLower (c : CodePoint) : c.asciiLower.isBlank = c.isBlank := by
  have hval := val_asciiLower c
  split at hval
  · -- letters of neither case are blank
    rw [isBlank_eq_false (by omega) (by omega), isBlank_eq_false (by omega) (by omega)]
  · rw [val_injective hval]

theorem val_lt_of_asciiLower (h : c.asciiLower.val < 0x80) : c.val < 0x80 := by
  have hval := val_asciiLower c
  split at hval <;> omega

/-! ## Lower case in the table -/

/-- The first run of the table holds the letters `A` to `Z`, and no other run begins in ASCII. So an ASCII code
point needs to be looked up in the first one alone. -/
theorem le_first_of_mem_tail : ∀ r ∈ lowerRuns.tail, 0x80 ≤ r.first := by decide +kernel

/-- The other runs stay beyond ASCII, but for the Kelvin sign, which is a run of its own. -/
theorem shift_of_mem_tail : ∀ r ∈ lowerRuns.tail,
    0x80 ≤ (r.first : Int) + r.shift ∨ r.last = r.first ∧ (r.first : Int) + r.shift = 0x6B := by
  decide +kernel

/-- In ASCII lower case is that of `asciiLower`: neither the expansions nor the other runs have anything in ASCII.
The first run of the table is the one of the letters `A` to `Z`. -/
theorem lower_of_lt (hc : c.val < 0x80) : c.lower = [c.asciiLower] := by
  have hexpansion : lowerExpansions.find? (·.1 = c.val) = none := by
    refine List.find?_eq_none.2 fun e he => ?_
    obtain rfl := List.mem_singleton.1 he
    simp only [decide_eq_true_eq]
    omega
  -- no run but the first reaches down to `c`
  have htail : lowerRuns.tail.find? (·.covers c.val) = none := by
    refine List.find?_eq_none.2 fun r hr => ?_
    have hfirst := le_first_of_mem_tail r hr
    simp only [CaseRun.covers, Bool.and_eq_true, decide_eq_true_eq]
    omega
  have hhead : (⟨0x41, 0x5a, 1, 32⟩ : CaseRun).covers c.val = (decide (0x41 ≤ c.val) && decide (c.val ≤ 0x5A)) := by
    simp [CaseRun.covers, Nat.mod_one]
  have hruns : lowerRuns = ⟨0x41, 0x5a, 1, 32⟩ :: lowerRuns.tail := rfl
  rw [lower, mapCase, hexpansion, shiftCase, hruns, List.find?_cons, hhead, htail, asciiLower]
  cases hupper : decide (0x41 ≤ c.val) && decide (c.val ≤ 0x5A)
  · rfl
  · rfl

/-- A number beyond ASCII that is no code point is replaced by one that is beyond ASCII too. -/
theorem le_val_ofNat {n : Nat} (h : 0x80 ≤ n) : 0x80 ≤ (ofNat n).val := by
  unfold ofNat
  split
  · exact h
  · decide

/-- The lower case of a single code point beyond ASCII: the capital I with a dot gives two, and all others give one,
which is beyond ASCII unless it is the `k` of the Kelvin sign. -/
theorem lower_of_le (hc : 0x80 ≤ c.val) :
    c.lower = [('i' : CodePoint), ofNat 0x307] ∨ ∃ d, c.lower = [d] ∧ (0x80 ≤ d.val ∨ d = 'k') := by
  rw [lower, mapCase]
  split
  · next e ns hfind =>
    obtain ⟨rfl, rfl⟩ := Prod.mk.inj (List.mem_singleton.1 (List.mem_of_find?_eq_some hfind))
    exact Or.inl rfl
  · refine Or.inr ⟨_, rfl, ?_⟩
    unfold shiftCase
    split
    · next r hfind =>
      have hcovers := List.find?_some hfind
      simp only [CaseRun.covers, Bool.and_eq_true, decide_eq_true_eq] at hcovers
      rcases List.mem_cons.1 (List.mem_of_find?_eq_some hfind : r ∈ _ :: lowerRuns.tail) with rfl | htail
      · exact absurd hcovers.1.2 (by simp only; omega)
      · rcases shift_of_mem_tail r htail with hbeyond | ⟨hsingle, hkelvin⟩
        · exact Or.inl (le_val_ofNat (by omega))
        · have hk : ((c.val : Int) + r.shift).toNat = 0x6B := by omega
          rw [hk]
          exact Or.inr (by decide)
    · exact Or.inl hc

/-! ## One code point in lower case -/

/-- What a code point may be in lower case, wherever it stands. -/
inductive LowersTo (c : CodePoint) : Text → Prop
  | ascii (hc : c.val < 0x80) : LowersTo c [c.asciiLower]
  | beyond (hc : 0x80 ≤ c.val) {d : CodePoint} (hd : 0x80 ≤ d.val ∨ d = 'k') : LowersTo c [d]
  | dotted (hc : 0x80 ≤ c.val) : LowersTo c [('i' : CodePoint), ofNat 0x307]

/-- Where a text in lower case ends in one of these, it comes from an ASCII code point: all ASCII but `k`. -/
def endsAscii (d : CodePoint) : Bool := d.val < 0x80 && d ≠ 'k'

/-- The lower case of a code point that stands alone is one of those that it may have. -/
theorem lowersTo_lower (c : CodePoint) : c.LowersTo c.lower := by
  by_cases hc : c.val < 0x80
  · rw [lower_of_lt hc]
    exact .ascii hc
  · have hc : 0x80 ≤ c.val := by omega
    rcases lower_of_le hc with hdotted | ⟨d, hd, hbeyond⟩
    · rw [hdotted]
      exact .dotted hc
    · rw [hd]
      exact .beyond hc hbeyond

namespace LowersTo

variable {p : Text}

theorem ne_nil (h : c.LowersTo p) : p ≠ [] := by
  cases h <;> exact List.cons_ne_nil _ _

/-- An ASCII code point has one lower case only, wherever it stands. Only beyond ASCII does the lower case depend on
what stands around. -/
theorem eq_of_lt (h : c.LowersTo p) (hc : c.val < 0x80) : p = [c.asciiLower] := by
  cases h with
  | ascii _ => rfl
  | beyond hle _ => exact absurd hle (by omega)
  | dotted hle => exact absurd hle (by omega)

/-- A slash stands in lower case if and only if one stood in the text. No other code point gives one, in whatever
surroundings. -/
theorem slash_mem_iff (h : c.LowersTo p) : ('/' : CodePoint) ∈ p ↔ c = '/' := by
  by_cases hlt : c.val < 0x80
  · rw [h.eq_of_lt hlt, List.mem_singleton, eq_comm, asciiLower_eq_iff (by decide)]
  · have hc : c ≠ '/' := by
      rintro rfl
      exact hlt (by decide)
    refine iff_of_false (fun hmem => ?_) hc
    cases h with
    | ascii hascii => exact hlt hascii
    | beyond _ hd =>
      -- neither a code point beyond ASCII nor `k` is a slash
      obtain rfl := List.mem_singleton.1 hmem
      exact absurd hd (by decide)
    | dotted _ => exact absurd hmem (by decide)

/-- What a code point beyond ASCII gives does not end in ASCII, `k` apart. The `i` of a capital I with a dot is
followed by the dot. -/
theorem getLast?_of_le (h : c.LowersTo p) (hc : 0x80 ≤ c.val) : ∃ d, p.getLast? = some d ∧ d.endsAscii = false := by
  cases h with
  | ascii hlt => exact absurd hlt (by omega)
  | @beyond _ d hd =>
    refine ⟨d, rfl, ?_⟩
    rcases hd with hd | rfl
    · simp only [endsAscii, Bool.and_eq_false_iff, decide_eq_false_iff_not]
      exact Or.inl (by omega)
    · decide
  | dotted _ => exact ⟨ofNat 0x307, rfl, by decide⟩

/-- An ending in ASCII without `k` is either all that an ASCII code point gives, or nothing. The letter `k` is left
out because the Kelvin sign gives it as well. -/
theorem of_append {a s : Text} (h : c.LowersTo (a ++ s)) (hs : ∀ d ∈ s, d.endsAscii = true) :
    s = [] ∨ a = [] ∧ s = [c.asciiLower] := by
  by_cases hc : c.val < 0x80
  -- one code point is all of the text, so it belongs to one part
  · rcases List.append_eq_singleton_iff.1 (h.eq_of_lt hc) with hall | hnone
    · exact Or.inr hall
    · exact Or.inl hnone.2
  · obtain ⟨d, hlast, hd⟩ := h.getLast?_of_le (by omega)
    by_cases hnil : s = []
    · exact Or.inl hnil
    · rw [List.getLast?_append, List.getLast?_eq_some_getLast hnil] at hlast
      obtain rfl := Option.some.inj hlast
      exact absurd (hs _ (List.getLast_mem hnil)) (Bool.eq_false_iff.1 hd)

end LowersTo

end CodePoint

namespace Text

variable {t u : Text}

/-! ## Texts that differ in case -/

/-- Two texts that differ at most in the case of their letters `A` to `Z`. -/
def EqIgnoringCase (t u : Text) : Prop := t.map CodePoint.asciiLower = u.map CodePoint.asciiLower

instance (t u : Text) : Decidable (EqIgnoringCase t u) :=
  inferInstanceAs (Decidable (t.map CodePoint.asciiLower = u.map CodePoint.asciiLower))

namespace EqIgnoringCase

theorem symm (h : EqIgnoringCase t u) : EqIgnoringCase u t := Eq.symm h

theorem trans {v : Text} (h : EqIgnoringCase t u) (huv : EqIgnoringCase u v) : EqIgnoringCase t v := Eq.trans h huv

theorem eq_nil_iff (h : EqIgnoringCase t u) : t = [] ↔ u = [] := by
  have hlength := congrArg List.length h
  rw [List.length_map, List.length_map] at hlength
  rw [← List.length_eq_zero_iff, hlength, List.length_eq_zero_iff]

/-- A text that differs in case from two parts has two such parts itself, since its length is the same: the lower
case of ASCII letters is taken code point by code point. -/
theorem exists_append {a b : Text} (h : EqIgnoringCase t (a ++ b)) :
    ∃ l r, t = l ++ r ∧ EqIgnoringCase l a ∧ EqIgnoringCase r b := by
  unfold EqIgnoringCase at h
  rw [List.map_append] at h
  exact List.map_eq_append_iff.1 h

/-- A code point that is no letter stands in both, and what follows it differs in case only. The slash of a media
type and the plus sign of a suffix are such code points. -/
theorem exists_cons {c : CodePoint} (hc : c.isAsciiLetter = false) {b : Text} (h : EqIgnoringCase t (c :: b)) :
    ∃ r, t = c :: r ∧ EqIgnoringCase r b := by
  unfold EqIgnoringCase at h
  rw [List.map_cons, (CodePoint.asciiLower_eq_iff hc).2 rfl] at h
  obtain ⟨d, r, rfl, hd, hr⟩ := List.map_eq_cons_iff.1 h
  obtain rfl := (CodePoint.asciiLower_eq_iff hc).1 hd
  exact ⟨r, rfl, hr⟩

/-- A code point that is no letter occurs in both or in neither. -/
theorem mem_iff (h : EqIgnoringCase t u) {c : CodePoint} (hc : c.isAsciiLetter = false) : c ∈ t ↔ c ∈ u := by
  have hmap : ∀ v : Text, c ∈ v ↔ c ∈ v.map CodePoint.asciiLower := fun v => by
    simp [CodePoint.asciiLower_eq_iff hc]
  rw [hmap t, hmap u, h]

/-- A text that differs only in case from a text in ASCII is in ASCII. What is asked of the other text is about its
lower case, as this is what the two have in common. -/
theorem val_lt (h : EqIgnoringCase t u) (hu : ∀ d ∈ u, d.asciiLower.val < 0x80) : ∀ c ∈ t, c.val < 0x80 := by
  intro c hc
  have hmem : c.asciiLower ∈ u.map CodePoint.asciiLower := h ▸ List.mem_map_of_mem hc
  obtain ⟨d, hd, hcd⟩ := List.mem_map.1 hmem
  refine CodePoint.val_lt_of_asciiLower ?_
  rw [← hcd]
  exact hu d hd

end EqIgnoringCase

/-! ## Texts in lower case -/

/-- What a text may be in lower case, code point by code point. -/
inductive Lowers : Text → Text → Prop
  | nil : Lowers [] []
  | cons {c : CodePoint} {p t u : Text} (first : c.LowersTo p) (rest : Lowers t u) : Lowers (c :: t) (p ++ u)

/-- The lower case of the rest of a text, whatever stands before it. A sigma may be written in two ways, and both
are beyond ASCII. -/
theorem lowers_lowerFrom (before t : Text) : Lowers t (lowerFrom before t) := by
  induction t generalizing before with
  | nil => exact .nil
  | cons c t ih =>
    refine .cons ?_ (ih (c :: before))
    split
    · next hsigma =>
      -- both forms of a sigma are beyond ASCII
      refine .beyond (by omega) (Or.inl ?_)
      split <;> decide
    · exact c.lowersTo_lower

/-- The lower case of a text is one of those that it may have. What is shown of all of these is thus known of the
one that the gate looks at. -/
theorem lowers_lower (t : Text) : Lowers t t.lower := lowers_lowerFrom [] t

namespace Lowers

theorem single {c : CodePoint} {p : Text} (first : c.LowersTo p) : Lowers [c] p := by
  simpa using Lowers.cons first .nil

theorem eq_nil_iff (h : Lowers t u) : t = [] ↔ u = [] := by
  cases h with
  | nil => exact Iff.rfl
  | cons first _ =>
    refine iff_of_false (List.cons_ne_nil _ _) fun hnil => ?_
    exact first.ne_nil (List.append_eq_nil_iff.1 hnil).1

/-- A slash stands in lower case if and only if one stood in the text. -/
theorem slash_mem_iff (h : Lowers t u) : ('/' : CodePoint) ∈ u ↔ ('/' : CodePoint) ∈ t := by
  induction h with
  | nil => exact Iff.rfl
  | cons first _ ih => rw [List.mem_append, first.slash_mem_iff, ih, List.mem_cons, eq_comm]

/-- A text in ASCII has one lower case, code point by code point. -/
theorem eq_map_of_lt (h : Lowers t u) (ht : ∀ c ∈ t, c.val < 0x80) : u = t.map CodePoint.asciiLower := by
  induction h with
  | nil => rfl
  | cons first _ ih =>
    obtain ⟨hc, ht⟩ := List.forall_mem_cons.1 ht
    rw [first.eq_of_lt hc, ih ht]
    rfl

/-- The parts of a text are in lower case apart. This would not hold of `lower`, which looks at what stands around a
sigma. -/
theorem exists_append_left {l r : Text} (h : Lowers (l ++ r) u) : ∃ a b, u = a ++ b ∧ Lowers l a ∧ Lowers r b := by
  induction l generalizing u with
  | nil => exact ⟨[], u, rfl, .nil, h⟩
  | cons c l ih =>
    obtain _ | ⟨first, rest⟩ := h
    obtain ⟨a, b, rfl, ha, hb⟩ := ih rest
    exact ⟨_, b, (List.append_assoc _ _ _).symm, .cons first ha, hb⟩

/-- An ending in ASCII without `k` was in ASCII before. The induction is along the text, for all that may stand
before the ending, as the place where it begins is not known beforehand. -/
theorem exists_append_of_endsAscii {a s : Text} (h : Lowers t (a ++ s)) (hs : ∀ d ∈ s, d.endsAscii = true) :
    ∃ l r, t = l ++ r ∧ Lowers l a ∧ r.map CodePoint.asciiLower = s := by
  generalize hu : a ++ s = u at h
  -- along the text, for all that may stand before the ending
  induction h generalizing a s with
  | nil =>
    obtain ⟨rfl, rfl⟩ := List.append_eq_nil_iff.1 hu
    exact ⟨[], [], rfl, .nil, rfl⟩
  | @cons c p t u first rest ih =>
    rcases List.append_eq_append_iff.1 hu with ⟨x, rfl, rfl⟩ | ⟨x, rfl, rfl⟩
    · -- the ending begins in what `c` gives, or right behind it
      obtain ⟨l, r, rfl, hl, hr⟩ := ih (fun d hd => hs d (List.mem_append_right x hd)) (a := []) rfl
      obtain rfl := hl.eq_nil_iff.2 rfl
      rcases first.of_append fun d hd => hs d (List.mem_append_left u hd) with rfl | ⟨rfl, rfl⟩
      · rw [List.append_nil] at first
        exact ⟨[c], r, rfl, .single first, hr⟩
      · exact ⟨[], c :: r, rfl, .nil, congrArg (c.asciiLower :: ·) hr⟩
    · obtain ⟨l, r, rfl, hl, hr⟩ := ih hs rfl
      exact ⟨c :: l, r, rfl, .cons first hl, hr⟩

/-- A slash in lower case was a slash before, and the first one was the first one. So type and subtype may be cut
off before or after taking the lower case. -/
theorem exists_cut {a b : Text} (h : Lowers t (a ++ ('/' : CodePoint) :: b)) (ha : ('/' : CodePoint) ∉ a) :
    ∃ l r, t = l ++ ('/' : CodePoint) :: r ∧ ('/' : CodePoint) ∉ l ∧ Lowers l a ∧ Lowers r b := by
  have hmem : ('/' : CodePoint) ∈ t := h.slash_mem_iff.1 (List.mem_append_right a List.mem_cons_self)
  obtain ⟨l, r, rfl, hl⟩ := List.eq_append_cons_of_mem hmem
  obtain ⟨x, y, hu, hx, hy⟩ := h.exists_append_left
  obtain _ | ⟨first, rest⟩ := hy
  -- both slashes are the first in lower case
  rw [first.eq_of_lt (by decide)] at hu
  have hcut := cut?_append ha b
  rw [hu] at hcut
  obtain ⟨rfl, rfl⟩ := Prod.mk.inj (Option.some.inj ((cut?_append (mt hx.slash_mem_iff.1 hl) _).symm.trans hcut))
  exact ⟨l, r, rfl, hl, hx, rest⟩

end Lowers

end Text

end BodyScrub
