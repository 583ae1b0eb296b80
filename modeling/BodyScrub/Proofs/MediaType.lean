import BodyScrub.MediaType
import BodyScrub.Proofs.Text.Case

/-!
# What counts as JSON

A media type is compared in lower case of all scripts, but what counts is told in ASCII. A body is JSON by the name that
its media type begins with, up to the first semicolon and without the blanks around it: the name is `application/json`,
or it has a type, a slash, and a subtype that goes on to end in `+json`, in letters `A` to `Z` and `a` to `z`. No other
code point ever stands for one of these letters (`isJson_iff_namesJson`).

* **`NamesJson`**: the names, told on the text as it stands.
* **`namesJson_of_lowers`**, **`exists_pair_of_namesJson`**: they are those whose lower case is cut into a type and a
  subtype that mean JSON.
* **`NamesJson.congr`**: the case of ASCII letters does not matter.
* **`NamesJson.of_beyond`**: what is not ASCII stands before the suffix.
-/

namespace BodyScrub.MediaType

open Text (EqIgnoringCase Lowers)

variable {t u type subtype mediaType : Text}

/-! ## Names -/

/-- A media type up to its first semicolon, where its parameters begin. -/
def front (mediaType : Text) : Text := mediaType.takeWhile (· ≠ CodePoint.ofChar ';')

/-- A media type without its parameters and without blanks around it. -/
def name (mediaType : Text) : Text := (front mediaType).strip

/-- The names that mean JSON: `application/json`, or a type, a slash, and a subtype with something before the suffix
`+json`. The type is all that stands before the first slash. -/
def NamesJson (name : Text) : Prop :=
  EqIgnoringCase name "application/json"
    ∨ ∃ type subtype suffix : Text, name = type ++ ('/' : CodePoint) :: (subtype ++ suffix)
      ∧ type ≠ [] ∧ ('/' : CodePoint) ∉ type ∧ subtype ≠ [] ∧ EqIgnoringCase suffix "+json"

/-- What the gate looks at is the lower case of the name. The parameters and the blanks are gone before letters are
changed. -/
theorem essence_eq (mediaType : Text) : essence mediaType = (name mediaType).lower := rfl

theorem ne_semicolon_of_mem_front {c : CodePoint} (h : c ∈ front mediaType) : c ≠ ';' := by
  have hne := List.mem_takeWhile_imp (show c ∈ mediaType.takeWhile (· ≠ CodePoint.ofChar ';') from h)
  exact of_decide_eq_true hne

theorem front_eq_self (h : ∀ c ∈ mediaType, c ≠ ';') : front mediaType = mediaType :=
  List.takeWhile_eq_self_iff.2 fun c hc => decide_eq_true (h c hc)

/-- Blanks around what stands before the parameters do not change the name. A semicolon is no blank, so the front
stays what it is. -/
theorem name_append_blanks {before after : Text} (hbefore : ∀ c ∈ before, c.isBlank = true)
    (hafter : ∀ c ∈ after, c.isBlank = true) (mediaType : Text) :
    name (before ++ front mediaType ++ after) = name mediaType := by
  have hblank : ∀ c : CodePoint, c.isBlank = true → c ≠ ';' := by
    rintro c hc rfl
    exact absurd hc (by decide)
  have hfront : front (before ++ front mediaType ++ after) = before ++ front mediaType ++ after := by
    refine front_eq_self fun c hc => ?_
    rw [List.mem_append, List.mem_append] at hc
    rcases hc with (hc | hc) | hc
    · exact hblank c (hbefore c hc)
    · exact ne_semicolon_of_mem_front hc
    · exact hblank c (hafter c hc)
  unfold name
  rw [hfront, Text.strip_append_blanks hbefore hafter]

theorem name_front (mediaType : Text) : name (front mediaType) = name mediaType := by
  unfold name
  rw [front_eq_self fun c hc => ne_semicolon_of_mem_front hc]

/-- A name is its own name, as it has neither parameters nor blanks around it. The gate may be told on names alone
for this reason. -/
theorem name_name (mediaType : Text) : name (name mediaType) = name mediaType := by
  have hfront : front (name mediaType) = name mediaType :=
    front_eq_self fun c hc => ne_semicolon_of_mem_front (Text.mem_of_mem_strip hc)
  calc name (name mediaType) = (name mediaType).strip := congrArg Text.strip hfront
    _ = name mediaType := Text.strip_strip (front mediaType)

/-- Media types that differ in the case of ASCII letters have names that do. Neither semicolons nor blanks are
letters. -/
theorem name_congr (h : EqIgnoringCase t u) : EqIgnoringCase (name t) (name u) := by
  have hsemicolon : (fun c => decide (c ≠ CodePoint.ofChar ';')) ∘ CodePoint.asciiLower
      = fun c => decide (c ≠ CodePoint.ofChar ';') := by
    funext c
    simp [CodePoint.asciiLower_eq_iff (show (CodePoint.ofChar ';').isAsciiLetter = false by decide)]
  -- the semicolon and the blanks are where they were, so cutting and folding can be done in either order
  have hname : ∀ v : Text, (name v).map CodePoint.asciiLower = name (v.map CodePoint.asciiLower) := by
    intro v
    unfold name front
    rw [List.takeWhile_map, hsemicolon, Text.strip_map CodePoint.isBlank_asciiLower]
  unfold EqIgnoringCase at h ⊢
  rw [hname, hname, h]

/-! ## Pairs of a type and a subtype -/

/-- A subtype is something and a suffix if it is longer than the suffix that it ends in. The gate compares lengths,
and `+json` by itself is not enough for it. -/
theorem suffix_iff_exists {suffix : Text} : suffix.length < subtype.length ∧ suffix <:+ subtype
    ↔ ∃ s : Text, s ≠ [] ∧ subtype = s ++ suffix := by
  -- both directions take the suffix off and put it back
  constructor
  · rintro ⟨hlength, s, rfl⟩
    refine ⟨s, ?_, rfl⟩
    rintro rfl
    exact absurd hlength (Nat.lt_irrefl _)
  · rintro ⟨s, hs, rfl⟩
    refine ⟨?_, List.suffix_append s suffix⟩
    rw [List.length_append]
    exact Nat.lt_add_of_pos_left (List.length_pos_iff.2 hs)

/-- The pairs that mean JSON, with the suffix taken off: `json` of an application, or something before `+json`. Of
the second kind the type may be any. -/
theorem isJsonPair_iff : isJsonPair type subtype = true ↔
    type ≠ [] ∧ (type = "application" ∧ subtype = "json" ∨ ∃ s : Text, s ≠ [] ∧ subtype = s ++ jsonSuffix) := by
  rw [← suffix_iff_exists]
  simp [isJsonPair]

/-- The gate lets a media type through if the lower case of its name is cut into such a pair. The cut is at the
first slash, so the type has none and the subtype may have more. -/
theorem isJson_iff_exists_pair : isJson (some mediaType) = true ↔
    ∃ type subtype, essence mediaType = type ++ ('/' : CodePoint) :: subtype ∧ ('/' : CodePoint) ∉ type
      ∧ isJsonPair type subtype = true := by
  simp only [isJson]
  constructor
  · intro h
    cases hcut : Text.cut? '/' (essence mediaType) with
    | none =>
      -- without a slash there is no pair
      rw [hcut] at h
      cases h
    | some parts =>
      rw [hcut] at h
      obtain ⟨heq, hfree⟩ := Text.cut?_eq_some_iff.1 hcut
      exact ⟨parts.1, parts.2, heq, hfree, h⟩
  · rintro ⟨type, subtype, heq, hfree, hpair⟩
    rw [Text.cut?_eq_some_iff.2 ⟨heq, hfree⟩]
    exact hpair

/-! ## Names and their lower case -/

/-- A name whose lower case is a pair that means JSON was such a name before. Letters of other scripts may become
ASCII in lower case, but none of them becomes one of these endings. -/
theorem namesJson_of_lowers (h : Lowers t (type ++ ('/' : CodePoint) :: subtype)) (hfree : ('/' : CodePoint) ∉ type)
    (hpair : isJsonPair type subtype = true) : NamesJson t := by
  obtain ⟨htype, ⟨rfl, rfl⟩ | ⟨s, hs, rfl⟩⟩ := isJsonPair_iff.1 hpair
  · -- all of the name is an ending
    obtain ⟨l, r, rfl, hl, hr⟩ := Lowers.exists_append_of_endsAscii (a := []) h (by decide)
    obtain rfl := hl.eq_nil_iff.2 rfl
    exact Or.inl hr
  · -- the suffix is an ending of the name, the slash stands before it
    have h : Lowers t (type ++ ('/' : CodePoint) :: s ++ jsonSuffix) := by
      rwa [List.append_assoc]
    obtain ⟨l, r, rfl, hlr, hr⟩ := h.exists_append_of_endsAscii (by decide)
    obtain ⟨l, m, rfl, hl, hltype, hms⟩ := hlr.exists_cut hfree
    refine Or.inr ⟨l, m, r, ?_, mt hltype.eq_nil_iff.1 htype, hl, mt hms.eq_nil_iff.1 hs, hr⟩
    rw [List.append_assoc, List.cons_append]

/-- The lower case of a name that means JSON is a pair that does. It is the direction from what is read in the text
to what the gate compares. -/
theorem exists_pair_of_namesJson (h : Lowers t u) (hname : NamesJson t) :
    ∃ type subtype, u = type ++ ('/' : CodePoint) :: subtype ∧ ('/' : CodePoint) ∉ type
      ∧ isJsonPair type subtype = true := by
  -- the one name is in ASCII as a whole, of the others the slash and the suffix are
  rcases hname with hjson | ⟨type, subtype, suffix, rfl, htype, hfree, hsubtype, hsuffix⟩
  · refine ⟨("application" : String), ("json" : String), ?_, by decide, by decide⟩
    rw [h.eq_map_of_lt (hjson.val_lt (by decide)), hjson]
    decide
  · obtain ⟨a, b, rfl, ha, hb⟩ := h.exists_append_left
    obtain _ | ⟨first, rest⟩ := hb
    obtain ⟨s, e, rfl, hs, he⟩ := rest.exists_append_left
    have hjson : e = jsonSuffix := by
      rw [he.eq_map_of_lt (hsuffix.val_lt (by decide)), hsuffix]
      decide
    have hpair : isJsonPair a (s ++ e) = true :=
      isJsonPair_iff.2 ⟨mt ha.eq_nil_iff.2 htype, Or.inr ⟨s, mt hs.eq_nil_iff.2 hsubtype, by rw [hjson]⟩⟩
    rw [first.eq_of_lt (by decide)]
    exact ⟨a, s ++ e, rfl, mt ha.slash_mem_iff.1 hfree, hpair⟩

/-- The gate in one line: it lets through what is named JSON as it stands. Lower case does not occur on the right
any more. -/
theorem isJson_iff : isJson (some mediaType) = true ↔ NamesJson (name mediaType) := by
  have hlowers := Text.lowers_lower (name mediaType)
  rw [← essence_eq] at hlowers
  rw [isJson_iff_exists_pair]
  constructor
  · rintro ⟨type, subtype, heq, hfree, hpair⟩
    exact namesJson_of_lowers (heq ▸ hlowers) hfree hpair
  · exact exists_pair_of_namesJson hlowers

/-- The dotted capital I does not stand for an `i`. -/
example : isJson (some ("appl\u0130cation/json" : Text)) = false := by decide +kernel

namespace NamesJson

theorem congr (h : EqIgnoringCase t u) (hu : NamesJson u) : NamesJson t := by
  rcases hu with hjson | ⟨type, subtype, suffix, rfl, htype, hfree, hsubtype, hsuffix⟩
  -- the one name is compared in this way already
  · exact Or.inl (h.trans hjson)
  · obtain ⟨l, r, rfl, hl, hr⟩ := h.exists_append
    obtain ⟨r, rfl, hrest⟩ := hr.exists_cons (by decide)
    obtain ⟨s, e, rfl, hs, he⟩ := hrest.exists_append
    exact Or.inr ⟨l, s, e, rfl, mt hl.eq_nil_iff.1 htype, mt (hl.mem_iff (by decide)).1 hfree,
      mt hs.eq_nil_iff.1 hsubtype, he.trans hsuffix⟩

/-- A code point beyond ASCII stands in the type or in the subtype, before the suffix. It never makes one of the
letters that the gate asks for, the `k` of the Kelvin sign not being among them. -/
theorem of_beyond {before after : Text} {c : CodePoint} (h : NamesJson (before ++ c :: after)) (hc : 0x80 ≤ c.val) :
    ¬ EqIgnoringCase (before ++ c :: after) "application/json"
      ∧ ∃ rest suffix : Text, after = rest ++ suffix ∧ EqIgnoringCase suffix "+json" := by
  have hmem : c ∈ before ++ c :: after := List.mem_append_right before List.mem_cons_self
  have hno : ¬ EqIgnoringCase (before ++ c :: after) "application/json" := fun hjson => by
    have hlt := hjson.val_lt (by decide) c hmem
    omega
  obtain ⟨type, subtype, suffix, heq, -, -, -, hsuffix⟩ := h.resolve_left hno
  have hascii := hsuffix.val_lt (by decide)
  refine ⟨hno, ?_⟩
  rw [← List.cons_append, ← List.append_assoc] at heq
  rcases List.append_eq_append_iff.1 heq with ⟨x, hx, hcx⟩ | ⟨x, hx, hsx⟩
  · rcases List.cons_eq_append_iff.1 hcx with ⟨rfl, hall⟩ | ⟨rest, rfl, hrest⟩
    · -- the suffix would begin with `c`
      have hlt := hascii c (hall ▸ List.mem_cons_self)
      omega
    · exact ⟨rest, suffix, hrest, hsuffix⟩
  · -- the suffix would hold `c`
    have hlt := hascii c (hsx ▸ List.mem_append_right x List.mem_cons_self)
    omega

end NamesJson

/-! ## The gate -/

/-- Media types whose names mean JSON alike are let through alike. -/
theorem isJson_congr {other : Text} (h : NamesJson (name other) ↔ NamesJson (name mediaType)) :
    isJson (some other) = isJson (some mediaType) := by
  rw [Bool.eq_iff_iff, isJson_iff, isJson_iff, h]

/-- A body is JSON by the name of its media type alone. Parameters, blanks around the name and the case of ASCII letters
do not matter. A code point beyond ASCII is never taken for a letter of `application/json` or of the suffix, not even if
its lower case is in ASCII. -/
theorem isJson_iff_namesJson (mediaType : Text) :
    (isJson (some mediaType) = true ↔ NamesJson (name mediaType))
      ∧ isJson (some (front mediaType)) = isJson (some mediaType)
      ∧ isJson (some (name mediaType)) = isJson (some mediaType)
      ∧ (∀ before after : Text, (∀ c ∈ before, c.isBlank = true) → (∀ c ∈ after, c.isBlank = true) →
        isJson (some (before ++ front mediaType ++ after)) = isJson (some mediaType))
      ∧ (∀ other, EqIgnoringCase other mediaType → isJson (some other) = isJson (some mediaType))
      ∧ ∀ (before after : Text) (c : CodePoint), name mediaType = before ++ c :: after → 0x80 ≤ c.val →
        isJson (some mediaType) = true → ¬ EqIgnoringCase (name mediaType) "application/json"
          ∧ ∃ rest suffix : Text, after = rest ++ suffix ∧ EqIgnoringCase suffix "+json" := by
  refine ⟨isJson_iff, isJson_congr (by rw [name_front]), isJson_congr (by rw [name_name]), ?blanks, ?letters, ?beyond⟩
  case blanks =>
    intro before after hbefore hafter
    exact isJson_congr (by rw [name_append_blanks hbefore hafter])
  case letters =>
    intro other hother
    exact isJson_congr ⟨NamesJson.congr (name_congr hother.symm), NamesJson.congr (name_congr hother)⟩
  case beyond =>
    intro before after c hname hc hjson
    rw [isJson_iff, hname] at hjson
    rw [hname]
    exact hjson.of_beyond hc

/-- Blanks, a parameter, capital letters, and a Kelvin sign in the subtype. -/
theorem isJson_iff_namesJson_kelvin :
    let mediaType : Text := "\tText/\u212A+JSON ;v=1"
    let other : Text := "\ttEXT/\u212A+json ;V=1"
    let before : Text := "\u00A0"
    let after : Text := "\n"
    (∀ c ∈ before, c.isBlank = true) ∧ (∀ c ∈ after, c.isBlank = true) ∧ EqIgnoringCase other mediaType
      ∧ name mediaType = ("Text/" : Text) ++ CodePoint.ofNat 0x212A :: ("+JSON" : Text)
      ∧ isJson (some mediaType) = true
      ∧ isJson (some (before ++ front mediaType ++ after)) = true
      ∧ isJson (some other) = true
      ∧ ¬ EqIgnoringCase (name mediaType) "application/json" := by
  intro mediaType other before after
  have hbefore : ∀ c ∈ before, c.isBlank = true := by decide
  have hafter : ∀ c ∈ after, c.isBlank = true := by decide
  have hother : EqIgnoringCase other mediaType := by decide
  have hname : name mediaType = ("Text/" : Text) ++ CodePoint.ofNat 0x212A :: ("+JSON" : Text) := by decide
  have hnames : NamesJson (name mediaType) :=
    Or.inr ⟨("Text" : String), [CodePoint.ofNat 0x212A], ("+JSON" : String), hname, by decide, by decide, by decide,
      by decide⟩
  obtain ⟨hiff, -, -, hblanks, hletters, hbeyond⟩ := isJson_iff_namesJson mediaType
  have hjson := hiff.2 hnames
  exact ⟨hbefore, hafter, hother, hname, hjson, (hblanks before after hbefore hafter).trans hjson,
    (hletters other hother).trans hjson, (hbeyond _ _ _ hname (by decide) hjson).1⟩

end BodyScrub.MediaType
