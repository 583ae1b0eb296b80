import BodyScrub.Proofs.Number.Digits
import Mathlib.Data.List.TakeWhile

/-!
# Spellings

The syntax trees of JSON: every token of a text with the blanks around it. A tree holds the proofs that its pieces
are well formed, so that every tree has a text, and what is not JSON has no tree. A tree is evaluated the way a
document is read: a repeated name keeps its first place and takes the last value, and only so many levels of
containers are allowed.

* **`Spelling.text`**: the text of a tree.
* **`Spelling.eval`**: its value, if it is not refused.
* **`Source`**: a tree with the blanks around it, the spelling of a whole body.
* **`IsStrict`**, **`SpellsNames`**: what a body is, and how its names are spelled, by its trees.
-/

namespace BodyScrub.Json

/-! ## Blanks -/

/-- A run of blanks, maybe of none. -/
structure Blanks where
  text : Text
  spaces : ∀ c ∈ text, isSpace c = true

namespace Blanks

/-- No blanks. -/
def empty : Blanks := ⟨[], fun _ h => absurd h List.not_mem_nil⟩

/-- The blanks at the head of a text. -/
def leading (t : Text) : Blanks :=
  ⟨t.takeWhile isSpace, fun _ h => List.mem_takeWhile_imp h⟩

/-- The blanks at the head of a text and what is left without them are the text. A spelling that keeps blanks is
found from a reader that skips them by this equation. -/
theorem leading_append (t : Text) : (leading t).text ++ skipSpace t = t :=
  List.takeWhile_append_dropWhile

/-- Blanks in front of a text are skipped with those that the text begins with. It is the other direction, from a
spelling with blanks to what the reader sees. -/
theorem skipSpace_append (b : Blanks) (t : Text) : skipSpace (b.text ++ t) = skipSpace t := by
  obtain ⟨text, spaces⟩ := b
  unfold skipSpace
  exact List.dropWhile_append_of_pos spaces

end Blanks

/-! ## Strings -/

/-- One piece of a string between its quotes. -/
inductive Glyph where
  /-- A code point that stands for itself. -/
  | plain (c : CodePoint) (h : c ≠ CodePoint.quote ∧ c ≠ CodePoint.backslash ∧ 0x20 ≤ c.val)
  /-- An escape of one letter. -/
  | letter (e d : CodePoint) (h : simpleEscape? e = some d)
  /-- An escape of four hexadecimal digits. -/
  | number (h₁ h₂ h₃ h₄ : CodePoint) (n : Nat) (h : hex4? h₁ h₂ h₃ h₄ = some n)

namespace Glyph

/-- The text of a piece. -/
def text : Glyph → Text
  | plain c _ => [c]
  | letter e _ _ => [CodePoint.backslash, e]
  | number h₁ h₂ h₃ h₄ _ _ => [CodePoint.backslash, 'u', h₁, h₂, h₃, h₄]

/-- The text of pieces in a row. -/
def textOf (gs : List Glyph) : Text := gs.flatMap text

/-- The string that pieces spell after `done`, which is kept backwards; `afterHigh` tells whether the last of it
was the escape of a high surrogate. -/
def decodeFrom (afterHigh : Bool) (done : Text) : List Glyph → Text
  | [] => done.reverse
  | plain c _ :: gs => decodeFrom false (c :: done) gs
  | letter _ d _ :: gs => decodeFrom false (d :: done) gs
  | number _ _ _ _ n _ :: gs =>
    decodeFrom (CodePoint.ofNat n).isHighSurrogate (addEscaped afterHigh n done) gs

/-- The string that pieces spell. -/
def decode (gs : List Glyph) : Text := decodeFrom false [] gs

theorem textOf_cons (g : Glyph) (gs : List Glyph) : textOf (g :: gs) = g.text ++ textOf gs :=
  List.flatMap_cons

theorem textOf_append (gs hs : List Glyph) : textOf (gs ++ hs) = textOf gs ++ textOf hs :=
  List.flatMap_append

end Glyph

/-! ## Numbers -/

/-- The digits before a point: a zero, or digits that do not begin with one. -/
def IsWhole (t : Text) : Prop := t = [('0' : CodePoint)] ∨ ∃ c r, t = c :: r ∧ c ≠ '0' ∧ AllDigits t

theorem IsWhole.allDigits {t : Text} (h : IsWhole t) : AllDigits t := by
  rcases h with rfl | ⟨c, r, -, -, h⟩
  · exact AllDigits.zeros 1
  · exact h

theorem IsWhole.ne_nil {t : Text} (h : IsWhole t) : t ≠ [] := by
  rcases h with rfl | ⟨c, r, rfl, -, -⟩
  · exact List.cons_ne_nil _ _
  · exact List.cons_ne_nil _ _

/-- The sign of an exponent. -/
inductive Sign where
  | absent
  | plus
  | minus

namespace Sign

def text : Sign → Text
  | absent => []
  | plus => [('+' : CodePoint)]
  | minus => [('-' : CodePoint)]

/-- The number of that magnitude. -/
def apply (n : Nat) : Sign → Int
  | minus => -(n : Int)
  | _ => n

end Sign

/-- An exponent as it is spelled. -/
structure Exponent where
  letter : CodePoint
  sign : Sign
  digits : Text
  letter_eq : letter = 'e' ∨ letter = 'E'
  digits_ne_nil : digits ≠ []
  allDigits : AllDigits digits

namespace Exponent

def text (e : Exponent) : Text := e.letter :: e.sign.text ++ e.digits

def value (e : Exponent) : Int := e.sign.apply (digitsNat e.digits)

end Exponent

/-- A number as it is spelled. -/
structure Numeral where
  negative : Bool
  whole : Text
  fraction : Option Text
  exponent : Option Exponent
  isWhole : IsWhole whole
  isFraction : ∀ ds ∈ fraction, ds ≠ [] ∧ AllDigits ds

namespace Numeral

/-- The point and the digits after it. -/
def fractionText : Option Text → Text
  | none => []
  | some ds => ('.' : CodePoint) :: ds

def exponentText : Option Exponent → Text
  | none => []
  | some e => e.text

/-- The text after the sign. -/
def magnitudeText (n : Numeral) : Text := n.whole ++ fractionText n.fraction ++ exponentText n.exponent

def text (n : Numeral) : Text :=
  if n.negative then ('-' : CodePoint) :: n.magnitudeText else n.magnitudeText

/-- The number, if its digits are not too many. -/
def eval (n : Numeral) : Option Value :=
  (numberOf n.negative n.whole n.fraction (n.exponent.map Exponent.value)).toOption

end Numeral

/-! ## Values -/

/-- A value that is not a container, as it is spelled. -/
inductive Atom where
  | word (w : Text) (v : Value) (h : (w, v) ∈ wordValues)
  | nonFinite (w : Text) (x : Double) (h : (w, x) ∈ nonFiniteWords)
  | number (n : Numeral)
  | string (glyphs : List Glyph)

namespace Atom

def text : Atom → Text
  | word w _ _ => w
  | nonFinite w _ _ => w
  | number n => n.text
  | string gs => CodePoint.quote :: Glyph.textOf gs ++ [CodePoint.quote]

def eval (allowNonFinite : Bool) : Atom → Option Value
  | word _ v _ => some v
  | nonFinite _ x _ => if allowNonFinite then some (.real x) else none
  | number n => n.eval
  | string gs => some (.string (Glyph.decode gs))

end Atom

theorem mem_wordValues {w : Text} {v : Value} :
    (w, v) ∈ wordValues ↔ w = "null" ∧ v = .null ∨ w = "true" ∧ v = .bool true ∨ w = "false" ∧ v = .bool false := by
  simp only [wordValues, List.mem_cons, Prod.mk.injEq, List.not_mem_nil, or_false]

theorem mem_nonFiniteWords {w : Text} {x : Double} :
    (w, x) ∈ nonFiniteWords
      ↔ w = "NaN" ∧ x = .nan ∨ w = "Infinity" ∧ x = .infinite false ∨ w = "-Infinity" ∧ x = .infinite true := by
  simp only [nonFiniteWords, List.mem_cons, Prod.mk.injEq, List.not_mem_nil, or_false]

/-- An atom is a string, or a word or number. The reader tells these two apart first, by the quote. -/
theorem Atom.string_or (a : Atom) : (∃ gs, a = .string gs) ∨ ∀ gs, a ≠ .string gs := by
  cases a with
  | string gs => exact Or.inl ⟨gs, rfl⟩
  | _ => exact Or.inr fun _ h => by cases h

/-- What stands in front of the value of a member: its name and a colon. -/
structure Lead where
  before : Blanks
  name : List Glyph
  beforeColon : Blanks
  afterColon : Blanks

namespace Lead

/-- The text from the colon on. -/
def colonText (l : Lead) : Text := l.beforeColon.text ++ (':' : CodePoint) :: l.afterColon.text

def text (l : Lead) : Text :=
  l.before.text ++ CodePoint.quote :: Glyph.textOf l.name ++ CodePoint.quote :: l.colonText

end Lead

mutual

/-- A value as it is spelled. -/
inductive Spelling where
  | atom (a : Atom)
  | emptyArray (inside : Blanks)
  | emptyObject (inside : Blanks)
  | array (items : Items)
  | object (members : Members)

/-- One item or more, with commas between them. -/
inductive Items where
  | last (before : Blanks) (s : Spelling) (after : Blanks)
  | cons (before : Blanks) (s : Spelling) (after : Blanks) (rest : Items)

/-- One member or more, with commas between them. -/
inductive Members where
  | last (lead : Lead) (s : Spelling) (after : Blanks)
  | cons (lead : Lead) (s : Spelling) (after : Blanks) (rest : Members)

end

mutual

/-- The text of a spelling. -/
def Spelling.text : Spelling → Text
  | .atom a => a.text
  | .emptyArray b => ('[' : CodePoint) :: b.text ++ [(']' : CodePoint)]
  | .emptyObject b => CodePoint.openBrace :: b.text ++ [CodePoint.closeBrace]
  | .array items => ('[' : CodePoint) :: items.text ++ [(']' : CodePoint)]
  | .object members => CodePoint.openBrace :: members.text ++ [CodePoint.closeBrace]

def Items.text : Items → Text
  | .last before s after => before.text ++ s.text ++ after.text
  | .cons before s after rest => before.text ++ s.text ++ after.text ++ (',' : CodePoint) :: rest.text

def Members.text : Members → Text
  | .last lead s after => lead.text ++ s.text ++ after.text
  | .cons lead s after rest => lead.text ++ s.text ++ after.text ++ (',' : CodePoint) :: rest.text

end

mutual

/-- The value of a spelling with containers at most `depth` deep, if none of it is refused. -/
def Spelling.eval (allowNonFinite : Bool) : (depth : Nat) → Spelling → Option Value
  | _, .atom a => a.eval allowNonFinite
  | 0, _ => none
  | _ + 1, .emptyArray _ => some (.array [])
  | _ + 1, .emptyObject _ => some (.object [])
  | depth + 1, .array items => (items.eval allowNonFinite depth).map .array
  | depth + 1, .object members =>
    (members.eval allowNonFinite depth).map fun ms => .object (Entries.insertAll ms [])

def Items.eval (allowNonFinite : Bool) : (depth : Nat) → Items → Option (List Value)
  | depth, .last _ s _ => (s.eval allowNonFinite depth).map ([·])
  | depth, .cons _ s _ rest =>
    (s.eval allowNonFinite depth).bind fun v => (rest.eval allowNonFinite depth).map (v :: ·)

/-- The members in the order in which they are spelled, repeated names included. -/
def Members.eval (allowNonFinite : Bool) : (depth : Nat) → Members → Option (List (Text × Value))
  | depth, .last lead s _ => (s.eval allowNonFinite depth).map fun v => [(Glyph.decode lead.name, v)]
  | depth, .cons lead s _ rest =>
    (s.eval allowNonFinite depth).bind fun v =>
      (rest.eval allowNonFinite depth).map ((Glyph.decode lead.name, v) :: ·)

end

/-! ### What a spelling evaluates to

One lemma for each kind of tree: what it takes for it to have a value, and which value that is. -/

section Eval

variable {allowNonFinite : Bool} {depth : Nat}

/-- Empty containers need one level, even though nothing stands in them. The reader counts brackets and not values. -/
theorem Spelling.eval_emptyArray {b : Blanks} {v : Value} :
    (Spelling.emptyArray b).eval allowNonFinite depth = some v ↔ ∃ d, depth = d + 1 ∧ v = .array [] := by
  cases depth with
  | zero => simp [Spelling.eval]
  | succ d => simp [Spelling.eval, eq_comm]

theorem Spelling.eval_emptyObject {b : Blanks} {v : Value} :
    (Spelling.emptyObject b).eval allowNonFinite depth = some v ↔ ∃ d, depth = d + 1 ∧ v = .object [] := by
  cases depth with
  | zero => simp [Spelling.eval]
  | succ d => simp [Spelling.eval, eq_comm]

/-- An array has the values of its items, one level further down. -/
theorem Spelling.eval_array {items : Items} {v : Value} :
    (Spelling.array items).eval allowNonFinite depth = some v
      ↔ ∃ d vs, depth = d + 1 ∧ items.eval allowNonFinite d = some vs ∧ v = .array vs := by
  cases depth with
  | zero => simp [Spelling.eval]
  | succ d => simp [Spelling.eval, eq_comm]

/-- An object has its members put together by name: the first place and the last value count. The row of members
itself still has both of two members of one name. -/
theorem Spelling.eval_object {members : Members} {v : Value} :
    (Spelling.object members).eval allowNonFinite depth = some v
      ↔ ∃ d ms, depth = d + 1 ∧ members.eval allowNonFinite d = some ms ∧ v = .object (Entries.insertAll ms []) := by
  cases depth with
  | zero => simp [Spelling.eval]
  | succ d => simp [Spelling.eval, eq_comm]

theorem Items.eval_last {before after : Blanks} {s : Spelling} {vs : List Value} :
    (Items.last before s after).eval allowNonFinite depth = some vs
      ↔ ∃ v, s.eval allowNonFinite depth = some v ∧ vs = [v] := by
  simp [Items.eval, eq_comm]

/-- Further items come behind the first. One item that is refused is enough for the row to have no value. -/
theorem Items.eval_cons {before after : Blanks} {s : Spelling} {rest : Items} {vs : List Value} :
    (Items.cons before s after rest).eval allowNonFinite depth = some vs
      ↔ ∃ v ws, s.eval allowNonFinite depth = some v ∧ rest.eval allowNonFinite depth = some ws ∧ vs = v :: ws := by
  simp only [Items.eval, Option.bind_eq_some_iff, Option.map_eq_some_iff]
  -- the two sides bind the same values in another order
  constructor
  · rintro ⟨v, hv, ws, hws, rfl⟩
    exact ⟨v, ws, hv, hws, rfl⟩
  · rintro ⟨v, ws, hv, hws, rfl⟩
    exact ⟨v, hv, ws, hws, rfl⟩

/-- The last member is the only one of its row, under the name that its glyphs spell. -/
theorem Members.eval_last {lead : Lead} {s : Spelling} {after : Blanks} {ms : List (Text × Value)} :
    (Members.last lead s after).eval allowNonFinite depth = some ms
      ↔ ∃ v, s.eval allowNonFinite depth = some v ∧ ms = [(Glyph.decode lead.name, v)] := by
  simp [Members.eval, eq_comm]

/-- Further members come behind the first, and no name is left out yet. -/
theorem Members.eval_cons {lead : Lead} {s : Spelling} {after : Blanks} {rest : Members} {ms : List (Text × Value)} :
    (Members.cons lead s after rest).eval allowNonFinite depth = some ms
      ↔ ∃ v ws, s.eval allowNonFinite depth = some v ∧ rest.eval allowNonFinite depth = some ws
        ∧ ms = (Glyph.decode lead.name, v) :: ws := by
  simp only [Members.eval, Option.bind_eq_some_iff, Option.map_eq_some_iff]
  constructor
  · rintro ⟨v, hv, ws, hws, rfl⟩
    exact ⟨v, ws, hv, hws, rfl⟩
  · rintro ⟨v, ws, hv, hws, rfl⟩
    exact ⟨v, hv, ws, hws, rfl⟩

end Eval

mutual

/-- The names of all members at every depth, as they are spelled. -/
def Spelling.names : Spelling → List (List Glyph)
  | .array items => items.names
  | .object members => members.names
  | _ => []

def Items.names : Items → List (List Glyph)
  | .last _ s _ => s.names
  | .cons _ s _ rest => s.names ++ rest.names

def Members.names : Members → List (List Glyph)
  | .last lead s _ => lead.name :: s.names
  | .cons lead s _ rest => lead.name :: (s.names ++ rest.names)

end

mutual

/-- Whether a tree is JSON in the strict sense, which has no words for numbers that are not finite. -/
def Spelling.isStrict : Spelling → Bool
  | .atom (.nonFinite _ _ _) => false
  | .array items => items.isStrict
  | .object members => members.isStrict
  | _ => true

def Items.isStrict : Items → Bool
  | .last _ s _ => s.isStrict
  | .cons _ s _ rest => s.isStrict && rest.isStrict

def Members.isStrict : Members → Bool
  | .last _ s _ => s.isStrict
  | .cons _ s _ rest => s.isStrict && rest.isStrict

end

/-- A value with the blanks around it. -/
structure Source where
  before : Blanks
  root : Spelling
  after : Blanks

namespace Source

def text (s : Source) : Text := s.before.text ++ s.root.text ++ s.after.text

/-- The value that a whole body spells, if it is read. -/
def eval (allowNonFinite : Bool) (s : Source) : Option Value := s.root.eval allowNonFinite maxDepth

end Source

/-- JSON in the strict sense, however deep it is and however long its numbers are. -/
def IsStrict (body : Text) : Prop := ∃ src : Source, src.text = body ∧ src.root.isStrict = true

/-- The names of all members of a body satisfy `p`, as they are spelled. -/
def SpellsNames (p : List Glyph → Prop) (body : Text) : Prop :=
  ∀ src : Source, src.text = body → ∀ n ∈ src.root.names, p n

end BodyScrub.Json
