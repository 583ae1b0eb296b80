/-!
# Text

A body may hold the escape of a single surrogate, which no `String` can hold. A text is therefore a list of
code points, surrogates included. Scanners recurse on the code points that are still to be read and return a
shorter rest, so a position is the length of the whole text less that of the rest.
-/

namespace BodyScrub

/-- A Unicode code point. Unlike a `Char` it may be a surrogate. -/
structure CodePoint where
  val : Nat
  lt : val < 0x110000
deriving DecidableEq

namespace CodePoint

@[coe] def ofChar (c : Char) : CodePoint :=
  ⟨c.toNat, by
    have h := c.valid
    simp only [UInt32.isValidChar, Nat.isValidChar] at h
    show c.val.toNat < 0x110000
    omega⟩

instance : Coe Char CodePoint := ⟨ofChar⟩

instance : Inhabited CodePoint := ⟨⟨0, by decide⟩⟩

/-- The code point of that number; a number beyond the last code point gives the replacement character. -/
def ofNat (n : Nat) : CodePoint :=
  if h : n < 0x110000 then ⟨n, h⟩ else ⟨0xFFFD, by decide⟩

@[simp] theorem val_ofChar (c : Char) : (ofChar c).val = c.toNat := rfl

theorem val_injective {c d : CodePoint} (h : c.val = d.val) : c = d := by
  cases c; cases d; simp_all

theorem val_ofNat {n : Nat} (h : n < 0x110000) : (ofNat n).val = n := by
  simp [ofNat, h]

theorem ofNat_val (c : CodePoint) : ofNat c.val = c := by
  simp [ofNat, c.lt]

/-- High surrogates come first in a pair. -/
def isHighSurrogate (c : CodePoint) : Bool := 0xD800 ≤ c.val && c.val ≤ 0xDBFF

/-- Low surrogates come second in a pair. -/
def isLowSurrogate (c : CodePoint) : Bool := 0xDC00 ≤ c.val && c.val ≤ 0xDFFF

def isSurrogate (c : CodePoint) : Bool := 0xD800 ≤ c.val && c.val ≤ 0xDFFF

def quote : CodePoint := ofChar '\x22'

def apostrophe : CodePoint := ofChar '\x27'

def backslash : CodePoint := ofChar '\\'

def newline : CodePoint := ofChar '\n'

def openBrace : CodePoint := ofChar '\x7b'

def closeBrace : CodePoint := ofChar '\x7d'

end CodePoint

/-- A text: its code points in order. -/
abbrev Text := List CodePoint

namespace Text

@[coe] def ofString (s : String) : Text := s.toList.map CodePoint.ofChar

instance : Coe String Text := ⟨ofString⟩

/-- The string of a text without surrogates; a surrogate becomes the replacement character. -/
def toString (t : Text) : String :=
  String.ofList (t.map fun c => if c.isSurrogate then '\uFFFD' else Char.ofNat c.val)

/-- Texts are ordered code point by code point, a beginning before what continues it. -/
def le : Text → Text → Bool
  | [], _ => true
  | _ :: _, [] => false
  | a :: s, b :: t => if a.val < b.val then true else if b.val < a.val then false else le s t

/-- What follows `lead` in `t`, if `t` begins with it. -/
def after? : (lead t : Text) → Option Text
  | [], t => some t
  | _ :: _, [] => none
  | a :: lead, b :: t => if a = b then after? lead t else none

/-- What follows `lead` in a text is the rest of the text behind it. -/
theorem after?_eq_some_iff {lead t rest : Text} : after? lead t = some rest ↔ t = lead ++ rest := by
  induction lead generalizing t with
  | nil => simp [after?, eq_comm]
  | cons a lead ih =>
    cases t with
    | nil => simp [after?]
    | cons b t =>
      by_cases h : a = b
      · simp [after?, h, ih]
      · simp [after?, h, Ne.symm h]

/-- The longest run of code points in a class, and the rest. -/
def span (p : CodePoint → Bool) : Text → Text × Text
  | [] => ([], [])
  | c :: t => if p c then (c :: (span p t).1, (span p t).2) else ([], c :: t)

theorem span_append (p : CodePoint → Bool) (t : Text) : (span p t).1 ++ (span p t).2 = t := by
  induction t with
  | nil => rfl
  | cons c t ih =>
    simp only [span]
    split <;> simp [ih]

/-- A text that is given and not empty, or else another one. -/
def orElse (given : Option Text) (other : Text) : Text :=
  match given with
  | some (c :: t) => c :: t
  | _ => other

/-- The text without the code points of a class at either end. -/
def trim (p : CodePoint → Bool) (t : Text) : Text :=
  ((t.dropWhile p).reverse.dropWhile p).reverse

/-- The text up to the first `c`, and what follows that `c`, if there is one. -/
def cut? (c : CodePoint) : Text → Option (Text × Text)
  | [] => none
  | d :: t => if d = c then some ([], t) else (cut? c t).map fun (l, r) => (d :: l, r)

/-- The texts in order with `sep` between neighbours. -/
def join (sep : Text) : List Text → Text
  | [] => []
  | [t] => t
  | t :: u :: ts => t ++ sep ++ join sep (u :: ts)

end Text

end BodyScrub
