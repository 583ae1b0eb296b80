import BodyScrub.Text

/-!
# Named entries

Values under names, in the order in which the names first came. Objects, environments and log events are kept
this way.
-/

namespace BodyScrub

/-- Values under names, in order. -/
abbrev Entries (α : Type) := List (Text × α)

namespace Entries

variable {α : Type}

def get? (name : Text) : Entries α → Option α
  | [] => none
  | (n, a) :: es => if n = name then some a else get? name es

/-- Puts a value under a name: in its old place if the name is there, else at the end. -/
def insert (name : Text) (a : α) : Entries α → Entries α
  | [] => [(name, a)]
  | (n, b) :: es => if n = name then (n, a) :: es else (n, b) :: insert name a es

/-- Puts all entries of `new` into `old`, in order. -/
def insertAll (new old : Entries α) : Entries α := new.foldl (fun es (n, a) => insert n a es) old

/-- Changes the value under a name, or takes the entry out. -/
def alter (name : Text) (f : α → Option α) : Entries α → Entries α
  | [] => []
  | (n, a) :: es =>
    if n = name then
      match f a with
      | some b => (n, b) :: es
      | none => es
    else (n, a) :: alter name f es

/-- Takes the entry of a name out. -/
def erase (name : Text) : Entries α → Entries α := alter name fun _ => none

/-- What was put in under a name is what the name gives, whether it was there before or not. -/
theorem get?_insert_self (name : Text) (a : α) (es : Entries α) : get? name (insert name a es) = some a := by
  induction es with
  | nil => simp [insert, get?]
  | cons e es ih =>
    by_cases h : e.1 = name <;> simp [insert, get?, h, ih]

/-- Putting a value in under one name leaves all others alone. With `get?_insert_self` this tells `insert` by what
is read back, which is all that most proofs need of it. -/
theorem get?_insert_of_ne {name other : Text} (h : other ≠ name) (a : α) (es : Entries α) :
    get? other (insert name a es) = get? other es := by
  induction es with
  | nil => simp [insert, get?, Ne.symm h]
  | cons e es ih =>
    by_cases hn : e.1 = name
    · simp [insert, get?, hn, Ne.symm h]
    · by_cases ho : e.1 = other <;> simp [insert, get?, hn, ho, ih, h]

end Entries

end BodyScrub
