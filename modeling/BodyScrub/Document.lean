import BodyScrub.Fault
import BodyScrub.Path.Match

/-!
# Documents

A body that was read as JSON, with the settings under which it was read and is written again.
-/

namespace BodyScrub

open Json (Value)

/-- A value in JSON with the settings it is read and written under. -/
structure Document where
  root : Value
  settings : Settings

namespace Document

/-- The text of a value under some settings. -/
def write (settings : Settings) (v : Value) : Except Fault Text :=
  match Json.writeChecked settings.style settings.allowNonFinite v with
  | .ok t => .ok t
  | .error f => .error (.unwritable f)

/-- The document that a body holds. -/
def read (settings : Settings) (body : Text) : Except Fault Document :=
  match Json.read settings.allowNonFinite body with
  | .ok v => .ok ⟨v, settings⟩
  | .error f => .error (.unreadable f)

def text (d : Document) : Except Fault Text := write d.settings d.root

def locate (d : Document) (p : Path) : List Location := p.resolve d.root

end Document

end BodyScrub
