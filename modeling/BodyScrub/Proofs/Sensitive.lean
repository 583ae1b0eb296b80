import BodyScrub.Proofs.Path.Untouched
import BodyScrub.Sensitive

/-!
# What redaction reaches

Redaction goes down into the values of members, and into those items of an array that are objects. An item that is an
array itself is passed over. So every sensitive member is blanked that stands on no way from an array straight into an
array in it, what is not below a sensitive name keeps its shape and its scalars (`redact_reaches`), and what is passed
over is as it was, credentials included (`redact_misses_token`).

* **`Position.crossesArrays`**: the ways that redaction does not go.
* **`redactItems_eq_map`**, **`get?_redact`**: what becomes of one item and of the member of one name.
* **`blanked_of_get?_redactValue`**, **`shell_get?_redactValue`**, **`get?_of_get?_redactValue`**: what is blanked, what
  is kept and what is passed over, by induction on the way down.
-/

namespace BodyScrub

open Json (Value Step Position)

/-- Whether a way goes through an array and then through an item of it that is an array too. -/
def Json.Position.crossesArrays : Position → Bool
  | .index _ :: .index _ :: _ => true
  | _ :: p => crossesArrays p
  | [] => false

/-- A way that does not go from an array into an array does not do so further down either. -/
theorem Json.Position.crossesArrays_tail {t : Step} {p : Position} (h : crossesArrays (t :: p) = false) :
    crossesArrays p = false := by
  cases t with
  | name key => exact h
  | index i =>
    cases p with
    | nil => rfl
    | cons u p =>
      cases u with
      | name key => exact h
      | index j => cases h

/-- A scalar has no node below it, so what is found in it is the scalar itself. -/
theorem Json.Value.eq_of_get?_of_isScalar {v w : Value} {p : Position} (hv : v.isScalar = true)
    (h : v.get? p = some w) : w = v := by
  cases p with
  | nil => simpa [Value.get?] using h.symm
  | cons t p => cases v <;> cases t <;> simp [Value.get?, Value.child?, Value.isScalar] at h hv

namespace Sensitive

variable {names : List Text}

/-! ## One node -/

/-- An item of an array after redaction: only objects are gone into. -/
def redactItem (names : List Text) : Value → Value
  | .object members => .object (redact names true members)
  | v => v

theorem redactItems_eq_map (names : List Text) (items : List Value) :
    redactItems names items = items.map (redactItem names) := by
  induction items with
  | nil => simp [redactItems]
  | cons v items ih => cases v <;> simp [redactItems, redactItem, ih]

/-- A member of an object after redaction. -/
def redactMember (names : List Text) (name : Text) (v : Value) : Value :=
  if isNamed names name then blank else redactValue names v

/-- Redaction of an object goes member by member, and keeps their names and their order. What a member becomes
depends on its own name and value alone. -/
theorem redact_eq_map (names : List Text) (members : Entries Value) :
    redact names true members = members.map fun m => (m.1, redactMember names m.1 m.2) := by
  induction members with
  | nil => simp [redact]
  | cons m members ih => simp [redact, redactMember, ih]

/-- Under a name there is the redacted member of that name. Whether it is blanked is told by the name that is asked
for. -/
theorem get?_redact (names : List Text) (name : Text) (members : Entries Value) :
    Entries.get? name (redact names true members) = (Entries.get? name members).map (redactMember names name) := by
  rw [redact_eq_map]
  exact Entries.get?_map (fun m => redactMember names m.1 m.2) name members

theorem names_redact (names : List Text) (members : Entries Value) :
    Entries.names (redact names true members) = Entries.names members := by
  rw [redact_eq_map]
  exact Entries.names_map (fun m => redactMember names m.1 m.2) members

/-- A member under a sensitive name is blanked, whatever its value was. A container goes as a whole, so nothing in
it needs to be looked at. -/
theorem blank_of_mem_redact {members : Entries Value} {m : Text × Value} (hm : m ∈ redact names true members)
    (hnamed : isNamed names m.1 = true) : m.2 = blank := by
  rw [redact_eq_map] at hm
  obtain ⟨e, -, rfl⟩ := List.mem_map.1 hm
  simp [redactMember, hnamed]

theorem child?_redactValue_object (names : List Text) (members : Entries Value) (key : Text) :
    (redactValue names (.object members)).child? (.name key)
      = (Entries.get? key members).map (redactMember names key) := by
  rw [redactValue]
  exact get?_redact names key members

/-- A step to an item leads to what redaction makes of this item. Items that are arrays are among those that it
passes over. -/
theorem child?_redactValue_array (names : List Text) (items : List Value) (i : Nat) :
    (redactValue names (.array items)).child? (.index i) = (items[i]?).map (redactItem names) := by
  rw [redactValue, redactItems_eq_map]
  exact List.getElem?_map ..

/-! ## All nodes -/

/-- An object that is reached has its sensitive members blanked. The induction is along the way to it: an object
among the items of an array is reached, and an array there is not. -/
theorem blanked_of_get?_redactValue {v : Value} {p : Position} {members : Entries Value}
    (h : (redactValue names v).get? p = some (.object members)) (hp : p.crossesArrays = false) :
    ∀ m ∈ members, isNamed names m.1 = true → m.2 = blank := by
  induction p generalizing v with
  | nil =>
    cases v with
    | object ms =>
      have hmembers : redact names true ms = members := by simpa [redactValue, Value.get?] using h
      intro m hm hnamed
      rw [← hmembers] at hm
      exact blank_of_mem_redact hm hnamed
    | _ => simp [redactValue, Value.get?] at h
  | cons t p ih =>
    have hrest := Position.crossesArrays_tail hp
    obtain ⟨w, hw, hbelow⟩ := Option.bind_eq_some_iff.1 h
    cases v with
    | object ms =>
      cases t with
      | index i => simp [redactValue, Value.child?] at hw
      | name key =>
        rw [child?_redactValue_object] at hw
        obtain ⟨u, -, rfl⟩ := Option.map_eq_some_iff.1 hw
        unfold redactMember at hbelow
        split at hbelow
        · -- there is no object below a blank
          have hblank := Value.eq_of_get?_of_isScalar rfl hbelow
          simp [blank] at hblank
        · exact ih hbelow hrest
    | array items =>
      cases t with
      | name key => simp [redactValue, Value.child?] at hw
      | index i =>
        rw [child?_redactValue_array] at hw
        obtain ⟨u, -, rfl⟩ := Option.map_eq_some_iff.1 hw
        cases u with
        -- an item that is an object is gone into, and the way goes on in it
        | object ms => exact @ih (.object ms) hbelow hrest
        | array us =>
          -- an array that is passed over can only be gone into by another index
          cases p with
          | nil => simp [redactItem, Value.get?] at hbelow
          | cons t p =>
            cases t with
            | name key => simp [redactItem, Value.get?, Value.child?] at hbelow
            | index j => simp [Position.crossesArrays] at hp
        | _ =>
          have hscalar := Value.eq_of_get?_of_isScalar rfl hbelow
          simp [redactItem] at hscalar
    | _ => simp [redactValue, Value.child?] at hw

/-- A value keeps its own shell, be it gone into or passed over. Whether it is blanked is decided where it is a
member, one level above. -/
theorem shell_redactValue (names : List Text) (v : Value) : (redactValue names v).shell = v.shell := by
  cases v with
  | array items =>
    rw [redactValue, redactItems_eq_map]
    exact Value.shell_array_congr (List.length_map _)
  | object members =>
    rw [redactValue]
    exact Value.shell_object_congr (names_redact names members)
  | _ => simp [redactValue]

/-- Whether a node is a blanked member or stands below one. Without `deep` only the members of the data itself are
blanked, and nothing is blanked in an array that is an item of an array. -/
def isBlanked (names : List Text) (deep : Bool) : Position → Bool
  | [] => false
  | .name key :: p => isNamed names key || (deep && isBlanked names deep p)
  | .index _ :: .index _ :: _ => false
  | .index _ :: p => deep && isBlanked names deep p

/-- A node that is not blanked keeps its kind, its names or its number of items, and a scalar is kept. Nodes in an
array that is passed over are among these. -/
theorem shell_get?_redactValue_of_isBlanked {v : Value} {p : Position} (hp : isBlanked names true p = false) :
    ((redactValue names v).get? p).map Value.shell = (v.get? p).map Value.shell := by
  induction p generalizing v with
  | nil => simp [Value.get?, shell_redactValue]
  | cons t p ih =>
    rw [Value.get?, Value.get?]
    cases v with
    | object ms =>
      cases t with
      | index i => simp [redactValue, Value.child?]
      | name key =>
        obtain ⟨hkey, hrest⟩ : isNamed names key = false ∧ isBlanked names true p = false := by
          simpa [isBlanked] using hp
        rw [child?_redactValue_object, Value.child?]
        cases Entries.get? key ms with
        | none => simp
        | some u => simpa [redactMember, hkey] using ih hrest
    | array items =>
      cases t with
      | name key => simp [redactValue, Value.child?]
      | index i =>
        rw [child?_redactValue_array, Value.child?]
        cases items[i]? with
        | none => simp
        | some u =>
          cases u with
          | object ms =>
            cases p with
            | nil => simpa [redactItem, redactValue] using @ih (.object ms) rfl
            | cons t p =>
              cases t with
              | index j => simp [redactItem, Value.get?, Value.child?]
              | name key =>
                have hrest : isBlanked names true (.name key :: p) = false := by simpa [isBlanked] using hp
                simpa [redactItem, redactValue] using @ih (.object ms) hrest
          | _ => simp [redactItem]
    | _ => simp [redactValue]

/-- A node that is not below a sensitive name keeps its kind, its names or its number of items, and a scalar is
kept, since none of the names on the way to it leads to a blank. -/
theorem shell_get?_redactValue {v : Value} {p : Position} (hp : ∀ name, Step.name name ∈ p → isNamed names name = false) :
    ((redactValue names v).get? p).map Value.shell = (v.get? p).map Value.shell := by
  refine shell_get?_redactValue_of_isBlanked ?_
  -- no name on the way is sensitive, so none of them tells that the node is blanked
  fun_induction isBlanked names true p with
  | case1 => rfl
  | case2 key p ih => simp [hp key List.mem_cons_self, ih fun name h => hp name (List.mem_cons_of_mem _ h)]
  | case3 => rfl
  | case4 i p _ ih => simp [ih fun name h => hp name (List.mem_cons_of_mem _ h)]

/-- An array that is an item of an array is as it was, with all that is in it. The redaction does not go from one
array into another. -/
theorem get?_of_get?_redactValue {v : Value} {p : Position} {i : Nat} {items : List Value}
    (h : (redactValue names v).get? (p ++ [.index i]) = some (.array items)) :
    v.get? (p ++ [.index i]) = some (.array items) := by
  induction p generalizing v with
  | nil =>
    obtain ⟨w, hw, hitem⟩ := Option.bind_eq_some_iff.1 h
    cases v with
    | array vs =>
      rw [child?_redactValue_array] at hw
      obtain ⟨u, hu, rfl⟩ := Option.map_eq_some_iff.1 hw
      cases u with
      | array us => simpa [redactItem, Value.get?, Value.child?, hu] using hitem
      | _ => simp [redactItem, Value.get?] at hitem
    | _ => simp [redactValue, Value.child?] at hw
  | cons t p ih =>
    obtain ⟨w, hw, hbelow⟩ := Option.bind_eq_some_iff.1 h
    cases v with
    | object ms =>
      cases t with
      | index j => simp [redactValue, Value.child?] at hw
      | name key =>
        rw [child?_redactValue_object] at hw
        obtain ⟨u, hu, rfl⟩ := Option.map_eq_some_iff.1 hw
        unfold redactMember at hbelow
        split at hbelow
        · have hblank := Value.eq_of_get?_of_isScalar rfl hbelow
          simp [blank] at hblank
        · simpa [Value.get?, Value.child?, hu] using ih hbelow
    | array vs =>
      cases t with
      | name key => simp [redactValue, Value.child?] at hw
      | index j =>
        rw [child?_redactValue_array] at hw
        obtain ⟨u, hu, rfl⟩ := Option.map_eq_some_iff.1 hw
        -- only an object among the items is gone into
        have hsame : u.get? (p ++ [.index i]) = some (.array items) := by
          cases u with
          | object ms => exact @ih (.object ms) hbelow
          | _ => exact hbelow
        simpa [Value.get?, Value.child?, hu] using hsame
    | _ => simp [redactValue, Value.child?] at hw

/-- In redacted data every sensitive member is blanked, at every depth and through objects and arrays, but for what
stands in an array that is an item of an array. What is not below a sensitive name keeps its shape and its scalars, and
an array that is an item of an array is as it was. -/
theorem redact_reaches (names : List Text) (data : Entries Value) :
    (∀ (p : Position) (members : Entries Value), p.crossesArrays = false →
        (Value.object (redact names true data)).get? p = some (.object members) →
        ∀ m ∈ members, isNamed names m.1 = true → m.2 = blank)
      ∧ (∀ p : Position, (∀ name, Step.name name ∈ p → isNamed names name = false) →
        ((Value.object (redact names true data)).get? p).map Value.shell = ((Value.object data).get? p).map Value.shell)
      ∧ ∀ (p : Position) (i : Nat) (items : List Value),
        (Value.object (redact names true data)).get? (p ++ [.index i]) = some (.array items) →
        (Value.object data).get? (p ++ [.index i]) = some (.array items) := by
  have hdata : Value.object (redact names true data) = redactValue names (.object data) := by simp [redactValue]
  rw [hdata]
  exact ⟨fun p members hp h => blanked_of_get?_redactValue h hp, fun p hp => shell_get?_redactValue hp,
    fun p i items h => get?_of_get?_redactValue h⟩

/-- A token in an array in an array is written out. -/
theorem redact_misses_token :
    ¬∀ (data : Entries Value) (p : Position) (members : Entries Value),
      (Value.object (redact Sensitive.names true data)).get? p = some (.object members) →
      ∀ m ∈ members, isNamed Sensitive.names m.1 = true → m.2 = blank := by
  intro h
  have hblank := h [("a", .array [.array [.object [("token", .string "x")]]])] [.name "a", .index 0, .index 0]
    [("token", .string "x")] rfl ("token", .string "x") List.mem_cons_self (by decide)
  exact absurd (Value.string.inj hblank) (by decide)

end Sensitive

end BodyScrub
