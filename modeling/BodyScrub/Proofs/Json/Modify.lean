import BodyScrub.Proofs.Json.Regular
import Mathlib.Data.List.Basic

/-!
# Changing nodes that stay

A change that takes nothing out leaves every other position where it is. So such changes at one position add up, and
those at two different positions of one depth can be made in either order (`modify_comm`).
-/

namespace BodyScrub.Json

/-- A change that keeps the item is the `modify` of the library, whose lemmas are used below. -/
theorem alterItem_some_eq_modify {α : Type} (g : α → α) (i : Nat) (as : List α) :
    alterItem (fun a => some (g a)) i as = as.modify i g := by
  induction as generalizing i with
  | nil => cases i <;> rfl
  | cons a as ih =>
    cases i with
    | zero => rfl
    | succ i =>
      rw [alterItem, ih]
      rfl

/-- What a change does depends only on the item that is there. Where no item is, nothing is changed by either. -/
theorem alterItem_eq_of_getElem? {α : Type} {i : Nat} {as : List α} {a : α} (h : as[i]? = some a) (f : α → Option α) :
    alterItem f i as = alterItem (fun _ => f a) i as := by
  induction as generalizing i with
  | nil => cases h
  | cons b as ih =>
    cases i with
    | zero =>
      obtain rfl : b = a := Option.some.inj h
      rfl
    | succ i =>
      rw [alterItem, alterItem, ih h]

namespace Value

/-! ## One step down -/

/-- What a change of a child does depends only on the child that is there. A change that looks at the child can then
be taken for one that does not. -/
theorem alterChild_eq_of_child? {s : Step} {v c : Value} (h : v.child? s = some c) (f : Value → Option Value) :
    alterChild f s v = alterChild (fun _ => f c) s v := by
  cases s with
  | name key =>
    cases v with
    | object members => exact congrArg object (Entries.alter_eq_of_get? h f)
    | _ => rfl
  | index i =>
    cases v with
    | array items => exact congrArg array (alterItem_eq_of_getElem? h f)
    | _ => rfl

/-- Changes the child one step down. -/
def modifyChild (g : Value → Value) (s : Step) (v : Value) : Value := alterChild (fun c => some (g c)) s v

theorem modifyChild_array (g : Value → Value) (i : Nat) (items : List Value) :
    modifyChild g (.index i) (array items) = array (items.modify i g) :=
  congrArg array (alterItem_some_eq_modify g i items)

theorem modifyChild_object (g : Value → Value) (key : Text) (members : Entries Value) :
    modifyChild g (.name key) (object members) = object (Entries.alter key (fun c => some (g c)) members) := rfl

theorem modifyChild_id (s : Step) (v : Value) : modifyChild (fun c => c) s v = v := by
  cases s with
  | name key =>
    cases v with
    | object members => exact congrArg object (Entries.alter_some key members)
    | _ => rfl
  | index i =>
    cases v with
    | array items =>
      rw [modifyChild_array]
      exact congrArg array (List.modify_id i items)
    | _ => rfl

/-- A change that keeps the child which is there changes nothing, whatever it would do to others. -/
theorem modifyChild_eq_self {g : Value → Value} {s : Step} {v : Value} (h : ∀ c, v.child? s = some c → g c = c) :
    modifyChild g s v = v := by
  cases hc : v.child? s with
  | some c =>
    -- only the child that is there counts, and it is kept
    calc
      modifyChild g s v = alterChild (fun _ => some (g c)) s v := alterChild_eq_of_child? hc _
      _ = alterChild (fun _ => some c) s v := by rw [h c hc]
      _ = modifyChild (fun c => c) s v := (alterChild_eq_of_child? hc _).symm
      _ = v := modifyChild_id s v
  | none =>
    -- there is no such child, so there is nothing to change
    cases s with
    | name key =>
      cases v with
      | object members => exact congrArg object (Entries.alter_of_get?_eq_none hc _)
      | _ => rfl
    | index i =>
      cases v with
      | array items =>
        rw [modifyChild_array, List.modify_eq_self (List.getElem?_eq_none_iff.1 hc)]
      | _ => rfl

/-- Two changes of one child are one change by both, the second after the first. The node that holds the child is
the same one for both. -/
theorem modifyChild_modifyChild (g h : Value → Value) (s : Step) (v : Value) :
    modifyChild g s (modifyChild h s v) = modifyChild (fun c => g (h c)) s v := by
  cases s with
  | name key =>
    cases v with
    | object members => exact congrArg object (Entries.alter_alter_some key g h members)
    | _ => rfl
  | index i =>
    cases v with
    | array items =>
      rw [modifyChild_array, modifyChild_array, modifyChild_array, List.modify_modify_eq]
      rfl
    | _ => rfl

/-- Changes of two children can be made in either order. A name and an index never address children of one node, so
in that case one of the changes does nothing. -/
theorem modifyChild_comm {s t : Step} (hst : s ≠ t) (g h : Value → Value) (v : Value) :
    modifyChild g s (modifyChild h t v) = modifyChild h t (modifyChild g s v) := by
  cases s with
  | name key =>
    cases t with
    | index j => cases v <;> rfl
    | name other =>
      -- two names, so two entries of the object
      have hne : other ≠ key := fun heq => hst (congrArg Step.name heq.symm)
      cases v with
      | object members => exact congrArg object (Entries.alter_comm hne _ _ members)
      | _ => rfl
  | index i =>
    cases t with
    | name other => cases v <;> rfl
    | index j =>
      have hne : j ≠ i := fun heq => hst (congrArg Step.index heq.symm)
      cases v with
      | array items =>
        rw [modifyChild_array, modifyChild_array, modifyChild_array, modifyChild_array,
          List.modify_modify_ne h g items hne]
      | _ => rfl

/-- The changed child is found changed, where it was found at all: `modify` never adds or drops a child. -/
theorem child?_modifyChild_self (g : Value → Value) (s : Step) (v : Value) :
    (modifyChild g s v).child? s = (v.child? s).map g := by
  cases s with
  | name key =>
    cases v with
    | object members => exact Entries.get?_alter_some key g members
    | _ => rfl
  | index i =>
    cases v with
    | array items =>
      rw [modifyChild_array]
      show (items.modify i g)[i]? = (items[i]?).map g
      simp
    | _ => rfl

/-- Another child is found as it was. Together with `child?_modifyChild_self` this is all that look-ups need to know
of a change. -/
theorem child?_modifyChild_of_ne {s t : Step} (hst : s ≠ t) (g : Value → Value) (v : Value) :
    (modifyChild g t v).child? s = v.child? s := by
  cases s with
  | name key =>
    cases t with
    | index j => cases v <;> rfl
    | name other =>
      have hne : key ≠ other := fun heq => hst (congrArg Step.name heq)
      cases v with
      | object members => exact Entries.get?_alter_of_ne hne _ members
      | _ => rfl
  | index i =>
    cases t with
    | name other => cases v <;> rfl
    | index j =>
      have hne : j ≠ i := fun heq => hst (congrArg Step.index heq.symm)
      cases v with
      | array items =>
        rw [modifyChild_array]
        show (items.modify j g)[i]? = items[i]?
        simp [hne]
      | _ => rfl

/-! ## A whole way down -/

/-- Changes the node at a position. -/
def modify (g : Value → Value) (p : Position) (v : Value) : Value := (alter (fun u => some (g u)) p v).getD v

/-- A change that keeps its node always gives a value, so it can be written without the option. -/
theorem alter_some_eq_modify (g : Value → Value) (p : Position) (v : Value) :
    alter (fun u => some (g u)) p v = some (modify g p v) := by
  unfold modify
  cases p with
  | nil => rfl
  | cons s p =>
    rw [alter_cons]
    rfl

/-- A change further down is a change of the child by what is done below it. Proofs by induction on the position
start here. -/
theorem modify_cons (g : Value → Value) (s : Step) (p : Position) (v : Value) :
    modify g (s :: p) v = modifyChild (modify g p) s v := by
  have hbelow : alter (fun u => some (g u)) p = fun c => some (modify g p c) := funext (alter_some_eq_modify g p)
  unfold modify modifyChild
  rw [alter_cons, hbelow]
  rfl

theorem set_eq_modify (p : Position) (new v : Value) : set p new v = modify (fun _ => new) p v := rfl

theorem modify_id (p : Position) (v : Value) : modify (fun u => u) p v = v := by
  induction p generalizing v with
  | nil => rfl
  | cons s p ih =>
    rw [modify_cons, show modify (fun u => u) p = fun c => c from funext ih, modifyChild_id]

/-- Changes at different positions of one depth can be made in either order. Of one depth, since one of the two
could otherwise stand above the other. -/
theorem modify_comm {p q : Position} (hne : p ≠ q) (hlen : p.length = q.length) (g h : Value → Value) (v : Value) :
    modify g p (modify h q v) = modify h q (modify g p v) := by
  induction p generalizing q v with
  | nil => exact absurd (List.length_eq_zero_iff.1 hlen.symm).symm hne
  | cons s p ih =>
    cases q with
    | nil => cases hlen
    | cons t q =>
      rw [modify_cons, modify_cons, modify_cons, modify_cons]
      by_cases hst : s = t
      · -- the ways part further down
        obtain rfl := hst
        have hbelow : p ≠ q := fun heq => hne (congrArg (s :: ·) heq)
        have hcomm := ih hbelow (Nat.succ.inj hlen)
        rw [modifyChild_modifyChild, modifyChild_modifyChild, funext hcomm]
      -- the ways part here, into two children
      · exact modifyChild_comm hst _ _ v

/-- A change leaves the nodes alone that are neither above it nor below it. The induction is on both positions, down
to the step at which they part. -/
theorem get?_modify_of_apart {p q : Position} (hup : ¬p <+: q) (hdown : ¬q <+: p) (g : Value → Value) (v : Value) :
    (modify g q v).get? p = v.get? p := by
  induction p generalizing q v with
  | nil => exact absurd List.nil_prefix hup
  | cons s p ih =>
    cases q with
    | nil => exact absurd List.nil_prefix hdown
    | cons t q =>
      rw [modify_cons, get?, get?]
      by_cases hst : s = t
      -- both ways go into the same child and part below it
      · obtain rfl := hst
        rw [child?_modifyChild_self]
        cases v.child? s with
        | none => simp
        | some c =>
          have hrest := ih (fun h => hup (by simpa using h)) (fun h => hdown (by simpa using h)) c
          simpa using hrest
      · rw [child?_modifyChild_of_ne hst]

end Value

end BodyScrub.Json
