import BodyScrub.Proofs.Filter.Steps
import BodyScrub.Proofs.Path.Simultaneous

/-!
# What an operation makes of the addressed nodes

An operation works through the nodes that a path addresses one by one. What it does to a node depends on the value of
that node alone (`result`), and no change reaches a node that is still to come. So if the operation comes to an end, all
addressed nodes are changed at once, each from its value before the first change (`apply_locate`). How many changes are
counted, or which fault stops the operation, depends on the addressed nodes only (`snd_apply_congr`).
-/

namespace BodyScrub

open Json (Value)

namespace Operation

/-- The value of a node after an update: the one that is put in place, or else its own. -/
def put (r : Except Fault (Option Value)) (u : Value) : Value :=
  match r with
  | .ok (some new) => new
  | _ => u

/-- What takes the place of an addressed node with the value `u`, or nothing if the node is taken out. -/
def result (settings : Settings) (op : Operation) (u : Value) : Option Value :=
  match op with
  | delete => none
  | op => some (put (op.update settings ⟨[], u⟩) u)

/-- A function gives a text for a string in which the pattern occurs, leaves another string as it is, and fails on
everything else. The place of the node is not in this, so that it can be told about the value alone. -/
theorem transformed_eq_ok_iff {f : TextFunction} {pattern : Option Pattern} {l : Location} {new : Option Text} :
    transformed f pattern l = .ok new ↔ ∃ s, l.value = .string s
      ∧ (pattern.all (·.occursIn s) = true ∧ (∃ t, f s = .text t ∧ new = some t)
        ∨ pattern.all (·.occursIn s) = false ∧ new = none) := by
  obtain ⟨p, u⟩ := l
  cases u with
  | string s =>
    unfold transformed
    cases hall : pattern.all (·.occursIn s) with
    | true => cases hf : f s <;> simp [hall, hf, eq_comm (a := new)]
    | false => simp [hall, eq_comm (a := new)]
  | _ => simp [transformed]

/-- What is put in place of a node depends on its value alone; where the node is shows in faults only. This is why
an operation can be told by `result`, a function of values. -/
theorem update_of_value_eq {settings : Settings} {op : Operation} {l m : Location} (h : l.value = m.value)
    {new : Option Value} (hl : op.update settings l = .ok new) : op.update settings m = .ok new := by
  cases op with
  | delete => exact hl
  | replace literal => exact hl
  | replaceMatches r =>
    rw [update, h] at hl
    exact hl
  | transform f pattern =>
    -- a function is the only operation whose fault names the place; where it succeeds, the place is of no use
    obtain ⟨t, ht, hnew⟩ := exists_of_map_eq_ok hl
    have hsame : transformed f pattern m = .ok t := by
      rw [transformed_eq_ok_iff, h] at ht
      exact transformed_eq_ok_iff.2 ht
    simp [update, hsame, ← hnew, Except.map]

/-! ## Nodes that are updated -/

section Update

variable {F : Location → Except Fault (Option Value)} {ls : List Location} {v : Value} {n : Nat}

/-- What a loop of updates counts, or the fault that stops it, does not depend on the value that is changed: each
turn looks at the node as it was found, and only puts something into the value. -/
theorem snd_updateEach_congr (F : Location → Except Fault (Option Value)) (ls : List Location) (v w : Value) :
    (updateEach F ls v).2 = (updateEach F ls w).2 := by
  induction ls generalizing v w with
  | nil => rfl
  | cons l ls ih =>
    rw [updateEach, updateEach]
    cases F l with
    | error e => rfl
    | ok new =>
      cases new with
      -- the turn changes nothing, and the count stays as well
      | none => exact ih v w
      | some new => exact congrArg (Except.map (· + 1)) (ih _ _)

/-- A loop that comes to an end has given every node its turn, and no turn has failed. -/
theorem exists_of_updateEach (h : (updateEach F ls v).2 = .ok n) : ∀ l ∈ ls, ∃ new, F l = .ok new := by
  induction ls generalizing v n with
  | nil => exact List.forall_mem_nil _
  | cons l ls ih =>
    rw [updateEach] at h
    cases hl : F l with
    | error e =>
      rw [hl] at h
      cases h
    | ok new =>
      rw [hl] at h
      refine List.forall_mem_cons.2 ⟨⟨new, hl⟩, ?_⟩
      cases new with
      | none => exact ih h
      | some new =>
        obtain ⟨m, hm, -⟩ := exists_of_map_eq_ok h
        exact ih hm

/-- The change that stands last in the list is the first one to be made. A loop takes its nodes from the front, so
it is one of these changes over the reversed list. -/
theorem alterInTurn_concat (f : Location → Value → Option Value) (ls : List Location) (l : Location) (v : Value) :
    alterInTurn f (ls ++ [l]) v = alterInTurn f ls ((Value.alter (f l) l.position v).getD v) :=
  List.foldr_append

/-- A loop that comes to an end has made one change after another, from the first node to the last. A node for which
there is nothing to put in place is changed into itself. -/
theorem fst_updateEach (h : (updateEach F ls v).2 = .ok n) :
    (updateEach F ls v).1 = alterInTurn (fun l u => some (put (F l) u)) ls.reverse v := by
  induction ls generalizing v n with
  | nil => rfl
  | cons l ls ih =>
    rw [List.reverse_cons, alterInTurn_concat]
    rw [updateEach] at h ⊢
    show _ = alterInTurn _ ls.reverse (Value.modify (put (F l)) l.position v)
    cases hl : F l with
    | error e =>
      rw [hl] at h
      cases h
    | ok new =>
      rw [hl] at h
      cases new with
      | none =>
        -- a node that stays is changed into itself
        show (updateEach F ls v).1 = alterInTurn _ ls.reverse (Value.modify (fun u => u) l.position v)
        rw [Value.modify_id, ih h]
      | some new =>
        obtain ⟨m, hm, -⟩ := exists_of_map_eq_ok h
        exact ih hm

/-- A loop of updates over the addressed nodes changes them all at once. Each change depends on the value of the
node alone, and none reaches another addressed node. -/
theorem fst_updateEach_resolve {settings : Settings} {op : Operation} {okName : Text → Prop} {depth : Nat}
    (hv : v.Regular okName depth) {segments : List Segment}
    (h : (updateEach (op.update settings) (resolveSegments segments v) v).2 = .ok n) :
    (updateEach (op.update settings) (resolveSegments segments v) v).1
      = mapSegments (fun u => put (op.update settings ⟨[], u⟩) u) segments v := by
  have hvalue : ∀ l ∈ resolveSegments segments v,
      some (put (op.update settings l) l.value) = some (put (op.update settings ⟨[], l.value⟩) l.value) := by
    intro l hl
    obtain ⟨new, hnew⟩ := exists_of_updateEach h l hl
    rw [hnew, update_of_value_eq (show l.value = (⟨[], l.value⟩ : Location).value from rfl) hnew]
  -- all turns succeed, so each may be read as one at the root of its own value
  have hall := alterInTurn_resolve (f := fun l u => some (put (op.update settings l) u))
    (g := fun u => some (put (op.update settings ⟨[], u⟩) u)) hv hvalue
  rw [fst_updateEach h, alterInTurn_reverse hv, hall, alterSegments_some]
  rfl

end Update

/-! ## Nodes that are taken out -/

/-- What a loop of removals counts, or the fault that stops it, depends on the nodes alone: it is the root that
cannot be taken out, and this shows in the positions. -/
theorem snd_eraseEach_congr (ls : List Location) (v w : Value) : (eraseEach ls v).2 = (eraseEach ls w).2 := by
  induction ls generalizing v w with
  | nil => rfl
  | cons l ls ih =>
    rw [eraseEach, eraseEach]
    split
    · rfl
    · exact congrArg (Except.map (· + 1)) (ih _ _)

/-- A loop of removals that comes to an end has taken out one node after another, in the order in which it was given
them. -/
theorem fst_eraseEach {ls : List Location} {v : Value} {n : Nat} (h : (eraseEach ls v).2 = .ok n) :
    (eraseEach ls v).1 = alterInTurn (fun _ _ => none) ls.reverse v := by
  induction ls generalizing v n with
  | nil => rfl
  | cons l ls ih =>
    rw [List.reverse_cons, alterInTurn_concat]
    rw [eraseEach] at h ⊢
    split at h
    · cases h
    · next hroot =>
      obtain ⟨m, hm, -⟩ := exists_of_map_eq_ok h
      rw [if_neg hroot]
      exact ih hm

/-! ## Whole operations -/

/-- What an operation counts, or the fault that stops it, depends on the nodes that it is given and on the settings.
So two documents in which a path addresses the same nodes give the same result. -/
theorem snd_apply_congr (op : Operation) (ls : List Location) {d e : Document} (h : d.settings = e.settings) :
    (op.apply ls d).2 = (op.apply ls e).2 := by
  cases op with
  | delete => exact snd_eraseEach_congr ls.reverse d.root e.root
  | _ =>
    unfold apply
    dsimp only
    rw [h]
    exact snd_updateEach_congr _ ls d.root e.root

/-- An operation that comes to an end has changed all addressed nodes at once, each from its value before. Updates
go from the first node to the last and removals from the last to the first; the outcome does not tell them apart, as
no change reaches another addressed node. -/
theorem apply_locate {op : Operation} {p : Path} {d : Document} {okName : Text → Prop} {depth : Nat}
    (hd : d.root.Regular okName depth) {n : Nat} (h : (op.apply (d.locate p) d).2 = .ok n) :
    (op.apply (d.locate p) d).1.root = (alterSegments (op.result d.settings) p.segments d.root).getD d.root := by
  have hupdate : ∀ op : Operation, (updateEach (op.update d.settings) (d.locate p) d.root).2 = .ok n →
      (updateEach (op.update d.settings) (d.locate p) d.root).1
        = (alterSegments (fun u => some (put (op.update d.settings ⟨[], u⟩) u)) p.segments d.root).getD d.root := by
    intro op hop
    rw [alterSegments_some]
    exact fst_updateEach_resolve hd hop
  cases op with
  | delete =>
    -- removals run from the last node back, so the changes stand in document order again
    show (eraseEach (d.locate p).reverse d.root).1 = _
    rw [fst_eraseEach h, List.reverse_reverse]
    exact alterInTurn_resolve hd fun _ _ => rfl
  | replace literal => exact hupdate (replace literal) h
  | replaceMatches r => exact hupdate (replaceMatches r) h
  | transform f pattern => exact hupdate (transform f pattern) h

end Operation

/-! ## Steps -/

namespace ScrubStep

/-- What a step comes to depends on the settings and on the nodes that it addresses, not on the rest of the
document. -/
theorem snd_apply_congr {s : ScrubStep} {d e : Document} (hsettings : d.settings = e.settings)
    (hlocate : d.locate s.path = e.locate s.path) : (s.apply d).2 = (s.apply e).2 := by
  unfold apply
  rw [hlocate]
  exact congrArg (Except.map _) (s.operation.snd_apply_congr _ hsettings)

/-- A step that comes to an end has changed the addressed nodes at once. This is the form in which steps are put in
another order or merged. -/
theorem fst_apply {s : ScrubStep} {d : Document} {okName : Text → Prop} {depth : Nat}
    (hd : d.root.Regular okName depth) {t : Tally} (h : (s.apply d).2 = .ok t) :
    (s.apply d).1
      = ⟨(alterSegments (s.operation.result d.settings) s.path.segments d.root).getD d.root, d.settings⟩ := by
  obtain ⟨n, hn, -⟩ := exists_of_map_eq_ok h
  show (s.operation.apply (d.locate s.path) d).1 = _
  rw [← s.operation.apply_locate hd hn, ← s.operation.settings_apply (d.locate s.path) d]

/-- A step leaves a document well formed, also if it fails on the way. What comes after it may rely on distinct
names and on the depth as before. -/
theorem regular_apply {okName : Text → Prop} {depth : Nat} {d : Document} (hd : d.root.Regular okName depth)
    (s : ScrubStep) : (s.apply d).1.root.Regular okName depth :=
  (s.operation.changes_apply (d.locate s.path) d).regular hd

end ScrubStep

end BodyScrub
