import BodyScrub.Proofs.Operation.Rewriting

/-!
# How far an operation gets

The turns of an operation follow one another until one of them fails (`exists_of_updateEach_eq_error`). What the nodes
before that one have become stays, and the nodes after it are not reached (`fst_updateEach_stop`). Since no addressed
node is above or below another, what a node has become is what its own turn put there (`get?_updateEach`), and nothing
else shows (`shell_get?_updateEach`).
-/

namespace BodyScrub

open Json (Value Step Position)

/-! ## One node -/

namespace Json.Value

/-- A value of the kind of strings is a string; the other kinds are left out by what `kind` gives for them. -/
theorem exists_of_kind_eq_string {v : Value} (h : v.kind = .string) : ∃ s, v = .string s := by
  cases v with
  | string s => exact ⟨s, rfl⟩
  | _ => cases h

/-- A change below a value leaves its own shell as it is: the names of an object stay in their order, and an array
keeps its number of items. -/
theorem shell_modifyChild (g : Value → Value) (s : Step) (v : Value) : (modifyChild g s v).shell = v.shell := by
  cases s with
  | name key =>
    cases v with
    | object members => exact shell_object_congr (Entries.names_alter_some key g members)
    | _ => rfl
  | index i =>
    cases v with
    | array items =>
      rw [modifyChild_array]
      exact shell_array_congr (List.length_modify g items i)
    | _ => rfl

/-- A change shows at its node and below, and nowhere else. A node above it has another value afterwards, but still
the same kind and the same names or number of items. -/
theorem shell_get?_modify {p q : Position} (h : ¬p <+: q) (g : Value → Value) (v : Value) :
    ((modify g p v).get? q).map shell = (v.get? q).map shell := by
  induction p generalizing q v with
  | nil => exact absurd List.nil_prefix h
  | cons s p ih =>
    rw [modify_cons]
    cases q with
    | nil => exact congrArg some (shell_modifyChild (modify g p) s v)
    | cons t q =>
      rw [get?, get?]
      -- below the same child the change may be closer; below another one nothing happens
      by_cases hst : t = s
      · obtain rfl := hst
        have hbelow : ¬p <+: q := fun hprefix => h (List.cons_prefix_cons.2 ⟨rfl, hprefix⟩)
        rw [child?_modifyChild_self]
        cases v.child? t with
        | none => rfl
        | some c => exact ih hbelow c
      · rw [child?_modifyChild_of_ne hst]

/-- At the position of a change there is the changed value afterwards, if there was a value before. Where there was
none, the change does nothing. -/
theorem get?_modify_self (g : Value → Value) (p : Position) (v : Value) :
    (modify g p v).get? p = (v.get? p).map g := by
  induction p generalizing v with
  | nil => rfl
  | cons s p ih =>
    rw [modify_cons, get?, get?, child?_modifyChild_self]
    cases v.child? s with
    | none => rfl
    | some c => exact ih c

end Json.Value

namespace Operation

/-! ## The loop -/

section

variable {F : Location → Except Fault (Option Value)} {ls : List Location} {v : Value}

/-- A loop fails where its turn first does. All nodes before this one have had a turn that succeeded, and the fault
is that of the failing turn as it is. -/
theorem exists_of_updateEach_eq_error {e : Fault} (h : (updateEach F ls v).2 = .error e) :
    ∃ before l after, ls = before ++ l :: after ∧ (∀ m ∈ before, ∃ new, F m = .ok new) ∧ F l = .error e := by
  induction ls generalizing v with
  | nil => cases h
  | cons l ls ih =>
    -- a turn that succeeds goes in front of those before the failing one
    have hlater : ∀ new w, F l = .ok new → (updateEach F ls w).2 = .error e → ∃ before m after,
        l :: ls = before ++ m :: after ∧ (∀ k ∈ before, ∃ new, F k = .ok new) ∧ F m = .error e := by
      intro new w hnew hrest
      obtain ⟨before, m, after, rfl, hbefore, hm⟩ := ih hrest
      exact ⟨l :: before, m, after, rfl, List.forall_mem_cons.2 ⟨⟨new, hnew⟩, hbefore⟩, hm⟩
    rw [updateEach] at h
    cases hl : F l with
    | error f =>
      rw [hl] at h
      obtain rfl : f = e := Except.error.inj h
      exact ⟨[], l, ls, rfl, List.forall_mem_nil _, hl⟩
    | ok new =>
      rw [hl] at h
      cases new with
      | none => exact hlater none v hl h
      | some new => exact hlater (some new) _ hl (eq_error_of_map h)

/-- A loop in which no turn fails comes to an end and counts something. This is `exists_of_updateEach` the other way
round. -/
theorem exists_updateEach_eq_ok (h : ∀ l ∈ ls, ∃ new, F l = .ok new) (v : Value) :
    ∃ n, (updateEach F ls v).2 = .ok n := by
  cases hr : (updateEach F ls v).2 with
  | ok n => exact ⟨n, rfl⟩
  | error e =>
    obtain ⟨before, l, after, rfl, -, hl⟩ := exists_of_updateEach_eq_error hr
    obtain ⟨new, hnew⟩ := h l (by simp)
    rw [hnew] at hl
    cases hl

/-- The turns after others go on from what these have made of the value, provided that they came to an end. A loop
that stops can be cut at the node at which it does. -/
theorem fst_updateEach_append {before after : List Location} {n : Nat} (h : (updateEach F before v).2 = .ok n) :
    (updateEach F (before ++ after) v).1 = (updateEach F after (updateEach F before v).1).1 := by
  induction before generalizing v n with
  | nil => rfl
  | cons l before ih =>
    rw [List.cons_append, updateEach, updateEach]
    rw [updateEach] at h
    cases hl : F l with
    | error e =>
      rw [hl] at h
      cases h
    | ok new =>
      rw [hl] at h
      cases new with
      | none => exact ih h
      | some new =>
        obtain ⟨m, hm, -⟩ := exists_of_map_eq_ok h
        exact ih hm

/-- A turn that fails leaves what the turns before it have made of the value. Nothing is undone, and the nodes after
it do not matter. -/
theorem fst_updateEach_stop {before after : List Location} {l : Location} {n : Nat} {e : Fault}
    (h : (updateEach F before v).2 = .ok n) (hl : F l = .error e) :
    (updateEach F (before ++ l :: after) v).1 = (updateEach F before v).1 := by
  rw [fst_updateEach_append h, updateEach, hl]

/-- A loop over nodes that are apart leaves at each of them what its turn puts there. A node is changed in its own
turn alone, and it has its first value until then. -/
theorem get?_updateEach {n : Nat}
    (hapart : ls.Pairwise fun l m => ¬l.position <+: m.position ∧ ¬m.position <+: l.position)
    (hnode : ∀ l ∈ ls, v.get? l.position = some l.value) (h : (updateEach F ls v).2 = .ok n) :
    ∀ l ∈ ls, (updateEach F ls v).1.get? l.position = some (put (F l) l.value) := by
  induction ls generalizing v n with
  | nil => exact List.forall_mem_nil _
  | cons l ls ih =>
    obtain ⟨hothers, hrest⟩ := List.pairwise_cons.1 hapart
    obtain ⟨hhead, hnodes⟩ := List.forall_mem_cons.1 hnode
    rw [updateEach] at h ⊢
    cases hl : F l with
    | error e =>
      rw [hl] at h
      cases h
    | ok new =>
      rw [hl] at h
      cases new with
      | none =>
        -- the turn puts nothing in place, and the later ones are elsewhere
        refine List.forall_mem_cons.2 ⟨?_, ih hrest hnodes h⟩
        show (updateEach F ls v).1.get? l.position = _
        rw [get?_updateEach_of_apart hothers, hhead, hl]
        rfl
      | some new =>
        obtain ⟨m, hm, -⟩ := exists_of_map_eq_ok h
        have hset : (Value.set l.position new v).get? l.position = some new := by
          rw [Value.set_eq_modify, Value.get?_modify_self, hhead]
          rfl
        -- the nodes still to come keep their values
        have hkept : ∀ k ∈ ls, (Value.set l.position new v).get? k.position = some k.value := by
          intro k hk
          obtain ⟨hup, hdown⟩ := hothers k hk
          rw [Value.set_eq_modify, Value.get?_modify_of_apart hdown hup]
          exact hnodes k hk
        refine List.forall_mem_cons.2 ⟨?_, ih hrest hkept hm⟩
        show (updateEach F ls (Value.set l.position new v)).1.get? l.position = _
        rw [get?_updateEach_of_apart hothers, hset, hl]
        rfl

/-- Two loops whose turns agree as long as none has failed do the same. Turns after the first failing one are not
compared, as neither loop comes to them. -/
theorem updateEach_congr {G : Location → Except Fault (Option Value)}
    (h : ∀ before l after, ls = before ++ l :: after → (∀ m ∈ before, ∃ new, F m = .ok new) → F l = G l) (v : Value) :
    updateEach F ls v = updateEach G ls v := by
  induction ls generalizing v with
  | nil => rfl
  | cons l ls ih =>
    have hl : F l = G l := h [] l ls rfl (List.forall_mem_nil _)
    -- the later turns need to agree only where this one has succeeded
    have hls : ∀ new, F l = .ok new → ∀ w, updateEach F ls w = updateEach G ls w := by
      intro new hnew
      refine ih fun before m after hsplit hbefore => ?_
      exact h (l :: before) m after (by rw [hsplit, List.cons_append]) (List.forall_mem_cons.2 ⟨⟨new, hnew⟩, hbefore⟩)
    rw [updateEach, updateEach, ← hl]
    split
    · rfl
    · next hnone => exact hls none hnone v
    · next new hnew => rw [hls (some new) hnew]

/-- A node that a loop neither changes nor has above it keeps its shell, whether or not the loop comes to an end. -/
theorem shell_get?_updateEach {q : Position} (h : ∀ l ∈ ls, ¬l.position <+: q) (v : Value) :
    ((updateEach F ls v).1.get? q).map Value.shell = (v.get? q).map Value.shell := by
  induction ls generalizing v with
  | nil => rfl
  | cons l ls ih =>
    obtain ⟨hl, hls⟩ := List.forall_mem_cons.1 h
    rw [updateEach]
    split
    · rfl
    · exact ih hls v
    · next new _ => exact (ih hls (Value.set l.position new v)).trans (Value.shell_get?_modify hl (fun _ => new) v)

end

end Operation

end BodyScrub
