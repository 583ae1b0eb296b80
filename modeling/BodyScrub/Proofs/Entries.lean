import BodyScrub.Entries
import Mathlib.Data.List.Nodup

/-!
# Entries under distinct names

Putting a value under a name and changing the value under a name keep names distinct. Under distinct names a change
reaches exactly one entry, and entries put in one by one are these entries.
-/

namespace BodyScrub.Entries

variable {α : Type}

/-- The names of entries, in order. -/
def names (es : Entries α) : List Text := es.map Prod.fst

/-- A change of values that leaves the names alone. Redaction and renaming are of this form, so both keep the names
of an object. -/
theorem names_map (g : Text × α → α) (es : Entries α) : names (es.map fun e => (e.1, g e)) = names es := by
  unfold names
  rw [List.map_map]
  rfl

/-- A look-up through a map that may use the name as well as the value: the value comes out changed as its own entry
is. -/
theorem get?_map (g : Text × α → α) (name : Text) (es : Entries α) :
    get? name (es.map fun e => (e.1, g e)) = (get? name es).map fun a => g (name, a) := by
  induction es with
  | nil => rfl
  | cons d es ih =>
    rw [List.map_cons, get?, get?]
    split
    · next hd =>
      rw [← hd]
      rfl
    · exact ih

/-! ## Putting entries in -/

/-- What is in the result was put in just now or was there before. There is no more to say without distinct names,
since the old value under the name may come back further on. -/
theorem mem_of_mem_insert {name : Text} {a : α} {es : Entries α} {e : Text × α} (h : e ∈ insert name a es) :
    e = (name, a) ∨ e ∈ es := by
  induction es with
  | nil => exact Or.inl (List.mem_singleton.1 h)
  | cons d es ih =>
    rw [insert] at h
    split at h
    · next hd =>
      rcases List.mem_cons.1 h with rfl | h
      · exact Or.inl (by rw [hd])
      · exact Or.inr (List.mem_cons_of_mem _ h)
    · rcases List.mem_cons.1 h with rfl | h
      · exact Or.inr List.mem_cons_self
      · exact (ih h).imp_right (List.mem_cons_of_mem _)

/-- A value under a name that is there takes the old place, and no name is added. This is why a later member of an
object wins but stands where the first one stood. -/
theorem names_insert_of_mem {name : Text} {es : Entries α} (h : name ∈ names es) (a : α) :
    names (insert name a es) = names es := by
  induction es with
  | nil => exact absurd h List.not_mem_nil
  | cons d es ih =>
    -- the value is put in here, or the name stands further on
    rw [insert]
    split
    · rfl
    · next hd =>
      have hrest : name ∈ names es := (List.mem_cons.1 h).resolve_left (Ne.symm hd)
      exact congrArg (d.1 :: ·) (ih hrest)

/-- A new name goes to the end. Together with `names_insert_of_mem` these are the two things that `insert` can do. -/
theorem insert_of_not_mem {name : Text} {es : Entries α} (h : name ∉ names es) (a : α) :
    insert name a es = es ++ [(name, a)] := by
  induction es with
  | nil => rfl
  | cons d es ih =>
    have hd : d.1 ≠ name := fun heq => h (by rw [← heq]; exact List.mem_cons_self)
    rw [insert, if_neg hd, ih fun hmem => h (List.mem_cons_of_mem _ hmem)]
    rfl

/-- Distinct names stay distinct. Objects are put together by `insert` alone, and so no object that is read has a
name twice. -/
theorem nodup_insert {es : Entries α} (h : (names es).Nodup) (name : Text) (a : α) :
    (names (insert name a es)).Nodup := by
  -- a name that is there keeps its place, and a new one goes to the end
  by_cases hmem : name ∈ names es
  · rw [names_insert_of_mem hmem]
    exact h
  · rw [insert_of_not_mem hmem]
    unfold names
    rw [List.map_append]
    exact List.Nodup.append h (List.nodup_singleton _) (List.disjoint_singleton.2 hmem)

/-- The equation that inductions over the new entries unfold: the first one is put in, then the rest into what came
of it. -/
theorem insertAll_cons (e : Text × α) (new old : Entries α) :
    insertAll (e :: new) old = insertAll new (insert e.1 e.2 old) := rfl

/-- What is in the result was put in or was there before. Facts about all members of an object pass through reading
by this. -/
theorem mem_of_mem_insertAll {new old : Entries α} {e : Text × α} (h : e ∈ insertAll new old) : e ∈ new ∨ e ∈ old := by
  induction new generalizing old with
  | nil => exact Or.inr h
  | cons d new ih =>
    rw [insertAll_cons] at h
    -- an entry of what came of the first step was put in by it or was there before
    rcases ih h with h | h
    · exact Or.inl (List.mem_cons_of_mem _ h)
    · rcases mem_of_mem_insert h with rfl | h
      · exact Or.inl List.mem_cons_self
      · exact Or.inr h

/-- However often a name is put in, it is there once, if the names were distinct before. All objects that are read
have distinct names by this. -/
theorem nodup_insertAll {old : Entries α} (h : (names old).Nodup) (new : Entries α) :
    (names (insertAll new old)).Nodup := by
  induction new generalizing old with
  | nil => exact h
  | cons d new ih =>
    rw [insertAll_cons]
    exact ih (nodup_insert h _ _)

/-- Entries under distinct names, put in one by one, are themselves. So an object that is written and read again has
its members back in the same order. -/
theorem insertAll_of_nodup {new old : Entries α} (h : (names (old ++ new)).Nodup) : insertAll new old = old ++ new := by
  induction new generalizing old with
  | nil => exact (List.append_nil old).symm
  | cons d new ih =>
    have hsplit : (names old ++ d.1 :: names new).Nodup := by
      have heq : names (old ++ d :: new) = names old ++ d.1 :: names new := List.map_append
      rw [← heq]
      exact h
    have hd : d.1 ∉ names old := fun hmem =>
      (List.nodup_append.1 hsplit).2.2 d.1 hmem d.1 List.mem_cons_self rfl
    have hassoc : old ++ [d] ++ new = old ++ d :: new := by rw [List.append_assoc]; rfl
    -- a new name goes to the end, so the entries come out in their order
    rw [insertAll_cons, insert_of_not_mem hd, ih, hassoc]
    rw [hassoc]
    exact h

/-- A change of all values, each by its name, can be made before or after an entry is put in. The value under an old
name is overwritten in both cases, so nothing is lost by changing it first. -/
theorem insert_map (g : Text × α → α) (name : Text) (a : α) (es : Entries α) :
    insert name (g (name, a)) (es.map fun e => (e.1, g e)) = (insert name a es).map fun e => (e.1, g e) := by
  induction es with
  | nil => rfl
  | cons d es ih =>
    rw [List.map_cons, insert, insert]
    split
    · next hd =>
      rw [List.map_cons]
      dsimp only
      rw [hd]
    · rw [List.map_cons, ih]

/-- The same for any number of entries. It carries redaction through the merging of a context with the fields of an
event. -/
theorem insertAll_map (g : Text × α → α) (new old : Entries α) :
    insertAll (new.map fun e => (e.1, g e)) (old.map fun e => (e.1, g e))
      = (insertAll new old).map fun e => (e.1, g e) := by
  induction new generalizing old with
  | nil => rfl
  | cons d new ih =>
    rw [List.map_cons, insertAll_cons, insertAll_cons]
    dsimp only
    rw [insert_map g d.1 d.2 old, ih]

/-- The last value under a name: what is left of the values under that name if they are put in one by one. -/
def last? (name : Text) : Entries α → Option α
  | [] => none
  | (n, a) :: es => (last? name es).or (if n = name then some a else none)

/-- Of two rows the second counts first. With this the value of a name in a run of calls is found call by call, from
the last one back. -/
theorem last?_append (name : Text) (es more : Entries α) :
    last? name (es ++ more) = (last? name more).or (last? name es) := by
  induction es with
  | nil => simp [last?]
  | cons d es ih => rw [List.cons_append, last?, last?, ih, Option.or_assoc]

/-- There is a last value under a name exactly if the name is there, as there is a first one. -/
theorem isSome_last?_iff {name : Text} {es : Entries α} : (last? name es).isSome = true ↔ name ∈ names es := by
  induction es with
  | nil => simp [last?, names]
  | cons d es ih =>
    by_cases hd : d.1 = name
    · simp [last?, names, hd]
    · have hne : name ≠ d.1 := Ne.symm hd
      simpa [last?, names, hd, hne] using ih

/-- Under distinct names the first value is also the last, so for objects there is no need to tell them apart. -/
theorem last?_of_nodup {name : Text} {es : Entries α} (h : (names es).Nodup) : last? name es = get? name es := by
  induction es with
  | nil => rfl
  | cons d es ih =>
    obtain ⟨hd, hnodup⟩ := List.nodup_cons.1 h
    rw [last?, get?, ih hnodup]
    by_cases hname : d.1 = name
    -- no entry of this name follows, so the value found here is also the last one
    · have hrest : last? name es = none := by
        rw [← Option.not_isSome_iff_eq_none, isSome_last?_iff, ← hname]
        exact hd
      rw [if_pos hname, if_pos hname, ← ih hnodup, hrest, Option.none_or]
    · rw [if_neg hname, if_neg hname, Option.or_none]

/-- What is put in counts, and of that the last. This is all that is said about fields which override a context. -/
theorem get?_insertAll (name : Text) (new old : Entries α) :
    get? name (insertAll new old) = (last? name new).or (get? name old) := by
  induction new generalizing old with
  | nil => simp [insertAll, last?]
  | cons d new ih =>
    rw [insertAll_cons, ih, last?, Option.or_assoc]
    -- the first new entry counts if none of the later ones has its name
    by_cases hd : d.1 = name
    · rw [if_pos hd, hd, get?_insert_self, Option.some_or]
    · rw [if_neg hd, get?_insert_of_ne (Ne.symm hd), Option.none_or]

/-! ## Changing entries -/

/-- A change keeps the names, or takes one of them out, and never moves or adds one. -/
theorem names_alter_sublist (name : Text) (f : α → Option α) (es : Entries α) :
    (names (alter name f es)).Sublist (names es) := by
  induction es with
  | nil => exact List.Sublist.refl _
  | cons d es ih =>
    rw [alter]
    split
    · split
      · exact List.Sublist.refl _
      · exact List.sublist_cons_self _ _
    · exact ih.cons_cons d.1

/-- Distinct names stay distinct under changes, those that take entries out included. No change of a document brings
a name in twice. -/
theorem nodup_alter {es : Entries α} (h : (names es).Nodup) (name : Text) (f : α → Option α) :
    (names (alter name f es)).Nodup :=
  h.sublist (names_alter_sublist name f es)

/-- What is in the result was there before, or is the changed entry under its old name. -/
theorem mem_of_mem_alter {name : Text} {f : α → Option α} {es : Entries α} {e : Text × α} (h : e ∈ alter name f es) :
    e ∈ es ∨ ∃ a b, (name, a) ∈ es ∧ f a = some b ∧ e = (name, b) := by
  induction es with
  | nil => exact Or.inl h
  | cons d es ih =>
    rw [alter] at h
    split at h
    · next hd =>
      split at h
      · next b hb =>
        rcases List.mem_cons.1 h with rfl | h
        · exact Or.inr ⟨d.2, b, by rw [← hd]; exact List.mem_cons_self, hb, by rw [hd]⟩
        · exact Or.inl (List.mem_cons_of_mem _ h)
      · exact Or.inl (List.mem_cons_of_mem _ h)
    · rcases List.mem_cons.1 h with rfl | h
      · exact Or.inl List.mem_cons_self
      · rcases ih h with h | ⟨a, b, ha, hb, he⟩
        · exact Or.inl (List.mem_cons_of_mem _ h)
        · exact Or.inr ⟨a, b, List.mem_cons_of_mem _ ha, hb, he⟩

theorem get?_eq_none {name : Text} {es : Entries α} (h : name ∉ names es) : get? name es = none := by
  induction es with
  | nil => rfl
  | cons d es ih =>
    have hd : d.1 ≠ name := fun heq => h (by rw [← heq]; exact List.mem_cons_self)
    rw [get?, if_neg hd]
    exact ih fun hmem => h (List.mem_cons_of_mem _ hmem)

/-- What a name gives is one of the entries. The converse needs distinct names (`get?_eq_some_iff`). -/
theorem mem_of_get? {name : Text} {es : Entries α} {a : α} (h : get? name es = some a) : (name, a) ∈ es := by
  induction es with
  | nil => cases h
  | cons d es ih =>
    rw [get?] at h
    split at h
    · next hd =>
      rw [← hd, ← Option.some.inj h]
      exact List.mem_cons_self
    · exact List.mem_cons_of_mem _ (ih h)

theorem isSome_get?_iff {name : Text} {es : Entries α} : (get? name es).isSome = true ↔ name ∈ names es := by
  induction es with
  | nil => simp [get?, names]
  | cons d es ih =>
    by_cases hd : d.1 = name
    · simp [get?, names, hd]
    · have hne : name ≠ d.1 := Ne.symm hd
      simpa [get?, names, hd, hne] using ih

/-- Under distinct names the changed name gives the changed value, or nothing if the entry was taken out. Without
distinct names the next entry under the name would come to light. -/
theorem get?_alter_self {es : Entries α} (h : (names es).Nodup) (name : Text) (f : α → Option α) :
    get? name (alter name f es) = (get? name es).bind f := by
  induction es with
  | nil => rfl
  | cons d es ih =>
    obtain ⟨hd, hnodup⟩ := List.nodup_cons.1 h
    rw [alter, get?]
    split
    · next hname =>
      rw [hname] at hd
      rw [Option.bind_some]
      -- the entry may go, and then no other one of its name may show up behind it
      cases hf : f d.2 with
      | none => exact get?_eq_none hd
      | some b => exact if_pos hname
    · next hname =>
      rw [get?, if_neg hname]
      exact ih hnodup

/-- A change under one name leaves all others alone, whether or not it takes the entry out. -/
theorem get?_alter_of_ne {name other : Text} (h : other ≠ name) (f : α → Option α) (es : Entries α) :
    get? other (alter name f es) = get? other es := by
  induction es with
  | nil => rfl
  | cons d es ih =>
    rw [alter]
    split
    · next hname =>
      -- the entry that changes is not the one looked for, so it does not matter whether it stays
      have hother : d.1 ≠ other := fun heq => h (heq.symm.trans hname)
      rw [get?, if_neg hother]
      cases f d.2 with
      | none => rfl
      | some b => exact if_neg hother
    · rw [get?, get?, ih]

/-- There is nothing to change under a name that is not there, so the entries stay as they are. -/
theorem alter_of_get?_eq_none {name : Text} {es : Entries α} (h : get? name es = none) (f : α → Option α) :
    alter name f es = es := by
  induction es with
  | nil => rfl
  | cons d es ih =>
    rw [get?] at h
    split at h
    · cases h
    · next hd => rw [alter, if_neg hd, ih h]

/-- What a change does depends only on the value that is there. This is how a change that is computed from the
document is compared with one that is fixed. -/
theorem alter_eq_of_get? {name : Text} {es : Entries α} {a : α} (h : get? name es = some a) (f : α → Option α) :
    alter name f es = alter name (fun _ => f a) es := by
  induction es with
  | nil => rfl
  | cons d es ih =>
    rw [get?] at h
    rw [alter, alter]
    split at h
    · next hd => rw [if_pos hd, if_pos hd, Option.some.inj h]
    · next hd => rw [if_neg hd, if_neg hd, ih h]

/-- Changes under two names do not meet, also where entries are taken out. Operations on disjoint parts of a
document commute because of this and its counterpart for arrays. -/
theorem alter_comm {name other : Text} (h : other ≠ name) (f g : α → Option α) (es : Entries α) :
    alter name f (alter other g es) = alter other g (alter name f es) := by
  induction es with
  | nil => rfl
  | cons d es ih =>
    by_cases hname : d.1 = name
    · have hother : d.1 ≠ other := fun heq => h (heq.symm.trans hname)
      cases hf : f d.2 <;> simp [alter, hname, Ne.symm h, hf]
    · by_cases hother : d.1 = other
      · cases hg : g d.2 <;> simp [alter, hother, h, hg]
      · simp [alter, hname, hother, ih]

theorem alter_some (name : Text) (es : Entries α) : alter name some es = es := by
  induction es with
  | nil => rfl
  | cons d es ih =>
    rw [alter]
    split
    · rfl
    · rw [ih]

/-- Two changes under one name are one change by both, if neither takes the entry out. If the first one did, the
second would meet the next entry of that name. -/
theorem alter_alter_some (name : Text) (f g : α → α) (es : Entries α) :
    alter name (fun a => some (f a)) (alter name (fun a => some (g a)) es)
      = alter name (fun a => some (f (g a))) es := by
  induction es with
  | nil => rfl
  | cons d es ih =>
    by_cases hd : d.1 = name
    · simp [alter, hd]
    · simp [alter, hd, ih]

/-- A change that keeps the entry is seen by a look-up of its own name, with no need for distinct names. -/
theorem get?_alter_some (name : Text) (g : α → α) (es : Entries α) :
    get? name (alter name (fun a => some (g a)) es) = (get? name es).map g := by
  induction es with
  | nil => rfl
  | cons d es ih =>
    by_cases hd : d.1 = name
    · simp [alter, get?, hd]
    · simp [alter, get?, hd, ih]

/-- A change that keeps the entry keeps all names, in order. Objects that differ by such changes have the same
shape. -/
theorem names_alter_some (name : Text) (g : α → α) (es : Entries α) :
    names (alter name (fun a => some (g a)) es) = names es := by
  induction es with
  | nil => rfl
  | cons d es ih =>
    rw [alter]
    split
    · rfl
    · exact congrArg (d.1 :: ·) ih

/-- Under distinct names a change reaches one entry, with what stands before and after it untouched. This is the
form in which an induction over the members of an object meets the change. -/
theorem alter_append {name : Text} {pre : Entries α} (h : name ∉ names pre) (f : α → Option α) (a : α)
    (post : Entries α) :
    alter name f (pre ++ (name, a) :: post)
      = pre ++ match f a with
        | some b => (name, b) :: post
        | none => post := by
  induction pre with
  | nil =>
    rw [List.nil_append, List.nil_append, alter]
    refine (if_pos rfl).trans ?_
    cases f a with
    | none => rfl
    | some b => rfl
  | cons d pre ih =>
    have hd : d.1 ≠ name := fun heq => h (by rw [← heq]; exact List.mem_cons_self)
    rw [List.cons_append, alter, if_neg hd, ih fun hmem => h (List.mem_cons_of_mem _ hmem), List.cons_append]

/-- The first entry under a name is the one that a look-up finds. Nothing is asked of what comes after it. -/
theorem get?_append {name : Text} {pre : Entries α} (h : name ∉ names pre) (a : α) (post : Entries α) :
    get? name (pre ++ (name, a) :: post) = some a := by
  induction pre with
  | nil => exact if_pos rfl
  | cons d pre ih =>
    have hd : d.1 ≠ name := fun heq => h (by rw [← heq]; exact List.mem_cons_self)
    rw [List.cons_append, get?, if_neg hd, ih fun hmem => h (List.mem_cons_of_mem _ hmem)]

/-- Under distinct names a name does not stand before its own entry, which is what `alter_append` and `get?_append`
ask for. -/
theorem not_mem_names_of_nodup {name : Text} {pre post : Entries α} {a : α}
    (h : (names (pre ++ (name, a) :: post)).Nodup) : name ∉ names pre := by
  have hsplit : (names pre ++ name :: names post).Nodup := by
    have heq : names (pre ++ (name, a) :: post) = names pre ++ name :: names post := List.map_append
    rw [← heq]
    exact h
  exact fun hmem => (List.nodup_append.1 hsplit).2.2 name hmem name List.mem_cons_self rfl

/-- Under distinct names the entry of a name is the only one, and look-up is membership. -/
theorem get?_eq_some_iff {es : Entries α} (h : (names es).Nodup) {name : Text} {a : α} :
    get? name es = some a ↔ (name, a) ∈ es := by
  refine ⟨mem_of_get?, fun hmem => ?_⟩
  obtain ⟨pre, post, rfl⟩ := List.append_of_mem hmem
  exact get?_append (not_mem_names_of_nodup h) a post

/-- Under distinct names a change under one name is a map over all entries. In this form changes in an object look
like those in an array. -/
theorem alter_eq_filterMap {es : Entries α} (h : (names es).Nodup) (name : Text) (f : α → Option α) :
    alter name f es = es.filterMap fun e => (if e.1 = name then f e.2 else some e.2).map fun a => (e.1, a) := by
  induction es with
  | nil => simp [alter]
  | cons d es ih =>
    obtain ⟨hd, hnodup⟩ := List.nodup_cons.1 h
    rw [alter, List.filterMap_cons]
    by_cases hname : d.1 = name
    -- behind the entry that changes no other has its name, so the map leaves the rest as it is
    · have hrest : es.filterMap (fun e => (if e.1 = name then f e.2 else some e.2).map fun a => (e.1, a)) = es := by
        have hstay : ∀ e ∈ es, (if e.1 = name then f e.2 else some e.2).map (fun a => (e.1, a)) = some e := by
          intro e he
          have hne : e.1 ≠ name := fun heq => hd (by rw [hname, ← heq]; exact List.mem_map_of_mem he)
          simp [hne]
        rw [List.filterMap_congr hstay, List.filterMap_some]
      rw [if_pos hname, if_pos hname, hrest]
      cases f d.2 <;> rfl
    · simp [hname, ih hnodup]

end BodyScrub.Entries
