import BodyScrub.Filter

/-!
# What a merged filter is made of

A chain may hold chains and filters that do nothing, so what a filter does is told by its leaves: the filters that it
applies, in order. Applying a filter is applying its leaves. Merging two filters keeps the leaves of the first and then
of the second, and only merges neighbours among them.

* **`run_eq_runAll_leaves`**: a filter runs as its leaves do, notices included.
* **`Condenses`**: blocks of neighbours are each merged into one filter, and all else stays.
* **`Merges`**: how a merge is evaluated, call by call; a derivation is an evaluation that ends.
* **`condenses_merge`**, **`merges_iff`**: what `merge` gives, and that every evaluation ends with it.
-/

namespace BodyScrub

namespace Filter

/-! ## Runs in a row -/

/-- A run that goes on with what it gave, unless it failed. -/
def Run.andThen (r : Run) (next : Text → Run) : Run :=
  match r with
  | ⟨passes, .error e⟩ => ⟨passes, .error e⟩
  | ⟨passes, .ok t⟩ => ⟨passes ++ (next t).passes, (next t).result⟩

/-- Runs in a row may be put together from either side. The notices of the first come first in both ways, and what
follows a fault is not run. -/
theorem Run.andThen_assoc (r : Run) (f g : Text → Run) :
    (r.andThen f).andThen g = r.andThen fun t => (f t).andThen g := by
  obtain ⟨passes, result⟩ := r
  cases result with
  | error e => rfl
  | ok t =>
    unfold andThen
    dsimp only
    -- the second run may fail as well, and then the third is not run in either way
    generalize f t = s
    obtain ⟨more, result⟩ := s
    cases result with
    | error e => rfl
    | ok u => exact congrArg (Run.mk · _) (List.append_assoc _ _ _)

theorem Run.andThen_ok (t : Text) (f : Text → Run) : (Run.mk [] (.ok t)).andThen f = f t := rfl

theorem Run.ok_andThen (r : Run) : r.andThen (fun t => ⟨[], .ok t⟩) = r := by
  obtain ⟨passes, result⟩ := r
  cases result with
  | error e => rfl
  | ok t => exact congrArg (Run.mk · _) (List.append_nil _)

/-- The result of runs in a row, with the notices left out, is that of their results in a row. What is said on the
way has no effect on the text. -/
theorem Run.result_andThen (r : Run) (f : Text → Run) : (r.andThen f).result = r.result.bind fun t => (f t).result := by
  obtain ⟨passes, result⟩ := r
  cases result with
  | error e => rfl
  | ok t => rfl

/-- A chain runs the filters at its front and then the last one, as its definition says in terms of runs in a row.
It is the equation to unfold a chain with, since the definition goes through the list by itself. -/
theorem run_chain (mediaType : Option Text) (init : List Filter) (last : Filter) (body : Text) :
    (chain init last).run mediaType body = (runAll mediaType init body).andThen (run mediaType last) := by
  rw [run]
  split <;> simp only [*] <;> rfl

/-- Filters one after another run the first and then the rest. Proofs about rows of filters use this equation and
not the definition, which tells the two results apart. -/
theorem runAll_cons (mediaType : Option Text) (f : Filter) (fs : List Filter) (body : Text) :
    runAll mediaType (f :: fs) body = (f.run mediaType body).andThen (runAll mediaType fs) := by
  rw [runAll]
  split <;> simp only [*] <;> rfl

/-- Filters in two rows run as the one row, so a row may be cut where a proof needs it. -/
theorem runAll_append (mediaType : Option Text) (fs gs : List Filter) (body : Text) :
    runAll mediaType (fs ++ gs) body = (runAll mediaType fs body).andThen (runAll mediaType gs) := by
  induction fs generalizing body with
  | nil => rw [List.nil_append, runAll, Run.andThen_ok]
  | cons f fs ih =>
    rw [List.cons_append, runAll_cons, runAll_cons, Run.andThen_assoc]
    exact congrArg _ (funext ih)

theorem runAll_singleton (mediaType : Option Text) (f : Filter) (body : Text) :
    runAll mediaType [f] body = f.run mediaType body := by
  have hnil : runAll mediaType [] = fun t => ⟨[], .ok t⟩ := funext fun t => by rw [runAll]
  rw [runAll_cons, hnil, Run.ok_andThen]

/-! ## Leaves -/

mutual

/-- The filters that a filter applies one after another: a chain applies those of its parts. -/
def leaves : Filter → List Filter
  | noOp => []
  | path steps settings => [path steps settings]
  | property p => [property p]
  | external label run => [external label run]
  | chain init last => allLeaves init ++ leaves last

/-- The leaves of filters one after another. -/
def allLeaves : List Filter → List Filter
  | [] => []
  | f :: fs => leaves f ++ allLeaves fs

end

theorem allLeaves_append (fs gs : List Filter) : allLeaves (fs ++ gs) = allLeaves fs ++ allLeaves gs := by
  induction fs with
  | nil => rfl
  | cons f fs ih => rw [List.cons_append, allLeaves, allLeaves, ih, List.append_assoc]

mutual

/-- A filter runs as its leaves do, notices included. All facts about chains come from here: what holds of a row of
filters holds of a chain, however deep it is nested. -/
theorem run_eq_runAll_leaves (mediaType : Option Text) (f : Filter) (body : Text) :
    f.run mediaType body = runAll mediaType f.leaves body := by
  cases f with
  | noOp => rw [run, leaves, runAll]
  | chain init last =>
    -- what the front gives is handed to the last filter, and both run as their leaves do
    rw [leaves, run_chain, runAll_append, runAll_eq_runAll_allLeaves mediaType init body]
    exact congrArg _ (funext fun t => run_eq_runAll_leaves mediaType last t)
  | _ => rw [leaves, runAll_singleton]

/-- A row of filters runs as all their leaves do. Chains in chains make no difference, and what does nothing may be
left out. -/
theorem runAll_eq_runAll_allLeaves (mediaType : Option Text) (fs : List Filter) (body : Text) :
    runAll mediaType fs body = runAll mediaType (allLeaves fs) body := by
  cases fs with
  | nil => rfl
  | cons f fs =>
    rw [allLeaves, runAll_cons, runAll_append, run_eq_runAll_leaves mediaType f body]
    exact congrArg _ (funext fun t => runAll_eq_runAll_allLeaves mediaType fs t)

end

/-- What filters one after another give: each works on what the one before it gave, up to the first fault. This is
the form in which a row of leaves is compared with a merged filter. -/
theorem result_runAll (mediaType : Option Text) (fs : List Filter) (body : Text) :
    (runAll mediaType fs body).result = fs.foldlM (fun t f => f.apply mediaType t) body := by
  induction fs generalizing body with
  | nil => rfl
  | cons f fs ih =>
    rw [runAll_cons, Run.result_andThen, List.foldlM_cons]
    exact congrArg _ (funext ih)

/-- Whether a filter is a chain. -/
def isChain : Filter → Bool
  | chain _ _ => true
  | _ => false

/-- Whether a filter is its own only leaf: neither a chain nor the filter that does nothing. -/
def isLeaf : Filter → Bool
  | noOp => false
  | f => !f.isChain

theorem leaves_of_isLeaf {f : Filter} (h : f.isLeaf = true) : f.leaves = [f] := by
  cases f with
  | noOp => cases h
  | chain init last => cases h
  | _ => rfl

/-- A leaf is no chain, which is the case in which `tryMerge` does not ask a last filter. -/
theorem not_isChain_of_isLeaf {f : Filter} (h : f.isLeaf = true) : f.isChain = false := by
  cases f with
  | chain init last => cases h
  | _ => rfl

/-- A leaf does something, so `merge` does not drop it. -/
theorem ne_noOp_of_isLeaf {f : Filter} (h : f.isLeaf = true) : f ≠ noOp := by
  rintro rfl
  cases h

mutual

/-- The leaves of a filter are leaves: chains are opened down to the bottom, and what does nothing is left out. -/
theorem isLeaf_of_mem_leaves {f g : Filter} (h : g ∈ f.leaves) : g.isLeaf = true := by
  cases f with
  | noOp => cases h
  | chain init last =>
    rcases List.mem_append.1 h with h | h
    · exact isLeaf_of_mem_allLeaves h
    · exact isLeaf_of_mem_leaves h
  | _ =>
    rw [List.mem_singleton.1 h]
    rfl

/-- The leaves of a row of filters are leaves. The induction over a chain needs this for the filters at its front. -/
theorem isLeaf_of_mem_allLeaves {fs : List Filter} {g : Filter} (h : g ∈ allLeaves fs) : g.isLeaf = true := by
  cases fs with
  | nil => cases h
  | cons f fs =>
    rcases List.mem_append.1 h with h | h
    · exact isLeaf_of_mem_leaves h
    · exact isLeaf_of_mem_allLeaves h

end

/-! ## Condensed rows of filters -/

/-- `after` is `before` with some blocks of neighbours each merged into one filter, from the first of the block to the
last. A block of one filter stays as it is. -/
inductive Condenses : (before after : List Filter) → Prop where
  | nil : Condenses [] []
  | block {f m : Filter} {fs before after : List Filter} (merged : fs.foldlM tryMerge f = some m)
    (rest : Condenses before after) : Condenses (f :: (fs ++ before)) (m :: after)

namespace Condenses

theorem refl (fs : List Filter) : Condenses fs fs := by
  induction fs with
  | nil => exact .nil
  | cons f fs ih => exact @block f f [] fs fs rfl ih

/-- Two rows are condensed side by side, since no block reaches from one into the other. -/
theorem append {fs fs' gs gs' : List Filter} (h : Condenses fs gs) (h' : Condenses fs' gs') :
    Condenses (fs ++ fs') (gs ++ gs') := by
  induction h with
  | nil => exact h'
  | block merged _ ih =>
    rw [List.cons_append, List.append_assoc]
    exact .block merged ih

/-- A filter that is merged into the last one joins its block. This is the step that a merge makes: it only ever
touches the last leaf. -/
theorem concat {before after : List Filter} {z b m : Filter} (h : Condenses before (after ++ [z]))
    (hmerge : z.tryMerge b = some m) : Condenses (before ++ [b]) (after ++ [m]) := by
  induction after generalizing before with
  | nil =>
    -- the block that ends with `z` is the last one, and `b` is added to it
    cases h with
    | @block f _ fs before _ merged rest =>
      cases rest
      have hblock : (fs ++ [b]).foldlM tryMerge f = some m := by
        rw [List.foldlM_append, merged]
        show (z.tryMerge b).bind some = some m
        rw [hmerge]
        rfl
      rw [List.append_nil, List.cons_append, ← List.append_nil (fs ++ [b])]
      exact .block hblock .nil
  | cons _ after ih =>
    -- the first block stays, and the rest is condensed as before
    cases h with
    | block merged rest =>
      rw [List.cons_append, List.append_assoc]
      exact .block merged (ih rest)

end Condenses

/-! ## What merging calls on -/

/-- A filter that is no chain is handed to `absorb`, whatever takes it in. -/
theorem tryMerge_of_not_isChain {b : Filter} (hb : b.isChain = false) (a : Filter) : a.tryMerge b = absorb b a := by
  cases b with
  | chain init last => cases hb
  | _ => rfl

/-- Merging with a row ends with merging the last filter of the row. The row is taken apart at its end, where the
definition goes on from its beginning. -/
theorem mergeAll_concat (a : Filter) (fs : List Filter) (z : Filter) :
    mergeAll a (fs ++ [z]) = merge (mergeAll a fs) z := by
  induction fs generalizing a with
  | nil => rw [List.nil_append, mergeAll, mergeAll, mergeAll]
  | cons f fs ih => rw [List.cons_append, mergeAll, mergeAll, ih]

/-- A chain takes in the filters of another chain one by one, so it never refuses it. -/
theorem tryMerge_chain_chain (init init' : List Filter) (last last' : Filter) :
    (chain init last).tryMerge (chain init' last') = some (mergeAll (chain init last) (init' ++ [last'])) := by
  rw [mergeAll_concat]
  rfl

/-- What cannot be merged is chained. With this equation facts about `merge` follow from those about `tryMerge`. -/
theorem merge_eq_getD {b : Filter} (hb : b ≠ noOp) (a : Filter) :
    merge a b = (a.tryMerge b).getD (chain [a] b) := by
  cases b with
  | noOp => exact absurd rfl hb
  | chain init last => cases a <;> rfl
  | _ =>
    rw [merge]
    rfl

/-- A chain takes in every filter: it merges it into its last one or puts it behind. So only leaves can refuse. -/
theorem isSome_tryMerge_chain (init : List Filter) (last b : Filter) :
    ((chain init last).tryMerge b).isSome = true := by
  cases hb : b.isChain with
  | true =>
    cases b with
    | chain init' last' =>
      rw [tryMerge_chain_chain]
      rfl
    | _ => cases hb
  | false =>
    rw [tryMerge_of_not_isChain hb, absorb]
    split <;> rfl

/-! ## Leaves of a merged filter -/

/-- A leaf that takes in another one is a leaf: two filters by path become one, and so do two property filters. -/
theorem isLeaf_of_absorb {a b m : Filter} (ha : a.isLeaf = true) (hb : b.isLeaf = true) (h : absorb b a = some m) :
    m.isLeaf = true := by
  cases a with
  | noOp => cases ha
  | chain init last => cases ha
  | external label run => cases h
  | path steps settings =>
    -- two filters by path are merged under the same settings only
    cases b with
    | path more others =>
      rw [absorb] at h
      split at h
      · exact Option.some.inj h ▸ rfl
      · cases h
    | _ => cases h
  | property p =>
    cases b with
    | property q =>
      obtain ⟨r, -, rfl⟩ := Option.map_eq_some_iff.1 h
      rfl
    | _ => cases h

/-- A leaf that is taken in comes last, or it is merged into the last leaf. No other leaf is touched, which is why
what is merged does the same as its parts in order. -/
theorem leaves_of_absorb {a b m : Filter} (hb : b.isLeaf = true) (h : absorb b a = some m) :
    m.leaves = a.leaves ++ [b]
      ∨ ∃ init z w, a.leaves = init ++ [z] ∧ z.tryMerge b = some w ∧ m.leaves = init ++ [w] := by
  cases a with
  | noOp =>
    -- what does nothing gives way, and has no leaf of its own
    obtain rfl : b = m := Option.some.inj h
    exact Or.inl (leaves_of_isLeaf hb)
  | chain init last =>
    -- the chain asks its last filter, so the induction hypothesis tells what happens to the last leaf
    rw [absorb] at h
    split at h
    · next merged hmerged =>
      obtain rfl := Option.some.inj h
      rcases leaves_of_absorb hb hmerged with hlast | ⟨front, z, w, hlast, hw, hmerged⟩
      · exact Or.inl (by rw [leaves, leaves, hlast, List.append_assoc])
      · refine Or.inr ⟨allLeaves init ++ front, z, w, ?_, hw, ?_⟩
        · rw [leaves, hlast, List.append_assoc]
        · rw [leaves, hmerged, List.append_assoc]
    · -- the last filter stays, and the leaf becomes the last one
      obtain rfl := Option.some.inj h
      refine Or.inl ?_
      rw [leaves, leaves, allLeaves_append, allLeaves, allLeaves, List.append_nil, leaves_of_isLeaf hb]
  | _ =>
    refine Or.inr ⟨[], _, m, rfl, (tryMerge_of_not_isChain (not_isChain_of_isLeaf hb) _).trans h, ?_⟩
    exact leaves_of_isLeaf (isLeaf_of_absorb rfl hb h)

/-- A leaf does not open a chain that follows it, but keeps it whole as the last filter of a new chain. The leaves
are those of both all the same. -/
theorem merge_chain_of_isLeaf {a : Filter} (ha : a.isLeaf = true) (init : List Filter) (last : Filter) :
    merge a (chain init last) = chain [a] (chain init last) := by
  cases a with
  | noOp => cases ha
  | chain front z => cases ha
  | _ => rfl

/-- Merging with a leaf condenses the row of leaves by at most that one step at its end: the leaf joins the last one
there, or it is put behind it. -/
theorem condenses_merge_of_isLeaf {a b : Filter} (hb : b.isLeaf = true) {before : List Filter}
    (h : Condenses before a.leaves) : Condenses (before ++ b.leaves) (merge a b).leaves := by
  rw [merge_eq_getD (ne_noOp_of_isLeaf hb), tryMerge_of_not_isChain (not_isChain_of_isLeaf hb), leaves_of_isLeaf hb]
  cases hm : absorb b a with
  | none =>
    -- what cannot be merged becomes the last filter of a chain
    have hchain : (chain [a] b).leaves = a.leaves ++ [b] := by
      rw [leaves, allLeaves, allLeaves, List.append_nil, leaves_of_isLeaf hb]
    rw [Option.getD_none, hchain]
    exact h.append (.refl [b])
  | some m =>
    rw [Option.getD_some]
    rcases leaves_of_absorb hb hm with hleaves | ⟨init, z, w, ha, hw, hleaves⟩
    · rw [hleaves]
      exact h.append (.refl [b])
    · rw [ha] at h
      rw [hleaves]
      exact h.concat hw

mutual

/-- Merging loses no leaf, and changes nothing but that neighbours are merged. The row `before` stands for what the
leaves of `a` have been condensed from so far. -/
theorem condenses_merge (a b : Filter) {before : List Filter} (h : Condenses before a.leaves) :
    Condenses (before ++ b.leaves) (merge a b).leaves := by
  cases b with
  | noOp =>
    -- what does nothing has no leaf to add
    rw [leaves, List.append_nil, merge]
    exact h
  | chain init last =>
    cases a with
    | noOp =>
      cases h
      exact .refl _
    | chain front z =>
      -- the filters of the second chain are taken in one by one, the last one last
      rw [merge, leaves, ← List.append_assoc]
      exact condenses_merge _ last (condenses_mergeAll _ init h)
    | _ =>
      rw [merge_chain_of_isLeaf rfl]
      exact h.append (.refl _)
  | _ => exact condenses_merge_of_isLeaf rfl h

/-- Merging with a row of filters condenses the leaves of all of them, by one `condenses_merge` after another. -/
theorem condenses_mergeAll (a : Filter) (fs : List Filter) {before : List Filter} (h : Condenses before a.leaves) :
    Condenses (before ++ allLeaves fs) (mergeAll a fs).leaves := by
  cases fs with
  | nil =>
    rw [allLeaves, List.append_nil, mergeAll]
    exact h
  | cons f fs =>
    rw [allLeaves, mergeAll, ← List.append_assoc]
    exact condenses_mergeAll _ fs (condenses_merge a f h)

end

/-! ## Evaluating a merge

`Merges` and its two companions follow the calls that a merge makes: a chain asks its last filter, or takes in the
filters of another chain one by one. A derivation is finite, so it stands for an evaluation that ends. -/

mutual

/-- The evaluation of `a` merged with `b` ends with `m`. -/
inductive Merges : (a b m : Filter) → Prop where
  | idle (a : Filter) : Merges a noOp a
  | merged {a b m : Filter} (hb : b ≠ noOp) (h : TriesMerge a b (some m)) : Merges a b m
  | chained {a b : Filter} (hb : b ≠ noOp) (h : TriesMerge a b none) : Merges a b (chain [a] b)

/-- The evaluation of one filter for `a` and then `b` ends with `r`. -/
inductive TriesMerge : (a b : Filter) → (r : Option Filter) → Prop where
  /-- Only a chain calls on others. -/
  | single {a : Filter} (ha : a.isChain = false) (b : Filter) : TriesMerge a b (a.tryMerge b)
  | all {init init' : List Filter} {last last' m : Filter}
    (h : MergesAll (chain init last) (init' ++ [last']) m) :
    TriesMerge (chain init last) (chain init' last') (some m)
  | intoLast {init : List Filter} {last b m : Filter} (hb : b.isChain = false) (h : TriesMerge last b (some m)) :
    TriesMerge (chain init last) b (some (chain init m))
  | behindLast {init : List Filter} {last b : Filter} (hb : b.isChain = false) (h : TriesMerge last b none) :
    TriesMerge (chain init last) b (some (chain (init ++ [last]) b))

/-- The evaluation of `a` merged with filters one after another ends with `m`. -/
inductive MergesAll : (a : Filter) → (fs : List Filter) → (m : Filter) → Prop where
  | nil (a : Filter) : MergesAll a [] a
  | cons {a f m n : Filter} {fs : List Filter} (h : Merges a f m) (rest : MergesAll m fs n) : MergesAll a (f :: fs) n

end

/-- An evaluation over a row goes on with one more filter at the end. The relation is built from the front, as the
rows are. -/
theorem MergesAll.concat {a m n z : Filter} {fs : List Filter} (h : MergesAll a fs m) (hz : Merges m z n) :
    MergesAll a (fs ++ [z]) n := by
  induction fs generalizing a with
  | nil =>
    cases h
    exact .cons hz (.nil n)
  | cons f fs ih =>
    cases h with
    | cons hf rest => exact .cons hf (ih rest)

/-! ### Every evaluation ends with the merged filter -/

mutual

/-- An evaluation that ends, ends with the merged filter. The three statements follow the derivation, as the calls
do. -/
theorem Merges.eq : ∀ {a b m : Filter}, Merges a b m → m = merge a b
  | a, _, _, .idle _ => by rw [merge]
  | a, b, _, .merged hb h => by
    rw [merge_eq_getD hb, ← h.eq]
    rfl
  | a, b, _, .chained hb h => by
    rw [merge_eq_getD hb, ← h.eq]
    rfl

/-- An attempt to merge that is evaluated is that of `tryMerge`, also where its result is that there is no such
filter. -/
theorem TriesMerge.eq : ∀ {a b : Filter} {r : Option Filter}, TriesMerge a b r → r = a.tryMerge b
  | _, _, _, .single _ _ => rfl
  | _, _, _, .all h => by rw [tryMerge_chain_chain, ← h.eq]
  | _, _, _, .intoLast hb h => by
    have hlast := h.eq
    rw [tryMerge_of_not_isChain hb] at hlast ⊢
    rw [absorb, ← hlast]
  | _, _, _, .behindLast hb h => by
    have hlast := h.eq
    rw [tryMerge_of_not_isChain hb] at hlast ⊢
    rw [absorb, ← hlast]

/-- Merging with a row, when it is evaluated, is `mergeAll`. The three relations are mutual, and so are these three
inductions. -/
theorem MergesAll.eq : ∀ {a m : Filter} {fs : List Filter}, MergesAll a fs m → m = mergeAll a fs
  | _, _, _, .nil _ => by rw [mergeAll]
  | _, _, _, .cons h rest => by rw [mergeAll, ← h.eq, ← rest.eq]

end

/-! ### There is an evaluation -/

/-- A chain hands a filter that is no chain down to its last one, and so on. The last filter is part of the chain,
so this comes to an end. -/
theorem triesMerge_of_not_isChain {b : Filter} (hb : b.isChain = false) (a : Filter) :
    TriesMerge a b (a.tryMerge b) := by
  cases a with
  | chain init last =>
    have hlast := triesMerge_of_not_isChain hb last
    rw [tryMerge_of_not_isChain hb] at hlast ⊢
    rw [absorb]
    -- the last filter took it in, or it goes behind the last one
    split
    · next m hm =>
      rw [hm] at hlast
      exact .intoLast hb hlast
    · next hm =>
      rw [hm] at hlast
      exact .behindLast hb hlast
  | _ => exact .single rfl b

/-- The evaluation of a merge is that of the attempt, and of nothing else. -/
theorem Merges.of_triesMerge {a b : Filter} (hb : b ≠ noOp) (h : TriesMerge a b (a.tryMerge b)) :
    Merges a b (merge a b) := by
  rw [merge_eq_getD hb]
  cases hr : a.tryMerge b with
  | none =>
    rw [hr] at h
    exact .chained hb h
  | some m =>
    rw [hr] at h
    exact .merged hb h

mutual

/-- Every merge has an evaluation that ends. The recursion is on the second filter: the row at its front is merged
in before its last one. -/
theorem merges_merge (a b : Filter) : Merges a b (merge a b) := by
  cases b with
  | noOp =>
    rw [merge]
    exact .idle a
  | chain init last =>
    refine .of_triesMerge (by simp) ?_
    cases a with
    | chain front z =>
      rw [tryMerge_chain_chain, mergeAll_concat]
      exact .all ((mergesAll_mergeAll _ init).concat (merges_merge _ last))
    | _ => exact .single rfl _
  | _ => exact .of_triesMerge (by simp) (triesMerge_of_not_isChain rfl a)

/-- Merging with a row can be evaluated. Its filters are parts of the second filter, so the recursion goes down. -/
theorem mergesAll_mergeAll (a : Filter) (fs : List Filter) : MergesAll a fs (mergeAll a fs) := by
  cases fs with
  | nil =>
    rw [mergeAll]
    exact .nil a
  | cons f fs =>
    rw [mergeAll]
    exact .cons (merges_merge a f) (mergesAll_mergeAll _ fs)

end

/-- A merge ends with `merge a b` and with nothing else. The relation follows the steps of merging without any fuel,
and this says that they come to an end. -/
theorem merges_iff {a b m : Filter} : Merges a b m ↔ m = merge a b :=
  ⟨Merges.eq, fun h => h ▸ merges_merge a b⟩

/-! ## Merging and leaves -/

/-- A filter does what its leaves do one after another, up to the first fault. The leaves of a merged filter are those
of the first and then of the second, with nothing changed but that some blocks of neighbours are each merged into one.
A chain always takes in what follows, and every evaluation of a merge ends. -/
theorem condenses_leaves_merge (a b : Filter) :
    (∀ mediaType body, a.apply mediaType body = a.leaves.foldlM (fun t f => f.apply mediaType t) body)
      ∧ Condenses (a.leaves ++ b.leaves) (merge a b).leaves
      ∧ (∀ init last, ((chain init last).tryMerge b).isSome = true)
      ∧ ∀ m, Merges a b m ↔ m = merge a b := by
  refine ⟨fun mediaType body => ?_, condenses_merge a b (.refl _), fun init last => isSome_tryMerge_chain init last b,
    fun m => merges_iff⟩
  unfold apply
  rw [run_eq_runAll_leaves]
  exact result_runAll mediaType a.leaves body

end Filter

end BodyScrub
