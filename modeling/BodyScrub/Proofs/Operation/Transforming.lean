import BodyScrub.Proofs.Operation.Progress

/-!
# Functions on addressed texts

A function takes the addressed nodes in document order and fails at the first one that is not a string. By then it has
worked on the strings before this one, and the document shows nothing else. So the failure and what is left of the
document are told by the first addressed node of another kind.

* **`Operation.textFor`**: what becomes of a text.
* **`ScrubStep.exists_of_apply_ofTexts`**: what a step with a function that fails has done by then.
-/

namespace BodyScrub

open Json (Value Position)

/-! ## Strings -/

namespace Json.Value

/-- Below a string there is no node. So whatever is put in place of a string by a function, no node further down
changes. -/
theorem get?_below_string {v : Value} {s : Text} {p q : Position} (h : v.get? p = some (.string s)) (hq : p <+: q)
    (hne : p ≠ q) : v.get? q = none := by
  obtain ⟨r, rfl⟩ := hq
  cases r with
  | nil => exact absurd (List.append_nil p).symm hne
  | cons t r =>
    rw [get?_append, h]
    cases t <;> rfl

end Json.Value

namespace Operation

/-! ## Functions that give texts -/

/-- What becomes of a text: with a pattern, the function applies to those in which it occurs. -/
def textFor (g : Text → Text) (pattern : Option Pattern) (s : Text) : Text :=
  if pattern.all (·.occursIn s) then g s else s

/-- The operation of a function that gives a text for every text. -/
def ofTexts (g : Text → Text) (pattern : Option Pattern) : Operation := .transform (fun t => .text (g t)) pattern

section

variable {g : Text → Text} {pattern : Option Pattern} {settings : Settings} {l : Location}

/-- On a string the turn of a function succeeds and leaves the text for it, be it new or, where the pattern does not
occur, the old one. -/
theorem update_ofTexts_of_string {s : Text} (h : l.value = .string s) :
    ∃ new, (ofTexts g pattern).update settings l = .ok new ∧ put (.ok new) l.value = .string (textFor g pattern s) := by
  obtain ⟨p, u⟩ := l
  obtain rfl : u = .string s := h
  unfold ofTexts textFor
  cases hoccurs : pattern.all (·.occursIn s) with
  | true => exact ⟨some (.string (g s)), by simp [update, transformed, hoccurs, Except.map], rfl⟩
  | false => exact ⟨none, by simp [update, transformed, hoccurs, Except.map], rfl⟩

/-- On any other value the turn fails, with the path of the node and the kind of its value. The function is not
called for it. -/
theorem update_ofTexts_of_ne_string (h : l.value.kind ≠ .string) :
    (ofTexts g pattern).update settings l = .error (.target l.path l.value.kind) := by
  obtain ⟨p, u⟩ := l
  cases u with
  | string s => exact absurd rfl h
  | _ => rfl

/-- A turn of a function succeeds on strings alone. So a loop over addressed nodes comes to an end only where all of
them are strings. -/
theorem kind_of_update_ofTexts {new : Option Value} (h : (ofTexts g pattern).update settings l = .ok new) :
    l.value.kind = .string := by
  by_contra hkind
  rw [update_ofTexts_of_ne_string hkind] at h
  cases h

/-- A turn that fails was not one on a string: a function that gives a text for every text has no failure of its
own. -/
theorem kind_ne_of_update_ofTexts {e : Fault} (h : (ofTexts g pattern).update settings l = .error e) :
    l.value.kind ≠ .string := by
  intro hkind
  obtain ⟨s, hs⟩ := Value.exists_of_kind_eq_string hkind
  obtain ⟨new, hnew, -⟩ := @update_ofTexts_of_string g pattern settings l s hs
  rw [hnew] at h
  cases h

end

/-- A loop of a function over strings that are apart leaves the text for each of them in its place. That the nodes
are strings is not asked for: the loop comes to an end. -/
theorem get?_updateEach_ofTexts {g : Text → Text} {pattern : Option Pattern} {settings : Settings} {ls : List Location}
    {v : Value} {n : Nat} (hapart : ls.Pairwise fun l m => ¬l.position <+: m.position ∧ ¬m.position <+: l.position)
    (hnode : ∀ l ∈ ls, v.get? l.position = some l.value)
    (h : (updateEach ((ofTexts g pattern).update settings) ls v).2 = .ok n) :
    ∀ l ∈ ls, ∃ s, l.value = .string s
      ∧ (updateEach ((ofTexts g pattern).update settings) ls v).1.get? l.position
        = some (.string (textFor g pattern s)) := by
  intro l hl
  obtain ⟨new, hnew⟩ := exists_of_updateEach h l hl
  obtain ⟨s, hs⟩ := Value.exists_of_kind_eq_string (kind_of_update_ofTexts hnew)
  obtain ⟨new', hnew', hput⟩ := @update_ofTexts_of_string g pattern settings l s hs
  refine ⟨s, hs, ?_⟩
  rw [get?_updateEach hapart hnode h l hl, hnew', hput]

end Operation

namespace ScrubStep

open Operation (textFor ofTexts updateEach)

section

variable {g : Text → Text} {pattern : Option Pattern} {p : Path} {d : Document}

/-- A step with a function is one loop over the addressed nodes, counted together with their number. -/
theorem apply_ofTexts : apply ⟨p, ofTexts g pattern⟩ d
    = (⟨(updateEach ((ofTexts g pattern).update d.settings) (d.locate p) d.root).1, d.settings⟩,
      (updateEach ((ofTexts g pattern).update d.settings) (d.locate p) d.root).2.map fun changed =>
        ⟨(d.locate p).length, changed⟩) := rfl

/-- A step with a function comes to an end if and only if all addressed nodes are strings. The pattern does not
matter, as the kind is looked at before. -/
theorem apply_ofTexts_eq_ok_iff :
    (∃ t, (apply ⟨p, ofTexts g pattern⟩ d).2 = .ok t) ↔ ∀ l ∈ d.locate p, l.value.kind = .string := by
  rw [apply_ofTexts]
  constructor
  · rintro ⟨t, ht⟩ l hl
    obtain ⟨n, hn, -⟩ := exists_of_map_eq_ok ht
    obtain ⟨new, hnew⟩ := Operation.exists_of_updateEach hn l hl
    exact Operation.kind_of_update_ofTexts hnew
  -- every turn is one on a string, so none fails
  · intro hkind
    have hturns : ∀ l ∈ d.locate p, ∃ new, (ofTexts g pattern).update d.settings l = .ok new := by
      intro l hl
      obtain ⟨s, hs⟩ := Value.exists_of_kind_eq_string (hkind l hl)
      obtain ⟨new, hnew, -⟩ := Operation.update_ofTexts_of_string hs
      exact ⟨new, hnew⟩
    obtain ⟨n, hn⟩ := Operation.exists_updateEach_eq_ok hturns d.root
    exact ⟨⟨(d.locate p).length, n⟩, by rw [hn]; rfl⟩

/-- A function that fails does so at the first node that is not a string, with the strings before it done. Whatever
is not one of these strings keeps its shell; the positions below them had no node before and have none now. -/
theorem exists_of_apply_ofTexts {okName : Text → Prop} {depth : Nat} (hd : d.root.Regular okName depth) {d' : Document}
    {e : Fault} (h : apply ⟨p, ofTexts g pattern⟩ d = (d', .error e)) :
    ∃ before l after, d.locate p = before ++ l :: after ∧ (∀ m ∈ before, m.value.kind = .string)
      ∧ l.value.kind ≠ .string ∧ e = .target l.path l.value.kind ∧ d'.settings = d.settings
      ∧ (∀ m ∈ before, ∃ s, d.root.get? m.position = some (.string s)
          ∧ d'.root.get? m.position = some (.string (textFor g pattern s)))
      ∧ ∀ q, (∀ m ∈ before, m.position ≠ q) →
          (d'.root.get? q).map Value.shell = (d.root.get? q).map Value.shell := by
  rw [apply_ofTexts] at h
  obtain ⟨rfl, hresult⟩ := Prod.mk.inj h
  obtain ⟨before, l, after, hsplit, hturns, hl⟩ := Operation.exists_of_updateEach_eq_error (eq_error_of_map hresult)
  obtain ⟨n, hn⟩ := Operation.exists_updateEach_eq_ok hturns d.root
  -- the document is left as the turns before the failing one have made it
  have hroot : (updateEach ((ofTexts g pattern).update d.settings) (d.locate p) d.root).1
      = (updateEach ((ofTexts g pattern).update d.settings) before d.root).1 := by
    rw [hsplit]
    exact Operation.fst_updateEach_stop hn hl
  have hmem : ∀ m ∈ before, m ∈ d.locate p := fun m hm => by simp [hsplit, hm]
  have hnode : ∀ m ∈ before, d.root.get? m.position = some m.value :=
    fun m hm => ((mem_resolveSegments_iff hd).1 (hmem m hm)).2
  have hapart : before.Pairwise fun l m => ¬l.position <+: m.position ∧ ¬m.position <+: l.position := by
    have hall := pairwise_apart hd p.segments
    rw [show resolveSegments p.segments d.root = before ++ l :: after from hsplit] at hall
    exact (List.pairwise_append.1 hall).1
  have htexts := Operation.get?_updateEach_ofTexts hapart hnode hn
  have hkind : l.value.kind ≠ .string := Operation.kind_ne_of_update_ofTexts hl
  have hfault : e = .target l.path l.value.kind := by
    rw [Operation.update_ofTexts_of_ne_string hkind] at hl
    exact (Except.error.inj hl).symm
  refine ⟨before, l, after, hsplit, ?_, hkind, hfault, rfl, ?_, ?_⟩
  · intro m hm
    obtain ⟨s, hs, -⟩ := htexts m hm
    rw [hs]
    rfl
  · intro m hm
    obtain ⟨s, hs, hnew⟩ := htexts m hm
    exact ⟨s, (hnode m hm).trans (congrArg some hs), (congrArg (Value.get? m.position) hroot).trans hnew⟩
  · intro q hq
    show ((updateEach _ (d.locate p) d.root).1.get? q).map _ = _
    rw [hroot]
    by_cases habove : ∃ m ∈ before, m.position <+: q
    · -- the node would be below a string, before and after
      obtain ⟨m, hm, hprefix⟩ := habove
      obtain ⟨s, hs, hnew⟩ := htexts m hm
      have hold : d.root.get? m.position = some (.string s) := (hnode m hm).trans (congrArg some hs)
      rw [Value.get?_below_string hnew hprefix (hq m hm), Value.get?_below_string hold hprefix (hq m hm)]
    · exact Operation.shell_get?_updateEach (fun m hm hprefix => habove ⟨m, hm, hprefix⟩) d.root

end

/-- A step with a function that gives a text for every text comes to an end if and only if it addresses strings alone;
else it fails because of the first addressed node in document order that is not a string, with the path and the kind of
this node. By then the strings before this one have their new texts, and every other node of the document has its kind
and its names in their order, its number of items or its value as before. -/
theorem apply_transform (g : Text → Text) (pattern : Option Pattern) (p : Path) {d : Document} {okName : Text → Prop}
    {depth : Nat} (hd : d.root.Regular okName depth) :
    ((∃ t, (apply ⟨p, ofTexts g pattern⟩ d).2 = .ok t) ↔ ∀ l ∈ d.locate p, l.value.kind = .string)
      ∧ ((∃ place kind, (apply ⟨p, ofTexts g pattern⟩ d).2 = .error (.target place kind))
        ↔ ∃ l ∈ d.locate p, l.value.kind ≠ .string)
      ∧ ∀ d' e, apply ⟨p, ofTexts g pattern⟩ d = (d', .error e) → ∃ before l after,
          d.locate p = before ++ l :: after
            ∧ (∀ m ∈ before, m.value.kind = .string ∧ d.root.Before m.position l.position)
            ∧ (∀ m ∈ after, d.root.Before l.position m.position)
            ∧ l.value.kind ≠ .string ∧ e = .target l.path l.value.kind
            ∧ e.report = .failure (.ofTarget l.path l.value.kind.text none none [])
            ∧ d'.settings = d.settings
            ∧ (∀ m ∈ before, ∃ s, d.root.get? m.position = some (.string s)
                ∧ d'.root.get? m.position = some (.string (textFor g pattern s)))
            ∧ ∀ q, (∀ m ∈ before, m.position ≠ q) →
                (d'.root.get? q).map Value.shell = (d.root.get? q).map Value.shell := by
  refine ⟨apply_ofTexts_eq_ok_iff, ⟨?_, ?_⟩, ?_⟩
  · rintro ⟨place, kind, hfault⟩
    obtain ⟨before, l, after, hsplit, -, hkind, -⟩ := exists_of_apply_ofTexts hd (Prod.ext rfl hfault)
    exact ⟨l, by simp [hsplit], hkind⟩
  -- a step that came to an end would have found strings alone
  · rintro ⟨l, hl, hkind⟩
    cases hresult : (apply ⟨p, ofTexts g pattern⟩ d).2 with
    | ok t => exact absurd (apply_ofTexts_eq_ok_iff.1 ⟨t, hresult⟩ l hl) hkind
    | error e =>
      obtain ⟨before, m, after, -, -, -, hfault, -⟩ := exists_of_apply_ofTexts hd (Prod.ext rfl hresult)
      exact ⟨m.path, m.value.kind, congrArg _ hfault⟩
  · intro d' e h
    obtain ⟨before, l, after, hsplit, hstrings, hkind, rfl, hrest⟩ := exists_of_apply_ofTexts hd h
    have horder := pairwise_before hd p.segments
    rw [show resolveSegments p.segments d.root = before ++ l :: after from hsplit] at horder
    obtain ⟨-, hfrom, hbefore⟩ := List.pairwise_append.1 horder
    exact ⟨before, l, after, hsplit, fun m hm => ⟨hstrings m hm, hbefore m hm l List.mem_cons_self⟩,
      (List.pairwise_cons.1 hfrom).1, hkind, rfl, rfl, hrest⟩

/-- Texts with a digit are turned round, and the third member is a number: the first member has its new text, the second
one has no digit, and the fourth one is not reached. -/
theorem apply_transform_reversed :
    ∃ d d' r, Document.read Settings.builtIn "\x7b\"a\":\"x1\",\"b\":\"yz\",\"c\":2,\"d\":\"w3\"\x7d" = .ok d
      ∧ PatternSource.read (.text "[0-9]") = .ok r
      ∧ apply ⟨⟨[.wildcard]⟩, ofTexts List.reverse (some r)⟩ d = (d', .error (.target "$.c" .number))
      ∧ d'.text = .ok "\x7b\"a\":\"1x\",\"b\":\"yz\",\"c\":2,\"d\":\"w3\"\x7d"
      ∧ ∃ before l after, d.locate ⟨[.wildcard]⟩ = before ++ l :: after
          ∧ l.value.kind ≠ .string ∧ Fault.target "$.c" .number = .target l.path l.value.kind
          ∧ ∀ q, (∀ m ∈ before, m.position ≠ q) →
              (d'.root.get? q).map Value.shell = (d.root.get? q).map Value.shell := by
  have hfound : ((Document.read Settings.builtIn
        "\x7b\"a\":\"x1\",\"b\":\"yz\",\"c\":2,\"d\":\"w3\"\x7d").toOption.bind fun d =>
      (PatternSource.read (.text "[0-9]")).toOption.map fun r =>
        ((apply ⟨⟨[.wildcard]⟩, ofTexts List.reverse (some r)⟩ d).1.text.toOption,
          match (apply ⟨⟨[.wildcard]⟩, ofTexts List.reverse (some r)⟩ d).2 with
          | .error (.target place kind) => some (place, kind)
          | _ => none))
      = some (some ("\x7b\"a\":\"1x\",\"b\":\"yz\",\"c\":2,\"d\":\"w3\"\x7d" : Text),
          some (("$.c" : Text), .number)) := by
    decide +kernel
  obtain ⟨d, hd, hpattern⟩ := Option.bind_eq_some_iff.1 hfound
  obtain ⟨r, hr, hpair⟩ := Option.map_eq_some_iff.1 hpattern
  obtain ⟨htext, hresult⟩ := Prod.mk.inj hpair
  have hread := Json.eq_ok_of_toOption hd
  have hregular := Json.regular_of_read (Document.read_eq_ok_iff.1 hread).1
  have hfault : (apply ⟨⟨[.wildcard]⟩, ofTexts List.reverse (some r)⟩ d).2 = .error (.target "$.c" .number) := by
    split at hresult
    · next place kind h =>
      obtain ⟨rfl, rfl⟩ := Prod.mk.inj (Option.some.inj hresult)
      exact h
    · cases hresult
  have happly : apply ⟨⟨[.wildcard]⟩, ofTexts List.reverse (some r)⟩ d
      = ((apply ⟨⟨[.wildcard]⟩, ofTexts List.reverse (some r)⟩ d).1, .error (.target "$.c" .number)) :=
    Prod.ext rfl hfault
  obtain ⟨-, -, hfailed⟩ := apply_transform List.reverse (some r) ⟨[.wildcard]⟩ hregular
  obtain ⟨before, l, after, hsplit, -, -, hkind, hplace, -, -, -, hkept⟩ := hfailed _ _ happly
  exact ⟨d, _, r, hread, Json.eq_ok_of_toOption hr, happly, Json.eq_ok_of_toOption htext, before, l, after, hsplit,
    hkind, hplace, hkept⟩

end ScrubStep

end BodyScrub
