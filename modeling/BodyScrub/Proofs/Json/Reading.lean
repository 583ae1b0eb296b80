import BodyScrub.Proofs.Json.Tokens

/-!
# Reading values

What is read as JSON is exactly the text of a spelling, and the value read is the value of the spelling
(`read_eq_ok_iff`). The fuel of the reader is never what stops it: twice the length of a text is enough for every
spelling of that length.

* **`readValue_text`**: the text of a spelling is read, whatever may follow it.
* **`exists_spelling_of_readValue`**: what is read has a spelling.
-/

namespace BodyScrub.Json

/-! ## How a value begins -/

/-- The code points with which a word or a number begins. -/
def opensScalar (c : CodePoint) : Bool :=
  c.isAsciiDigit || c = '-' || c = 'n' || c = 't' || c = 'f' || c = 'N' || c = 'I'

/-- The code points with which a value begins. -/
def opensValue (c : CodePoint) : Bool :=
  opensScalar c || c = CodePoint.quote || c = CodePoint.openBrace || c = '['

theorem opensValue_of_opensScalar {c : CodePoint} (h : opensScalar c = true) : opensValue c = true := by
  unfold opensValue
  rw [h]
  rfl

/-- A code point with which a word or a number begins is none of those with which they do not. The tests of the
reader are decided this way, one after the other. -/
theorem ne_of_opensScalar {c d : CodePoint} (hc : opensScalar c = true) (hd : opensScalar d = false) : c ≠ d := by
  rintro rfl
  rw [hc] at hd
  exact absurd hd (by decide)

/-- What opens a value is none of the code points that do not, a closing bracket above all. The reader looks for one
before it reads an item. -/
theorem ne_of_opensValue {c d : CodePoint} (hc : opensValue c = true) (hd : opensValue d = false) : c ≠ d := by
  rintro rfl
  rw [hc] at hd
  exact absurd hd (by decide)

/-- No value begins with a blank, so blanks are skipped up to its first code point and no further. -/
theorem not_isSpace_of_opensValue {c : CodePoint} (h : opensValue c = true) : isSpace c = false := by
  rw [Bool.eq_false_iff]
  intro hspace
  simp only [isSpace, Bool.or_eq_true, decide_eq_true_eq] at hspace
  rcases hspace with ((rfl | rfl) | rfl) | rfl
  · exact absurd h (by decide)
  · exact absurd h (by decide)
  · exact absurd h (by decide)
  · exact absurd h (by decide)

/-- A numeral begins with a minus or a digit, by which the reader knows that it is no word. -/
theorem Numeral.text_cons (n : Numeral) : ∃ c t, n.text = c :: t ∧ opensScalar c = true := by
  obtain ⟨c, t, htext, hc⟩ := n.magnitudeText_cons
  unfold Numeral.text
  split
  · exact ⟨_, _, rfl, rfl⟩
  · refine ⟨c, t, htext, ?_⟩
    unfold opensScalar
    rw [hc]
    rfl

theorem Atom.text_cons {a : Atom} (ha : ∀ gs, a ≠ .string gs) : ∃ c t, a.text = c :: t ∧ opensScalar c = true := by
  cases a with
  | word w v h =>
    rcases mem_wordValues.1 h with ⟨rfl, -⟩ | ⟨rfl, -⟩ | ⟨rfl, -⟩
    · exact ⟨_, _, rfl, rfl⟩
    · exact ⟨_, _, rfl, rfl⟩
    · exact ⟨_, _, rfl, rfl⟩
  | nonFinite w x h =>
    rcases mem_nonFiniteWords.1 h with ⟨rfl, -⟩ | ⟨rfl, -⟩ | ⟨rfl, -⟩
    · exact ⟨_, _, rfl, rfl⟩
    · exact ⟨_, _, rfl, rfl⟩
    · exact ⟨_, _, rfl, rfl⟩
  | number n => exact n.text_cons
  | string gs => exact absurd rfl (ha gs)

/-- A value begins with one of these, with a quote or with a bracket. In particular it has a text, so fuel that is
measured by the length of a text is spent on every value. -/
theorem Spelling.text_cons (s : Spelling) : ∃ c t, s.text = c :: t ∧ opensValue c = true := by
  cases s with
  | atom a =>
    rcases a.string_or with ⟨gs, rfl⟩ | ha
    · exact ⟨_, _, rfl, rfl⟩
    · obtain ⟨c, t, htext, hc⟩ := Atom.text_cons ha
      exact ⟨c, t, htext, opensValue_of_opensScalar hc⟩
  | emptyArray b => exact ⟨_, _, rfl, rfl⟩
  | emptyObject b => exact ⟨_, _, rfl, rfl⟩
  | array items => exact ⟨_, _, rfl, rfl⟩
  | object members => exact ⟨_, _, rfl, rfl⟩

theorem skipSpace_text (s : Spelling) (r : Text) : skipSpace (s.text ++ r) = s.text ++ r := by
  obtain ⟨c, t, htext, hc⟩ := s.text_cons
  rw [htext]
  exact skipSpace_cons (not_isSpace_of_opensValue hc) _

/-! ## One step of the reader -/

section Steps

variable (allowNonFinite : Bool) (fuel depth : Nat)

/-- A quote begins a string, and the reader of strings has the last word. -/
theorem readValue_quote {t s r : Text} (h : readString t false [] t = .ok (s, r)) :
    readValue allowNonFinite (fuel + 1) depth (CodePoint.quote :: t) = .ok (.string s, r) := by
  rw [readValue.eq_def]
  dsimp only
  rw [if_pos rfl, h]

/-- Letters, digits and a minus begin a word or a number. -/
theorem readValue_scalar {c : CodePoint} (hc : opensScalar c = true) (t : Text) :
    readValue allowNonFinite (fuel + 1) depth (c :: t) = readScalar allowNonFinite (c :: t) := by
  rw [readValue.eq_def]
  dsimp only
  rw [if_neg (ne_of_opensScalar hc (by decide)), if_neg (ne_of_opensScalar hc (by decide)),
    if_neg (ne_of_opensScalar hc (by decide))]

/-- A bracket that is closed after blanks is an array without items. The reader asks for this before it looks for an
item. -/
theorem readValue_emptyArray {t r : Text} (h : skipSpace t = CodePoint.ofChar ']' :: r) :
    readValue allowNonFinite (fuel + 1) (depth + 1) (CodePoint.ofChar '[' :: t) = .ok (.array [], r) := by
  rw [readValue, if_neg (by decide), if_neg (by decide), if_pos rfl, h]
  dsimp only
  rw [if_pos rfl]

/-- Where the bracket is not closed at once the items are read, one level further down. -/
theorem readValue_array {t u : Text} {c : CodePoint} (h : skipSpace t = c :: u) (hc : c ≠ ']') :
    readValue allowNonFinite (fuel + 1) (depth + 1) (CodePoint.ofChar '[' :: t)
      = readItems allowNonFinite fuel depth [] (c :: u) := by
  rw [readValue, if_neg (by decide), if_neg (by decide), if_pos rfl, h]
  dsimp only
  rw [if_neg hc]

theorem readValue_emptyObject {t r : Text} (h : skipSpace t = CodePoint.closeBrace :: r) :
    readValue allowNonFinite (fuel + 1) (depth + 1) (CodePoint.openBrace :: t) = .ok (.object [], r) := by
  rw [readValue, if_neg (by decide), if_pos rfl, h]
  dsimp only
  rw [if_pos rfl]

/-- Where the brace is not closed at once the members are read, one level further down. -/
theorem readValue_object {t u : Text} {c : CodePoint} (h : skipSpace t = c :: u) (hc : c ≠ CodePoint.closeBrace) :
    readValue allowNonFinite (fuel + 1) (depth + 1) (CodePoint.openBrace :: t)
      = readMembers allowNonFinite fuel depth [] (c :: u) := by
  rw [readValue, if_neg (by decide), if_pos rfl, h]
  dsimp only
  rw [if_neg hc]

variable {allowNonFinite fuel depth}

/-- An item before the bracket is the last one. The items were kept backwards, and come out in the order of the
text. -/
theorem readItems_last {t u r : Text} {v : Value} (done : List Value)
    (hv : readValue allowNonFinite fuel depth t = .ok (v, u)) (hu : skipSpace u = CodePoint.ofChar ']' :: r) :
    readItems allowNonFinite (fuel + 1) depth done t = .ok (.array (v :: done).reverse, r) := by
  rw [readItems, hv]
  dsimp only
  rw [hu]
  dsimp only
  rw [if_pos rfl]

/-- An item before a comma is kept, and the next one is read after blanks. -/
theorem readItems_next {t u r : Text} {v : Value} (done : List Value)
    (hv : readValue allowNonFinite fuel depth t = .ok (v, u)) (hu : skipSpace u = CodePoint.ofChar ',' :: r) :
    readItems allowNonFinite (fuel + 1) depth done t
      = readItems allowNonFinite fuel depth (v :: done) (skipSpace r) := by
  rw [readItems, hv]
  dsimp only
  rw [hu]
  dsimp only
  rw [if_neg (by decide), if_pos rfl]

/-- A name and a colon are read, and then what stands after the value decides. A name that was there before has its
value replaced. -/
theorem readMembers_lead (done : Entries Value) (name : List Glyph) (beforeColon afterColon : Blanks) {t u : Text}
    {v : Value} (hv : readValue allowNonFinite fuel depth (skipSpace t) = .ok (v, u)) :
    readMembers allowNonFinite (fuel + 1) depth done
        (CodePoint.quote :: (Glyph.textOf name ++ CodePoint.quote
          :: (beforeColon.text ++ CodePoint.ofChar ':' :: (afterColon.text ++ t))))
      = match skipSpace u with
        | [] => .error (.complaint .comma 0)
        | c :: r =>
          if c = CodePoint.closeBrace then .ok (.object (done.insert (Glyph.decode name) v), r)
          else if c = ',' then readMembers allowNonFinite fuel depth (done.insert (Glyph.decode name) v) (skipSpace r)
          else .error (.complaint .comma (r.length + 1)) := by
  rw [readMembers, if_pos rfl, readString_glyphs]
  dsimp only
  rw [Blanks.skipSpace_append, skipSpace_cons (by decide)]
  dsimp only
  rw [if_pos rfl, Blanks.skipSpace_append, hv]
  rfl

end Steps

/-! ## Spellings are read

The fuel in the statements is what the text needs: a container takes one step for itself and one for each of its
items, and an item is shorter than its container by at least one bracket. -/

/-- What closes an array may follow its last item, with blanks before it. -/
theorem follows_items (after : Blanks) (r : Text) : Follows (after.text ++ CodePoint.ofChar ']' :: r) :=
  (Follows.closer (by decide) r).blanks after

theorem follows_members (after : Blanks) (r : Text) : Follows (after.text ++ CodePoint.closeBrace :: r) :=
  (Follows.closer (by decide) r).blanks after

theorem follows_comma (after : Blanks) (r : Text) : Follows (after.text ++ CodePoint.ofChar ',' :: r) :=
  (Follows.closer (by decide) r).blanks after

/-- An atom is read as what it comes to, if what follows does not go on with it as more digits would. -/
theorem readValue_atom {allowNonFinite : Bool} {a : Atom} {v : Value} (hv : a.eval allowNonFinite = some v)
    {r : Text} (hr : Follows r) (fuel depth : Nat) :
    readValue allowNonFinite (fuel + 1) depth (a.text ++ r) = .ok (v, r) := by
  rcases a.string_or with ⟨gs, rfl⟩ | hscalar
  · obtain rfl : Value.string (Glyph.decode gs) = v := Option.some.inj hv
    show readValue allowNonFinite (fuel + 1) depth
      (CodePoint.quote :: (Glyph.textOf gs ++ [CodePoint.quote] ++ r)) = _
    rw [List.append_assoc]
    exact readValue_quote allowNonFinite fuel depth (readString_glyphs _ false [] gs r)
  -- a word or a number ends where it cannot go on
  · obtain ⟨c, t, htext, hc⟩ := Atom.text_cons hscalar
    have hread := readScalar_atom hv hscalar fun c hc => hr.not_continuesNumber hc
    rw [htext] at hread ⊢
    rw [List.cons_append, readValue_scalar allowNonFinite fuel depth hc]
    exact hread

/-- The text of items begins with a value, once blanks are skipped, and so not with a closing bracket. -/
theorem Items.text_cons (items : Items) (r : Text) :
    ∃ c t, skipSpace (items.text ++ r) = c :: t ∧ opensValue c = true := by
  cases items with
  | last before s after =>
    obtain ⟨c, t, htext, hc⟩ := s.text_cons
    refine ⟨c, t ++ (after.text ++ r), ?_, hc⟩
    rw [Items.text, List.append_assoc, List.append_assoc, Blanks.skipSpace_append, skipSpace_text, htext]
    rfl
  | cons before s after rest =>
    obtain ⟨c, t, htext, hc⟩ := s.text_cons
    refine ⟨c, t ++ (after.text ++ CodePoint.ofChar ',' :: (rest.text ++ r)), ?_, hc⟩
    rw [Items.text, List.append_assoc, List.append_assoc, List.append_assoc, Blanks.skipSpace_append, skipSpace_text,
      htext]
    rfl

/-- A member begins with a quote, once blanks are skipped, and goes on to its colon. This equation is the form in
which the reader of members meets a lead. -/
theorem Lead.text_append (lead : Lead) (t : Text) :
    skipSpace (lead.text ++ t) = CodePoint.quote :: (Glyph.textOf lead.name ++ CodePoint.quote
      :: (lead.beforeColon.text ++ CodePoint.ofChar ':' :: (lead.afterColon.text ++ t))) := by
  unfold Lead.text Lead.colonText
  simp only [List.append_assoc, List.cons_append]
  rw [Blanks.skipSpace_append, skipSpace_cons (by decide)]

/-- The text of members begins with a quote, and so not with a closing brace. -/
theorem Members.text_cons (members : Members) (r : Text) :
    ∃ t, skipSpace (members.text ++ r) = CodePoint.quote :: t := by
  cases members with
  | last lead s after =>
    rw [Members.text, List.append_assoc, List.append_assoc, Lead.text_append]
    exact ⟨_, rfl⟩
  | cons lead s after rest =>
    rw [Members.text, List.append_assoc, List.append_assoc, List.append_assoc, Lead.text_append]
    exact ⟨_, rfl⟩

mutual

/-- The text of a spelling is read as its value, whatever may follow it. The three statements go along the spelling,
and each call within has less text before it. -/
theorem readValue_text (allowNonFinite : Bool) (s : Spelling) (fuel depth : Nat) {v : Value}
    (hv : s.eval allowNonFinite depth = some v) {r : Text} (hr : Follows r) (hfuel : 2 * s.text.length ≤ fuel) :
    readValue allowNonFinite fuel depth (s.text ++ r) = .ok (v, r) := by
  cases fuel with
  | zero =>
    -- a spelling is never empty, so its fuel is not spent
    obtain ⟨c, t, htext, -⟩ := s.text_cons
    rw [htext, List.length_cons] at hfuel
    omega
  | succ fuel =>
    cases s with
    | atom a =>
      rw [Spelling.eval] at hv
      exact readValue_atom hv hr fuel depth
    | emptyArray b =>
      obtain ⟨depth, rfl, rfl⟩ := Spelling.eval_emptyArray.1 hv
      refine readValue_emptyArray allowNonFinite fuel depth ?_
      show skipSpace (b.text ++ [CodePoint.ofChar ']'] ++ r) = _
      rw [List.append_assoc, Blanks.skipSpace_append]
      exact skipSpace_cons (by decide) r
    | emptyObject b =>
      obtain ⟨depth, rfl, rfl⟩ := Spelling.eval_emptyObject.1 hv
      refine readValue_emptyObject allowNonFinite fuel depth ?_
      show skipSpace (b.text ++ [CodePoint.closeBrace] ++ r) = _
      rw [List.append_assoc, Blanks.skipSpace_append]
      exact skipSpace_cons (by decide) r
    | array items =>
      obtain ⟨depth, vs, rfl, hvs, rfl⟩ := Spelling.eval_array.1 hv
      obtain ⟨c, t, htext, hc⟩ := items.text_cons (CodePoint.ofChar ']' :: r)
      have hlen : (Spelling.array items).text.length = items.text.length + 2 := by
        simp [Spelling.text]
      -- the two brackets pay for the step into the array and for the last one of its items
      have hitems := readItems_text allowNonFinite items fuel depth hvs [] r (by omega)
      rw [htext] at hitems
      rw [Spelling.text, List.append_assoc]
      exact (readValue_array allowNonFinite fuel depth htext (ne_of_opensValue hc (by decide))).trans hitems
    | object members =>
      obtain ⟨depth, ms, rfl, hms, rfl⟩ := Spelling.eval_object.1 hv
      obtain ⟨t, htext⟩ := members.text_cons (CodePoint.closeBrace :: r)
      have hlen : (Spelling.object members).text.length = members.text.length + 2 := by
        simp [Spelling.text]
      have hmembers := readMembers_text allowNonFinite members fuel depth hms [] r (by omega)
      rw [htext] at hmembers
      rw [Spelling.text, List.append_assoc]
      exact (readValue_object allowNonFinite fuel depth htext (by decide)).trans hmembers

/-- The items of an array are read up to its bracket, behind those that were read before. The fuel counts two for
each code point, one for the item and one for the value in it. -/
theorem readItems_text (allowNonFinite : Bool) (items : Items) (fuel depth : Nat) {vs : List Value}
    (hvs : items.eval allowNonFinite depth = some vs) (done : List Value) (r : Text)
    (hfuel : 2 * items.text.length + 1 ≤ fuel) :
    readItems allowNonFinite fuel depth done (skipSpace (items.text ++ CodePoint.ofChar ']' :: r))
      = .ok (.array (done.reverse ++ vs), r) := by
  cases fuel with
  | zero => exact absurd hfuel (by omega)
  | succ fuel =>
    cases items with
    | last before s after =>
      -- after the last item the bracket is found, with nothing but blanks before it
      obtain ⟨v, hv, rfl⟩ := Items.eval_last.1 hvs
      have hlen : (Items.last before s after).text.length
          = before.text.length + s.text.length + after.text.length := by
        simp only [Items.text, List.length_append]
      have hread := readValue_text allowNonFinite s fuel depth hv (follows_items after r) (by omega)
      rw [Items.text, List.append_assoc, List.append_assoc, Blanks.skipSpace_append, skipSpace_text,
        readItems_last done hread, List.reverse_cons]
      rw [Blanks.skipSpace_append]
      exact skipSpace_cons (by decide) r
    | cons before s after rest =>
      obtain ⟨v, ws, hv, hws, rfl⟩ := Items.eval_cons.1 hvs
      have hlen : (Items.cons before s after rest).text.length
          = before.text.length + s.text.length + after.text.length + (rest.text.length + 1) := by
        simp only [Items.text, List.length_append, List.length_cons]
      have hread := readValue_text allowNonFinite s fuel depth hv
        (follows_comma after (rest.text ++ CodePoint.ofChar ']' :: r)) (by omega)
      -- the comma pays for the step to the next item
      rw [Items.text, List.append_assoc, List.append_assoc, List.append_assoc, Blanks.skipSpace_append,
        skipSpace_text, List.cons_append, readItems_next done hread,
        readItems_text allowNonFinite rest fuel depth hws (v :: done) r (by omega), List.reverse_cons,
        List.append_assoc]
      · rfl
      · rw [Blanks.skipSpace_append]
        exact skipSpace_cons (by decide) _

/-- The members of an object are read up to its brace, and put in behind those that were read before. A name that
occurs again keeps its place and gets the new value, as `Entries.insertAll` says. -/
theorem readMembers_text (allowNonFinite : Bool) (members : Members) (fuel depth : Nat)
    {ms : List (Text × Value)} (hms : members.eval allowNonFinite depth = some ms) (done : Entries Value) (r : Text)
    (hfuel : 2 * members.text.length + 1 ≤ fuel) :
    readMembers allowNonFinite fuel depth done (skipSpace (members.text ++ CodePoint.closeBrace :: r))
      = .ok (.object (Entries.insertAll ms done), r) := by
  cases fuel with
  | zero => exact absurd hfuel (by omega)
  | succ fuel =>
    cases members with
    | last lead s after =>
      -- after the last member the brace is found
      obtain ⟨v, hv, rfl⟩ := Members.eval_last.1 hms
      have hlen : (Members.last lead s after).text.length
          = lead.text.length + s.text.length + after.text.length := by
        simp only [Members.text, List.length_append]
      have hread := readValue_text allowNonFinite s fuel depth hv (follows_members after r) (by omega)
      rw [← skipSpace_text s] at hread
      rw [Members.text, List.append_assoc, List.append_assoc, Lead.text_append,
        readMembers_lead done lead.name lead.beforeColon lead.afterColon hread, Blanks.skipSpace_append,
        skipSpace_cons (by decide)]
      dsimp only
      rw [if_pos rfl]
      rfl
    | cons lead s after rest =>
      -- the comma pays for the step to the next member
      obtain ⟨v, ws, hv, hws, rfl⟩ := Members.eval_cons.1 hms
      have hlen : (Members.cons lead s after rest).text.length
          = lead.text.length + s.text.length + after.text.length + (rest.text.length + 1) := by
        simp only [Members.text, List.length_append, List.length_cons]
      have hread := readValue_text allowNonFinite s fuel depth hv
        (follows_comma after (rest.text ++ CodePoint.closeBrace :: r)) (by omega)
      rw [← skipSpace_text s] at hread
      rw [Members.text, List.append_assoc, List.append_assoc, List.append_assoc, Lead.text_append, List.cons_append,
        readMembers_lead done lead.name lead.beforeColon lead.afterColon hread, Blanks.skipSpace_append,
        skipSpace_cons (by decide)]
      dsimp only
      rw [if_neg (by decide), if_pos rfl]
      exact readMembers_text allowNonFinite rest fuel depth hws _ r (by omega)

end

/-! ## What is read has a spelling

The induction is on the fuel, of which every call within takes a step. -/

/-- The blanks that were skipped around a name and its colon make them a lead. None of these blanks is in the value
that is read, but a spelling has to keep them. -/
theorem Lead.text_eq {t u w : Text} {name : List Glyph}
    (ht : skipSpace t = CodePoint.quote :: (Glyph.textOf name ++ CodePoint.quote :: u))
    (hu : skipSpace u = CodePoint.ofChar ':' :: w) :
    t = (Lead.mk (Blanks.leading t) name (Blanks.leading u) (Blanks.leading w)).text ++ skipSpace w := by
  have hbefore := Blanks.leading_append t
  have hbeforeColon := Blanks.leading_append u
  have hafterColon := Blanks.leading_append w
  rw [ht] at hbefore
  rw [hu] at hbeforeColon
  unfold Lead.text Lead.colonText
  simp only [List.append_assoc, List.cons_append]
  rw [hafterColon, hbeforeColon, hbefore]

/-- A member that is read begins with a name and a colon. What stands behind its value closes the object or goes on
to the next member. -/
theorem exists_lead_of_readMembers {allowNonFinite : Bool} {fuel depth : Nat} {done : Entries Value} {t r : Text}
    {v : Value} (h : readMembers allowNonFinite (fuel + 1) depth done (skipSpace t) = .ok (v, r)) :
    ∃ (lead : Lead) (u x : Text) (w : Value), t = lead.text ++ u ∧ readValue allowNonFinite fuel depth u = .ok (w, x)
      ∧ ∃ (c : CodePoint) (y : Text), skipSpace x = c :: y
        ∧ (c = CodePoint.closeBrace ∧ v = .object (done.insert (Glyph.decode lead.name) w) ∧ y = r
          ∨ c = ',' ∧ readMembers allowNonFinite fuel depth (done.insert (Glyph.decode lead.name) w) (skipSpace y)
            = .ok (v, r)) := by
  rw [readMembers.eq_def] at h
  dsimp only at h
  split at h
  · exact absurd h (by simp)
  · next q t' ht =>
    split at h
    · next hq =>
      split at h
      · exact absurd h (by simp)
      · next name u hname =>
        obtain ⟨gs, rfl, rfl⟩ := exists_glyphs_of_readString _ _ _ hname
        split at h
        · exact absurd h (by simp)
        · next c w hu =>
          split at h
          · next hc =>
            -- the lead is what was skipped, the name and the colon between the two runs of blanks
            rw [hq] at ht
            rw [hc] at hu
            split at h
            · exact absurd h (by simp)
            · next value x hvalue =>
              refine ⟨⟨Blanks.leading t, gs, Blanks.leading u, Blanks.leading w⟩, skipSpace w, x, value,
                Lead.text_eq ht hu, hvalue, ?_⟩
              split at h
              · exact absurd h (by simp)
              · next d y hx =>
                refine ⟨d, y, hx, ?_⟩
                split at h
                · next hd =>
                  obtain ⟨rfl, rfl⟩ := Prod.mk.inj (Except.ok.inj h)
                  exact Or.inl ⟨hd, rfl, rfl⟩
                · split at h
                  · next hd => exact Or.inr ⟨hd, h⟩
                  · exact absurd h (by simp)
          · exact absurd h (by simp)
    · exact absurd h (by simp)

/-- The ways in which one step of the reader gives a value and a rest. -/
inductive ReadsValue (allowNonFinite : Bool) (fuel : Nat) : (depth : Nat) → Text → Value → Text → Prop where
  | string {depth : Nat} {t s r : Text} (h : readString t false [] t = .ok (s, r)) :
    ReadsValue allowNonFinite fuel depth (CodePoint.quote :: t) (.string s) r
  | emptyObject {depth : Nat} {t r : Text} (h : skipSpace t = CodePoint.closeBrace :: r) :
    ReadsValue allowNonFinite fuel (depth + 1) (CodePoint.openBrace :: t) (.object []) r
  | object {depth : Nat} {t r : Text} {v : Value}
    (h : readMembers allowNonFinite fuel depth [] (skipSpace t) = .ok (v, r)) :
    ReadsValue allowNonFinite fuel (depth + 1) (CodePoint.openBrace :: t) v r
  | emptyArray {depth : Nat} {t r : Text} (h : skipSpace t = CodePoint.ofChar ']' :: r) :
    ReadsValue allowNonFinite fuel (depth + 1) (CodePoint.ofChar '[' :: t) (.array []) r
  | array {depth : Nat} {t r : Text} {v : Value}
    (h : readItems allowNonFinite fuel depth [] (skipSpace t) = .ok (v, r)) :
    ReadsValue allowNonFinite fuel (depth + 1) (CodePoint.ofChar '[' :: t) v r
  | scalar {depth : Nat} {t r : Text} {v : Value} (h : readScalar allowNonFinite t = .ok (v, r)) :
    ReadsValue allowNonFinite fuel depth t v r

/-- One step of the reader is one of these. The tests it makes are gone through once, here, and the induction below
has one case for each way. -/
theorem readsValue_of_readValue {allowNonFinite : Bool} {fuel depth : Nat} {t r : Text} {v : Value}
    (h : readValue allowNonFinite (fuel + 1) depth t = .ok (v, r)) : ReadsValue allowNonFinite fuel depth t v r := by
  rw [readValue.eq_def] at h
  dsimp only at h
  split at h
  · exact absurd h (by simp)
  · next c t =>
    split at h
    · next hc =>
      rw [hc]
      split at h
      · next s u hs =>
        obtain ⟨rfl, rfl⟩ := Prod.mk.inj (Except.ok.inj h)
        exact .string hs
      · exact absurd h (by simp)
    · split at h
      · next hc =>
        rw [hc]
        split at h
        · exact absurd h (by simp)
        · next depth =>
          split at h
          · exact absurd h (by simp)
          · next d u hu =>
            split at h
            · next hd =>
              obtain ⟨rfl, rfl⟩ := Prod.mk.inj (Except.ok.inj h)
              exact .emptyObject (by rw [hu, hd])
            · rw [← hu] at h
              exact .object h
      · split at h
        · next hc =>
          rw [hc]
          split at h
          · exact absurd h (by simp)
          · next depth =>
            split at h
            · exact absurd h (by simp)
            · next d u hu =>
              split at h
              · next hd =>
                obtain ⟨rfl, rfl⟩ := Prod.mk.inj (Except.ok.inj h)
                exact .emptyArray (by rw [hu, hd])
              · rw [← hu] at h
                exact .array h
        · exact .scalar h

mutual

/-- A value that is read is spelled by what was read. The blanks that were skipped belong to the spelling, so no
code point is lost. -/
theorem exists_spelling_of_readValue {allowNonFinite : Bool} {fuel depth : Nat} {t r : Text} {v : Value}
    (h : readValue allowNonFinite fuel depth t = .ok (v, r)) :
    ∃ s : Spelling, t = s.text ++ r ∧ s.eval allowNonFinite depth = some v := by
  cases fuel with
  | zero => cases h
  | succ fuel =>
    cases readsValue_of_readValue h with
    | string hs =>
      obtain ⟨gs, rfl, rfl⟩ := exists_glyphs_of_readString _ _ _ hs
      refine ⟨.atom (.string gs), ?_, rfl⟩
      simp [Spelling.text, Atom.text]
    | @emptyObject _ t _ hclose =>
      refine ⟨.emptyObject (Blanks.leading t), ?_, rfl⟩
      rw [Spelling.text, List.append_assoc, List.singleton_append, ← hclose, List.cons_append, Blanks.leading_append]
    | object hmembers =>
      -- the brace that was taken off stands before the members again
      obtain ⟨members, ms, rfl, hms, rfl⟩ := exists_members_of_readMembers hmembers
      refine ⟨.object members, ?_, Spelling.eval_object.2 ⟨_, ms, rfl, hms, rfl⟩⟩
      simp [Spelling.text]
    | @emptyArray _ t _ hclose =>
      refine ⟨.emptyArray (Blanks.leading t), ?_, rfl⟩
      rw [Spelling.text, List.append_assoc, List.singleton_append, ← hclose, List.cons_append, Blanks.leading_append]
    | array hitems =>
      obtain ⟨items, vs, rfl, hvs, rfl⟩ := exists_items_of_readItems hitems
      refine ⟨.array items, ?_, Spelling.eval_array.2 ⟨_, vs, rfl, hvs, rfl⟩⟩
      simp [Spelling.text]
    | scalar hscalar =>
      -- a word or a number is an atom of its own
      obtain ⟨a, ht, ha⟩ := exists_atom_of_readScalar hscalar
      refine ⟨.atom a, ht, ?_⟩
      rw [Spelling.eval]
      exact ha

/-- Items that are read are spelled by what was read, up to the bracket. The blanks that the reader skipped before
an item are found again at its head. -/
theorem exists_items_of_readItems {allowNonFinite : Bool} {fuel depth : Nat} {done : List Value} {t r : Text}
    {v : Value} (h : readItems allowNonFinite fuel depth done (skipSpace t) = .ok (v, r)) :
    ∃ (items : Items) (vs : List Value), t = items.text ++ CodePoint.ofChar ']' :: r
      ∧ items.eval allowNonFinite depth = some vs ∧ v = .array (done.reverse ++ vs) := by
  cases fuel with
  | zero => cases h
  | succ fuel =>
    rw [readItems] at h
    split at h
    · exact absurd h (by simp)
    · next w u hw =>
      obtain ⟨s, hs, hvalue⟩ := exists_spelling_of_readValue hw
      have hbefore := Blanks.leading_append t
      have hafter := Blanks.leading_append u
      split at h
      · exact absurd h (by simp)
      · next c u' hu =>
        rw [hu] at hafter
        split at h
        · next hc =>
          -- the closing bracket makes this item the last one
          obtain ⟨rfl, rfl⟩ := Prod.mk.inj (Except.ok.inj h)
          refine ⟨.last (Blanks.leading t) s (Blanks.leading u), [w], ?_, Items.eval_last.2 ⟨w, hvalue, rfl⟩, ?_⟩
          · rw [Items.text, List.append_assoc, List.append_assoc, ← hc, hafter, ← hs, hbefore]
          · rw [List.reverse_cons]
        · split at h
          · next hc =>
            -- a comma leaves the other items to the fuel that is left
            obtain ⟨rest, ws, hrest, hws, rfl⟩ := exists_items_of_readItems h
            refine ⟨.cons (Blanks.leading t) s (Blanks.leading u) rest, w :: ws, ?_,
              Items.eval_cons.2 ⟨w, ws, hvalue, hws, rfl⟩, ?_⟩
            · rw [Items.text, List.append_assoc, List.append_assoc, List.append_assoc, List.cons_append, ← hrest,
                ← hc, hafter, ← hs, hbefore]
            · rw [List.reverse_cons, List.append_assoc]
              rfl
          · exact absurd h (by simp)

/-- Members that are read are spelled by what was read, up to the brace. The spelling has every member of the text,
also those that a later one of the same name displaced. -/
theorem exists_members_of_readMembers {allowNonFinite : Bool} {fuel depth : Nat} {done : Entries Value} {t r : Text}
    {v : Value} (h : readMembers allowNonFinite fuel depth done (skipSpace t) = .ok (v, r)) :
    ∃ (members : Members) (ms : List (Text × Value)), t = members.text ++ CodePoint.closeBrace :: r
      ∧ members.eval allowNonFinite depth = some ms ∧ v = .object (Entries.insertAll ms done) := by
  cases fuel with
  | zero => cases h
  | succ fuel =>
    obtain ⟨lead, u, x, w, ht, hw, c, y, hx, hcase⟩ := exists_lead_of_readMembers h
    obtain ⟨s, hs, hvalue⟩ := exists_spelling_of_readValue hw
    have hafter := Blanks.leading_append x
    rw [hx] at hafter
    -- the brace closes the object, or a comma leaves the rest to the fuel that is left
    rcases hcase with ⟨hc, rfl, rfl⟩ | ⟨hc, hrest⟩
    · refine ⟨.last lead s (Blanks.leading x), [(Glyph.decode lead.name, w)], ?_,
        Members.eval_last.2 ⟨w, hvalue, rfl⟩, rfl⟩
      rw [Members.text, List.append_assoc, List.append_assoc, ← hc, hafter, ← hs, ht]
    · obtain ⟨rest, ms, hy, hms, rfl⟩ := exists_members_of_readMembers hrest
      refine ⟨.cons lead s (Blanks.leading x) rest, (Glyph.decode lead.name, w) :: ms, ?_,
        Members.eval_cons.2 ⟨w, ms, hvalue, hms, rfl⟩, rfl⟩
      rw [Members.text, List.append_assoc, List.append_assoc, List.append_assoc, List.cons_append, ← hy, ← hc, hafter,
        ← hs, ht]

end

/-! ## Whole bodies -/

/-- Neither a blank nor the beginning of a value is a byte order mark, so the test for one never stops a body that
has a spelling. -/
theorem hasByteOrderMark_text (before : Blanks) (s : Spelling) (r : Text) :
    hasByteOrderMark (before.text ++ (s.text ++ r)) = false := by
  obtain ⟨text, hspaces⟩ := before
  cases text with
  | nil =>
    -- without blanks the body begins with its value
    obtain ⟨c, t, htext, hc⟩ := s.text_cons
    have hmark : opensValue (CodePoint.ofNat 0xFEFF) = false := by decide
    rw [htext]
    refine decide_eq_false fun hval => ?_
    rw [← hval, CodePoint.ofNat_val, hc] at hmark
    exact absurd hmark (by decide)
  | cons c t =>
    have hmark : isSpace (CodePoint.ofNat 0xFEFF) = false := by decide
    refine decide_eq_false fun hval => ?_
    rw [← hval, CodePoint.ofNat_val, hspaces c List.mem_cons_self] at hmark
    exact absurd hmark (by decide)

/-- What is read is what has a spelling, and the value read is that of the spelling. All that is shown of bodies
goes through spellings from here on. -/
theorem read_eq_ok_iff {allowNonFinite : Bool} {body : Text} {v : Value} :
    read allowNonFinite body = .ok v ↔ ∃ src : Source, src.text = body ∧ src.eval allowNonFinite = some v := by
  constructor
  · intro h
    unfold read at h
    split at h
    · next w hall =>
      obtain rfl : w = v := Except.ok.inj h
      unfold readAll at hall
      split at hall
      · exact absurd hall (by simp)
      · split at hall
        · exact absurd hall (by simp)
        · next u r hu =>
          split at hall
          · next hr =>
            obtain rfl : u = w := Except.ok.inj hall
            -- nothing but blanks is left after the value
            obtain ⟨s, hs, hvalue⟩ := exists_spelling_of_readValue hu
            refine ⟨⟨Blanks.leading body, s, Blanks.leading r⟩, ?_, hvalue⟩
            have hafter := Blanks.leading_append r
            rw [hr, List.append_nil] at hafter
            have hbefore := Blanks.leading_append body
            unfold Source.text
            dsimp only
            rw [hafter, List.append_assoc, ← hs, hbefore]
          · exact absurd hall (by simp)
    · exact absurd h (by simp)
    · exact absurd h (by simp)
  -- a spelling is read: no byte order mark stops it, the root is read, and only blanks are left
  · rintro ⟨⟨before, root, after⟩, rfl, hvalue⟩
    have hmark : hasByteOrderMark (before.text ++ root.text ++ after.text) = false := by
      rw [List.append_assoc]
      exact hasByteOrderMark_text before root after.text
    have hroot : readValue allowNonFinite (2 * (before.text ++ root.text ++ after.text).length + 2) maxDepth
        (root.text ++ after.text) = .ok (v, after.text) := by
      -- the reader starts with twice the length of the body, which is enough for the root
      refine readValue_text allowNonFinite root _ maxDepth hvalue ?_ ?_
      · have hfollows := Follows.nil.blanks after
        rw [List.append_nil] at hfollows
        exact hfollows
      · simp only [List.length_append]
        omega
    have hend : skipSpace after.text = [] := by
      have h := Blanks.skipSpace_append after []
      rw [List.append_nil] at h
      exact h
    unfold read readAll Source.text
    dsimp only
    rw [hmark, if_neg Bool.false_ne_true, List.append_assoc, Blanks.skipSpace_append, skipSpace_text,
      ← List.append_assoc, hroot]
    dsimp only
    rw [hend]

end BodyScrub.Json
