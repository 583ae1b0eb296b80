import BodyScrub.Json.Writer
import BodyScrub.Proofs.Json.Spelling
import Mathlib.Data.List.Chain

/-!
# Strings as they are written

A written string is a row of glyphs. What it decodes to is the string itself, with one exception: where everything
outside ASCII is escaped, two single surrogates next to each other become the escapes of a pair, and these are read
as one code point. `rewritten` is the string that comes back.

* **`rewritten_eq_self`**: a string without such a pair comes back unchanged.
* **`pairFree_decode`**: glyphs without a raw surrogate spell no such pair.
-/

namespace BodyScrub.Json

/-! ## Surrogates -/

/-- The upper ten bits of a large code point are written as a high surrogate, so the reader knows that the second
half is still to come. -/
theorem isHighSurrogate_ofNat {k : Nat} (h : k < 0x400) : (CodePoint.ofNat (0xD800 + k)).isHighSurrogate = true := by
  unfold CodePoint.isHighSurrogate
  rw [CodePoint.val_ofNat (by omega), Bool.and_eq_true, decide_eq_true_eq, decide_eq_true_eq]
  omega

/-- The lower ten bits are written as a low one. -/
theorem isLowSurrogate_ofNat {k : Nat} (h : k < 0x400) : (CodePoint.ofNat (0xDC00 + k)).isLowSurrogate = true := by
  unfold CodePoint.isLowSurrogate
  rw [CodePoint.val_ofNat (by omega), Bool.and_eq_true, decide_eq_true_eq, decide_eq_true_eq]
  omega

/-- No code point is both halves of a pair. A high surrogate that follows another one does not complete it. -/
theorem not_isLowSurrogate_of_isHigh {c : CodePoint} (h : c.isHighSurrogate = true) : c.isLowSurrogate = false := by
  unfold CodePoint.isHighSurrogate at h
  unfold CodePoint.isLowSurrogate
  rw [Bool.and_eq_true, decide_eq_true_eq, decide_eq_true_eq] at h
  rw [Bool.and_eq_false_iff, decide_eq_false_iff_not]
  omega

theorem not_isHighSurrogate_of_isLow {c : CodePoint} (h : c.isLowSurrogate = true) : c.isHighSurrogate = false := by
  cases hhigh : c.isHighSurrogate with
  | false => rfl
  | true => exact absurd h (by rw [not_isLowSurrogate_of_isHigh hhigh]; decide)

/-! ## Glyphs of written code points -/

theorem hexDigit?_hexDigit {d : Nat} (h : d < 16) : (Text.hexDigit d).hexDigit? = some d := by
  have hall : ∀ d : Fin 16, (Text.hexDigit d.val).hexDigit? = some d.val := by decide
  exact hall ⟨d, h⟩

/-- Four hexadecimal digits are read as the number below 2 ^ 16 that they were written for. Each digit is read by
itself, and the four are put together as a number of base 16. -/
theorem hex4?_hex {n : Nat} (h : n < 0x10000) :
    hex4? (Text.hexDigit (n / 16 / 16 / 16 % 16)) (Text.hexDigit (n / 16 / 16 % 16)) (Text.hexDigit (n / 16 % 16))
      (Text.hexDigit (n % 16)) = some n := by
  unfold hex4?
  rw [hexDigit?_hexDigit (Nat.mod_lt _ (by decide)), hexDigit?_hexDigit (Nat.mod_lt _ (by decide)),
    hexDigit?_hexDigit (Nat.mod_lt _ (by decide)), hexDigit?_hexDigit (Nat.mod_lt _ (by decide))]
  show some ((((0 * 16 + n / 16 / 16 / 16 % 16) * 16 + n / 16 / 16 % 16) * 16 + n / 16 % 16) * 16 + n % 16) = some n
  congr 1
  omega

namespace Glyph

/-- The escape of four hexadecimal digits for a number. -/
def escape (n : Nat) (h : n < 0x10000) : Glyph := .number _ _ _ _ n (hex4?_hex h)

/-- The escapes of a code point. -/
def escapes (c : CodePoint) : List Glyph :=
  if h : c.val < 0x10000 then [escape c.val h]
  else
    [escape (0xD800 + (c.val - 0x10000) / 0x400) (by have := c.lt; omega),
      escape (0xDC00 + (c.val - 0x10000) % 0x400) (by omega)]

/-- A code point as it is written. -/
def ofCodePoint (asciiOnly : Bool) (c : CodePoint) : List Glyph :=
  if hq : c = CodePoint.quote then [.letter c c (by rw [hq]; decide)]
  else if hb : c = CodePoint.backslash then [.letter c c (by rw [hb]; decide)]
  else if c.val = 8 then [.letter 'b' (CodePoint.ofNat 8) (by decide)]
  else if c.val = 9 then [.letter 't' (CodePoint.ofNat 9) (by decide)]
  else if c.val = 10 then [.letter 'n' (CodePoint.ofNat 10) (by decide)]
  else if c.val = 12 then [.letter 'f' (CodePoint.ofNat 12) (by decide)]
  else if c.val = 13 then [.letter 'r' (CodePoint.ofNat 13) (by decide)]
  else if hc : c.val < 0x20 then escapes c
  else if asciiOnly && 0x7E < c.val then escapes c
  else [.plain c ⟨hq, hb, by omega⟩]

/-- A string as it is written. -/
def written (asciiOnly : Bool) (s : Text) : List Glyph := s.flatMap (ofCodePoint asciiOnly)

/-- The escapes of a code point are written as the writer writes them, as one unit or two. -/
theorem textOf_escapes (c : CodePoint) : textOf (escapes c) = escapeUnits c := by
  unfold escapes escapeUnits
  split
  · rfl
  · rfl

/-- The three ways in which a code point is written: a letter escape, an escape of its number, or itself. -/
inductive Form (asciiOnly : Bool) (c : CodePoint) : Prop where
  | letter (e : CodePoint) (h : simpleEscape? e = some c) (small : c.val < 0x80)
      (glyphs : ofCodePoint asciiOnly c = [.letter e c h])
      (written : writeCodePoint asciiOnly c = [CodePoint.backslash, e])
  | escape (small : asciiOnly = false → c.val < 0x80) (glyphs : ofCodePoint asciiOnly c = escapes c)
      (written : writeCodePoint asciiOnly c = escapeUnits c)
  | plain (h : c ≠ CodePoint.quote ∧ c ≠ CodePoint.backslash ∧ 0x20 ≤ c.val) (small : asciiOnly = true → c.val < 0x80)
      (glyphs : ofCodePoint asciiOnly c = [.plain c h]) (written : writeCodePoint asciiOnly c = [c])

/-- Every code point is written in one of the three ways. The tests that the writer makes are gone through here,
once, for the glyphs and for the text. -/
theorem form (asciiOnly : Bool) (c : CodePoint) : Form asciiOnly c := by
  have hval : ∀ {n : Nat}, c.val = n → c = CodePoint.ofNat n := fun h => by rw [← h, CodePoint.ofNat_val]
  -- the tests stand in the order in which the writer makes them
  by_cases hq : c = CodePoint.quote
  · subst hq
    exact .letter CodePoint.quote (by decide) (by decide) rfl rfl
  by_cases hb : c = CodePoint.backslash
  · subst hb
    exact .letter CodePoint.backslash (by decide) (by decide) rfl rfl
  by_cases h8 : c.val = 8
  · rw [hval h8]
    exact .letter 'b' (by decide) (by decide) rfl rfl
  by_cases h9 : c.val = 9
  · rw [hval h9]
    exact .letter 't' (by decide) (by decide) rfl rfl
  by_cases h10 : c.val = 10
  · rw [hval h10]
    exact .letter 'n' (by decide) (by decide) rfl rfl
  by_cases h12 : c.val = 12
  · rw [hval h12]
    exact .letter 'f' (by decide) (by decide) rfl rfl
  by_cases h13 : c.val = 13
  · rw [hval h13]
    exact .letter 'r' (by decide) (by decide) rfl rfl
  by_cases hc : c.val < 0x20
  · refine .escape (fun _ => by omega) ?_ ?_
    · simp only [ofCodePoint, hq, hb, h8, h9, h10, h12, h13, hc, dif_neg, not_false_eq_true, if_false, dite_true]
    · simp [writeCodePoint, hq, hb, h8, h9, h10, h12, h13, hc]
  by_cases hascii : (asciiOnly && decide (0x7E < c.val)) = true
  · refine .escape (fun h => ?_) ?_ ?_
    · rw [h] at hascii
      exact absurd hascii (by simp)
    · simp only [ofCodePoint, hq, hb, h8, h9, h10, h12, h13, hc, hascii, dif_neg, not_false_eq_true, if_false, if_true]
    · simp [writeCodePoint, hq, hb, h8, h9, h10, h12, h13, hc, hascii]
  · refine .plain ⟨hq, hb, by omega⟩ (fun h => ?_) ?_ ?_
    · rw [h, Bool.true_and, decide_eq_true_eq] at hascii
      omega
    · simp only [ofCodePoint, hq, hb, h8, h9, h10, h12, h13, hc, hascii, dif_neg, not_false_eq_true, if_false,
        Bool.false_eq_true]
    · simp [writeCodePoint, hq, hb, h8, h9, h10, h12, h13, hc, hascii]

/-- The glyphs of a code point have the text that is written for it, whether it stands for itself or is escaped. -/
theorem textOf_ofCodePoint (asciiOnly : Bool) (c : CodePoint) :
    textOf (ofCodePoint asciiOnly c) = writeCodePoint asciiOnly c := by
  cases form asciiOnly c with
  | letter e h _ hglyphs hwritten =>
    rw [hglyphs, hwritten]
    rfl
  | escape _ hglyphs hwritten => rw [hglyphs, hwritten, textOf_escapes]
  | plain h _ hglyphs hwritten =>
    rw [hglyphs, hwritten]
    rfl

/-- The glyphs of a string have the text that is written for it, between the quotes. So to read a written string is
to decode these glyphs. -/
theorem textOf_written (asciiOnly : Bool) (s : Text) :
    textOf (written asciiOnly s) = s.flatMap (writeCodePoint asciiOnly) := by
  induction s with
  | nil => rfl
  | cons c s ih =>
    unfold written at ih ⊢
    rw [List.flatMap_cons, List.flatMap_cons, textOf_append, textOf_ofCodePoint, ih]

/-! ## Reading written strings -/

/-- An escape that does not complete a pair stands for its own code point. -/
theorem addEscaped_of_not {afterHigh : Bool} {n : Nat}
    (h : ¬(afterHigh = true ∧ (CodePoint.ofNat n).isLowSurrogate = true)) (done : Text) :
    addEscaped afterHigh n done = CodePoint.ofNat n :: done := by
  unfold addEscaped
  cases done with
  | nil => rfl
  | cons c done =>
    dsimp only
    rw [if_neg]
    rw [Bool.and_eq_true]
    exact h

/-- The escapes of a code point are read as that code point, also after another escape, unless it is a low surrogate
that completes a pair with what came before. -/
theorem decodeFrom_escapes {afterHigh : Bool} {c : CodePoint}
    (h : ¬(afterHigh = true ∧ c.isLowSurrogate = true)) (done : Text) (gs : List Glyph) :
    decodeFrom afterHigh done (escapes c ++ gs) = decodeFrom c.isHighSurrogate (c :: done) gs := by
  unfold escapes
  split
  -- one escape is enough
  · show decodeFrom (CodePoint.ofNat c.val).isHighSurrogate (addEscaped afterHigh c.val done) gs = _
    rw [addEscaped_of_not (by rw [CodePoint.ofNat_val]; exact h), CodePoint.ofNat_val]
  · next hbig =>
    -- the escape of the high surrogate waits for that of the low one
    have hlt := c.lt
    have hhigh := isHighSurrogate_ofNat (k := (c.val - 0x10000) / 0x400) (by omega)
    have hlow := isLowSurrogate_ofNat (k := (c.val - 0x10000) % 0x400) (by omega)
    have hval : (CodePoint.ofNat (0xD800 + (c.val - 0x10000) / 0x400)).val = 0xD800 + (c.val - 0x10000) / 0x400 :=
      CodePoint.val_ofNat (by omega)
    have hsum : 0x10000 + (0xD800 + (c.val - 0x10000) / 0x400 - 0xD800) * 0x400
        + (0xDC00 + (c.val - 0x10000) % 0x400 - 0xDC00) = c.val := by omega
    have hplain : c.isHighSurrogate = false := by
      unfold CodePoint.isHighSurrogate
      rw [Bool.and_eq_false_iff, decide_eq_false_iff_not, decide_eq_false_iff_not]
      omega
    have hfirst := addEscaped_of_not
      (fun hboth : afterHigh = true ∧ _ => absurd hboth.2 (by rw [not_isLowSurrogate_of_isHigh hhigh]; decide)) done
    have hsecond : addEscaped true (0xDC00 + (c.val - 0x10000) % 0x400)
        (CodePoint.ofNat (0xD800 + (c.val - 0x10000) / 0x400) :: done) = c :: done := by
      rw [addEscaped, hlow, Bool.and_self, if_pos rfl, hval, joinSurrogates, hsum, CodePoint.ofNat_val]
    simp only [List.cons_append, List.nil_append, escape, decodeFrom]
    rw [hfirst, hhigh, hsecond, hplain, not_isHighSurrogate_of_isLow hlow]

/-- The same for a code point however it is written. Only an escape can leave a high surrogate to be completed, and
code points of their own escape in ASCII are none. -/
theorem decodeFrom_ofCodePoint {asciiOnly afterHigh : Bool} {c : CodePoint}
    (h : ¬(afterHigh = true ∧ c.isLowSurrogate = true)) (done : Text) (gs : List Glyph) :
    decodeFrom afterHigh done (ofCodePoint asciiOnly c ++ gs)
      = decodeFrom (asciiOnly && c.isHighSurrogate) (c :: done) gs := by
  -- a code point in ASCII is no surrogate
  have hsmall : c.val < 0x80 → c.isHighSurrogate = false := by
    intro hc
    unfold CodePoint.isHighSurrogate
    rw [Bool.and_eq_false_iff, decide_eq_false_iff_not]
    omega
  cases form asciiOnly c with
  | letter e _ small hglyphs _ =>
    rw [hglyphs, hsmall small, Bool.and_false]
    rfl
  | escape small hglyphs _ =>
    rw [hglyphs, decodeFrom_escapes h]
    cases asciiOnly with
    | false => rw [hsmall (small rfl), Bool.and_false]
    | true => rw [Bool.true_and]
  | plain _ small hglyphs _ =>
    -- a code point that stands for itself is never joined, and under escapes it is in ASCII
    rw [hglyphs]
    cases asciiOnly with
    | false => rfl
    | true =>
      rw [hsmall (small rfl), Bool.and_false]
      rfl

end Glyph

/-- A string in which no low surrogate comes right after a high one. -/
def PairFree (s : Text) : Prop := s.IsChain fun c d => ¬(c.isHighSurrogate = true ∧ d.isLowSurrogate = true)

/-- The string that is read where `s` was written. -/
def rewritten (asciiOnly : Bool) (s : Text) : Text := Glyph.decode (Glyph.written asciiOnly s)

open Glyph in
/-- What is written for a string is read as the string, if no pair in it is escaped. The condition on the head is
what the induction needs: what stands before the string must not join with it. -/
theorem decodeFrom_written {asciiOnly afterHigh : Bool} {s : Text} (hs : asciiOnly = false ∨ PairFree s)
    (hhead : ∀ c ∈ s.head?, ¬(afterHigh = true ∧ c.isLowSurrogate = true)) (done : Text) :
    decodeFrom afterHigh done (written asciiOnly s) = done.reverse ++ s := by
  induction s generalizing afterHigh done with
  | nil => exact (List.append_nil _).symm
  | cons c s ih =>
    unfold written at ih ⊢
    rw [List.flatMap_cons, decodeFrom_ofCodePoint (hhead c rfl), ih, List.reverse_cons, List.append_assoc]
    · rfl
    · exact hs.imp_right fun h => (List.isChain_cons.1 h).2
    · -- a high surrogate is only remembered where it was escaped, and then no low one comes next
      intro d hd
      rw [Bool.and_eq_true]
      rintro ⟨⟨hascii, hc⟩, hlow⟩
      rcases hs with hs | hs
      · rw [hascii] at hs
        exact absurd hs (by decide)
      · exact (List.isChain_cons.1 hs).1 d hd ⟨hc, hlow⟩

/-- A string comes back unchanged, unless it holds a pair of surrogates that are escaped. Where only control
characters are escaped no pair is. -/
theorem rewritten_eq_self {asciiOnly : Bool} {s : Text} (hs : asciiOnly = false ∨ PairFree s) :
    rewritten asciiOnly s = s :=
  decodeFrom_written hs (fun _ _ h => absurd h.1 (by decide)) []

/-! ## Glyphs without raw surrogates

A single surrogate then only comes from an escape, and the reader knows that an escape of a high one was the last. So
a low one after it is always joined. -/

/-- Two surrogates that are joined come to a code point that is none. What was joined is never taken for the half of
another pair. -/
theorem not_isSurrogate_joinSurrogates (high low : Nat) : (joinSurrogates high low).isSurrogate = false := by
  unfold joinSurrogates CodePoint.ofNat CodePoint.isSurrogate
  rw [Bool.and_eq_false_iff, decide_eq_false_iff_not, decide_eq_false_iff_not]
  split
  · right
    dsimp only
    omega
  · right
    decide

/-- The escapes of one letter stand for no surrogate. -/
theorem not_isSurrogate_simpleEscape {e d : CodePoint} (h : simpleEscape? e = some d) : d.isSurrogate = false := by
  unfold simpleEscape? at h
  split at h
  · next he =>
    obtain rfl := Option.some.inj h
    simp only [Bool.or_eq_true, decide_eq_true_eq] at he
    rcases he with (rfl | rfl) | rfl
    · rfl
    · rfl
    · rfl
  · -- the other letters stand for control characters
    have hcontrol : ∀ n ∈ [8, 12, 10, 13, 9], (CodePoint.ofNat n).isSurrogate = false := by decide
    repeat' split at h
    · exact Option.some.inj h ▸ hcontrol 8 (by decide)
    · exact Option.some.inj h ▸ hcontrol 12 (by decide)
    · exact Option.some.inj h ▸ hcontrol 10 (by decide)
    · exact Option.some.inj h ▸ hcontrol 13 (by decide)
    · exact Option.some.inj h ▸ hcontrol 9 (by decide)
    · exact absurd h (by simp)

theorem not_isHigh_of_not_isSurrogate {c : CodePoint} (h : c.isSurrogate = false) : c.isHighSurrogate = false := by
  unfold CodePoint.isSurrogate at h
  unfold CodePoint.isHighSurrogate
  rw [Bool.and_eq_false_iff, decide_eq_false_iff_not, decide_eq_false_iff_not] at h ⊢
  omega

theorem not_isLow_of_not_isSurrogate {c : CodePoint} (h : c.isSurrogate = false) : c.isLowSurrogate = false := by
  unfold CodePoint.isSurrogate at h
  unfold CodePoint.isLowSurrogate
  rw [Bool.and_eq_false_iff, decide_eq_false_iff_not, decide_eq_false_iff_not] at h ⊢
  omega

/-- A string without surrogates has no pair of them. A text that is put in from outside comes back unchanged for
this reason. -/
theorem pairFree_of_not_isSurrogate {s : Text} (h : ∀ c ∈ s, c.isSurrogate = false) : PairFree s := by
  refine (List.pairwise_of_forall_mem_list fun c hc d _ hpair => ?_).isChain
  rw [not_isHigh_of_not_isSurrogate (h c hc)] at hpair
  exact absurd hpair.1 (by decide)

/-- What was read of a string, backwards, has no pair, and the reader knows of a high surrogate at its end. -/
structure Tracked (afterHigh : Bool) (done : Text) : Prop where
  chain : done.IsChain fun d c => ¬(c.isHighSurrogate = true ∧ d.isLowSurrogate = true)
  known : ∀ c ∈ done.head?, c.isHighSurrogate = true → afterHigh = true

/-- A code point that is no surrogate ends whatever was waiting for its second half. This is the case of the
invariant that all glyphs but the numeric escapes come to. -/
theorem Tracked.push {afterHigh : Bool} {done : Text} (h : Tracked afterHigh done) {d : CodePoint}
    (hd : d.isSurrogate = false) : Tracked false (d :: done) where
  chain := by
    rw [List.isChain_cons]
    refine ⟨fun c _ hpair => ?_, h.chain⟩
    rw [not_isLow_of_not_isSurrogate hd] at hpair
    exact absurd hpair.2 (by decide)
  known := by
    intro c hc hhigh
    obtain rfl : d = c := Option.some.inj hc
    rw [not_isHigh_of_not_isSurrogate hd] at hhigh
    exact absurd hhigh (by decide)

/-- An escape keeps the invariant: a low surrogate after an escaped high one is joined with it, and any other code
point makes no pair with what came before. -/
theorem Tracked.addEscaped {afterHigh : Bool} {done : Text} (h : Tracked afterHigh done) (n : Nat) :
    Tracked (CodePoint.ofNat n).isHighSurrogate (addEscaped afterHigh n done) := by
  by_cases hjoin : afterHigh = true ∧ (CodePoint.ofNat n).isLowSurrogate = true
  · obtain ⟨hhigh, hlow⟩ := hjoin
    cases done with
    | nil =>
      refine ⟨List.isChain_singleton _, fun c hc hhigh => ?_⟩
      obtain rfl : CodePoint.ofNat n = c := Option.some.inj hc
      exact hhigh
    | cons c before =>
      -- the two become one code point, which is no surrogate
      rw [Json.addEscaped, hhigh, hlow, Bool.and_self, if_pos rfl, not_isHighSurrogate_of_isLow hlow]
      have hbefore : Tracked true before := ⟨(List.isChain_cons.1 h.chain).2, fun _ _ _ => rfl⟩
      exact hbefore.push (not_isSurrogate_joinSurrogates _ _)
  -- nothing is joined, and no pair arises: its high half would have been known
  · rw [Glyph.addEscaped_of_not hjoin]
    refine ⟨?_, fun c hc hhigh => ?_⟩
    · rw [List.isChain_cons]
      exact ⟨fun c hc hpair => hjoin ⟨h.known c hc hpair.1, hpair.2⟩, h.chain⟩
    · obtain rfl : CodePoint.ofNat n = c := Option.some.inj hc
      exact hhigh

open Glyph in
/-- Pieces without a raw surrogate add no pair to a string that has none. The invariant is `Tracked`, which also
knows whether a high surrogate at the end came from an escape. -/
theorem pairFree_decodeFrom {gs : List Glyph} (hplain : ∀ c ∈ textOf gs, c.isSurrogate = false) {afterHigh : Bool}
    {done : Text} (h : Tracked afterHigh done) : PairFree (decodeFrom afterHigh done gs) := by
  induction gs generalizing afterHigh done with
  | nil =>
    -- what was read is kept backwards
    unfold PairFree decodeFrom
    rw [List.isChain_reverse]
    exact h.chain
  | cons g gs ih =>
    -- each kind of piece keeps the invariant: plain code points and letters end what waits, numbers may join
    have hrest : ∀ c ∈ textOf gs, c.isSurrogate = false := by
      intro c hc
      rw [textOf_cons] at hplain
      exact hplain c (List.mem_append_right _ hc)
    cases g with
    | plain c hc => exact ih hrest (h.push (hplain c List.mem_cons_self))
    | letter e d hd => exact ih hrest (h.push (not_isSurrogate_simpleEscape hd))
    | number h₁ h₂ h₃ h₄ n hn => exact ih hrest (h.addEscaped n)

/-- Glyphs without a raw surrogate spell no escapable pair. So a body without raw surrogates comes back from its own
text however it is written. -/
theorem pairFree_decode {gs : List Glyph} (hplain : ∀ c ∈ Glyph.textOf gs, c.isSurrogate = false) :
    PairFree (Glyph.decode gs) :=
  pairFree_decodeFrom hplain ⟨List.isChain_nil, fun _ hc => absurd hc (Option.not_mem_none _)⟩

end BodyScrub.Json
