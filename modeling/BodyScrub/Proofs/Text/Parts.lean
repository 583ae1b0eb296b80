import BodyScrub.Text.Blank
import Mathlib.Data.List.TakeWhile

/-!
# Parts of a text

A text is cut at the first place where a code point stands, and stripped of the blanks at its ends. Blanks put before
and after a text change nothing in what is left of it (`strip_append_blanks`), and a text is what is left of it with
blanks around (`exists_strip`), so that stripping twice is stripping once.
-/

namespace BodyScrub

namespace Text

/-! ## Cutting -/

theorem cut?_append {c : CodePoint} {a : Text} (ha : c ∉ a) (r : Text) : cut? c (a ++ c :: r) = some (a, r) := by
  induction a with
  | nil => exact if_pos rfl
  | cons d a ih =>
    obtain ⟨hd, ha⟩ := List.ne_and_not_mem_of_not_mem_cons ha
    rw [List.cons_append, cut?, if_neg hd.symm, ih ha]
    rfl

/-- What a cut gives is put together to the text again, and the first part is free of the code point. -/
theorem eq_append_of_cut? {c : CodePoint} {t a r : Text} (h : cut? c t = some (a, r)) : t = a ++ c :: r ∧ c ∉ a := by
  induction t generalizing a with
  | nil => cases h
  | cons d t ih =>
    rw [cut?] at h
    split at h
    · next hd =>
      obtain ⟨rfl, rfl⟩ := Prod.mk.inj (Option.some.inj h)
      rw [hd]
      exact ⟨rfl, List.not_mem_nil⟩
    · next hd =>
      obtain ⟨⟨b, u⟩, hb, hab⟩ := Option.map_eq_some_iff.1 h
      obtain ⟨rfl, rfl⟩ := Prod.mk.inj hab
      obtain ⟨rfl, hnot⟩ := ih hb
      exact ⟨rfl, List.not_mem_cons_of_ne_of_not_mem (Ne.symm hd) hnot⟩

/-- A cut is at the first place where the code point stands. So a text that is put together around it, from a part
without it and any other part, is cut there again. -/
theorem cut?_eq_some_iff {c : CodePoint} {t a r : Text} : cut? c t = some (a, r) ↔ t = a ++ c :: r ∧ c ∉ a := by
  refine ⟨eq_append_of_cut?, ?_⟩
  rintro ⟨rfl, ha⟩
  exact cut?_append ha r

/-! ## Stripping -/

theorem length_strip_le (t : Text) : t.strip.length ≤ t.length := by
  unfold strip trim
  rw [List.length_reverse]
  refine (List.length_dropWhile_le _ _).trans ?_
  rw [List.length_reverse]
  exact List.length_dropWhile_le _ _

/-- A text that does not begin with a blank keeps its beginning. Only blanks at the end may go, and there is no
blank in the first place to stop at. -/
theorem head?_strip_cons {c : CodePoint} (hc : c.isBlank = false) (t : Text) : (strip (c :: t)).head? = some c := by
  unfold strip trim
  rw [List.dropWhile_cons, if_neg (Bool.eq_false_iff.1 hc), List.reverse_cons, List.dropWhile_append]
  split
  · rw [List.dropWhile_cons, if_neg (Bool.eq_false_iff.1 hc)]
    rfl
  · rw [List.reverse_append]
    rfl

theorem strip_eq_self {t : Text} (h : ∀ c ∈ t, c.isBlank = false) : t.strip = t := by
  have hdrop : ∀ u : Text, (∀ c ∈ u, c.isBlank = false) → u.dropWhile CodePoint.isBlank = u := by
    intro u hu
    cases u with
    | nil => rfl
    | cons c u => simp [hu c List.mem_cons_self]
  have hback : ∀ c ∈ t.reverse, c.isBlank = false := fun c hc => h c (List.mem_reverse.1 hc)
  unfold strip trim
  rw [hdrop t h, hdrop _ hback, List.reverse_reverse]

/-- Blanks put before and after a text change nothing in what is left of it. This holds of a text of blanks too, of
which nothing is left. -/
theorem strip_append_blanks {before after : Text} (hbefore : ∀ c ∈ before, c.isBlank = true)
    (hafter : ∀ c ∈ after, c.isBlank = true) (t : Text) : strip (before ++ t ++ after) = strip t := by
  have hback : ∀ c ∈ after.reverse, c.isBlank = true := fun c hc => hafter c (List.mem_reverse.1 hc)
  unfold strip trim
  rw [List.append_assoc, List.dropWhile_append_of_pos hbefore, List.dropWhile_append]
  split
  -- all of the text is blank, and so are the blanks behind it
  · next hblank =>
    rw [List.isEmpty_iff.1 hblank, List.dropWhile_eq_nil_iff.2 hafter]
  · rw [List.reverse_append, List.dropWhile_append_of_pos hback]

/-- What is stripped off a text is a run of blanks at either end. With `strip_append_blanks` this tells all that
stripping does. -/
theorem exists_strip (t : Text) : ∃ before after : Text, t = before ++ t.strip ++ after
    ∧ (∀ c ∈ before, c.isBlank = true) ∧ ∀ c ∈ after, c.isBlank = true := by
  -- the run at the end is the one that a backward walk over the rest meets first
  let rest := (t.dropWhile CodePoint.isBlank).reverse
  refine ⟨t.takeWhile CodePoint.isBlank, (rest.takeWhile CodePoint.isBlank).reverse, ?_,
    fun c hc => List.mem_takeWhile_imp hc, fun c hc => List.mem_takeWhile_imp (List.mem_reverse.1 hc)⟩
  calc t = t.takeWhile CodePoint.isBlank ++ rest.reverse := by
        rw [List.reverse_reverse, List.takeWhile_append_dropWhile]
    _ = t.takeWhile CodePoint.isBlank
          ++ (rest.takeWhile CodePoint.isBlank ++ rest.dropWhile CodePoint.isBlank).reverse := by
        rw [List.takeWhile_append_dropWhile]
    _ = t.takeWhile CodePoint.isBlank ++ t.strip ++ (rest.takeWhile CodePoint.isBlank).reverse := by
        rw [List.reverse_append, List.append_assoc]
        rfl

theorem mem_of_mem_strip {t : Text} {c : CodePoint} (h : c ∈ t.strip) : c ∈ t := by
  obtain ⟨before, after, ht, -, -⟩ := exists_strip t
  rw [ht]
  exact List.mem_append_left after (List.mem_append_right before h)

theorem strip_strip (t : Text) : t.strip.strip = t.strip := by
  obtain ⟨before, after, ht, hbefore, hafter⟩ := exists_strip t
  have hstrip := strip_append_blanks hbefore hafter t.strip
  rw [← ht] at hstrip
  exact hstrip.symm

/-- Stripping commutes with a map that keeps blanks and makes no new ones, as the lower case of ASCII letters does. -/
theorem strip_map {f : CodePoint → CodePoint} (hf : ∀ c, (f c).isBlank = c.isBlank) (t : Text) :
    strip (t.map f) = t.strip.map f := by
  have hblank : CodePoint.isBlank ∘ f = CodePoint.isBlank := funext hf
  unfold strip trim
  rw [List.dropWhile_map, hblank, ← List.map_reverse, List.dropWhile_map, hblank, List.map_reverse]

end Text

end BodyScrub
