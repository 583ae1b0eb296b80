import BodyScrub.Document
import BodyScrub.Proofs.Json.Contents

/-!
# Documents that are written and read again

A regular document that can be written is read back from its text. Where its strings hold no pair of surrogates that
is escaped, the same document comes back. That is so for every document that was itself read from a text without raw
surrogates (`read_text_of_read`), so writing and reading settle after one turn.
-/

namespace BodyScrub

open Json (Blanks PairFree rewritten)

/-- Both styles of writing put nothing but a comma or a colon, and blanks, between two tokens. This is all that
reading back asks of a style. -/
theorem Settings.separates (s : Settings) : s.style.Separates where
  item := by
    unfold style itemSeparator
    cases s.compact with
    | true => exact ⟨Blanks.empty, rfl⟩
    | false => exact ⟨Blanks.one, rfl⟩
  name := by
    unfold style nameSeparator
    cases s.compact with
    | true => exact ⟨Blanks.empty, rfl⟩
    | false => exact ⟨Blanks.one, rfl⟩

namespace Document

/-- A document is read exactly if its value is, and it keeps the settings under which it was read. Facts about the
reader of values are carried over to documents by this. -/
theorem read_eq_ok_iff {settings : Settings} {body : Text} {d : Document} :
    read settings body = .ok d ↔ Json.read settings.allowNonFinite body = .ok d.root ∧ d.settings = settings := by
  unfold read
  constructor
  · intro h
    split at h
    · next v hv =>
      obtain rfl := Except.ok.inj h
      exact ⟨hv, rfl⟩
    · exact absurd h (by simp)
  · rintro ⟨hroot, rfl⟩
    rw [hroot]

/-- What was written of a regular document is read, with the strings that come back. A string comes back changed
only where everything outside ASCII is escaped and two escapes join. -/
theorem read_text {d : Document} {okName : Text → Prop}
    (hnames : ∀ n, okName n → rewritten d.settings.asciiOnly n = n) (h : d.root.Regular okName Json.maxDepth)
    {t : Text} (ht : d.text = .ok t) :
    read d.settings t = .ok ⟨d.root.mapStrings (rewritten d.settings.asciiOnly), d.settings⟩ := by
  unfold text write Json.writeChecked at ht
  -- the text was written without a fault, so the fault of the root was looked for and not found
  split at ht
  · next u hu =>
    obtain rfl : u = t := Except.ok.inj ht
    split at hu
    · next hfault =>
      obtain rfl := Except.ok.inj hu
      exact read_eq_ok_iff.2 ⟨Json.read_write d.settings.separates hnames h hfault, rfl⟩
    · exact absurd hu (by simp)
  · exact absurd ht (by simp)

/-- A document without escaped pairs comes back from its text as it was. Filters that are merged and steps that are
repeated rest on this. -/
theorem read_text_self {d : Document} {okName : Text → Prop} (h : d.root.Regular okName Json.maxDepth)
    (hpairs : d.settings.asciiOnly = false ∨ ∀ s ∈ d.root.strings, PairFree s) {t : Text} (ht : d.text = .ok t) :
    read d.settings t = .ok d := by
  -- a string that holds no pair of surrogates is not changed by being escaped and read
  have hstrings : ∀ s ∈ d.root.strings, rewritten d.settings.asciiOnly s = s :=
    fun s hs => Json.rewritten_eq_self (hpairs.imp_right fun hfree => hfree s hs)
  have hread := read_text (fun _ hn => hn) (h.of_strings hstrings) ht
  rw [h.mapStrings_eq_self hstrings] at hread
  exact hread

/-- What was read is read again from the text that is written of it, and then written with the same text. So however
a body was spelled, one turn brings it into a form that stays. -/
theorem read_text_of_read {settings : Settings} {body : Text} (hbody : ∀ c ∈ body, c.isSurrogate = false)
    {d : Document} (hread : read settings body = .ok d) {t : Text} (ht : d.text = .ok t) :
    read settings t = .ok d ∧ (read settings t).bind text = .ok t := by
  obtain ⟨hroot, rfl⟩ := read_eq_ok_iff.1 hread
  -- a high surrogate that an escape writes before a low one is joined with it, so no such pair is left to escape
  have hback : read d.settings t = .ok d :=
    read_text_self (Json.regular_of_read hroot) (Or.inr (Json.pairFree_of_read hbody hroot)) ht
  refine ⟨hback, ?_⟩
  rw [hback]
  exact ht

/-- A name given twice, a pair of escapes before a lone one, an integer that no double holds, and NaN. -/
theorem read_text_of_read_escapes :
    ∃ (s : Settings) (d : Document) (t : Text), s = ⟨true, false, true, 1024, .info, .json⟩
      ∧ t = "\x7b\"k\": [-0.0, 12345678901234567890, 100000.0, NaN], \"\\ude00\": \"\\ud83d\\ude00\\ud83d\"\x7d"
      ∧ read s "\x7b\"k\": 0, \"\\ude00\": \"\\ud83d\\ude00\\ud83d\", \"k\": [-0.0, 12345678901234567890, 1E5, NaN]\x7d"
          = .ok d
      ∧ d.text = .ok t ∧ read s t = .ok d ∧ (read s t).bind text = .ok t := by
  have hwritten : ((read ⟨true, false, true, 1024, .info, .json⟩
      "\x7b\"k\": 0, \"\\ude00\": \"\\ud83d\\ude00\\ud83d\", \"k\": [-0.0, 12345678901234567890, 1E5, NaN]\x7d"
        ).toOption.bind fun d => d.text.toOption)
      = some "\x7b\"k\": [-0.0, 12345678901234567890, 100000.0, NaN], \"\\ude00\": \"\\ud83d\\ude00\\ud83d\"\x7d" := by
    decide +kernel
  obtain ⟨d, hread, htext⟩ := Option.bind_eq_some_iff.1 hwritten
  have hd := Json.eq_ok_of_toOption hread
  have ht := Json.eq_ok_of_toOption htext
  exact ⟨_, d, _, rfl, rfl, hd, ht, read_text_of_read (by decide +kernel) hd ht⟩

end Document

end BodyScrub
