import BodyScrub.Proofs.Entries
import BodyScrub.Proofs.Sensitive
import BodyScrub.Proofs.Session
import Mathlib.Data.List.DropRight

/-!
# What an event holds

An event holds its own fields, those of its notice and those that were bound since the context was last cleared. Where a
name comes more than once, the event itself wins, then the notice, then the last binding. Redaction comes after that, so
that no value under a sensitive name is written, wherever it came from (`redacted_of_mem_log`).

* **`bound`**: the fields that were bound since the context was last cleared.
* **`get?_context_after`**: a run leaves the last of them in the context.
* **`get?_merged_after`**: which value counts under each name.
* **`eventOf_eq_redact`**: an event is what redaction makes of all its fields.
-/

namespace BodyScrub

open Json (Value)

namespace Journal

/-! ## One event -/

/-- Names that no field of a notice or of the context may have: the journal sets them by itself, or a logger takes them
for its own. -/
def reservedNames : List Text :=
  ["event", "level", "logger", "timestamp", "exc_info", "stack_info", "self", "method_name", "positional_args"]

/-- Names that begin with an underscore are reserved too. -/
def isReserved (name : Text) : Bool := reservedNames.contains name || ("_" : Text).isPrefixOf name

theorem not_mem_names_of_isReserved {fields : Entries Value} (h : ∀ f ∈ fields, isReserved f.1 = false) {name : Text}
    (hname : isReserved name = true) : name ∉ Entries.names fields := by
  intro hmem
  obtain ⟨f, hf, rfl⟩ := List.mem_map.1 hmem
  simp [h f hf] at hname

/-- All fields of an event before redaction. -/
def merged (context : Entries Value) (logger : Text) (n : Notice) : Entries Value :=
  (ownFields logger n).insertAll (n.fields.insertAll context)

theorem names_ownFields (logger : Text) (n : Notice) :
    Entries.names (ownFields logger n) = (["event", "level", "logger"] : List Text) := rfl

theorem nodup_ownFields (logger : Text) (n : Notice) : (Entries.names (ownFields logger n)).Nodup := by
  rw [names_ownFields]
  decide

/-- Under each name the event itself comes first, then what was given last, then the context. The order in which
fields are merged is what decides this. -/
theorem get?_merged (context : Entries Value) (logger : Text) (n : Notice) (name : Text) :
    Entries.get? name (merged context logger n)
      = (Entries.get? name (ownFields logger n)).or
        ((Entries.last? name n.fields).or (Entries.get? name context)) := by
  rw [merged, Entries.get?_insertAll, Entries.get?_insertAll, Entries.last?_of_nodup (nodup_ownFields logger n)]

/-- An event has its own names, those of its notice and those of the context, and no others. -/
theorem mem_names_merged {context : Entries Value} {logger : Text} {n : Notice} {name : Text} :
    name ∈ Entries.names (merged context logger n) ↔
      name ∈ (["event", "level", "logger"] : List Text) ∨ name ∈ Entries.names n.fields
        ∨ name ∈ Entries.names context := by
  rw [← Entries.isSome_get?_iff, get?_merged, Option.isSome_or, Option.isSome_or, Bool.or_eq_true, Bool.or_eq_true,
    Entries.isSome_get?_iff, Entries.isSome_last?_iff, Entries.isSome_get?_iff, names_ownFields]

/-- An event is what redaction makes of all its fields. A timestamp is taken out of an event, but there is none
where no field is called so. -/
theorem eventOf_eq_redact {j : Journal} {logger : Text} {n : Notice}
    (hfields : ("timestamp" : Text) ∉ Entries.names n.fields)
    (hcontext : ("timestamp" : Text) ∉ Entries.names j.context) :
    j.eventOf logger n = Sensitive.redact Sensitive.names true (merged j.context logger n) := by
  have hown : ("timestamp" : Text) ∉ (["event", "level", "logger"] : List Text) := by decide
  have hnone : Entries.get? "timestamp" (merged j.context logger n) = none := by
    refine Entries.get?_eq_none ?_
    rw [mem_names_merged]
    simp only [hown, hfields, hcontext, or_self, not_false_eq_true]
  rw [eventOf, Entries.erase, ← merged, Entries.alter_of_get?_eq_none hnone]

end Journal

namespace Session

variable {env : Settings.Environment} {calls : List Call} {logger : Text} {n : Notice}

/-! ## The context -/

/-- The fields that a call binds. -/
def Call.bindings : Call → Entries Value
  | .bindContext fields => fields
  | _ => []

def Call.isClear : Call → Bool
  | .clearContext => true
  | _ => false

/-- The fields that were bound since the context was last cleared, in order. -/
def bound (calls : List Call) : Entries Value := (calls.rtakeWhile fun c => !c.isClear).flatMap Call.bindings

/-- A call binds its fields behind those that are bound, or drops them all. It is the step of the induction over a
run, which is taken from its end. -/
theorem bound_append (calls : List Call) (c : Call) :
    bound (calls ++ [c]) = if c.isClear then [] else bound calls ++ c.bindings := by
  unfold bound
  rw [List.rtakeWhile_concat]
  cases c.isClear <;> simp

theorem context_perform_after (env : Settings.Environment) (calls : List Call) (c : Call) :
    (((start env).after calls).perform c).1.journal.context
      = c.context ((start env).after calls).journal.context :=
  (advances_perform (consistent_after (consistent_start env) calls) c).context

theorem context_after_append (env : Settings.Environment) (calls : List Call) (c : Call) :
    ((start env).after (calls ++ [c])).journal.context = c.context ((start env).after calls).journal.context := by
  rw [after_append]
  exact context_perform_after env calls c

/-- The context has no name twice: a binding under a name that is there takes its place. With this the fields of an
event are told by their names. -/
theorem nodup_context_after (env : Settings.Environment) (calls : List Call) :
    (Entries.names ((start env).after calls).journal.context).Nodup := by
  induction calls using List.reverseRecOn with
  | nil => exact List.nodup_nil
  | append_singleton calls c ih =>
    rw [context_after_append]
    cases c with
    | bindContext fields => exact Entries.nodup_insertAll ih fields
    | clearContext => exact List.nodup_nil
    | _ => exact ih

/-- The context holds what was bound last under each name, since it was last cleared. The fields are put in call by
call, and here they are one list. -/
theorem get?_context_after (env : Settings.Environment) (calls : List Call) (name : Text) :
    Entries.get? name ((start env).after calls).journal.context = Entries.last? name (bound calls) := by
  -- on the last call: a binding is put over what there is, and what is cleared before it does not come back
  induction calls using List.reverseRecOn with
  | nil => rfl
  | append_singleton calls c ih =>
    rw [context_after_append, bound_append]
    cases c with
    | bindContext fields =>
      show Entries.get? name (fields.insertAll _) = Entries.last? name (bound calls ++ fields)
      rw [Entries.get?_insertAll, Entries.last?_append, ih]
    | clearContext => rfl
    | _ =>
      show Entries.get? name _ = Entries.last? name (bound calls ++ [])
      rw [List.append_nil]
      exact ih

/-- The names in the context are those that were bound since it was last cleared. -/
theorem mem_names_context_after {name : Text} :
    name ∈ Entries.names ((start env).after calls).journal.context ↔ name ∈ Entries.names (bound calls) := by
  rw [← Entries.isSome_get?_iff, get?_context_after, Entries.isSome_last?_iff]

/-! ## Events -/

/-- Under each name the event itself comes first, and then the last of all that was bound and given. What is given
with the event counts as bound after everything else. -/
theorem get?_merged_after (env : Settings.Environment) (calls : List Call) (logger : Text) (n : Notice) (name : Text) :
    Entries.get? name (Journal.merged ((start env).after calls).journal.context logger n)
      = (Entries.get? name (Journal.ownFields logger n)).or (Entries.last? name (bound calls ++ n.fields)) := by
  rw [Journal.get?_merged, get?_context_after, Entries.last?_append]

/-- Logging writes one event at most, which is that of the notice. Whether it is written is decided by the level and
by the name of the logger, and does not matter here. -/
theorem eq_eventOf_of_mem_log {e : Event} (h : e ∈ (((start env).after calls).perform (.log logger n)).2) :
    e = (((start env).after calls).perform (.log logger n)).1.journal.eventOf logger n := by
  rw [events_perform (consistent_after (consistent_start env) calls)] at h
  obtain ⟨⟨logger', n'⟩, hmem, rfl⟩ := List.mem_map.1 h
  obtain ⟨rfl, rfl⟩ : logger' = logger ∧ n' = n := by
    simpa [Call.notices] using (List.mem_filter.1 hmem).1
  rfl

/-- What is written is redacted from the fields of the notice and the context as it is. That the call may open the
journal makes no difference to this. -/
theorem eq_redact_of_mem_log (hnames : ∀ f ∈ bound calls ++ n.fields, Journal.isReserved f.1 = false) {e : Event}
    (h : e ∈ (((start env).after calls).perform (.log logger n)).2) :
    e = Sensitive.redact Sensitive.names true
      (Journal.merged ((start env).after calls).journal.context logger n) := by
  have hcontext : (((start env).after calls).perform (.log logger n)).1.journal.context
      = ((start env).after calls).journal.context := context_perform_after env calls (.log logger n)
  have hreserved := Journal.not_mem_names_of_isReserved hnames (by decide : Journal.isReserved "timestamp" = true)
  obtain ⟨hbound, hfields⟩ : ("timestamp" : Text) ∉ Entries.names (bound calls)
      ∧ ("timestamp" : Text) ∉ Entries.names n.fields := by
    simpa [Entries.names] using hreserved
  rw [← @mem_names_context_after env, ← hcontext] at hbound
  rw [eq_eventOf_of_mem_log h, Journal.eventOf_eq_redact hfields hbound, hcontext]

/-- An event has its own names and those that were bound or given. The values are what redaction makes of the values of
the event itself, else of the last given ones, else of the last bound ones. Under a sensitive name, in any letter case,
only the blank is written. -/
theorem redacted_of_mem_log (hnames : ∀ f ∈ bound calls ++ n.fields, Journal.isReserved f.1 = false) {e : Event}
    (he : e ∈ (((start env).after calls).perform (.log logger n)).2) :
    ∃ merged : Entries Value, e = Sensitive.redact Sensitive.names true merged
      ∧ (Entries.names merged).Nodup
      ∧ (∀ name, Entries.get? name merged
        = (Entries.get? name (Journal.ownFields logger n)).or (Entries.last? name (bound calls ++ n.fields)))
      ∧ (∀ name, name ∈ Entries.names e ↔
        name ∈ (["event", "level", "logger"] : List Text) ∨ name ∈ Entries.names (bound calls ++ n.fields))
      ∧ ∀ m ∈ e, Sensitive.isNamed Sensitive.names m.1 = true → m.2 = Sensitive.blank := by
  have hnodup := Entries.nodup_insertAll (nodup_context_after env calls) n.fields
  have heq := eq_redact_of_mem_log hnames he
  have hget := get?_merged_after env calls logger n
  refine ⟨_, heq, Entries.nodup_insertAll hnodup _, hget, fun name => ?_, fun m hm hnamed => ?_⟩
  -- redaction keeps the names, so they are those of the fields
  · rw [heq, Sensitive.names_redact, ← Entries.isSome_get?_iff, hget, Option.isSome_or, Bool.or_eq_true,
      Entries.isSome_get?_iff, Entries.isSome_last?_iff, Journal.names_ownFields]
  · rw [heq] at hm
    exact Sensitive.blank_of_mem_redact hm hnamed

/-- What was bound before the context was cleared is gone, a later binding and the notice win, and tokens from the
context and from the notice are blanked. -/
theorem redacted_of_mem_log_cleared :
    let calls : List Call := [.bindContext [("old", .string "x")], .clearContext,
      .bindContext [("Token", .string "t"), ("user", .string "a"), ("id", .string "1")],
      .bindContext [("id", .string "2")]]
    let n : Notice := ⟨.info, "e", [("user", .string "b"), ("TOKEN", .string "u")]⟩
    let e : Event := [("Token", .string "[REDACTED]"), ("user", .string "b"), ("id", .string "2"),
      ("TOKEN", .string "[REDACTED]"), ("event", .string "e"), ("level", .string "info"),
      ("logger", .string "trafficlog_sdk")]
    (∀ f ∈ bound calls ++ n.fields, Journal.isReserved f.1 = false)
      ∧ e ∈ (((start []).after calls).perform (.log Journal.libraryLogger n)).2
      ∧ ("old" : Text) ∉ Entries.names e
      ∧ ∀ m ∈ e, Sensitive.isNamed Sensitive.names m.1 = true → m.2 = Sensitive.blank := by
  intro calls n e
  have hnames : ∀ f ∈ bound calls ++ n.fields, Journal.isReserved f.1 = false := by decide
  have he : e ∈ (((start []).after calls).perform (.log Journal.libraryLogger n)).2 :=
    List.mem_singleton.2 (by rfl)
  obtain ⟨_, -, -, -, hhas, hblank⟩ := redacted_of_mem_log hnames he
  refine ⟨hnames, he, ?_, hblank⟩
  rw [hhas]
  decide

end Session

end BodyScrub
