import DiagnosticDigest.Dismissal
import DiagnosticDigest.Proofs.Json.Members
import Mathlib.Data.Option.Basic
import Mathlib.Logic.Relation

/-!
# What an entry is taken from

Seven members of a record are looked up: its reason and its message, level, text and spans of the
message, and file name and line of the first span. Whatever else a record holds can be changed without
a trace, in the entry as in the notes. A member that is `null` is as good as missing, and where an
object or a list is wanted, any other value is as good as an empty one.

## Main definitions

* `Entry.Qualifies` — records that give an entry, with the parts that it is taken from.
* `Members.Edit`, `Entry.SpanEdit`, `Entry.MessageEdit`, `Entry.RecordEdit` — changes to what is not
  looked up.
* `Entry.SameSpan`, `Entry.SameMessage` — values that are alike wherever they are looked at.
-/

namespace DiagnosticDigest

open Relation (EqvGen)

/-! ## Looking up members -/

namespace Json

/-- A value, unless it is `null`. -/
def present? : Json → Option Json
  | null => none
  | v => some v

theorem getD_present? (v : Json) : v.present?.getD null = v := by
  cases v <;> rfl

theorem field?_object (key : String) (members : List (String × Json)) :
    (object members).field? key = (Members.find? key members).bind present? := by
  rw [field?]
  cases Members.find? key members with
  | none => rfl
  | some v => cases v <;> rfl

theorem field?_eq_none_of_kind {v : Json} (h : v.kind ≠ "object") (key : String) :
    v.field? key = none := by
  cases v with
  | object members => exact absurd rfl h
  | null | bool | number | string | array => rfl

theorem field?_insert (key other : String) (value : Json) (members : List (String × Json)) :
    (object (Members.insert key value members)).field? other =
      if other = key then value.present? else (object members).field? other := by
  rw [field?_object, field?_object, Members.find?_insert]
  split <;> rfl

theorem field?_erase (key other : String) (members : List (String × Json)) :
    (object (Members.erase key members)).field? other =
      if other = key then none else (object members).field? other := by
  rw [field?_object, field?_object, Members.find?_erase]
  split <;> rfl

/-- A member is looked up with success exactly if it is there and not `null`. -/
theorem field?_eq_some_iff {v held : Json} {key : String} (hheld : held ≠ null) :
    v.field? key = some held ↔
      ∃ members, v = object members ∧ Members.find? key members = some held := by
  cases v with
  | object members =>
    rw [field?_object]
    cases hfind : Members.find? key members with
    | none => simp [hfind]
    | some found =>
      cases found with
      | null => simp [hfind, present?, hheld.symm]
      | bool | number | string | array | object => simp [hfind, present?]
  | null | bool | number | string | array => simp [field?]

theorem bind_text?_eq_some_iff {v : Json} {key text : String} :
    (v.field? key).bind text? = some text ↔
      ∃ members, v = object members ∧ Members.find? key members = some (string text) := by
  rw [← field?_eq_some_iff (by simp), Option.bind_eq_some_iff]
  constructor
  · rintro ⟨held, hheld, htext⟩
    cases held <;> simp [text?] at htext
    rw [hheld, htext]
  · intro h
    exact ⟨_, h, rfl⟩

end Json

namespace Entry

open Json

/-! ## Records that give an entry -/

/-- A record that gives an entry of a severity: a compiler message of that level with a first span. -/
def Qualifies (record : Json) (severity : Severity) (message : List (String × Json)) (span : Json) :
    Prop :=
  ∃ members more, record = .object members ∧
    Members.find? "reason" members = some (.string "compiler-message") ∧
    Members.find? "message" members = some (.object message) ∧
    Members.find? "level" message = some (.string severity.label) ∧
    Members.find? "spans" message = some (.array (span :: more))

theorem firstSpan?_eq_some_iff {message span : Json} :
    firstSpan? message = some span ↔
      ∃ members more, message = .object members ∧
        Members.find? "spans" members = some (.array (span :: more)) := by
  have hspans : ∀ spans, (message.field? "spans").bind items? = some spans ↔
      ∃ members, message = .object members ∧
        Members.find? "spans" members = some (.array spans) := by
    intro spans
    rw [← field?_eq_some_iff (by simp), Option.bind_eq_some_iff]
    constructor
    · rintro ⟨held, hheld, hitems⟩
      cases held <;> simp [items?] at hitems
      rw [hheld, hitems]
    · intro h
      exact ⟨_, h, rfl⟩
  rw [firstSpan?]
  split
  · rename_i first more hfirst
    obtain ⟨members, rfl, hfind⟩ := (hspans _).mp hfirst
    simp [hfind]
  · rename_i hnone
    constructor
    · intro h
      simp at h
    · rintro ⟨members, more, rfl, hfind⟩
      exact absurd ((hspans _).mpr ⟨members, rfl, hfind⟩) (hnone span more)

/-- The message of a record; a missing one counts as `null`. -/
def messageOf (record : Json) : Json :=
  (record.field? "message").getD .null

theorem messageOf_object {members : List (String × Json)} {message : Json}
    (h : Members.find? "message" members = some message) :
    messageOf (.object members) = message := by
  rw [messageOf, field?_object, h, Option.bind_some, getD_present?]

theorem firstSpan?_array {members : List (String × Json)} {span : Json} {more : List Json}
    (h : Members.find? "spans" members = some (.array (span :: more))) :
    firstSpan? (.object members) = some span :=
  firstSpan?_eq_some_iff.mpr ⟨members, more, rfl, h⟩

theorem Qualifies.firstSpan?_eq {record : Json} {severity : Severity}
    {message : List (String × Json)} {span : Json}
    (h : Qualifies record severity message span) : firstSpan? (messageOf record) = some span := by
  obtain ⟨members, more, rfl, -, hmessage, -, hspans⟩ := h
  rw [messageOf_object hmessage, firstSpan?_array hspans]

/-- The entry of a record that qualifies. -/
theorem Qualifies.ofRecord_eq {record : Json} {severity : Severity}
    {message : List (String × Json)} {span : Json}
    (h : Qualifies record severity message span) :
    ofRecord record = .ok {
      severity := severity
      fileName := fieldText span "file_name" "unknown"
      lineStart := fieldText span "line_start" "0"
      message := fieldText (.object message) "message" "" } := by
  obtain ⟨members, more, rfl, hreason, hmessage, hlevel, hspans⟩ := h
  have hreason : ((Json.object members).field? "reason").bind text? = some compilerMessage :=
    bind_text?_eq_some_iff.mpr ⟨members, rfl, hreason⟩
  have hmessage : (Json.object members).field? "message" = some (.object message) :=
    (field?_eq_some_iff (by simp)).mpr ⟨members, rfl, hmessage⟩
  have hlevel : ((Json.object message).field? "level").bind text? = some severity.label :=
    bind_text?_eq_some_iff.mpr ⟨message, rfl, hlevel⟩
  simp [ofRecord, hreason, hmessage, hlevel, firstSpan?_array hspans]

/-- A message in which something is found is there as an object. -/
theorem find?_message {members message : List (String × Json)}
    (h : messageOf (.object members) = .object message) :
    Members.find? "message" members = some (.object message) := by
  have hfield : (Json.object members).field? "message" = some (.object message) := by
    rw [messageOf] at h
    cases hfield : (Json.object members).field? "message" with
    | none => simp [hfield] at h
    | some found => simpa [hfield] using h
  simpa using (field?_eq_some_iff (by simp)).mp hfield

/-- A record that gives an entry qualifies, with the severity of the entry. -/
theorem exists_qualifies {record : Json} {e : Entry} (h : ofRecord record = .ok e) :
    ∃ message span, Qualifies record e.severity message span := by
  rw [ofRecord] at h
  split at h
  · simp at h
  rename_i hlookup
  obtain ⟨members, rfl, hreason⟩ := bind_text?_eq_some_iff.mp (not_not.mp hlookup)
  dsimp only at h
  split at h
  · simp at h
  rename_i level hlookup
  split at h
  · simp at h
  rename_i severity hseverity
  obtain rfl := Severity.eq_label_of_ofLabel? hseverity
  obtain ⟨message, hmessage, hlevel⟩ := bind_text?_eq_some_iff.mp hlookup
  split at h
  · simp at h
  rename_i span hspan
  rw [hmessage] at hspan
  obtain ⟨_, more, hsame, hspans⟩ := firstSpan?_eq_some_iff.mp hspan
  cases hsame
  obtain rfl := Except.ok.inj h
  exact ⟨message, span, members, more, rfl, hreason, find?_message hmessage, hlevel, hspans⟩

/-- A record gives an entry exactly if it is a compiler message of one of the two levels with a span,
and this is the entry that it gives. -/
theorem ofRecord_eq_ok_iff {record : Json} {e : Entry} :
    ofRecord record = .ok e ↔
      ∃ message span, Qualifies record e.severity message span ∧
        e.fileName = fieldText span "file_name" "unknown" ∧
        e.lineStart = fieldText span "line_start" "0" ∧
        e.message = fieldText (.object message) "message" "" := by
  constructor
  · intro h
    obtain ⟨message, span, hqualifies⟩ := exists_qualifies h
    have he := Except.ok.inj (h.symm.trans hqualifies.ofRecord_eq)
    exact ⟨message, span, hqualifies, congrArg fileName he, congrArg lineStart he,
      congrArg Entry.message he⟩
  · rintro ⟨message, span, hqualifies, hfile, hline, htext⟩
    rw [hqualifies.ofRecord_eq, ← hfile, ← hline, ← htext]

end Entry

/-! ## Edits -/

/-- A change to the members of an object that leaves those under some keys as they are: a member under
another key is added, changed or taken away, or a `null` comes or goes. -/
inductive Members.Edit (kept : List String) :
    List (String × Json) → List (String × Json) → Prop
  | put {key : String} (h : key ∉ kept) (value : Json) (members : List (String × Json)) :
      Edit kept members (insert key value members)
  | erase {key : String} (h : key ∉ kept) (members : List (String × Json)) :
      Edit kept members (erase key members)
  | dropNull {key : String} {members : List (String × Json)}
      (h : find? key members = some .null) : Edit kept members (erase key members)
  | putNull {key : String} {members : List (String × Json)} (h : find? key members = none) :
      Edit kept members (insert key .null members)

namespace Entry

open Json

/-- A change to a span: to its members other than file name and line, or from one value that is no
object to `null` or an empty object. -/
inductive SpanEdit : Json → Json → Prop
  | members {a b : List (String × Json)} (h : Members.Edit ["file_name", "line_start"] a b) :
      SpanEdit (.object a) (.object b)
  | noObject {span other : Json} (h : span.kind ≠ "object")
      (hother : other = .null ∨ other = .object []) : SpanEdit span other

/-- A change to a message: to its members other than level, text and spans, to its first span, to the
spans behind that one, from spans that are no array to an empty array or none, or from a value that is
no object to `null` or an empty object. -/
inductive MessageEdit : Json → Json → Prop
  | members {a b : List (String × Json)} (h : Members.Edit ["level", "message", "spans"] a b) :
      MessageEdit (.object a) (.object b)
  | firstSpan {members : List (String × Json)} {span other : Json} {more : List Json}
      (hspans : Members.find? "spans" members = some (.array (span :: more)))
      (h : SpanEdit span other) :
      MessageEdit (.object members)
        (.object (Members.insert "spans" (.array (other :: more)) members))
  | laterSpans {members : List (String × Json)} {span : Json} {more : List Json}
      (hspans : Members.find? "spans" members = some (.array (span :: more)))
      (others : List Json) :
      MessageEdit (.object members)
        (.object (Members.insert "spans" (.array (span :: others)) members))
  | emptySpans {members : List (String × Json)} {spans : Json}
      (hspans : Members.find? "spans" members = some spans) (h : spans.kind ≠ "array") :
      MessageEdit (.object members) (.object (Members.insert "spans" (.array []) members))
  | dropSpans {members : List (String × Json)} {spans : Json}
      (hspans : Members.find? "spans" members = some spans) (h : spans.kind ≠ "array") :
      MessageEdit (.object members) (.object (Members.erase "spans" members))
  | noObject {message other : Json} (h : message.kind ≠ "object")
      (hother : other = .null ∨ other = .object []) : MessageEdit message other

/-- A change to a record: to its members other than reason and message, or to its message. -/
inductive RecordEdit : Json → Json → Prop
  | members {a b : List (String × Json)} (h : Members.Edit ["reason", "message"] a b) :
      RecordEdit (.object a) (.object b)
  | message {members : List (String × Json)} {message other : Json}
      (hmessage : Members.find? "message" members = some message)
      (h : MessageEdit message other) :
      RecordEdit (.object members) (.object (Members.insert "message" other members))

/-! ## What edits keep -/

theorem field?_of_edit {kept : List String} {a b : List (String × Json)}
    (h : Members.Edit kept a b) {key : String} (hkey : key ∈ kept) :
    (Json.object a).field? key = (Json.object b).field? key := by
  have hne : ∀ {other}, other ∉ kept → key ≠ other := by
    rintro other hother rfl
    exact hother hkey
  cases h with
  | put h value => rw [field?_insert, if_neg (hne h)]
  | erase h => rw [field?_erase, if_neg (hne h)]
  | @dropNull other _ h =>
    rw [field?_erase]
    by_cases hother : key = other
    · rw [if_pos hother, field?_object, hother, h]
      rfl
    · rw [if_neg hother]
  | @putNull other _ h =>
    rw [field?_insert]
    by_cases hother : key = other
    · rw [if_pos hother, field?_object, hother, h]
      rfl
    · rw [if_neg hother]

/-- An empty object has no members, and neither has what is no object. -/
theorem field?_of_noObject {v other : Json} (h : v.kind ≠ "object")
    (hother : other = .null ∨ other = .object []) (key : String) :
    v.field? key = other.field? key := by
  rw [field?_eq_none_of_kind h]
  rcases hother with rfl | rfl <;> rfl

/-- Two spans that give the same place. -/
structure SameSpan (a b : Json) : Prop where
  fileName : a.field? "file_name" = b.field? "file_name"
  lineStart : a.field? "line_start" = b.field? "line_start"

theorem SameSpan.refl (span : Json) : SameSpan span span :=
  ⟨rfl, rfl⟩

theorem SpanEdit.sameSpan {a b : Json} (h : SpanEdit a b) : SameSpan a b := by
  cases h with
  | members h => exact ⟨field?_of_edit h (by simp), field?_of_edit h (by simp)⟩
  | noObject h hother => exact ⟨field?_of_noObject h hother _, field?_of_noObject h hother _⟩

/-- Two messages with the same level and text, whose first spans give the same place if there are
any. -/
structure SameMessage (a b : Json) : Prop where
  level : a.field? "level" = b.field? "level"
  text : a.field? "message" = b.field? "message"
  span : Option.Rel SameSpan (firstSpan? a) (firstSpan? b)

/-- Messages with the same spans have the same first span. -/
theorem rel_firstSpan? {a b : Json} (h : a.field? "spans" = b.field? "spans") :
    Option.Rel SameSpan (firstSpan? a) (firstSpan? b) := by
  have hfirst : firstSpan? a = firstSpan? b := by
    rw [firstSpan?, firstSpan?, h]
  rw [hfirst]
  cases firstSpan? b with
  | none => exact .none
  | some span => exact .some (.refl span)

/-- Only the spans of a message need a look when nothing else of it is changed. -/
theorem SameMessage.of_spans {members others : List (String × Json)}
    (hother : ∀ key, key ≠ "spans" →
      (Json.object members).field? key = (Json.object others).field? key)
    (hspan : Option.Rel SameSpan (firstSpan? (.object members)) (firstSpan? (.object others))) :
    SameMessage (.object members) (.object others) :=
  ⟨hother _ (by decide), hother _ (by decide), hspan⟩

theorem field?_insert_of_ne {key other : String} (h : other ≠ key) (value : Json)
    (members : List (String × Json)) :
    (Json.object members).field? other =
      (Json.object (Members.insert key value members)).field? other := by
  rw [field?_insert, if_neg h]

theorem firstSpan?_insert (spans : List Json) (members : List (String × Json)) :
    firstSpan? (.object (Members.insert "spans" (.array spans) members)) = spans.head? := by
  rw [firstSpan?, field?_insert, if_pos rfl]
  cases spans <;> rfl

/-- Spans that are no array hold no first span. -/
theorem firstSpan?_of_kind {members : List (String × Json)} {spans : Json}
    (hspans : Members.find? "spans" members = some spans) (h : spans.kind ≠ "array") :
    firstSpan? (.object members) = none := by
  rw [firstSpan?, field?_object, hspans]
  cases spans with
  | array items => exact absurd rfl h
  | null | bool | number | string | object => rfl

theorem MessageEdit.sameMessage {a b : Json} (h : MessageEdit a b) : SameMessage a b := by
  cases h with
  | members h =>
    exact ⟨field?_of_edit h (by simp), field?_of_edit h (by simp),
      rel_firstSpan? (field?_of_edit h (by simp))⟩
  | firstSpan hspans h =>
    refine .of_spans (fun key hkey => field?_insert_of_ne hkey _ _) ?_
    rw [firstSpan?_array hspans, firstSpan?_insert]
    exact .some h.sameSpan
  | laterSpans hspans others =>
    refine .of_spans (fun key hkey => field?_insert_of_ne hkey _ _) ?_
    rw [firstSpan?_array hspans, firstSpan?_insert]
    exact .some (.refl _)
  | emptySpans hspans h =>
    refine .of_spans (fun key hkey => field?_insert_of_ne hkey _ _) ?_
    rw [firstSpan?_of_kind hspans h, firstSpan?_insert]
    exact .none
  | dropSpans hspans h =>
    refine .of_spans (fun key hkey => by rw [field?_erase, if_neg hkey]) ?_
    rw [firstSpan?_of_kind hspans h, firstSpan?, field?_erase, if_pos rfl]
    exact .none
  | noObject h hother =>
    exact ⟨field?_of_noObject h hother _, field?_of_noObject h hother _,
      rel_firstSpan? (field?_of_noObject h hother _)⟩

theorem fieldText_congr {a b : Json} {key : String} (h : a.field? key = b.field? key)
    (default : String) : fieldText a key default = fieldText b key default := by
  rw [fieldText, fieldText, h]

/-- Records with the same reason and with messages that are alike give the same. -/
theorem ofRecord_congr {a b : Json} (hreason : a.field? "reason" = b.field? "reason")
    (hmessage : SameMessage (messageOf a) (messageOf b)) : ofRecord a = ofRecord b := by
  obtain ⟨hlevel, htext, hspan⟩ := hmessage
  rw [messageOf, messageOf] at hlevel htext hspan
  rw [ofRecord, ofRecord, hreason]
  dsimp only
  rw [hlevel, fieldText_congr htext]
  generalize firstSpan? ((a.field? "message").getD .null) = first at hspan ⊢
  generalize firstSpan? ((b.field? "message").getD .null) = other at hspan ⊢
  cases hspan with
  | none => rfl
  | some h =>
    dsimp only
    rw [fieldText_congr h.fileName, fieldText_congr h.lineStart]

theorem messageOf_insert (message : Json) (members : List (String × Json)) :
    messageOf (.object (Members.insert "message" message members)) = message := by
  rw [messageOf, field?_insert, if_pos rfl, getD_present?]

theorem RecordEdit.ofRecord_eq {a b : Json} (h : RecordEdit a b) : ofRecord a = ofRecord b := by
  cases h with
  | @members a b h =>
    have hmessage : (Json.object a).field? "message" = (Json.object b).field? "message" :=
      field?_of_edit h (by simp)
    refine ofRecord_congr (field?_of_edit h (by simp)) ?_
    rw [messageOf, messageOf, hmessage]
    exact ⟨rfl, rfl, rel_firstSpan? rfl⟩
  | message hmessage h =>
    refine ofRecord_congr (field?_insert_of_ne (by decide) _ _) ?_
    rw [messageOf_object hmessage, messageOf_insert]
    exact h.sameMessage

/-- Any number of edits leaves what a record gives as it is. -/
theorem ofRecord_of_edits {record other : Json} (h : EqvGen RecordEdit record other) :
    ofRecord record = ofRecord other := by
  induction h with
  | rel _ _ h => exact h.ofRecord_eq
  | refl => rfl
  | symm _ _ _ ih => exact ih.symm
  | trans _ _ _ _ _ ih ih' => exact ih.trans ih'

/-- What is noted while the entry of a record is taken out of it, for a line with a number. -/
def noted (line : Nat) (record : Json) : Option Note :=
  match ofRecord record with
  | .ok _ => none
  | .error dismissal => dismissal.note? line

/-- Neither the entry of a record nor what is noted on it shows any of the edits, in either direction
and however many of them. An entry results exactly if the record qualifies, which takes the reason of
a compiler message, and its severity is the one that the level names. -/
theorem edits_do_not_show :
    (∀ record other, EqvGen RecordEdit record other →
      ofRecord other = ofRecord record ∧ ∀ line, noted line other = noted line record) ∧
    ∀ record severity, (∃ e, ofRecord record = .ok e ∧ e.severity = severity) ↔
      ∃ message span, Qualifies record severity message span := by
  constructor
  · intro record other h
    have hsame := ofRecord_of_edits h
    refine ⟨hsame.symm, fun line => ?_⟩
    rw [noted, noted, hsame]
  · intro record severity
    constructor
    · rintro ⟨e, he, rfl⟩
      exact exists_qualifies he
    · rintro ⟨message, span, hqualifies⟩
      exact ⟨_, hqualifies.ofRecord_eq, rfl⟩

/-- A first span that is no object gives way to `null`, a second span is put behind it and a member is
added to the message: it stays a warning without a place. -/
theorem edits_do_not_show_odd_span :
    EqvGen RecordEdit
      (.object [("message", .object [("level", .string "warning"),
        ("spans", .array [.string "oops"])]), ("reason", .string "compiler-message")])
      (.object [("message", .object [("children", .array []), ("level", .string "warning"),
        ("spans", .array [.null, .bool true])]), ("reason", .string "compiler-message")]) ∧
    ofRecord (.object [("message", .object [("children", .array []), ("level", .string "warning"),
        ("spans", .array [.null, .bool true])]), ("reason", .string "compiler-message")]) =
      .ok ⟨.warning, "unknown", "0", ""⟩ := by
  have hspan : RecordEdit
      (.object [("message", .object [("level", .string "warning"),
        ("spans", .array [.string "oops"])]), ("reason", .string "compiler-message")])
      (.object [("message", .object [("level", .string "warning"), ("spans", .array [.null])]),
        ("reason", .string "compiler-message")]) :=
    .message rfl (.firstSpan rfl (.noObject (by decide) (.inl rfl)))
  have hlater : RecordEdit
      (.object [("message", .object [("level", .string "warning"), ("spans", .array [.null])]),
        ("reason", .string "compiler-message")])
      (.object [("message", .object [("level", .string "warning"),
        ("spans", .array [.null, .bool true])]), ("reason", .string "compiler-message")]) :=
    .message rfl (.laterSpans rfl [.bool true])
  have hother : "children" ∉ ["level", "message", "spans"] := by
    decide
  have hmember : RecordEdit
      (.object [("message", .object [("level", .string "warning"),
        ("spans", .array [.null, .bool true])]), ("reason", .string "compiler-message")])
      (.object [("message", .object [("children", .array []), ("level", .string "warning"),
        ("spans", .array [.null, .bool true])]), ("reason", .string "compiler-message")]) :=
    .message rfl (.members (.put hother (.array []) _))
  have hedits := ((EqvGen.rel _ _ hspan).trans _ _ _ (.rel _ _ hlater)).trans _ _ _
    (.rel _ _ hmember)
  obtain ⟨hsame, -⟩ := edits_do_not_show.1 _ _ hedits
  exact ⟨hedits, hsame.trans rfl⟩

end Entry

end DiagnosticDigest
