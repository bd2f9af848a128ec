import DiagnosticDigest.Json.Compact
import DiagnosticDigest.Json.Document
import DiagnosticDigest.Note
import DiagnosticDigest.Text.Blank

/-!
# Entries from lines

A line of input gives an entry, or it is dismissed for a reason. A record gives an entry if it is a
compiler message of level error or warning with at least one span; the first span tells the place.

## Main definitions

* `Dismissal`: why a line gives no entry.
* `Entry.ofRecord`: the entry of a decoded record.
* `Entry.ofLine`, `Entry.ofBytes`: the entry of a line, as text and as bytes.
* `Dismissal.note?`: what is noted about a dismissed line.
-/

namespace DiagnosticDigest

/-- Why a line gives no entry. -/
inductive Dismissal where
  | undecodable (fault : Utf8.Fault)
  | blank
  | malformed (fault : Json.Fault) (text : String)
  | otherReason
  | levelless
  | unknownLevel (level : String)
  | spanless (severity : Severity)
  deriving DecidableEq

/-- What is noted about a dismissed line with a number. Blank lines and records that are no
diagnostics pass without a note. -/
def Dismissal.note? (line : Nat) : Dismissal → Option Note
  | undecodable fault => some (.undecodable line fault)
  | malformed fault text => some (.malformed fault text)
  | unknownLevel level => some (.unknownLevel level)
  | spanless severity => some (.spanless severity)
  | blank | otherReason | levelless => none

namespace Entry

/-- The reason that marks a record as a compiler message. -/
def compilerMessage : String := "compiler-message"

/-- The text of a member, or a default where there is none. -/
def fieldText (v : Json) (key default : String) : String :=
  match v.field? key with
  | some held => held.asText
  | none => default

/-- The first span of a message. -/
def firstSpan? (message : Json) : Option Json :=
  match (message.field? "spans").bind Json.items? with
  | some (span :: _) => some span
  | _ => none

/-- The entry of a record. A missing file name reads `unknown`, a missing line `0`, and a missing
message is empty. -/
def ofRecord (record : Json) : Except Dismissal Entry :=
  if (record.field? "reason").bind Json.text? ≠ some compilerMessage then .error .otherReason
  else
    let message := (record.field? "message").getD .null
    match (message.field? "level").bind Json.text? with
    | none => .error .levelless
    | some level =>
      match Severity.ofLabel? level with
      | none => .error (.unknownLevel level)
      | some severity =>
        match firstSpan? message with
        | none => .error (.spanless severity)
        | some span =>
          .ok {
            severity := severity
            fileName := fieldText span "file_name" "unknown"
            lineStart := fieldText span "line_start" "0"
            message := fieldText message "message" "" }

/-- The value of a line's text, which is dismissed if it is no JSON. -/
def readRecord (text : String) : Except Dismissal Json :=
  match Json.parse text with
  | .ok record => .ok record
  | .error fault => .error (.malformed fault text)

/-- The entry of a text as it is, without trimming. -/
def ofText (text : String) : Except Dismissal Entry :=
  match readRecord text with
  | .ok record => ofRecord record
  | .error dismissal => .error dismissal

/-- The entry of a line. Blanks around the record do not count, and a blank line is not decoded. -/
def ofLine (line : String) : Except Dismissal Entry :=
  let text := Text.trim line
  if text = "" then .error .blank else ofText text

/-- The entry of a line that is given by its bytes. -/
def ofBytes (bytes : List UInt8) : Except Dismissal Entry :=
  match Utf8.decode bytes with
  | .ok line => ofLine line
  | .error fault => .error (.undecodable fault)

end Entry

end DiagnosticDigest
