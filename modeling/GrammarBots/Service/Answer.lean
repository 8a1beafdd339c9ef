import GrammarBots.Json.Reader
import GrammarBots.Post.Error
import GrammarBots.Text.Utf8

/-!
# Answers of the publishing service

The service answers with JSON records.  A record is an object, in which fields that are not known do
not count and no known field may stand twice, or an array of all its fields in order.  An upload is
named in one of two places, of which the newer one comes first.
-/

namespace GrammarBots.Answer

/-- The fields of a record with the given names; `none` inside for those left out. -/
def fields? (names : List Text) : Json.Value → Option (List (Option Json.Value))
  | .object members => names.mapM fun name =>
    match members.filter (·.1 == name) with
    | [] => some none
    | [(_, value)] => some (some value)
    | _ => none
  | .array elements =>
    if elements.length = names.length then some (elements.map some) else none
  | _ => none

/-- A string that must be given. -/
def string? : Option Json.Value → Option String
  | some (.string s) => some s.str
  | _ => none

/-- A value that may be left out or null. -/
def optional? {α : Type} (read : Json.Value → Option α) :
    Option Json.Value → Option (Option α)
  | none => some none
  | some .null => some none
  | some value => (read value).map some

/-- The id in the record of an upload. -/
def uploadId? (v : Json.Value) : Option String :=
  match fields? ["id".toList] v with
  | some [id] => string? id
  | _ => none

/-- The name of an upload, if the answer gives one; nothing at all if it is no such answer. -/
def upload? (v : Json.Value) : Option (Option String) :=
  match fields? ["data".toList, "media_id_string".toList] v with
  | some [data, legacy] => do
    let id ← optional? uploadId? data
    let legacyId ← optional? (fun v => string? (some v)) legacy
    return id <|> legacyId
  | _ => none

/-- A receipt. -/
def receipt? (v : Json.Value) : Option Receipt :=
  match fields? ["id".toList, "text".toList] v with
  | some [id, text] => do return ⟨← string? id, ← string? text⟩
  | _ => none

/-- The receipt in the answer to a post. -/
def post? (v : Json.Value) : Option Receipt :=
  match fields? ["data".toList] v with
  | some [some data] => receipt? data
  | _ => none

/-- Reads the content of an answer. -/
def ofBody? {α : Type} (read : Json.Value → Option α) (body : Bytes) : Option α :=
  ((Utf8.decode? body).bind Json.read?).bind read

end GrammarBots.Answer
