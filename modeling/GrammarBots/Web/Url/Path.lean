import GrammarBots.Web.Url.Basic

/-!
# Paths of addresses

The segments between the slashes of a path are resolved in order: one that is a point leads nowhere,
one that is two points drops the segment before it.  A letter and a colon name a disk and are never
dropped; at the front of the path of a file, they leave no room for a host.
-/

namespace GrammarBots

/-! ### Characters that are escaped -/

namespace Url

/-- Whether a character has to be escaped in a fragment. -/
def escapedInFragment (c : Char) : Bool := " \"<>\x60".toList.contains c

/-- Whether a character has to be escaped in a path. -/
def escapedInPath (c : Char) : Bool := escapedInFragment c || "#?\x7b\x7d".toList.contains c

/-- Whether a character has to be escaped in the name or the password of a user. -/
def escapedInSender (c : Char) : Bool := escapedInPath c || "/:;=@[\\]^|".toList.contains c

/-- Whether a character has to be escaped in a query. -/
def escapedInQuery (kind : SchemeKind) (c : Char) : Bool :=
  " \"#<>".toList.contains c || (c == '\'' && kind.turnsBackslash)

end Url

/-! ### Segments -/

/-- A text between two slashes of a path. -/
abbrev Segment := Text

namespace Segment

/-- The segment with its escaped points restored. -/
def unescapePoints : Segment → Segment
  | '%' :: '2' :: e :: rest =>
    if e = 'e' ∨ e = 'E' then '.' :: unescapePoints rest
    else '%' :: '2' :: unescapePoints (e :: rest)
  | c :: rest => c :: unescapePoints rest
  | [] => []

/-- Whether the segment begins with the name of a disk. -/
def beginsWithDisk : Segment → Bool
  | [letter, mark] => letter.isAlpha && (mark == ':' || mark == '|')
  | letter :: mark :: '\\' :: _ => letter.isAlpha && (mark == ':' || mark == '|')
  | _ => false

/-- The letter of the disk that the segment names. -/
def disk? : Segment → Option Char
  | [letter, mark] => if letter.isAlpha ∧ (mark = ':' ∨ mark = '|') then some letter else none
  | _ => none

/-- The segment as it is written; `first` tells whether no segment comes before it. -/
def written (kind : SchemeKind) (first : Bool) (segment : Segment) : Segment :=
  match disk? segment with
  | some letter =>
    if kind = .file ∧ first then [letter, ':'] else Percent.encode Url.escapedInPath segment
  | none => Percent.encode Url.escapedInPath segment

/-- The segments of a path without those that are points.  `above` holds the segments so far, last
one first. -/
def resolve (kind : SchemeKind) (above : List Segment) : List Segment → List Segment
  | [] => above.reverse
  | segment :: rest =>
    let last := if rest.isEmpty then [[]] else []
    let kept := if above.head?.any beginsWithDisk then above else above.drop 1
    if unescapePoints segment = ['.', '.'] then resolve kind (last ++ kept) rest
    else if unescapePoints segment = ['.'] then resolve kind (last ++ above) rest
    else resolve kind (written kind above.isEmpty segment :: above) rest

end Segment

namespace Url

/-- The text with slashes where the scheme takes backslashes for them. -/
def withSlashes (kind : SchemeKind) (t : Text) : Text :=
  if kind.turnsBackslash then t.map fun c => if c = '\\' then '/' else c else t

/-- The segments of the path that a text writes after the first slash. -/
def readSegments (kind : SchemeKind) (t : Text) : List Segment :=
  Segment.resolve kind [] (Text.splitOn '/' (withSlashes kind t))

/-- The path of segments.  That of a file begins with one slash. -/
def pathOf (kind : SchemeKind) (segments : List Segment) : Text :=
  let inner := Text.join ['/'] segments
  '/' :: if kind = .file then inner.dropWhile (· == '/') else inner

end Url

end GrammarBots
