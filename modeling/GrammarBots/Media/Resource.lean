import GrammarBots.Media.Directive
import GrammarBots.Text.Blank

/-!
# What a directive names

Inside its braces a directive reads `img URL` or `vid URL`, with one separating character of any
kind after the three letters.  Any other directive names nothing and is dropped without notice.
-/

namespace GrammarBots

/-- The kind of media that a directive asks for. -/
inductive MediaKind where
  /-- A picture. -/
  | image
  /-- A film. -/
  | video
  deriving DecidableEq

namespace MediaKind

/-- The letters that a directive of the kind begins with. -/
def letters : MediaKind → Text
  | .image => ['i', 'm', 'g']
  | .video => ['v', 'i', 'd']

/-- The kind that begins with the given letters. -/
def ofLetters? (t : Text) : Option MediaKind :=
  if t = image.letters then some .image else if t = video.letters then some .video else none

end MediaKind

/-- A media resource on the web. -/
structure Resource where
  /-- What it is announced as. -/
  kind : MediaKind
  /-- Where it is, trimmed; it may be empty. -/
  url : Text
  deriving DecidableEq

namespace Resource

/-- The content of a directive: escaped braces restored, the outer characters removed, trimmed. -/
def content (raw : Text) : Text := Text.trim ((unescapeBraces raw).drop 1).dropLast

/-- The resource that a directive names. -/
def ofDirective? (raw : Text) : Option Resource :=
  let content := content raw
  (MediaKind.ofLetters? (content.take 3)).map fun kind => ⟨kind, Text.trim (content.drop 4)⟩

end Resource

end GrammarBots
