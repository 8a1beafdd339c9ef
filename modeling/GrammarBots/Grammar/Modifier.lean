import GrammarBots.Text.Blank
import GrammarBots.Text.Casing

/-!
# Modifiers

A modifier changes the text that a tag expanded to: its letter case, its article, its plural or
past tense, or the occurrences of a word in it.  A name that is no modifier changes nothing, so a
slip of the pen never keeps a bot from posting.
-/

namespace GrammarBots

/-- What is done to the text of a tag. -/
inductive Modifier where
  /-- The first character in upper case. -/
  | capitalize
  /-- The first character of every word in upper case. -/
  | capitalizeAll
  /-- With an indefinite article before it. -/
  | article
  /-- In the plural. -/
  | plural
  /-- In the past tense. -/
  | past
  /-- With the first word in the plural. -/
  | firstPlural
  /-- With every occurrence of a text replaced. -/
  | replace (pat new : Text)
  /-- Unchanged: the name is not known. -/
  | unknown
  deriving DecidableEq

namespace Modifier

/-! ### Reading -/

/-- The name of a call `name(argument,...,argument)` and its arguments. -/
def splitCall (t : Text) : Text × List Text :=
  match Text.splitOnce? '(' t with
  | none => (t, [])
  | some (name, rest) =>
    let arguments := if rest.getLast? = some ')' then rest.dropLast else rest
    (name, Text.splitOn ',' arguments)

/-- The modifier that a text names; blanks around it do not count. -/
def ofText (t : Text) : Modifier :=
  let (name, arguments) := splitCall (Text.trim t)
  if name = "capitalize".toList then .capitalize
  else if name = "capitalizeAll".toList then .capitalizeAll
  else if name = "a".toList then .article
  else if name = "s".toList then .plural
  else if name = "ed".toList then .past
  else if name = "firstS".toList then .firstPlural
  else if name = "replace".toList then
    match arguments with
    | [pat, new] => .replace pat new
    | _ => .unknown
  else .unknown

/-! ### English -/

/-- A vowel letter of English. -/
def isVowel (c : Char) : Bool := "aeiou".toList.contains c.toLower

/-- The first character in upper case; it may become several. -/
def capitalized : Text → Text
  | [] => []
  | c :: rest => Text.charUpper c ++ rest

/-- Every letter or digit of ASCII that follows something else in upper case; `atStart` tells
whether the next one does. -/
def capitalizedWords : (atStart : Bool) → Text → Text
  | _, [] => []
  | atStart, c :: rest =>
    if c.isAlphanum then
      (if atStart then Text.charUpper c else [c]) ++ capitalizedWords false rest
    else c :: capitalizedWords true rest

/-- The text with its indefinite article: `an` before a vowel, but `a` before a `u` whose third
letter is `i`, as in `unicorn`. -/
def withArticle (t : Text) : Text :=
  let long := match t with
    | 'u' :: _ :: 'i' :: _ => false
    | c :: _ => isVowel c
    | [] => false
  (if long then ['a', 'n', ' '] else ['a', ' ']) ++ t

/-- Whether a word ends in a `y` that an ending turns into `ie`. -/
def endsInSoftY (t : Text) : Bool :=
  match t.reverse with
  | 'y' :: c :: _ => !isVowel c
  | ['y'] => true
  | _ => false

/-- The plural of a word. -/
def pluralized (t : Text) : Text :=
  if t.getLast?.any fun c => c == 's' || c == 'h' || c == 'x' then t ++ ['e', 's']
  else if endsInSoftY t then t.dropLast ++ ['i', 'e', 's']
  else t ++ ['s']

/-- The past tense of a word. -/
def pastTense (t : Text) : Text :=
  if t.getLast? = some 'e' then t ++ ['d']
  else if endsInSoftY t then t.dropLast ++ ['i', 'e', 'd']
  else t ++ ['e', 'd']

/-- The text with its first word in the plural. -/
def firstPluralized (t : Text) : Text :=
  match Text.splitOnce? ' ' t with
  | some (first, rest) => pluralized first ++ ' ' :: rest
  | none => pluralized t

/-! ### Applying -/

/-- The text after the modifier. -/
def apply : Modifier → Text → Text
  | .capitalize, t => capitalized t
  | .capitalizeAll, t => capitalizedWords true t
  | .article, t => withArticle t
  | .plural, t => pluralized t
  | .past, t => pastTense t
  | .firstPlural, t => firstPluralized t
  | .replace pat new, t => Text.replaceAll pat new t
  | .unknown, t => t

/-- The text after the modifiers that a tag names, in order. -/
def applyAll (modifiers : List Text) (t : Text) : Text :=
  modifiers.foldl (fun t modifier => (ofText modifier).apply t) t

end Modifier

end GrammarBots
