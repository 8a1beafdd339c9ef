import GrammarBots.Text.Basic

/-!
# Media directives

A directive is a span of the text in braces, such as `{img URL}`.  A backslash before a brace makes
it literal.  Braces are paired from the right: an unescaped closing brace pairs with the nearest
unescaped opening brace to its left that leaves something between them and stands on the same line;
then the search goes on to the left of that opening brace.

`Piece.ofText` cuts a text into plain stretches and directives, losing nothing
(`flatten_ofText`); the directives with their positions, and the text without them, are read off the
pieces.
-/

namespace GrammarBots

/-- The characters that end a line, which no directive spans. -/
def isLineTerminator (c : Char) : Bool :=
  c == '\n' || c == '\r' || c == '\u2028' || c == '\u2029'

/-- Whether the character before a position is a backslash; `before` is the text before the
position, last character first. -/
def isEscaped (before : Text) : Bool := before.head? == some '\\'

/-- A stretch of a text. -/
inductive Piece where
  /-- Text outside directives. -/
  | plain (t : Text)
  /-- A directive, braces included. -/
  | directive (raw : Text)
  deriving DecidableEq

namespace Piece

/-- The characters of a piece. -/
def chars : Piece → Text
  | .plain t => t
  | .directive raw => raw

/-- The text that the pieces make up. -/
def flatten (pieces : List Piece) : Text := pieces.flatMap chars

/-- A plain piece before others, unless it is empty. -/
def consPlain (t : Text) (pieces : List Piece) : List Piece :=
  if t.isEmpty then pieces else .plain t :: pieces

/-- Cuts a text from the right.  `pieces` are those already cut off at the right end, `plain` is the
plain text in front of them, and `candidate` is what stands in front of that from an unescaped
closing brace on, if its opening brace is still sought.  The last argument is the text before all
these, last character first. -/
def cut (pieces : List Piece) (plain : Text) (candidate : Option Text) : Text → List Piece
  | [] => consPlain (candidate.getD [] ++ plain) pieces
  | c :: before =>
    match candidate with
    | none =>
      if c = '\x7d' ∧ ¬ isEscaped before then cut pieces plain (some [c]) before
      else cut pieces (c :: plain) none before
    | some content =>
      -- The line ends before an opening brace was found, so the closing brace was plain.
      if isLineTerminator c then cut pieces (c :: content ++ plain) none before
      else if c = '\x7b' ∧ ¬ isEscaped before ∧ 2 ≤ content.length then
        cut (.directive (c :: content) :: consPlain plain pieces) [] none before
      else cut pieces plain (some (c :: content)) before

/-- The pieces of a text. -/
def ofText (t : Text) : List Piece := cut [] [] none t.reverse

theorem flatten_cons (p : Piece) (pieces : List Piece) :
    flatten (p :: pieces) = p.chars ++ flatten pieces := List.flatMap_cons

theorem flatten_consPlain (t : Text) (pieces : List Piece) :
    flatten (consPlain t pieces) = t ++ flatten pieces := by
  unfold consPlain
  cases t with
  | nil => rfl
  | cons c rest => simp [flatten_cons, chars]

theorem flatten_cut (pieces : List Piece) (plain : Text) (candidate : Option Text) (rev : Text) :
    flatten (cut pieces plain candidate rev) =
      rev.reverse ++ candidate.getD [] ++ plain ++ flatten pieces := by
  fun_induction cut pieces plain candidate rev <;>
    simp_all [flatten_consPlain, flatten_cons, chars]

/-- Cutting loses nothing and adds nothing. -/
theorem flatten_ofText (t : Text) : flatten (ofText t) = t := by
  rw [ofText, flatten_cut]
  simp [flatten]

/-- The text of the plain pieces. -/
def plainText : List Piece → Text
  | [] => []
  | .plain t :: rest => t ++ plainText rest
  | .directive _ :: rest => plainText rest

end Piece

/-- A directive of a text. -/
structure Directive where
  /-- The directive, braces included. -/
  raw : Text
  /-- The octets before the directive. -/
  start : Nat
  /-- The octets up to the end of the directive. -/
  stop : Nat
  deriving DecidableEq

namespace Directive

/-- The directives among pieces that stand behind `offset` octets. -/
def ofPieces (offset : Nat) : List Piece → List Directive
  | [] => []
  | .plain t :: rest => ofPieces (offset + Text.utf8Size t) rest
  | .directive raw :: rest =>
    let stop := offset + Text.utf8Size raw
    ⟨raw, offset, stop⟩ :: ofPieces stop rest

/-- The directives of a text, from left to right. -/
def scan (t : Text) : List Directive := ofPieces 0 (Piece.ofText t)

/-- The text without its directives; escaped braces stay escaped. -/
def strip (t : Text) : Text := Piece.plainText (Piece.ofText t)

end Directive

/-! ### Escaped braces -/

/-- The text without the backslashes that stand before the given brace. -/
def unescapeBrace (brace : Char) : Text → Text
  | '\\' :: c :: rest =>
    if c = brace then brace :: unescapeBrace brace rest
    else '\\' :: unescapeBrace brace (c :: rest)
  | c :: rest => c :: unescapeBrace brace rest
  | [] => []

/-- The text with its escaped braces restored. -/
def unescapeBraces (t : Text) : Text := unescapeBrace '\x7d' (unescapeBrace '\x7b' t)

/-- The text as it is posted: without directives, escaped braces restored. -/
def postedText (t : Text) : Text := unescapeBraces (Directive.strip t)

end GrammarBots
