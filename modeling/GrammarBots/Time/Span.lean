import GrammarBots.Text.Basic

/-!
# Spans of time as text

A span of whole milliseconds is shown in seconds with the decimals it needs, or in milliseconds if
it is shorter than a second.
-/

namespace GrammarBots.Span

/-- A span of milliseconds as text. -/
def text (milliseconds : Nat) : String :=
  let whole := toString (milliseconds / 1000)
  let rest := milliseconds % 1000
  if milliseconds = 0 then "0ns"
  else if milliseconds < 1000 then toString milliseconds ++ "ms"
  else if rest = 0 then whole ++ "s"
  else
    let digits := (toString rest).toList
    let decimals := List.replicate (3 - digits.length) '0' ++ digits
    whole ++ "." ++ (Text.dropTrailing (· == '0') decimals).str ++ "s"

end GrammarBots.Span
