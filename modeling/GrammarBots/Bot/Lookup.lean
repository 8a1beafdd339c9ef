import GrammarBots.Bot.Record
import GrammarBots.Failure
import GrammarBots.Text.Casing

/-!
# Finding a bot

A bot is asked for by its id or by its name.  Ids come first and must agree exactly; names may
differ in the case of the letters of ASCII.  If nothing fits, the ids and names closest to what was
asked for are suggested.
-/

namespace GrammarBots.BotRecord

/-- How far a suggestion may be from what was asked for: half of its octets, but at least one. -/
def suggestionReach (query : String) : Nat := max query.utf8ByteSize 2 / 2

/-- The distance of two names when case does not count. -/
def nameDistance (a b : String) : Nat :=
  Text.editDistance (Text.lower a.toList) (Text.lower b.toList)

/-- Whether one scored name comes before another: it is closer, or as close and lesser. -/
def comesBefore (a b : Nat × String) : Bool := a.1 < b.1 || (a.1 == b.1 && decide (a.2 ≤ b.2))

/-- The list without repetitions; the first of equal elements stays. -/
def firstOccurrences : List String → List String
  | [] => []
  | s :: rest => s :: (firstOccurrences rest).filter (· != s)

/-- The ids and names closest to what was asked for, closest first and at most three. -/
def similarNames (bots : List BotRecord) (query : String) : List String :=
  let names := bots.flatMap fun bot => [bot.id, bot.name]
  let scored := names.map fun name => (nameDistance query name, name)
  let close := (scored.filter fun s => s.1 ≤ suggestionReach query).mergeSort comesBefore
  (firstOccurrences (close.map (·.2))).take 3

/-- Whether the name of the bot is the one asked for, up to the case of the letters of ASCII. -/
def hasName (query : String) (bot : BotRecord) : Bool :=
  Text.eqIgnoringAsciiCase bot.name.toList query.toList

/-- The position of the bot with the given id or else name. -/
def findIndex (bots : List BotRecord) (query : String) : Except AppError Nat :=
  match bots.findIdx? (·.id == query) with
  | some i => .ok i
  | none =>
    match bots.findIdx? (hasName query) with
    | some i => .ok i
    | none => .error (.botNotFound query (similarNames bots query))

end GrammarBots.BotRecord
