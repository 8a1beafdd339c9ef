import GrammarBots.Grammar.Expansion
import GrammarBots.Media.Directive

/-!
# Drafts

A draft is what the expansion of a script gives before any media are fetched: the text as it will be
posted and the directives found in it.
-/

namespace GrammarBots

/-- The text of a post and its directives. -/
structure Draft where
  /-- The text as it is posted. -/
  text : Text
  /-- The directives, from left to right. -/
  directives : List Directive
  deriving DecidableEq

/-- The draft of an expanded text. -/
def Draft.ofExpanded (expanded : Text) : Draft := ⟨postedText expanded, Directive.scan expanded⟩

/-- The draft of one expansion of a grammar, and the state of chance after it. -/
def Grammar.draft {γ : Type} [Chooser γ] (g : Grammar) (chance : γ) :
    Except GrammarError Draft × γ :=
  let (result, chance) := g.expand startSymbol chance
  (result.map Draft.ofExpanded, chance)

end GrammarBots
