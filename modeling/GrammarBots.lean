import GrammarBots.Main
import GrammarBots.Proofs.Grammar.Literal
import GrammarBots.Proofs.Grammar.Lint
import GrammarBots.Proofs.Media.PostedText
import GrammarBots.Rehearsal.Scene
import GrammarBots.Proofs.Media.Authoring
import GrammarBots.Proofs.Media.Stripping
import GrammarBots.Proofs.Post.Rendering
import GrammarBots.Proofs.Schedule.History
import GrammarBots.Proofs.Bot.Check
import GrammarBots.Proofs.Grammar.Printing
import GrammarBots.Proofs.Grammar.Pushes
import GrammarBots.Proofs.Grammar.Reachability
import GrammarBots.Proofs.Grammar.Runs
import GrammarBots.Proofs.Grammar.Scoping
import GrammarBots.Proofs.Grammar.Termination
import GrammarBots.Proofs.Grammar.Nesting
import GrammarBots.Proofs.Grammar.Locality
import GrammarBots.Proofs.Schedule.Overlap
import GrammarBots.Proofs.Bot.Warnings
import GrammarBots.Proofs.Media.Lines
import GrammarBots.Proofs.Post.Timing
import GrammarBots.Proofs.Bot.Saving
import GrammarBots.Proofs.Time.Saturation
import GrammarBots.Proofs.Media.Resolving
import GrammarBots.Proofs.Grammar.CheckedExpansion
import GrammarBots.Proofs.Bot.RoundTrip
import GrammarBots.Proofs.Bot.Duplicates
import GrammarBots.Proofs.Bot.Casing
import GrammarBots.Proofs.Grammar.Commas
import GrammarBots.Proofs.Media.Cap
import GrammarBots.Proofs.Grammar.TagParts
