import GrammarBots.Media.Resolution
import GrammarBots.Post.Draft
import GrammarBots.Post.Error

/-!
# Rendering and posting

A renderer turns a draft into a post: it resolves the directives, keeps the attachments of those
that succeed in the order of the text, and applies the limit on media.  A directive that fails costs
its post that attachment only; an expansion that fails makes no post at all.
-/

namespace GrammarBots

/-- How long a fetch may take, in milliseconds. -/
def fetchTimeout : Nat := 5000

/-- How many directives of a post are resolved at a time unless the settings say otherwise. -/
def defaultConcurrency : Nat := 4

/-- How drafts become posts. -/
structure Renderer where
  /-- How long a fetch may take, in milliseconds. -/
  timeout : Nat := fetchTimeout
  /-- How many media a post may have. -/
  maxMedia : Nat := GrammarBots.maxMedia
  /-- How many directives are resolved at a time. -/
  concurrency : Nat := defaultConcurrency
  deriving DecidableEq

namespace Renderer

/-- The renderer with another number of directives at a time, which is at least one. -/
def withConcurrency (r : Renderer) (n : Nat) : Renderer := { r with concurrency := max n 1 }

/-- The renderer with another limit on media, which is at most that of the service. -/
def withMaxMedia (r : Renderer) (n : Nat) : Renderer :=
  { r with maxMedia := min n GrammarBots.maxMedia }

/-- The renderer as it is shown. -/
def describe (r : Renderer) : String :=
  "ContentRenderer \x7b resolver: MediaResolver \x7b fetch_timeout: " ++ Span.text r.timeout ++
    " \x7d, max_media: " ++ toString r.maxMedia ++ ", concurrency: " ++ toString r.concurrency ++
    " \x7d"

/-- The attachments of a post, given what became of its directives in the order of the text. -/
def attach (r : Renderer) (handles : List (Option Handle)) : List Handle :=
  (capMedia (handles.filterMap id) r.maxMedia).kept

end Renderer

/-- A post as it is given to the publishing service. -/
structure Post where
  /-- The text. -/
  text : Text
  /-- The attachments, in order. -/
  media : List Handle
  deriving DecidableEq

/-- The handle that a resolution ended with, if it did. -/
def handle? : Except MediaError (Option Handle) → Option Handle
  | .ok handle => handle
  | .error _ => none

/-- Resolves the directives of a draft one after the other and makes the post. -/
def Renderer.render {m : Type → Type} [Monad m] (r : Renderer) (services : MediaServices m)
    (draft : Draft) : m Post := do
  let resolved ← draft.directives.mapM fun d => resolve services r.timeout d.raw
  return ⟨draft.text, r.attach (resolved.map handle?)⟩

end GrammarBots
