/-!
# The media of a post

A post takes a limited number of media.  Of what was uploaded, the latest stays, and it is attached
in reverse order; the earliest is evicted first.
-/

namespace GrammarBots

/-- What the publishing service calls an upload. -/
abbrev Handle := String

/-- How many media a post may have. -/
def maxMedia : Nat := 4

/-- The handles of a post after the limit was applied. -/
structure CappedMedia where
  /-- The handles to attach, in the order they are attached. -/
  kept : List Handle
  /-- The handles left out, in the order they are evicted. -/
  evicted : List Handle
  deriving DecidableEq

/-- Keeps the last `max` of the handles, latest first. -/
def capMedia (handles : List Handle) (max : Nat) : CappedMedia :=
  ⟨handles.reverse.take max, (handles.reverse.drop max).reverse⟩

end GrammarBots
