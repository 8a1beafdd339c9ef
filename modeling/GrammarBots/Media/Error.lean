import GrammarBots.Text.Basic

/-!
# What can go wrong with media

A directive that fails costs its post one attachment and nothing else, so these errors are values
that the renderer drops.
-/

namespace GrammarBots

/-- Why a directive gives no attachment. -/
inductive MediaError where
  /-- The resource could not be fetched. -/
  | fetch (url : Text) (reason : String)
  /-- The payload, of the given length, is of no known type. -/
  | typeDetection (length : Nat)
  /-- The upload was not accepted. -/
  | upload (reason : String)
  deriving DecidableEq

/-- The error in words. -/
def MediaError.message : MediaError → String
  | .fetch url reason => "failed to fetch media from " ++ url.str ++ ": " ++ reason
  | .typeDetection length => "could not detect media type (" ++ toString length ++ " bytes)"
  | .upload reason => "media upload failed: " ++ reason

end GrammarBots
