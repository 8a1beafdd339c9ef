import GrammarBots.Grammar.Error

/-!
# What can go wrong with a post

A post fails because its text cannot be expanded or because the publishing service does not take it.
Each failure has a short code and a detail, which a bot records, and a message, which people read.
-/

namespace GrammarBots

/-- What the publishing service confirms. -/
structure Receipt where
  /-- The id that the service gave the post. -/
  id : String
  /-- The text as the service keeps it. -/
  text : String
  deriving DecidableEq

/-- Why the publishing service did not take a post. -/
inductive PublishError where
  /-- The service answered with a status other than success. -/
  | rejected (status : Nat) (message : String)
  /-- The service gave no usable answer. -/
  | transport (reason : String)
  deriving DecidableEq

namespace PublishError

/-- The short code of the error. -/
def code : PublishError → String
  | .rejected status _ => toString status
  | .transport _ => "transport"

/-- What the service or the transport had to say. -/
def detail : PublishError → String
  | .rejected _ message => message
  | .transport reason => reason

/-- The error in words. -/
def message : PublishError → String
  | .rejected status message =>
    "publishing service rejected the post (HTTP " ++ toString status ++ "): " ++ message
  | .transport reason => "could not reach the publishing service: " ++ reason

end PublishError

/-- Why nothing was posted. -/
inductive PostError where
  /-- The text could not be expanded. -/
  | grammar (e : GrammarError)
  /-- The post was not published. -/
  | publish (e : PublishError)
  deriving DecidableEq

namespace PostError

/-- The short code of the error. -/
def code : PostError → String
  | .grammar _ => "grammar"
  | .publish e => e.code

/-- The detail that goes with the code. -/
def detail : PostError → String
  | .grammar e => e.message
  | .publish e => e.detail

/-- The error in words. -/
def message : PostError → String
  | .grammar e => e.message
  | .publish e => e.message

end PostError

end GrammarBots
