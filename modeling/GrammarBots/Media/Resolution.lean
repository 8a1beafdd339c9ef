import GrammarBots.Media.Cap
import GrammarBots.Media.Error
import GrammarBots.Media.Resource
import GrammarBots.Media.Signature
import GrammarBots.Time.Span

/-!
# Resolving a directive

A directive becomes an attachment in three stages: its resource is fetched, the type of the payload
is detected, and the payload is uploaded.  Each stage is a function of its own, so that the stages
can run one after the other (`resolve`) or be spread over a timeline with those of other directives.
`resolve` fetches at most once and uploads at most once.
-/

namespace GrammarBots

/-- What a directive asks for before anything is fetched. -/
inductive Demand where
  /-- Nothing: it is no media directive. -/
  | nothing
  /-- Media without saying where they are. -/
  | withoutUrl
  /-- The resource at a URL. -/
  | fetch (url : Text)
  deriving DecidableEq

/-- What a directive asks for. -/
def Demand.ofDirective (raw : Text) : Demand :=
  match Resource.ofDirective? raw with
  | none => .nothing
  | some resource => if resource.url = [] then .withoutUrl else .fetch resource.url

/-- The URL to fetch, if there is one. -/
def Demand.url? : Demand → Option Text
  | .fetch url => some url
  | _ => none

/-- The payload that a fetch ended with; without an answer in time, the error that says so. -/
def fetched (timeout : Nat) (url : Text) :
    Option (Except MediaError Bytes) → Except MediaError Bytes
  | some answer => answer
  | none => .error (.fetch url ("timed out after " ++ Span.text timeout))

/-- The MIME type of a payload, or the error that it has none. -/
def detectMedia (payload : Bytes) : Except MediaError String :=
  match mediaType? payload with
  | some mime => .ok mime
  | none => .error (.typeDetection payload.length)

/-- What is fetched and uploaded with. -/
structure MediaServices (m : Type → Type) where
  /-- Fetches a URL; `none` if no answer comes in time. -/
  fetch : Text → m (Option (Except MediaError Bytes))
  /-- Detects the type of a payload. -/
  detect : Bytes → Except MediaError String
  /-- Uploads a payload of a MIME type. -/
  upload : Bytes → String → m (Except MediaError Handle)

/-- The attachment of a directive: none if the directive asks for nothing, and otherwise the handle
of the upload or the error of the first stage that failed. -/
def resolve {m : Type → Type} [Monad m] (services : MediaServices m) (timeout : Nat)
    (raw : Text) : m (Except MediaError (Option Handle)) :=
  match Demand.ofDirective raw with
  | .nothing => pure (.ok none)
  | .withoutUrl => pure (.error (.fetch [] "directive has no URL"))
  | .fetch url => do
    match fetched timeout url (← services.fetch url) with
    | .error e => pure (.error e)
    | .ok payload =>
      match services.detect payload with
      | .error e => pure (.error e)
      | .ok mime => return (← services.upload payload mime).map some

end GrammarBots
