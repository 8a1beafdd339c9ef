import GrammarBots.Json.Writer
import GrammarBots.Media.Resolution
import GrammarBots.Post.Renderer
import GrammarBots.Service.Answer
import GrammarBots.Text.Blank
import GrammarBots.Text.Shape
import GrammarBots.Web.Message
import GrammarBots.Web.MimeType

/-!
# Clients of the web and of the publishing service

Fetching media, uploading them and publishing posts, each as one request and the reading of its
answer.  Everything is in terms of a `Transport`, so no client knows where its answers come from.
-/

namespace GrammarBots

/-! ### Fetching -/

/-- Fetches the resource at an address. -/
def fetchMedia {m : Type → Type} [Monad m] (transport : Transport m) (url : Text) :
    m (Except MediaError Bytes) := do
  match ← Request.send transport (Request.make .get url none .nothing) with
  | .error fault => return .error (.fetch url fault.message)
  | .ok r =>
    if Status.isSuccess r.status then return .ok r.body
    else return .error (.fetch url ("HTTP " ++ Status.text r.status))

/-! ### The publishing service -/

/-- An account at the publishing service. -/
structure Account where
  /-- The root of the service, without a slash at its end. -/
  base : Text
  /-- The token of the account. -/
  token : Text
  deriving DecidableEq

namespace Account

/-- The account of a root and a token as people paste them, with blanks around them. -/
def ofPasted (base token : String) : Account :=
  ⟨Text.dropTrailing (· == '/') (Text.trim base.toList), Text.trim token.toList⟩

/-- The address of a service of the account. -/
def endpoint (a : Account) (path : String) : Text := a.base ++ path.toList

/-- What the account is authorised with. -/
def authorization (a : Account) : Text := "Bearer ".toList ++ a.token

/-- A character as it is shown between quotes; one that cannot be seen, by its code point. -/
def shownChar (c : Char) : Text :=
  match c with
  | '"' => ['\\', '"']
  | '\\' => ['\\', '\\']
  | '\x00' => ['\\', '0']
  | '\t' => ['\\', 't']
  | '\n' => ['\\', 'n']
  | '\r' => ['\\', 'r']
  | c =>
    if Text.isVisible c then [c] else "\\u\x7b".toList ++ Nat.toDigits 16 c.toNat ++ ['\x7d']

/-- The account as it is shown; its token is not. -/
def describe (a : Account) : String :=
  "HttpPublisher \x7b api_base: \"" ++ Text.str (a.base.flatMap shownChar) ++
    "\", access_token: \"<redacted>\" \x7d"

variable {m : Type → Type} [Monad m]

/-- Uploads a payload of the given MIME type. -/
def upload (transport : Transport m) (a : Account) (payload : Bytes) (mime : String) :
    m (Except MediaError Handle) := do
  if !MimeType.isValid mime.toList then
    return .error (.upload (RequestFault.unusable none).message)
  let request := Request.make .post (a.endpoint "/2/media/upload") (some a.authorization)
    (.form ⟨"media", "media", mime, payload⟩)
  match ← Request.send transport request with
  | .error fault => return .error (.upload fault.message)
  | .ok r =>
    if !Status.isSuccess r.status then
      return .error (.upload ("HTTP " ++ toString r.status ++ ": " ++ r.text.str))
    match Answer.ofBody? Answer.upload? r.body with
    | some (some handle) => return .ok handle
    | some none => return .error (.upload "upload response carried no media id")
    | none =>
      return .error (.upload ("invalid upload response: " ++ RequestFault.badBody.message))

/-- The document that hands in a post. -/
def document (post : Post) : Json.Value :=
  .object ([("text".toList, .string post.text)] ++
    if post.media.isEmpty then [] else
      [("media".toList, .object
        [("media_ids".toList, .array (post.media.map Json.Value.ofString))])])

/-- Publishes a post. -/
def publish (transport : Transport m) (a : Account) (post : Post) :
    m (Except PublishError Receipt) := do
  let request := Request.make .post (a.endpoint "/2/tweets") (some a.authorization)
    (.json (document post).compact)
  match ← Request.send transport request with
  | .error fault => return .error (.transport fault.message)
  | .ok r =>
    if !Status.isSuccess r.status then
      let message :=
        if r.text.isEmpty then (Status.reason? r.status).getD "unknown error" else r.text.str
      return .error (.rejected r.status message)
    match Answer.ofBody? Answer.post? r.body with
    | some receipt => return .ok receipt
    | none => return .error (.transport RequestFault.badBody.message)

/-- What media are resolved with for the account. -/
def services (transport : Transport m) (a : Account) : MediaServices m where
  fetch url := return some (← fetchMedia transport url)
  detect := detectMedia
  upload := upload transport a

end Account

end GrammarBots
