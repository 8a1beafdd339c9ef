import GrammarBots.Web.Base64
import GrammarBots.Web.Status
import GrammarBots.Web.Url.Reader

/-!
# Requests and responses

What is said to a web server and what it answers.  A `Transport` carries a request to its server; it
is the only thing that the rest of the library knows of a network.
-/

namespace GrammarBots

/-- The methods of requests. -/
inductive Method where
  /-- Asks for something. -/
  | get
  /-- Hands something in. -/
  | post
  deriving DecidableEq

/-- The method as it is written. -/
def Method.text : Method → String
  | .get => "GET"
  | .post => "POST"

/-- A file in a form. -/
structure FormFile where
  /-- The name of the field. -/
  field : String
  /-- The name of the file. -/
  fileName : String
  /-- The MIME type. -/
  mime : String
  /-- The content. -/
  content : Bytes
  deriving DecidableEq

/-- The content of a request. -/
inductive Payload where
  /-- Nothing. -/
  | nothing
  /-- A JSON document. -/
  | json (document : Text)
  /-- A form with one file. -/
  | form (file : FormFile)
  deriving DecidableEq

/-- A request. -/
structure Request where
  /-- The method. -/
  method : Method
  /-- The address. -/
  url : Url
  /-- What the sender proves to be allowed with. -/
  authorizations : List Text
  /-- The content. -/
  payload : Payload
  deriving DecidableEq

/-- A response. -/
structure Response where
  /-- The status code. -/
  status : Nat
  /-- The content. -/
  body : Bytes
  deriving DecidableEq

/-- Carries requests to their servers; without an answer there is no response. -/
abbrev Transport (m : Type → Type) := Request → m (Option Response)

/-- What requests are signed with. -/
def userAgent : String := "postbot/0.1.0"

/-- Why there is no usable response. -/
inductive RequestFault where
  /-- The request cannot be made; the address, if it is at least an address. -/
  | unusable (address : Option Text)
  /-- There was no answer. -/
  | noAnswer (url : Text)
  /-- The content of the response is not what it should be. -/
  | badBody
  deriving DecidableEq

/-- The fault in words. -/
def RequestFault.message : RequestFault → String
  | .unusable none => "builder error"
  | .unusable (some address) => "builder error for url (" ++ address.str ++ ")"
  | .noAnswer url => "error sending request for url (" ++ url.str ++ ")"
  | .badBody => "error decoding response body"

namespace Request

/-- Whether a text can be the value of a header. -/
def isHeaderValue (t : Text) : Bool :=
  t.all fun c => (0x20 ≤ c.toNat && c.toNat != 0x7F) || c == '\t'

/-- The name and the password in an address, if there is a name or a password.  A name that is no
text is left where it is; a password that is none does not count. -/
def credentials? (a : Authority) : Option (Text × Text) := do
  let user ← Utf8.decode? (Percent.decode a.user)
  let password := (Utf8.decode? (Percent.decode a.password)).getD []
  if user.isEmpty ∧ password.isEmpty then none else some (user, password)

/-- The address without its user, and what the user is authorised with. -/
def withoutUser (url : Url) : Url × List Text :=
  match url.authority.bind credentials? with
  | some (user, password) =>
    ({ url with authority := url.authority.map fun a => { a with user := [], password := [] } },
      ["Basic ".toList ++ Base64.encode (Utf8.encode (Text.str (user ++ ':' :: password)))])
  | none => (url, [])

/-- The length of the longest address that a request can have. -/
def longestUrl : Nat := 65534

/-- Whether a request can carry the address: some characters of hosts have no place in one. -/
def carries (url : Url) : Bool :=
  url.isWeb && !url.host.any "\"\x60\x7b\x7d".toList.contains &&
    decide (url.text.length ≤ longestUrl)

/-- The request for an address, if one can be made. -/
def make (method : Method) (address : Text) (authorization : Option Text) (payload : Payload) :
    Except RequestFault Request :=
  match Url.read? address with
  | none => .error (.unusable none)
  | some url =>
    let (asked, proofs) := withoutUser url
    if url.host.isEmpty then .error (.unusable (some url.text))
    else if !authorization.all isHeaderValue then .error (.unusable none)
    else if !carries asked then .error (.unusable (some asked.text))
    else .ok ⟨method, asked, proofs ++ authorization.toList, payload⟩

/-- Sends a request. -/
def send {m : Type → Type} [Monad m] (transport : Transport m) :
    Except RequestFault Request → m (Except RequestFault Response)
  | .error fault => return .error fault
  | .ok request => do
    match ← transport request with
    | some response => return .ok response
    | none => return .error (.noAnswer request.url.text)

end Request

/-- The content of a response as text; broken characters are replaced. -/
def Response.text (r : Response) : Text :=
  match Utf8.decodeLenient r.body with
  | '\uFEFF' :: rest => rest
  | t => t

end GrammarBots
