import GrammarBots.Web.Percent

/-!
# Addresses on the web

A URL in its one written form: the scheme in lower case, the host and the path as they are
requested, and the port left out where it is the usual one of the scheme.  `Url.text` writes it.
-/

namespace GrammarBots

/-! ### Schemes -/

/-- How a scheme builds its addresses. -/
inductive SchemeKind where
  /-- A host with a usual port, and a path on it. -/
  | network (usualPort : Nat)
  /-- A path on a disk, maybe that of another host. -/
  | file
  /-- As the scheme wants it. -/
  | free
  deriving DecidableEq

namespace SchemeKind

/-- How the scheme with a name builds its addresses. -/
def ofName (scheme : Text) : SchemeKind :=
  match scheme.str with
  | "http" | "ws" => .network 80
  | "https" | "wss" => .network 443
  | "ftp" => .network 21
  | "file" => .file
  | _ => .free

/-- The port that need not be written. -/
def usualPort? : SchemeKind → Option Nat
  | .network port => some port
  | .file | .free => none

/-- Whether a backslash counts as a slash. -/
def turnsBackslash (kind : SchemeKind) : Bool := kind != .free

end SchemeKind

/-! ### URLs -/

/-- Who to ask: a host, and who asks it. -/
structure Authority where
  /-- The name of the user, escaped; empty if there is none. -/
  user : Text := []
  /-- The password of the user, escaped; empty if there is none. -/
  password : Text := []
  /-- The host as it is written; empty if there is none. -/
  host : Text := []
  /-- The port, if it is not the usual one. -/
  port : Option Nat := none
  deriving DecidableEq

/-- An absolute address. -/
structure Url where
  /-- The name of the scheme in lower case. -/
  scheme : Text
  /-- Who to ask, if the address says so. -/
  authority : Option Authority
  /-- The path.  Where the scheme has hosts, it begins with a slash. -/
  path : Text
  /-- What follows a question mark. -/
  query : Option Text
  /-- What follows a hash. -/
  fragment : Option Text
  deriving DecidableEq

namespace Authority

/-- The host and, if it is not the usual one, the port. -/
def place (a : Authority) : Text :=
  a.host ++ ((a.port.map fun p => ':' :: (toString p).toList).getD [])

/-- The user, if there is one, and an at sign. -/
def sender (a : Authority) : Text :=
  if a.user.isEmpty ∧ a.password.isEmpty then []
  else a.user ++ (if a.password.isEmpty then [] else ':' :: a.password) ++ ['@']

end Authority

namespace Url

/-- Whether the connection is encrypted. -/
def isSecure (u : Url) : Bool := u.scheme == "https".toList

/-- Whether requests can be sent to the address. -/
def isWeb (u : Url) : Bool := u.scheme == "http".toList || u.isSecure

/-- The host as it is written; empty if there is none. -/
def host (u : Url) : Text := (u.authority.map (·.host)).getD []

/-- The port to connect to, if the scheme has one. -/
def port? (u : Url) : Option Nat :=
  (u.authority.bind (·.port)) <|> (SchemeKind.ofName u.scheme).usualPort?

/-- The host and, if it is not the usual one, the port. -/
def place (u : Url) : Text := (u.authority.map Authority.place).getD []

/-- What a request asks the host for. -/
def target (u : Url) : Text := u.path ++ ((u.query.map ('?' :: ·)).getD [])

/-- What stands between the scheme and the path.  Without it, a path that begins with two slashes
has a point in front of them, lest it be read as a host. -/
def beforePath (u : Url) : Text :=
  match u.authority, u.path with
  | some a, _ => '/' :: '/' :: a.sender ++ a.place
  | none, '/' :: '/' :: _ => ['/', '.']
  | none, _ => []

/-- The URL as it is written. -/
def text (u : Url) : Text :=
  u.scheme ++ ':' :: u.beforePath ++ u.target ++ ((u.fragment.map ('#' :: ·)).getD [])

end Url

end GrammarBots
