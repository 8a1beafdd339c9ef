import GrammarBots.Web.Host
import GrammarBots.Web.Url.Path

/-!
# Reading addresses

`Url.read?` reads an absolute URL and brings it into its written form: blanks around it dropped, the
host in its own written form, the port left out where it is the usual one, the points of the path
resolved, and all characters escaped that have to be.
-/

namespace GrammarBots

/-! ### Authorities -/

namespace Authority

/-- What comes before the last at sign, and what comes after it. -/
def cutAtSign? (t : Text) : Option (Text × Text) :=
  (Text.splitOnce? '@' t.reverse).map fun (after, before) => (before.reverse, after.reverse)

/-- The name and the password of a user, escaped, in an authority without them. -/
def ofSender (t : Text) : Authority :=
  { user := Percent.encode Url.escapedInSender (t.takeWhile (· != ':'))
    password := Percent.encode Url.escapedInSender ((t.dropWhile (· != ':')).drop 1) }

/-- The host before the first colon that is not in brackets, and what follows it. -/
def splitHost (inBrackets : Bool) : Text → Text × Text
  | [] => ([], [])
  | c :: rest =>
    if c = ':' ∧ !inBrackets then ([], c :: rest)
    else
      let inBrackets := c == '[' || (inBrackets && c != ']')
      ((splitHost inBrackets rest).map (c :: ·) id)

/-- The port that follows a host, if one other than the usual one is given, and what comes after it.
Only a path may come there. -/
def readPort? (kind : SchemeKind) : Text → Option (Option Nat × Text)
  | ':' :: t => do
    let digits := t.takeWhile Char.isDigit
    let rest := t.dropWhile Char.isDigit
    let port ← Host.numberOf? 10 digits
    if 65535 < port ∨ rest.head?.any (· != '\\') then none
    if digits.isEmpty ∨ kind.usualPort? = some port then return (none, rest)
    return (some port, rest)
  | t => some (none, t)

/-- The host of an address, if there is one. -/
def readHost? : SchemeKind → Text → Option Text
  | .free, t => Host.readFree? t
  | .network _, t | .file, t => Host.read? t

/-- The authority that a text writes, and what comes after it.  A user needs a host, and so does a
port; an at sign on its own is no authority if more of the address follows, which `goesOn` tells. -/
def read? (kind : SchemeKind) (goesOn : Bool) (t : Text) : Option (Authority × Text) := do
  let (sender, place) := (cutAtSign? t).getD ([], t)
  if t = ['@'] ∧ goesOn then none
  let a := ofSender sender
  let (host, rest) := splitHost false place
  if host.isEmpty ∧ (kind.turnsBackslash ∨ rest.head? = some ':' ∨ a.sender ≠ []) then none
  let host ← readHost? kind host
  let (port, rest) ← readPort? kind rest
  return ({ a with host, port }, rest)

end Authority

/-! ### Addresses -/

namespace Url

/-- What an address says before its query. -/
structure Front where
  /-- Who to ask. -/
  authority : Option Authority
  /-- The path. -/
  path : Text

/-- Whether a character is a slash in the addresses of a scheme. -/
def isSlash (kind : SchemeKind) (c : Char) : Bool :=
  c == '/' || (c == '\\' && kind.turnsBackslash)

/-- An authority and the path after it.  Only where the scheme is free, there may be no path. -/
def readAuthority? (kind : SchemeKind) (goesOn : Bool) (t : Text) : Option Front := do
  let (a, between) ←
    Authority.read? kind (goesOn || t.any (isSlash kind)) (t.takeWhile (!isSlash kind ·))
  match between ++ t.dropWhile (!isSlash kind ·) with
  | [] => return ⟨some a, if kind = .free then [] else ['/']⟩
  | c :: rest =>
    return ⟨some a, pathOf kind (readSegments kind (if isSlash kind c then rest else c :: rest))⟩

/-- The path of a file on a host.  The name of a disk at its front takes the place of the host. -/
def onHost (host : Text) (t : Text) : Front :=
  let segments := readSegments .file t
  let host := if segments.head?.any (Segment.disk? · |>.isSome) then [] else host
  ⟨some { host }, pathOf .file segments⟩

/-- The host and the path of a file, after two slashes. -/
def readFileHost? (t : Text) : Option Front := do
  let host := t.takeWhile (!isSlash .file ·)
  let rest := t.dropWhile (!isSlash .file ·)
  if (Segment.disk? host).isSome then return onHost [] t
  if host.isEmpty then return onHost [] rest
  let host ← Host.read? host
  if host = "localhost".toList then return onHost [] rest
  return onHost host (rest.drop 1)

/-- What an address says between its scheme and its query; `goesOn` tells whether anything comes
after that. -/
def readFront? (kind : SchemeKind) (goesOn : Bool) (t : Text) : Option Front :=
  match kind, t with
  | .network _, _ => readAuthority? kind goesOn (t.dropWhile (isSlash kind))
  | .file, a :: b :: rest =>
    if isSlash .file a ∧ isSlash .file b then readFileHost? rest
    else some (onHost [] (if isSlash .file a then b :: rest else t))
  | .file, _ => some (onHost [] (t.dropWhile (isSlash .file)))
  | .free, '/' :: '/' :: rest => readAuthority? kind goesOn rest
  | .free, '/' :: rest => some ⟨none, pathOf kind (readSegments kind rest)⟩
  | .free, _ => some ⟨none, Percent.encode (fun _ => false) t⟩

/-- Whether a character may stand in a scheme after its first letter. -/
def isSchemeChar (c : Char) : Bool := c.isAlphanum || c == '+' || c == '-' || c == '.'

/-- The scheme of an address in lower case, and what follows the colon. -/
def splitScheme? (t : Text) : Option (Text × Text) :=
  match t.takeWhile isSchemeChar, t.dropWhile isSchemeChar with
  | c :: scheme, ':' :: rest =>
    if c.isAlpha then some ((c :: scheme).map Char.toLower, rest) else none
  | _, _ => none

/-- The text without the blanks and control characters around it and the line breaks and tabs within
it. -/
def clean (t : Text) : Text :=
  (Text.trimBoth (fun c => c.toNat ≤ 0x20) t).filter fun c => c != '\t' && c != '\n' && c != '\r'

/-- The address that a text writes, if it writes an absolute one. -/
def read? (t : Text) : Option Url := do
  let (scheme, t) ← splitScheme? (clean t)
  let kind := SchemeKind.ofName scheme
  let (t, fragment) := (Text.splitOnce? '#' t).elim (t, none) fun (t, f) => (t, some f)
  let (t, query) := (Text.splitOnce? '?' t).elim (t, none) fun (t, q) => (t, some q)
  let front ← readFront? kind (query.isSome || fragment.isSome) t
  return {
    scheme
    authority := front.authority
    path := front.path
    query := query.map (Percent.encode (escapedInQuery kind))
    fragment := fragment.map (Percent.encode escapedInFragment) }

end Url

end GrammarBots
