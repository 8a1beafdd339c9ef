import GrammarBots.Web.Domain.Name
import GrammarBots.Web.Percent

/-!
# Hosts

The host of a URL is a domain name or an address of the internet protocol.  A name whose last label
is a number is an address of version 4 or nothing at all; an address of version 6 stands in
brackets.  `Host.read?` gives the one written form of a host.
-/

namespace GrammarBots.Host

/-! ### Version 4 -/

/-- The number that digits to a base write. -/
def numberOf? (base : Nat) (digits : Text) : Option Nat :=
  digits.foldlM (fun n c => do
    let d ← Percent.digitValue? c
    if d < base then some (n * base + d) else none) 0

/-- A part of an address: hexadecimal after `0x`, octal after `0`, decimal else. -/
def addressPart? : Text → Option Nat
  | [] => none
  | '0' :: 'x' :: rest => numberOf? 16 rest
  | '0' :: 'X' :: rest => numberOf? 16 rest
  | '0' :: c :: rest => numberOf? 8 (c :: rest)
  | t => numberOf? 10 t

/-- The labels of a name without the empty one after a final point. -/
def labels (name : Text) : List Text :=
  let parts := Text.splitOn '.' name
  if parts.length ≠ 1 ∧ parts.getLast? = some [] then parts.dropLast else parts

/-- Whether the last label of a name is a number. -/
def endsInNumber (name : Text) : Bool :=
  match (labels name).getLast? with
  | none => false
  | some last =>
    (last ≠ [] && last.all Char.isDigit) ||
      (match last with
      | '0' :: x :: rest => (x == 'x' || x == 'X') && (numberOf? 16 rest).isSome
      | _ => false)

/-- The number of an address of at most four parts; the last part fills what is left. -/
def combine : (weight : Nat) → List Nat → Option Nat
  | _, [] => none
  | 0, _ => none
  | weight + 1, [last] => if last < Nat.pow 256 (weight + 1) then some last else none
  | weight + 1, part :: rest =>
    if part < 256 then (combine weight rest).map (part * Nat.pow 256 weight + ·) else none

/-- The written form of an address of version 4. -/
def version4? (name : Text) : Option Text := do
  let n ← combine 4 (← (labels name).mapM addressPart?)
  let part (i : Nat) : Text := (toString (n / Nat.pow 256 i % 256)).toList
  return Text.join ['.'] [part 3, part 2, part 1, part 0]

/-! ### Version 6 -/

/-- The two groups that an address of version 4 at the end stands for. -/
def groupsOfVersion4? (t : Text) : Option (List Nat) :=
  match (Text.splitOn '.' t).mapM fun p =>
      if p.length ≤ 3 ∧ (p.head? ≠ some '0' ∨ p.length = 1) then
        (if p.isEmpty then none else numberOf? 10 p)
      else none with
  | some [a, b, c, d] =>
    if [a, b, c, d].all (· < 256) then some [a * 256 + b, c * 256 + d] else none
  | _ => none

/-- The groups between colons. -/
def groups? : List Text → Option (List Nat)
  | [] => some []
  | [last] =>
    if last.contains '.' then groupsOfVersion4? last
    else if last.isEmpty ∨ 4 < last.length then none
    else (numberOf? 16 last).map ([·])
  | t :: rest => do
    if t.isEmpty ∨ 4 < t.length then none
    return (← numberOf? 16 t) :: (← groups? rest)

/-- The groups of a text without a double colon; an empty text has none. -/
def groupsOf? (t : Text) : Option (List Nat) :=
  if t.isEmpty then some [] else groups? (Text.splitOn ':' t)

/-- The text before and after the first double colon. -/
def splitDoubleColon? : Text → Option (Text × Text)
  | ':' :: ':' :: rest => some ([], rest)
  | c :: rest => (splitDoubleColon? rest).map fun (before, after) => (c :: before, after)
  | [] => none

/-- The eight groups of an address of version 6. -/
def eightGroups? (t : Text) : Option (List Nat) :=
  match splitDoubleColon? t with
  | none => (groupsOf? t).filter (·.length == 8)
  | some (before, after) => do
    let front ← groupsOf? before
    let back ← groupsOf? after
    if before.contains '.' ∨ 8 ≤ front.length + back.length then none
    return front ++ List.replicate (8 - front.length - back.length) 0 ++ back

/-- How many zeros a list starts with. -/
def leadingZeros (groups : List Nat) : Nat := (groups.takeWhile (· == 0)).length

/-- The longest run of zeros: its position and its length; of equal runs, the first. -/
def longestZeros : (position : Nat) → List Nat → Nat × Nat
  | _, [] => (0, 0)
  | position, g :: rest =>
    let run := leadingZeros (g :: rest)
    let later := longestZeros (position + 1) rest
    if run ≠ 0 ∧ later.2 ≤ run then (position, run) else later

/-- Groups with colons between them. -/
def groupText (groups : List Nat) : Text :=
  Text.join [':'] (groups.map fun g => Nat.toDigits 16 g)

/-- The written form of an address of version 6; the longest run of zeros is left out. -/
def version6? (t : Text) : Option Text := do
  let groups ← eightGroups? t
  let (position, run) := longestZeros 0 groups
  let inner :=
    if run < 2 then groupText groups
    else groupText (groups.take position) ++ ':' :: ':' :: groupText (groups.drop (position + run))
  return '[' :: inner ++ [']']

/-! ### Names -/

/-- The written form of what stands in brackets, if the host does. -/
def readBracketed? (t : Text) : Option Text :=
  if t.getLast? = some ']' then version6? (t.drop 1).dropLast else none

/-- The written form of a host, where hosts are domain names or addresses. -/
def read? (t : Text) : Option Text :=
  if t.head? = some '[' then readBracketed? t
  else do
    let name ← Domain.toAscii? (← Utf8.decode? (Percent.decode t))
    if name.isEmpty then none
    else if endsInNumber name then version4? name
    else some name

/-- Whether a character may not stand in a host that is no domain name. -/
def isForbidden (c : Char) : Bool := "\x00\t\n\r #/:<>?@[\\]^|".toList.contains c

/-- The written form of a host, where hosts are what the scheme makes of them. -/
def readFree? (t : Text) : Option Text :=
  if t.head? = some '[' then readBracketed? t
  else if t.any isForbidden then none
  else some (Percent.encode (fun _ => false) t)

end GrammarBots.Host
