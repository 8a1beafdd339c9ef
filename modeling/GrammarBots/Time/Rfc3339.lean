import GrammarBots.Text.Blank
import GrammarBots.Time.Instant

/-!
# Times as text

Instants are written in UTC as RFC 3339 has it, with as many decimals as are needed among none,
three, six and nine, and with a sign before a year that has not four digits.  Reading takes any
offset and is lenient about blanks, about leading zeros and about the letter between date and time.
-/

namespace GrammarBots.Instant

/-! ### Writing -/

/-- A number with zeros before it up to the given width. -/
def padded (width n : Nat) : Text :=
  let digits := (toString n).toList
  List.replicate (width - digits.length) '0' ++ digits

/-- A year: four digits, or a sign and at least four digits outside the years 0 to 9999. -/
def yearText (year : Int) : Text :=
  if 0 ≤ year ∧ year ≤ 9999 then padded 4 year.toNat
  else (if year < 0 then '-' else '+') :: padded 4 year.natAbs

/-- A part of a second with its point, in the fewest of 0, 3, 6 and 9 decimals that lose nothing. -/
def fractionText (nanos : Nat) : Text :=
  if nanos = 0 then []
  else if nanos % 1000000 = 0 then '.' :: padded 3 (nanos / 1000000)
  else if nanos % 1000 = 0 then '.' :: padded 6 (nanos / 1000)
  else '.' :: padded 9 nanos

/-- The date of an instant. -/
def date (t : Instant) : Calendar.Date := Calendar.dateOf (t.seconds / 86400)

/-- The seconds of the day of an instant. -/
def secondOfDay (t : Instant) : Nat := (t.seconds % 86400).toNat

/-- A date as text. -/
def dateText (d : Calendar.Date) : Text :=
  yearText d.year ++ '-' :: padded 2 d.month ++ '-' :: padded 2 d.day

/-- The instant as text.  Within a leap second, the second is one more than the clock has. -/
def text (t : Instant) : Text :=
  let s := t.secondOfDay
  let leap := t.nanos / 1000000000
  dateText t.date ++ 'T' :: padded 2 (s / 3600) ++ ':' :: padded 2 (s / 60 % 60) ++
    ':' :: padded 2 (s % 60 + leap) ++ fractionText (t.nanos % 1000000000) ++ ['Z']

/-- The instant to the minute, as lists show it. -/
def minuteText (t : Instant) : Text :=
  let s := t.secondOfDay
  dateText t.date ++ ' ' :: padded 2 (s / 3600) ++ ':' :: padded 2 (s / 60 % 60) ++
    " UTC".toList

/-! ### Reading -/

/-- The number that decimal digits write. -/
def numberOf (digits : Text) : Nat :=
  digits.foldl (fun n c => n * 10 + (c.toNat - '0'.toNat)) 0

/-- The text without the blanks at its front. -/
def skipBlank (t : Text) : Text := t.dropWhile Text.isBlank

/-- A number of one to `width` digits, and the text after it. -/
def readDigits? (width : Nat) (t : Text) : Option (Nat × Text) :=
  match (t.take width).takeWhile Char.isDigit with
  | [] => none
  | digits => some (numberOf digits, t.drop digits.length)

/-- A number of at most two digits within the given bounds, blanks before it skipped. -/
def readField? (low high : Nat) (t : Text) : Option (Nat × Text) := do
  let (n, rest) ← readDigits? 2 (skipBlank t)
  if low ≤ n ∧ n ≤ high then some (n, rest) else none

/-- The text after the given character, blanks before it skipped. -/
def readMark? (mark : Char) (t : Text) : Option Text :=
  match skipBlank t with
  | c :: rest => if c = mark then some rest else none
  | [] => none

/-- A year: a sign and any number of digits, or at most four digits. -/
def readYear? (t : Text) : Option (Int × Text) :=
  match skipBlank t with
  | '-' :: rest => (readDigits? rest.length rest).map fun (n, r) => (-(n : Int), r)
  | '+' :: rest => (readDigits? rest.length rest).map fun (n, r) => ((n : Int), r)
  | t => (readDigits? 4 t).map fun (n, r) => ((n : Int), r)

/-- The nanoseconds that a point and decimals write; decimals past the ninth do not count. -/
def readFraction? : Text → Option (Nat × Text)
  | '.' :: rest =>
    match rest.takeWhile Char.isDigit with
    | [] => none
    | digits =>
      some (numberOf (digits.take 9) * Nat.pow 10 (9 - digits.length), rest.dropWhile Char.isDigit)
  | t => some (0, t)

/-- Two digits, and the text after them. -/
def readTwo? : Text → Option (Nat × Text)
  | a :: b :: rest => if a.isDigit ∧ b.isDigit then some (numberOf [a, b], rest) else none
  | _ => none

/-- The seconds of an offset from UTC: `Z`, `UTC`, or a sign, hours and minutes. -/
def readOffset? (t : Text) : Option (Int × Text) :=
  if (t.take 3).map Char.toLower = ['u', 't', 'c'] then some (0, t.drop 3)
  else match t with
    | [] => none
    | sign :: rest =>
      if sign = 'Z' ∨ sign = 'z' then some (0, rest)
      else if sign = '+' ∨ sign = '-' ∨ sign = '−' then do
        let (hours, rest) ← readTwo? rest
        let (minutes, rest) ← readTwo? (rest.dropWhile fun c => c == ':' || Text.isBlank c)
        if minutes < 60 ∧ hours < 24 then
          let seconds : Int := (hours * 3600 + minutes * 60 : Nat)
          some (if sign = '+' then seconds else -seconds, rest)
        else none
      else none

/-- The instant that a text writes, if it writes one. -/
def read? (t : Text) : Option Instant := do
  let (year, t) ← readYear? t
  let (month, t) ← readField? 1 12 (← readMark? '-' t)
  let (day, t) ← readField? 1 31 (← readMark? '-' t)
  let t ← match t with
    | c :: rest => if c = 'T' ∨ c = 't' ∨ c = ' ' then some rest else none
    | [] => none
  let (hour, t) ← readField? 0 23 t
  let (minute, t) ← readField? 0 59 (← readMark? ':' t)
  let (second, t) ← readField? 0 60 (← readMark? ':' t)
  let (nanos, t) ← readFraction? t
  let (offset, t) ← readOffset? (skipBlank t)
  if !(skipBlank t).isEmpty then none
  let date : Calendar.Date := ⟨year, month, day⟩
  if !date.isValid then none
  let clock := hour * 3600 + minute * 60 + min second 59
  let leap := if second = 60 then 1000000000 else 0
  let midnight := Calendar.daysOf date * 86400
  if midnight < minSeconds ∨ maxSeconds < midnight then none
  of? (midnight + clock - offset) (nanos + leap)

end GrammarBots.Instant
