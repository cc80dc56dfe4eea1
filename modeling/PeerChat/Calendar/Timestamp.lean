import PeerChat.Calendar.Date
import PeerChat.Text.Cut

/-!
Moments in UTC, to the nanosecond, leap seconds included, their text form, and what local clocks show.

A moment is written `YYYY-MM-DDTHH:MM:SS`, a fraction of no, three, six or nine digits, the fewest that are
exact, and `Z`; a year outside 0 to 9999 is written with a sign. It is read from a wider form: a date, then `T`,
`t` or a space, a time of day with any fraction, and an offset from UTC; blanks may stand before a part.
-/

namespace PeerChat.Calendar

open PeerChat.Text

/-! ### Moments -/

/-- A moment in UTC. Second 60 is a leap second and may stand in any minute. -/
structure Timestamp where
  date : Date
  hour : Nat
  minute : Nat
  second : Nat
  nano : Nat
  hour_lt : hour < 24
  minute_lt : minute < 60
  second_le : second ≤ 60
  nano_lt : nano < 1000000000
deriving DecidableEq, Repr

namespace Timestamp

def epoch : Timestamp :=
  ⟨⟨1970, 1, 1, by decide, by decide, by decide⟩, 0, 0, 0, 0, by decide, by decide, by decide, by decide⟩

/-- The moment with the given parts, if there is one. -/
def of? (date : Date) (hour minute second nano : Nat) : Option Timestamp :=
  if h : hour < 24 ∧ minute < 60 ∧ second ≤ 60 ∧ nano < 1000000000 then
    some ⟨date, hour, minute, second, nano, h.1, h.2.1, h.2.2.1, h.2.2.2⟩
  else none

@[simp] theorem of?_parts (t : Timestamp) : of? t.date t.hour t.minute t.second t.nano = some t := by
  simp [of?, t.hour_lt, t.minute_lt, t.second_le, t.nano_lt]

/-- The moment in UTC that a clock `offset` minutes ahead of UTC shows as `t`. Offsets are below a day, so the
date moves by one day at most. -/
def toUtc? (t : Timestamp) (offset : Int) : Option Timestamp :=
  let minutes : Int := 60 * t.hour + t.minute - offset
  let date? :=
    if minutes < 0 then t.date.previous?
    else if minutes < 1440 then some t.date
    else t.date.next?
  date?.bind fun date =>
    let ofDay := (minutes % 1440).toNat
    of? date (ofDay / 60) (ofDay % 60) t.second t.nano

/-! ### Writing -/

/-- The year: four digits from 0 to 9999, otherwise a sign and at least four digits. -/
def yearText (year : Int) : List Char :=
  if 0 ≤ year ∧ year ≤ 9999 then digitsPadded 4 year.toNat
  else (if year < 0 then '-' else '+') :: digitsPadded 4 year.natAbs

/-- The fraction of a second, with the fewest groups of three digits that are exact. -/
def fractionText (nano : Nat) : List Char :=
  if nano = 0 then []
  else if nano % 1000000 = 0 then '.' :: digitsPadded 3 (nano / 1000000)
  else if nano % 1000 = 0 then '.' :: digitsPadded 6 (nano / 1000)
  else '.' :: digitsPadded 9 nano

/-- The time of day to the second. -/
def clockText (t : Timestamp) : List Char :=
  digitsPadded 2 t.hour ++ ':' :: digitsPadded 2 t.minute ++ ':' :: digitsPadded 2 t.second

def render (t : Timestamp) : List Char :=
  yearText t.date.year ++ '-' :: digitsPadded 2 t.date.month ++ '-' :: digitsPadded 2 t.date.day ++
    'T' :: t.clockText ++ fractionText t.nano ++ ['Z']

def text (t : Timestamp) : String := String.ofList t.render

/-! ### Reading -/

/-- A number of at least one and at most `most` digits, as many as there are, and what follows. -/
def readDigits (most : Nat) (cs : List Char) : Option (Nat × List Char) :=
  let ds := (cs.take most).takeWhile isDigit
  if ds.isEmpty then none else some (ofDigits ds, cs.drop ds.length)

/-- What follows the character `c`. -/
def skipChar (c : Char) : List Char → Option (List Char)
  | d :: cs => if d = c then some cs else none
  | [] => none

/-- A year: up to four digits, or a sign and any number of digits. -/
def readYear : List Char → Option (Int × List Char)
  | '-' :: cs => (readDigits cs.length cs).map fun (n, rest) => (-(n : Int), rest)
  | '+' :: cs => (readDigits cs.length cs).map fun (n, rest) => ((n : Int), rest)
  | cs => (readDigits 4 cs).map fun (n, rest) => ((n : Int), rest)

/-- A date, blanks allowed before each part. -/
def readDate (cs : List Char) : Option (Date × List Char) := do
  let (year, cs) ← readYear (trimStart cs)
  let cs ← skipChar '-' (trimStart cs)
  let (month, cs) ← readDigits 2 (trimStart cs)
  let cs ← skipChar '-' (trimStart cs)
  let (day, cs) ← readDigits 2 (trimStart cs)
  let date ← Date.of? year month day
  return (date, cs)

def skipSeparator : List Char → Option (List Char)
  | c :: cs => if c = 'T' ∨ c = 't' ∨ c = ' ' then some cs else none
  | [] => none

/-- A fraction of a second in nanoseconds; digits after the ninth are dropped. -/
def readFraction : List Char → Option (Nat × List Char)
  | '.' :: cs =>
    let ds := cs.takeWhile isDigit
    let kept := ds.take 9
    if ds.isEmpty then none else some (ofDigits kept * Nat.pow 10 (9 - kept.length), cs.drop ds.length)
  | cs => some (0, cs)

/-- The hours and minutes of an offset: two digits each, colons or blanks between them. -/
def readOffsetMinutes (cs : List Char) : Option (Nat × List Char) := do
  match cs with
  | h :: h' :: cs =>
    guard (isDigit h && isDigit h')
    match cs.dropWhile (fun c => c == ':' || isBlank c) with
    | m :: m' :: rest =>
      guard (isDigit m && isDigit m' && m ≤ '5')
      let minutes := 60 * ofDigits [h, h'] + ofDigits [m, m']
      guard (minutes < 1440)
      return (minutes, rest)
    | _ => none
  | _ => none

/-- `Z`, or a sign with hours and minutes, as minutes. -/
def readSignedOffset : List Char → Option (Int × List Char)
  | [] => none
  | c :: cs =>
    if c = 'Z' ∨ c = 'z' then some (0, cs)
    else if c = '+' then (readOffsetMinutes cs).map fun (n, rest) => ((n : Int), rest)
    else if c = '-' ∨ c = '−' then (readOffsetMinutes cs).map fun (n, rest) => (-(n : Int), rest)
    else none

/-- An offset from UTC in minutes: `UTC`, `Z`, or a sign with hours and minutes. -/
def readOffset : List Char → Option (Int × List Char)
  | u :: t :: c :: rest =>
    if (u = 'U' ∨ u = 'u') ∧ (t = 'T' ∨ t = 't') ∧ (c = 'C' ∨ c = 'c') then some (0, rest)
    else readSignedOffset (u :: t :: c :: rest)
  | cs => readSignedOffset cs

def read? (cs : List Char) : Option Timestamp := do
  let (date, cs) ← readDate cs
  let cs ← skipSeparator cs
  let (hour, cs) ← readDigits 2 (trimStart cs)
  let cs ← skipChar ':' (trimStart cs)
  let (minute, cs) ← readDigits 2 (trimStart cs)
  let cs ← skipChar ':' (trimStart cs)
  let (second, cs) ← readDigits 2 (trimStart cs)
  let (nano, cs) ← readFraction cs
  let (offset, cs) ← readOffset (trimStart cs)
  guard (trimStart cs).isEmpty
  let shown ← of? date hour minute second nano
  shown.toUtc? offset

def ofText? (s : String) : Option Timestamp := read? s.toList

end Timestamp

/-! ### Local clocks -/

/-- A time zone. -/
structure Zone where
  /-- How many seconds its clocks are ahead of UTC at a moment. -/
  ahead : Timestamp → Int

namespace Zone

def utc : Zone := ⟨fun _ => 0⟩

/-- The time of day to the second, as the clocks of a zone show it. -/
def clockText (zone : Zone) (t : Timestamp) : List Char :=
  -- a leap second is one more second of the same minute in every zone
  let leap := if t.second = 60 then 1 else 0
  let second := 3600 * t.hour + 60 * t.minute + (t.second - leap)
  let shown := (((second : Int) + zone.ahead t) % 86400).toNat
  digitsPadded 2 (shown / 3600) ++ ':' :: digitsPadded 2 (shown / 60 % 60) ++
    ':' :: digitsPadded 2 (shown % 60 + leap)

end Zone

end PeerChat.Calendar
