/-!
# Dates and times

A timestamp is a date, or a date with a time of day and possibly its distance from universal time.
`parse?` reads the written form, `Timestamp.fault?` says whether its numbers make a date and time, and
`Timestamp.text` writes it in one normal form.
-/
namespace CommandWrap.Yaml

/-- A time of day. -/
structure Clock where
  /-- The hour. -/
  hour : Nat
  /-- The minute. -/
  minute : Nat
  /-- The second. -/
  second : Nat
  /-- Millionths of a second. -/
  micro : Nat
  /-- Minutes ahead of universal time, if known. -/
  offset? : Option Int
deriving DecidableEq, Repr

/-- A date, perhaps with a time of day. -/
structure Timestamp where
  /-- The year. -/
  year : Nat
  /-- The month. -/
  month : Nat
  /-- The day of the month. -/
  day : Nat
  /-- The time of day. -/
  clock? : Option Clock
deriving DecidableEq, Repr

namespace Timestamp

/-- Between `least` and `most` decimal digits, as many as there are: their value and number, and what
follows. -/
def number? (least most : Nat) (cs : List Char) : Option (Nat × Nat × List Char) :=
  let digits := (cs.take most).takeWhile Char.isDigit
  if digits.length < least then none
  else some (digits.foldl (fun n d => 10 * n + (d.toNat - 48)) 0, digits.length,
    cs.drop digits.length)

/-- What follows a character. -/
def after? (c : Char) (cs : List Char) : Option (List Char) :=
  if cs.head? = some c then some cs.tail else none

/-- Is the character a space or tab? -/
def isGap (c : Char) : Bool :=
  c == ' ' || c == '\t'

/-- The distance from universal time at the end of a text, if there is one. -/
def offset? (cs : List Char) : Option (Option Int) :=
  match cs with
  | [] => some none
  | _ =>
    match cs.dropWhile isGap with
    | ['Z'] => some (some 0)
    | sign :: rest =>
      if sign = '+' ∨ sign = '-' then do
        let (hours, _, rest) ← number? 1 2 rest
        let minutes ← match rest with
          | [] => some 0
          | ':' :: rest => do
            let (minutes, _, rest) ← number? 2 2 rest
            if rest.isEmpty then some minutes else none
          | _ => none
        let distance : Int := 60 * hours + minutes
        return some (if sign = '-' then -distance else distance)
      else none
    | [] => none

/-- Millionths of a second from the digits behind the point. -/
def microOf (digits : List Char) : Nat :=
  ((digits ++ List.replicate 6 '0').take 6).foldl (fun n d => 10 * n + (d.toNat - 48)) 0

/-- The time of day behind a date. -/
def clockOf? (cs : List Char) : Option Clock := do
  let (hour, _, cs) ← number? 1 2 cs
  let (minute, _, cs) ← number? 2 2 (← after? ':' cs)
  let (second, _, cs) ← number? 2 2 (← after? ':' cs)
  let (digits, cs) := match cs with
    | '.' :: rest => rest.span Char.isDigit
    | _ => ([], cs)
  return { hour, minute, second, micro := microOf digits, offset? := ← offset? cs }

/-- The timestamp that a text writes, and whether it is written with at least two digits for month
and day or with a time of day. -/
def parse? (cs : List Char) : Option (Timestamp × Bool) := do
  let (year, _, cs) ← number? 4 4 cs
  let (month, monthWidth, cs) ← number? 1 2 (← after? '-' cs)
  let (day, dayWidth, cs) ← number? 1 2 (← after? '-' cs)
  match cs with
  | [] => return ({ year, month, day, clock? := none }, monthWidth = 2 && dayWidth = 2)
  | c :: rest =>
    let start ←
      if c = 'T' ∨ c = 't' then some rest
      else if isGap c then some (rest.dropWhile isGap)
      else none
    return ({ year, month, day, clock? := some (← clockOf? start) }, true)

/-- Is the year a leap year? -/
def isLeap (year : Nat) : Bool :=
  year % 4 = 0 && (year % 100 ≠ 0 || year % 400 = 0)

/-- The number of days of a month. -/
def daysIn (year month : Nat) : Nat :=
  if month = 2 then if isLeap year then 29 else 28
  else if month = 4 ∨ month = 6 ∨ month = 9 ∨ month = 11 then 30
  else 31

/-- A number of minutes as days and seconds. -/
def durationText (minutes : Int) : String :=
  let days := Int.fdiv minutes 1440
  let seconds := 60 * Int.fmod minutes 1440
  let dayPart := if days = 0 then [] else ["days=" ++ toString days]
  let secondPart := if seconds = 0 then [] else ["seconds=" ++ toString seconds]
  "datetime.timedelta(" ++ String.intercalate ", " (dayPart ++ secondPart) ++ ")"

/-- What is wrong with a distance from universal time. -/
def offsetFault? (minutes : Int) : Option String :=
  if minutes.natAbs < 1440 then none
  else some ("offset must be a timedelta strictly between -timedelta(hours=24) and " ++
    "timedelta(hours=24), not " ++ durationText minutes ++ ".")

/-- What is wrong with a time of day. -/
def clockFault? (c : Clock) : Option String :=
  if 23 < c.hour then some "hour must be in 0..23"
  else if 59 < c.minute then some "minute must be in 0..59"
  else if 59 < c.second then some "second must be in 0..59"
  else none

/-- What is wrong with a date. -/
def dateFault? (t : Timestamp) : Option String :=
  if t.year = 0 then some "year 0 is out of range"
  else if t.month < 1 ∨ 12 < t.month then some "month must be in 1..12"
  else if t.day < 1 ∨ daysIn t.year t.month < t.day then some "day is out of range for month"
  else none

/-- What is wrong with a timestamp: the distance from universal time is looked at first, then the date,
then the time of day. -/
def fault? (t : Timestamp) : Option String :=
  ((t.clock?.bind (·.offset?)).bind offsetFault?).orElse fun _ =>
    (dateFault? t).orElse fun _ => t.clock?.bind clockFault?

/-- A number with at least `width` digits. -/
def padded (width n : Nat) : String :=
  let digits := Nat.toDigits 10 n
  String.ofList (List.replicate (width - digits.length) '0' ++ digits)

/-- The distance from universal time as hours and minutes. -/
def offsetText (minutes : Int) : String :=
  let size := minutes.natAbs
  (if minutes < 0 then "-" else "+") ++ padded 2 (size / 60) ++ ":" ++ padded 2 (size % 60)

/-- The time of day; a fraction is written in full unless it is zero. -/
def clockText (c : Clock) : String :=
  padded 2 c.hour ++ ":" ++ padded 2 c.minute ++ ":" ++ padded 2 c.second ++
    (if c.micro = 0 then "" else "." ++ padded 6 c.micro) ++
    (c.offset?.map offsetText).getD ""

/-- The normal form of a timestamp. -/
def text (t : Timestamp) : String :=
  let date := padded 4 t.year ++ "-" ++ padded 2 t.month ++ "-" ++ padded 2 t.day
  match t.clock? with
  | none => date
  | some c => date ++ " " ++ clockText c

end Timestamp

end CommandWrap.Yaml
