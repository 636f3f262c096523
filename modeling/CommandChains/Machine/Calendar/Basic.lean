import CommandChains.Machine.Octets

/-!
# Dates and clocks

Days of the calendar, and the time that a clock shows in some zone.
-/

namespace CommandChains.Machine.Calendar

/-!
## Dates

Days are counted from the first day of 1970. A date of the calendar is the year, the month
and the day of the month; to say which day that is, years are taken to begin in March, so
that the day that is not in every year is the last one of its year.
-/

structure Date where
  year : Int
  month : Nat
  day : Nat
  deriving DecidableEq, Repr

def cycle : Int := 146097

/-- The days from the beginning of a cycle to the first day that is counted. -/
def shift : Int := 719468

def daysBefore (year : Int) : Int := 365 * year + year / 4 - year / 100

def Date.number (d : Date) : Int :=
  let year := if d.month ≤ 2 then d.year - 1 else d.year
  let inYear : Int := (153 * ((d.month + 9) % 12) + 2) / 5 + d.day - 1
  year / 400 * cycle + daysBefore (year % 400) + inYear - shift

def Date.ofNumber (n : Int) : Date :=
  let z := n + shift
  let inCycle := z % cycle
  let year := (inCycle - inCycle / 1460 + inCycle / 36524 - inCycle / 146096) / 365
  let inYear := (inCycle - daysBefore year).toNat
  let place := (5 * inYear + 2) / 153
  let month := if place < 10 then place + 3 else place - 9
  let whole := z / cycle * 400 + year
  { year := if month ≤ 2 then whole + 1 else whole, month
    day := inYear - (153 * place + 2) / 5 + 1 }

def weekday (n : Int) : Nat := ((n + 4) % 7).toNat

def Date.dayOfYear (d : Date) : Nat :=
  (d.number - { d with month := 1, day := 1 }.number).toNat

/-- Whether there is a day of the calendar like this. -/
def Date.exists? (d : Date) : Bool := Date.ofNumber d.number == d

def daysOf (year : Int) : Nat :=
  (Date.number ⟨year + 1, 1, 1⟩ - Date.number ⟨year, 1, 1⟩).toNat

/-- The week of a year that begins with its first Thursday's week, and that year. -/
def isoWeek (n : Int) : Int × Nat :=
  let monday := n - ((weekday n + 6) % 7 : Nat)
  let thursday := Date.ofNumber (monday + 3)
  (thursday.year, thursday.dayOfYear / 7 + 1)

/-- A moment, in seconds from the beginning of the first day that is counted. -/
structure Moment where
  seconds : Int
  nanoseconds : Nat := 0
  deriving DecidableEq, Repr

def daySeconds : Int := 86400

structure Zone where
  name : Octets := "UTC".toList
  ahead : Int := 0
  deriving DecidableEq, Repr

structure Reading where
  date : Date
  number : Int
  hour : Nat
  minute : Nat
  second : Nat
  moment : Moment
  zone : Zone
  deriving Repr

def Moment.reading (m : Moment) (zone : Zone) : Reading :=
  let local_ := m.seconds + zone.ahead
  let number := local_ / daySeconds
  let inDay := (local_ % daySeconds).toNat
  { date := Date.ofNumber number, number, hour := inDay / 3600, minute := inDay / 60 % 60
    second := inDay % 60, moment := m, zone }

/-- The moment when clocks show some time of a day. -/
def momentOf (zone : Zone) (number : Int) (hour minute second : Int) : Moment :=
  { seconds := number * daySeconds + hour * 3600 + minute * 60 + second - zone.ahead }

def present : Moment := { seconds := 1767225600 }

def dayNames : List String :=
  ["Sunday", "Monday", "Tuesday", "Wednesday", "Thursday", "Friday", "Saturday"]

def monthNames : List String :=
  ["January", "February", "March", "April", "May", "June", "July", "August", "September",
    "October", "November", "December"]

def leadingNumber (text : Octets) : Option (Nat × Octets) :=
  let digits := text.takeWhile Char.isDigit
  if digits.isEmpty then none else some (Octets.decimal digits, text.drop digits.length)

/-!
## Clocks

A clock shows the time of some zone. In some places clocks are put forward in spring and
back in autumn: on the first, second or some later Sunday, say, of a month. A clock is
described by names and by how far it is behind, or by the name of a place.
-/

structure Change where
  month : Nat
  /-- Which of the days of the week it is; the fifth means the last one. -/
  week : Nat
  weekday : Nat
  time : Int := 7200
  deriving DecidableEq, Repr

def Change.dayIn (c : Change) (year : Int) : Int :=
  let first := Date.number ⟨year, c.month, 1⟩
  let next := if c.month = 12 then Date.number ⟨year + 1, 1, 1⟩
    else Date.number ⟨year, c.month + 1, 1⟩
  let begins := first + ((c.weekday + 7 - Calendar.weekday first) % 7 : Nat)
  let day := begins + 7 * (c.week - 1 : Nat)
  if next ≤ day then day - 7 else day

structure Clock where
  usual : Zone := {}
  /-- The zone in summer, when that begins, and when it ends. -/
  summer : Option (Zone × Change × Change) := none
  deriving DecidableEq, Repr

def Clock.zoneAt (c : Clock) (seconds : Int) : Zone :=
  match c.summer with
  | none => c.usual
  | some (zone, begin_, end_) =>
    let year := (Date.ofNumber ((seconds + c.usual.ahead) / daySeconds)).year
    let starts := begin_.dayIn year * daySeconds + begin_.time - c.usual.ahead
    let stops := end_.dayIn year * daySeconds + end_.time - zone.ahead
    let isSummer := if starts ≤ stops then decide (starts ≤ seconds) && decide (seconds < stops)
      else decide (starts ≤ seconds) || decide (seconds < stops)
    if isSummer then zone else c.usual

/-! ## Descriptions -/

def readZoneName (text : Octets) : Octets × Octets :=
  match text with
  | '<' :: rest =>
    let name := rest.takeWhile (· != '>')
    (name, rest.drop (name.length + 1))
  | text =>
    let name := text.takeWhile Char.isAlpha
    (name, text.drop name.length)

def readHours (text : Octets) : Option (Int × Octets) :=
  let (sign, rest) : Int × Octets := match text with
    | '-' :: rest => (-1, rest)
    | '+' :: rest => (1, rest)
    | rest => (1, rest)
  match leadingNumber rest with
  | none => none
  | some (hours, ':' :: rest) =>
    match leadingNumber rest with
    | some (minutes, ':' :: more) =>
      match leadingNumber more with
      | some (seconds, more) =>
        some (sign * (hours * 3600 + minutes * 60 + seconds : Nat), more)
      | none => none
    | some (minutes, more) => some (sign * (hours * 3600 + minutes * 60 : Nat), more)
    | none => none
  | some (hours, rest) => some (sign * (hours * 3600 : Nat), rest)

def readChange (text : Octets) : Option (Change × Octets) := do
  match text with
  | ',' :: 'M' :: rest =>
    let (month, rest) ← leadingNumber rest
    let (week, rest) ← leadingNumber (rest.drop 1)
    let (weekday, rest) ← leadingNumber (rest.drop 1)
    if month = 0 || 12 < month || week = 0 || 5 < week || 6 < weekday then none
    match rest with
    | '/' :: rest =>
      let (time, rest) ← readHours rest
      some ({ month, week, weekday, time }, rest)
    | rest => some ({ month, week, weekday }, rest)
  | _ => none

def Clock.described? (text : Octets) : Option Clock := do
  let (name, rest) := readZoneName text
  let (behind, rest) ← readHours rest
  if name.length < 3 then none
  let usual : Zone := { name, ahead := -behind }
  if rest.isEmpty then some { usual }
  else
    let (name, rest) := readZoneName rest
    if name.length < 3 then none
    let (ahead, rest) := match readHours rest with
      | some (behind, rest) => (-behind, rest)
      | none => (usual.ahead + 3600, rest)
    let summer : Zone := { name, ahead }
    if rest.isEmpty then
      some { usual, summer := some (summer, ⟨3, 2, 0, 7200⟩, ⟨11, 1, 0, 7200⟩) }
    else
      let (begin_, rest) ← readChange rest
      let (end_, _) ← readChange rest
      some { usual, summer := some (summer, begin_, end_) }

def places : List (String × String) :=
  [("America/New_York", "EST5EDT,M3.2.0,M11.1.0"), ("US/Eastern", "EST5EDT,M3.2.0,M11.1.0"),
    ("America/Chicago", "CST6CDT,M3.2.0,M11.1.0"), ("America/Denver", "MST7MDT,M3.2.0,M11.1.0"),
    ("America/Los_Angeles", "PST8PDT,M3.2.0,M11.1.0"),
    ("US/Pacific", "PST8PDT,M3.2.0,M11.1.0"), ("America/Sao_Paulo", "<-03>3"),
    ("Europe/London", "GMT0BST,M3.5.0/1,M10.5.0"), ("Europe/Paris", "CET-1CEST,M3.5.0,M10.5.0/3"),
    ("Europe/Berlin", "CET-1CEST,M3.5.0,M10.5.0/3"),
    ("Europe/Madrid", "CET-1CEST,M3.5.0,M10.5.0/3"),
    ("Europe/Rome", "CET-1CEST,M3.5.0,M10.5.0/3"),
    ("Europe/Amsterdam", "CET-1CEST,M3.5.0,M10.5.0/3"), ("Europe/Moscow", "MSK-3"),
    ("Asia/Tokyo", "JST-9"), ("Japan", "JST-9"), ("Asia/Kolkata", "IST-5:30"),
    ("Asia/Shanghai", "CST-8"), ("Asia/Singapore", "<+08>-8"), ("Asia/Dubai", "<+04>-4"),
    ("Asia/Kathmandu", "<+0545>-5:45"), ("Australia/Sydney", "AEST-10AEDT,M10.1.0,M4.1.0/3"),
    ("Pacific/Auckland", "NZST-12NZDT,M9.5.0,M4.1.0/3"), ("GMT", "GMT0"), ("Etc/GMT", "GMT0"),
    ("EST", "EST5"), ("MST", "MST7"), ("HST", "HST10")]

/-- The clock that a text means. What means nothing is the name of a zone without shift. -/
def Clock.ofText (text : Octets) : Clock :=
  let text := if text.head? = some ':' then text.drop 1 else text
  if text.isEmpty || ["UTC", "Etc/UTC", "Universal", "Zulu", "UCT"].contains (String.ofList text) then
    {}
  else
    match places.lookup (String.ofList text) with
    | some description => (Clock.described? description.toList).getD {}
    | none =>
      match Clock.described? text with
      | some clock => clock
      | none =>
        let name := text.takeWhile Char.isAlpha
        { usual := { name := if 3 ≤ name.length then name else "UTC".toList } }

/-!
## How moments are shown

A moment is shown as a template says. What stands behind a percent sign in it is a
direction: flags, a width and the letter of what is shown.
-/

structure Fill where
  /-- What numbers are filled with, if it is not the usual: a blank, a nought, or nothing. -/
  pad : Option Char := none
  capital : Bool := false
  /-- Whether capital letters become small, or the other way round. -/
  swapped : Bool := false
  width : Option Nat := none
  colons : Nat := 0
  deriving DecidableEq, Repr

/-- Characters in front of a text, so that it is at least so wide. -/
def Fill.text (f : Fill) (text : Octets) : Octets :=
  let text := if f.capital || f.swapped then text.map Char.toUpper else text
  match f.pad with
  | some '-' => text
  | pad => Octets.padded (f.width.getD 0) text (if pad = some '0' || pad = some '+' then '0' else ' ')

/-- A number with so many digits at least, filled with some character. -/
def Fill.number (f : Fill) (digits : Nat) (usual : Char) (n : Int) : Octets :=
  let pad := match f.pad with
    | some '_' => ' '
    | some '+' => '0'
    | some c => c
    | none => usual
  let sign : Octets := if n < 0 then ['-'] else []
  let shown := Octets.ofNat n.natAbs
  let width := f.width.getD digits
  if pad = '-' then sign ++ shown
  else if pad = ' ' then Octets.padded width (sign ++ shown)
  else sign ++ Octets.padded (width - sign.length) shown '0'

def zoneNumber (f : Fill) (ahead : Int) : Octets :=
  let n := ahead.natAbs
  let two (n : Nat) : Octets := Octets.padded 2 (Octets.ofNat n) '0'
  let hours := n / 3600
  let minutes := n / 60 % 60
  let seconds := n % 60
  let behind : Octets := match f.colons with
    | 0 => two minutes
    | 1 => ':' :: two minutes
    | 2 => ':' :: two minutes ++ ':' :: two seconds
    | _ =>
      if seconds != 0 then ':' :: two minutes ++ ':' :: two seconds
      else if minutes != 0 then ':' :: two minutes else []
  let sign := if ahead < 0 then '-' else '+'
  let width := f.width.getD 0
  let whole := two hours ++ behind
  match f.pad with
  | some '-' => sign :: Octets.ofNat hours ++ behind
  | some '_' => Octets.padded width (sign :: Octets.ofNat hours ++ behind)
  | _ => sign :: Octets.padded (width - 1) whole '0'

/-- The name of a number in a list, in full or short. -/
def nameIn (names : List String) (short : Bool) (n : Nat) : Octets :=
  let name := ((names[n]?).getD "?").toList
  if short then name.take 3 else name

/-- What a direction that stands for others is written out as. -/
def writtenOut? : Char → Option String
  | 'c' => some "%a %b %e %H:%M:%S %Y"
  | 'D' | 'x' => some "%m/%d/%y"
  | 'F' => some "%Y-%m-%d"
  | 'r' => some "%I:%M:%S %p"
  | 'R' => some "%H:%M"
  | 'T' | 'X' => some "%H:%M:%S"
  | _ => none

def direction? (r : Reading) (f : Fill) (c : Char) : Option Octets :=
  let weekday := weekday r.number
  let yearDay := r.date.dayOfYear
  let half := if r.hour % 12 = 0 then 12 else r.hour % 12
  let noon := if r.hour < 12 then "AM" else "PM"
  match c with
  | '%' => some (f.text ['%'])
  | 'n' => some (f.text ['\n'])
  | 't' => some (f.text ['\t'])
  | 'a' => some (f.text (nameIn dayNames true weekday))
  | 'A' => some (f.text (nameIn dayNames false weekday))
  | 'b' | 'h' => some (f.text (nameIn monthNames true (r.date.month - 1)))
  | 'B' => some (f.text (nameIn monthNames false (r.date.month - 1)))
  | 'p' =>
    some (if f.swapped then { f with swapped := false }.text (Octets.lower noon.toList)
      else f.text noon.toList)
  | 'P' => some (f.text (Octets.lower noon.toList))
  | 'Z' =>
    some (if f.swapped then { f with swapped := false }.text (Octets.lower r.zone.name)
      else f.text r.zone.name)
  | 'C' => some (f.number 2 '0' (r.date.year / 100))
  | 'd' => some (f.number 2 '0' r.date.day)
  | 'e' => some (f.number 2 ' ' r.date.day)
  | 'g' => some (f.number 2 '0' ((isoWeek r.number).1 % 100))
  | 'G' => some (f.number 4 '0' (isoWeek r.number).1)
  | 'H' => some (f.number 2 '0' r.hour)
  | 'I' => some (f.number 2 '0' half)
  | 'j' => some (f.number 3 '0' (yearDay + 1))
  | 'k' => some (f.number 2 ' ' r.hour)
  | 'l' => some (f.number 2 ' ' half)
  | 'm' => some (f.number 2 '0' r.date.month)
  | 'M' => some (f.number 2 '0' r.minute)
  | 'N' =>
    let digits := Octets.padded 9 (Octets.ofNat r.moment.nanoseconds) '0'
    let width := if f.width.getD 0 = 0 then 9 else f.width.getD 0
    let written := digits.take width
    let kept := written.take 1 ++ ((written.drop 1).reverse.dropWhile (· == '0')).reverse
    let blank := if f.pad = some '_' then ' ' else '0'
    some (kept ++ List.replicate (width - kept.length) blank)
  | 'q' => some (f.number 1 '0' ((r.date.month - 1) / 3 + 1 : Nat))
  | 's' => some (f.number 1 '0' r.moment.seconds)
  | 'S' => some (f.number 2 '0' r.second)
  | 'u' => some (f.number 1 '0' ((weekday + 6) % 7 + 1 : Nat))
  | 'w' => some (f.number 1 '0' weekday)
  | 'U' => some (f.number 2 '0' ((yearDay + 7 - weekday) / 7 : Nat))
  | 'W' => some (f.number 2 '0' ((yearDay + 7 - (weekday + 6) % 7) / 7 : Nat))
  | 'V' => some (f.number 2 '0' (isoWeek r.number).2)
  | 'y' => some (f.number 2 '0' (r.date.year % 100))
  | 'Y' => some (f.number 4 '0' r.date.year)
  | 'z' => some (zoneNumber f r.zone.ahead)
  | _ => none

/-- Reads the flags and the width of a direction. Gives how many characters that are. -/
def Fill.read : Octets → Fill → Fill × Octets
  | '_' :: rest, f => Fill.read rest { f with pad := some '_' }
  | '-' :: rest, f => Fill.read rest { f with pad := some '-' }
  | '0' :: rest, f => Fill.read rest { f with pad := some '0' }
  | '+' :: rest, f => Fill.read rest { f with pad := some '+' }
  | '^' :: rest, f => Fill.read rest { f with capital := true }
  | '#' :: rest, f => Fill.read rest { f with swapped := true }
  | rest, f =>
    match leadingNumber rest with
    | some (n, rest) => ({ f with width := some n }, rest)
    | none => (f, rest)

/-- Shows a moment as a template says, with at most so many directions. Directions that are
not known are shown as they are. -/
def display (r : Reading) : Nat → Octets → Octets
  | 0, _ => []
  | _, [] => []
  | rounds + 1, '%' :: text =>
    let (f, rest) := Fill.read text {}
    let rest := match rest with
      | 'E' :: rest | 'O' :: rest => rest
      | rest => rest
    let colons := (rest.takeWhile (· == ':')).length
    let after := rest.drop colons
    match after with
    | [] => '%' :: text
    | c :: behind =>
      let f := { f with colons }
      let shown : Option Octets :=
        if colons != 0 && c != 'z' then none
        else
          match writtenOut? c with
          | some template =>
            let inner := display r rounds template.toList
            some (f.text inner)
          | none => direction? r f c
      match shown with
      | some shown => shown ++ display r rounds behind
      | none => '%' :: (text.take (text.length - behind.length)) ++ display r rounds behind
  | rounds + 1, c :: text => c :: display r rounds text

def shown (template : Octets) (m : Moment) (zone : Zone := {}) : Octets :=
  display (m.reading zone) (template.length + 40) template

end CommandChains.Machine.Calendar
