import CommandChains.Machine.Calendar.Basic

/-!
# Understanding dates

A moment can be described in many ways: by a date, the time of a day, a day of the week, a
zone, and by how far away something is. Descriptions are taken apart into numbers, words and
signs. What is not said is as it is now.
-/

namespace CommandChains.Machine.Calendar

/-! ## Parts of descriptions -/

inductive Part where
  /-- A number, and how many digits write it; a fraction may follow. -/
  | number (n : Nat) (digits : Nat) (fraction : Option Octets)
  | word (letters : Octets)
  | sign (c : Char)
  deriving DecidableEq, Repr

def outsideParentheses : Nat → Octets → Octets
  | _, [] => []
  | depth, '(' :: rest => outsideParentheses (depth + 1) rest
  | depth, ')' :: rest => outsideParentheses (depth - 1) rest
  | 0, c :: rest => c :: outsideParentheses 0 rest
  | depth + 1, _ :: rest => outsideParentheses (depth + 1) rest

/-- Takes a description apart. Blanks count only in front of signs, where they are kept. -/
def parts : Nat → Octets → List Part
  | 0, _ => []
  | _, [] => []
  | rounds + 1, c :: rest =>
    if c.isDigit then
      let digits := (c :: rest).takeWhile Char.isDigit
      let behind := (c :: rest).drop digits.length
      match behind with
      | mark :: more =>
        let fraction := more.takeWhile Char.isDigit
        if (mark = '.' || mark = ',') && !fraction.isEmpty then
          .number (Octets.decimal digits) digits.length (some fraction) ::
            parts rounds (more.drop fraction.length)
        else .number (Octets.decimal digits) digits.length none :: parts rounds behind
      | [] => [.number (Octets.decimal digits) digits.length none]
    else if c.isAlpha then
      let letters := (c :: rest).takeWhile fun c => c.isAlpha || c == '.'
      .word (letters.filter (· != '.') |>.map Char.toLower) ::
        parts rounds ((c :: rest).drop letters.length)
    else if Octets.isSpace c then parts rounds rest
    else .sign c :: parts rounds rest

/-! ## What is said -/

inductive Span where
  | year
  | month
  | day
  | hour
  | minute
  | second
  deriving DecidableEq, Repr

structure Told where
  date : Option (Option Int × Nat × Nat) := none
  time : Option (Nat × Nat × Nat × Nat) := none
  weekday : Option (Int × Nat) := none
  zone : Option Int := none
  distances : List (Span × Int) := []
  /-- The nanoseconds of a moment that is told by its number. -/
  number : Option (Int × Nat) := none
  dates : Nat := 0
  times : Nat := 0
  weekdays : Nat := 0
  zones : Nat := 0
  deriving Repr

def monthOf? (word : Octets) : Option Nat :=
  if word.length < 3 then none
  else if word = "sept".toList then some 9
  else
    (monthNames.findIdx? fun name =>
      let small := Octets.lower name.toList
      small = word || small.take 3 = word).map (· + 1)

def weekdayOf? (word : Octets) : Option Nat :=
  let others := [("tues", 2), ("wednes", 3), ("thur", 4), ("thurs", 4)]
  match others.lookup (String.ofList word) with
  | some n => some n
  | none =>
    if word.length < 3 then none
    else
      dayNames.findIdx? fun name =>
        let small := Octets.lower name.toList
        small = word || small.take 3 = word

/-- The unit that a word means, and how many of it. -/
def spanOf? (word : Octets) : Option (Span × Int) :=
  let one := if word.getLast? = some 's' && 1 < word.length then word.dropLast else word
  [("year", (Span.year, 1)), ("month", (.month, 1)), ("fortnight", (.day, 14)),
    ("week", (.day, 7)), ("day", (.day, 1)), ("hour", (.hour, 1)), ("minute", (.minute, 1)),
    ("min", (.minute, 1)), ("second", (.second, 1)), ("sec", (.second, 1))].lookup
    (String.ofList one)

def ordinalOf? (word : Octets) : Option Int :=
  [("last", (-1 : Int)), ("this", 0), ("next", 1), ("first", 1), ("third", 3), ("fourth", 4),
    ("fifth", 5), ("sixth", 6), ("seventh", 7), ("eighth", 8), ("ninth", 9), ("tenth", 10),
    ("eleventh", 11), ("twelfth", 12)].lookup (String.ofList word)

/-- How many hours clocks are ahead in a zone with a name. -/
def namedZone? (word : Octets) : Option Int :=
  [("utc", (0 : Int)), ("gmt", 0), ("ut", 0), ("z", 0), ("wet", 0), ("west", 1), ("bst", 1),
    ("cet", 1), ("cest", 2), ("met", 1), ("mest", 2), ("eet", 2), ("eest", 3), ("msk", 3),
    ("ist", 5), ("jst", 9), ("est", -5), ("edt", -4), ("cst", -6), ("cdt", -5), ("mst", -7),
    ("mdt", -6), ("pst", -8), ("pdt", -7), ("akst", -9), ("hst", -10), ("nzst", 12),
    ("nzdt", 13)].lookup (String.ofList word) |>.map (· * 3600)

def fullYear (n digits : Nat) : Int :=
  if 2 < digits then n else if n < 69 then 2000 + n else 1900 + n

def nanosecondsOf (fraction : Octets) : Nat :=
  Octets.decimal ((fraction ++ List.replicate 9 '0').take 9)

/-- The hour of a day when hours are counted twice to twelve. -/
def halfDay? (hour : Nat) (word : Octets) : Option Nat :=
  if hour = 0 || 12 < hour then none
  else if word = "am".toList then some (hour % 12)
  else if word = "pm".toList then some (hour % 12 + 12)
  else none

def Told.withDate (t : Told) (year : Option Int) (month day : Nat) : Told :=
  { t with date := some (year, month, day), dates := t.dates + 1 }

def Told.withTime (t : Told) (hour minute second nanoseconds : Nat) : Told :=
  { t with time := some (hour, minute, second, nanoseconds), times := t.times + 1 }

def Told.away (t : Told) (unit : Span × Int) (n : Int) : Told :=
  { t with distances := t.distances ++ [(unit.1, unit.2 * n)] }

def Told.back (t : Told) : Told :=
  { t with distances := t.distances.map fun (unit, n) => (unit, -n) }

/-- How far clocks are ahead as a number behind a sign tells, with minutes perhaps. -/
def aheadOf? (sign : Char) (n digits : Nat) (minutes : Option Nat) : Option Int :=
  let seconds := match minutes with
    | some m => n * 3600 + m * 60
    | none => if digits ≤ 2 then n * 3600 else n / 100 * 3600 + n % 100 * 60
  if 24 * 3600 < seconds then none
  else some (if sign = '-' then -(seconds : Int) else seconds)

/-- What may stand behind the time of a day: the half of the day and a zone. -/
def afterTime (t : Told) (hour minute second nanoseconds : Nat) :
    List Part → Option (Told × List Part)
  | .word w :: rest =>
    match halfDay? hour w with
    | some hour => some (t.withTime hour minute second nanoseconds, rest)
    | none => some (t.withTime hour minute second nanoseconds, .word w :: rest)
  | .sign s :: .number n digits none :: .sign ':' :: .number m _ none :: rest =>
    if s = '+' || s = '-' then
      (aheadOf? s n digits (some m)).map fun ahead =>
        ({ t.withTime hour minute second nanoseconds with
          zone := some ahead, zones := t.zones + 1 }, rest)
    else some (t.withTime hour minute second nanoseconds, .sign s :: .number n digits none ::
      .sign ':' :: .number m 0 none :: rest)
  | .sign s :: .number n digits none :: rest =>
    let isDistance := match rest with
      | .word w :: _ => (spanOf? w).isSome
      | _ => false
    if (s = '+' || s = '-') && !isDistance then
      (aheadOf? s n digits none).map fun ahead =>
        ({ t.withTime hour minute second nanoseconds with
          zone := some ahead, zones := t.zones + 1 }, rest)
    else some (t.withTime hour minute second nanoseconds,
      .sign s :: .number n digits none :: rest)
  | rest => some (t.withTime hour minute second nanoseconds, rest)

/-- What a number without signs means: a date, a year or the time of a day. -/
def bareNumber (t : Told) (n digits : Nat) : Option Told :=
  if t.dates != 0 && (t.date.any fun date => date.1.isNone) && 2 < digits then
    some { t with date := t.date.map fun date => (some (n : Int), date.2) }
  else if 4 < digits then
    some (t.withDate (some (fullYear (n / 10000) (digits - 4))) (n / 100 % 100) (n % 100))
  else if digits ≤ 2 then some (t.withTime n 0 0 0)
  else some (t.withTime (n / 100) (n % 100) 0 0)

/-- Understands the first few of some parts. Gives what has been told, and the parts that
are left. -/
def understandOne (t : Told) : List Part → Option (Told × List Part)
  | .sign '@' :: .sign '-' :: .number n _ fraction :: rest =>
    let nanoseconds := (fraction.map nanosecondsOf).getD 0
    some ({ t with
      number := some (if nanoseconds = 0 then (-(n : Int), 0)
        else (-(n : Int) - 1, 1000000000 - nanoseconds)) }, rest)
  | .sign '@' :: .number n _ fraction :: rest =>
    some ({ t with number := some ((n : Int), (fraction.map nanosecondsOf).getD 0) }, rest)
  | .number hour _ none :: .sign ':' :: .number minute _ none :: .sign ':' ::
      .number second _ fraction :: rest =>
    afterTime t hour minute second ((fraction.map nanosecondsOf).getD 0) rest
  | .number hour _ none :: .sign ':' :: .number minute _ none :: rest =>
    afterTime t hour minute 0 0 rest
  | .number year digits none :: .sign '-' :: .number month _ none :: .sign '-' ::
      .number day _ none :: rest =>
    match rest with
    | .word ['t'] :: rest => some (t.withDate (some (fullYear year digits)) month day, rest)
    | rest => some (t.withDate (some (fullYear year digits)) month day, rest)
  | .number a digits none :: .sign '/' :: .number b _ none :: .sign '/' ::
      .number c others none :: rest =>
    some (if 4 ≤ digits then t.withDate (some (a : Int)) b c
      else t.withDate (some (fullYear c others)) a b, rest)
  | .number month _ none :: .sign '/' :: .number day _ none :: rest =>
    some (t.withDate none month day, rest)
  | .number day _ none :: .sign '-' :: .word w :: .sign '-' :: .number year digits none :: rest =>
    (monthOf? w).map fun month => (t.withDate (some (fullYear year digits)) month day, rest)
  | .number n digits none :: .word w :: rest =>
    match halfDay? n w, monthOf? w, spanOf? w, weekdayOf? w with
    | some hour, _, _, _ => some (t.withTime hour 0 0 0, rest)
    | none, some month, _, _ =>
      match rest with
      | .number year others none :: more =>
        if (more.head? = some (.sign ':')) then some (t.withDate none month n, rest)
        else some (t.withDate (some (fullYear year others)) month n, more)
      | .sign '-' :: .number year others none :: more =>
        some (t.withDate (some (fullYear year others)) month n, more)
      | rest => some (t.withDate none month n, rest)
    | none, none, some unit, _ => some (t.away unit n, rest)
    | none, none, none, some day =>
      some ({ t with weekday := some ((n : Int), day), weekdays := t.weekdays + 1 }, rest)
    | none, none, none, none =>
      (bareNumber t n digits).map fun t => (t, .word w :: rest)
  | .number n digits none :: rest => (bareNumber t n digits).map fun t => (t, rest)
  | .sign s :: .number n digits fraction :: .word w :: rest =>
    if s != '+' && s != '-' then none
    else
      match spanOf? w, fraction with
      | some unit, none => some (t.away unit (if s = '-' then -(n : Int) else n), rest)
      | some (.second, _), some _ => some (t.away (.second, 1) (if s = '-' then -(n : Int) else n), rest)
      | some _, some _ => none
      | none, _ =>
        if digits ≤ 4 && t.times != 0 && t.zones = 0 then
          (aheadOf? s n digits none).map fun ahead =>
            ({ t with zone := some ahead, zones := t.zones + 1 }, .word w :: rest)
        else none
  | .sign ',' :: rest => some (t, rest)
  | .word w :: rest =>
    let text := String.ofList w
    if text = "now" || text = "today" then some (t.away (.day, 1) 0, rest)
    else if text = "tomorrow" then some (t.away (.day, 1) 1, rest)
    else if text = "yesterday" then some (t.away (.day, 1) (-1), rest)
    else if text = "ago" then some (t.back, rest)
    else if w = ['t'] && t.dates != 0 && t.times = 0 then some (t, rest)
    else
      match ordinalOf? w, monthOf? w, weekdayOf? w, spanOf? w, namedZone? w with
      | some n, _, _, _, _ =>
        match rest with
        | .word u :: rest =>
          match spanOf? u, weekdayOf? u with
          | some unit, _ => some (t.away unit n, rest)
          | none, some day =>
            some ({ t with weekday := some (n, day), weekdays := t.weekdays + 1 }, rest)
          | none, none => none
        | _ => none
      | none, some month, _, _, _ =>
        match rest with
        | .number day _ none :: .sign ',' :: .number year digits none :: more =>
          some (t.withDate (some (fullYear year digits)) month day, more)
        | .number day _ none :: .number year digits none :: more =>
          if more.head? = some (.sign ':') then
            some (t.withDate none month day, .number year digits none :: more)
          else if digits = 4 then some (t.withDate (some (year : Int)) month day, more)
          else some (t.withDate none month day, .number year digits none :: more)
        | .sign '-' :: .number day _ none :: .sign '-' :: .number year digits none :: more =>
          some (t.withDate (some (fullYear year digits)) month day, more)
        | .number day _ none :: more => some (t.withDate none month day, more)
        | _ => none
      | none, none, some day, _, _ =>
        let rest := if rest.head? = some (.sign ',') then rest.drop 1 else rest
        some ({ t with weekday := some (0, day), weekdays := t.weekdays + 1 }, rest)
      | none, none, none, some unit, _ => some (t.away unit 1, rest)
      | none, none, none, none, some ahead =>
        match rest with
        | .sign s :: .number n digits none :: more =>
          let isDistance := match more with
            | .word u :: _ => (spanOf? u).isSome
            | _ => false
          if (s = '+' || s = '-') && !isDistance then
            (aheadOf? s n digits none).map fun further =>
              ({ t with zone := some (ahead + further), zones := t.zones + 1 }, more)
          else some ({ t with zone := some ahead, zones := t.zones + 1 }, rest)
        | rest => some ({ t with zone := some ahead, zones := t.zones + 1 }, rest)
      | none, none, none, none, none => none
  | _ => none

def understand : Nat → Told → List Part → Option Told
  | _, t, [] => some t
  | 0, _, _ => none
  | rounds + 1, t, parts =>
    match understandOne t parts with
    | some (t, rest) => understand rounds t rest
    | none => none

/-! ## The moment -/

/-- Whether something is told more often than it can be. -/
def Told.contradicts (t : Told) : Bool :=
  decide (1 < t.dates) || decide (1 < t.times) || decide (1 < t.weekdays) ||
    decide (1 < t.zones) || (t.number.isSome && t.dates + t.times + t.weekdays + t.zones != 0)

def Told.distance (t : Told) (unit : Span) : Int :=
  t.distances.foldl (fun n (u, m) => if u = unit then n + m else n) 0

def Told.moment (t : Told) (present : Moment) (zone : Zone) : Option Moment := do
  if t.contradicts then none
  let zone := match t.zone with
    | some ahead => { zone with ahead }
    | none => zone
  let now := present.reading zone
  let apart := t.distance .hour * 3600 + t.distance .minute * 60 + t.distance .second
  match t.number with
  | some (seconds, nanoseconds) =>
    let reading := Moment.reading { seconds, nanoseconds } zone
    let month := (reading.date.year + t.distance .year) * 12 + (reading.date.month - 1 : Nat) +
      t.distance .month
    let number := Date.number
      { year := month / 12, month := (month % 12).toNat + 1, day := 1 } + reading.date.day - 1 +
        t.distance .day
    some { seconds := seconds + (number - reading.number) * daySeconds + apart, nanoseconds }
  | none =>
    let date := match t.date with
      | some (year, month, day) => { year := year.getD now.date.year, month, day : Date }
      | none => now.date
    let onlyFar := t.dates = 0 && t.weekdays = 0 && !t.distances.isEmpty
    let (hour, minute, second, nanoseconds) := match t.time with
      | some time => time
      | none =>
        if onlyFar then (now.hour, now.minute, now.second, present.nanoseconds)
        else (0, 0, 0, 0)
    if date.month = 0 || 12 < date.month || !date.exists? || 23 < hour || 59 < minute ||
        60 < second then none
    else
      let number := match t.weekday with
        | some (n, day) =>
          if t.dates = 0 then
            let own := Calendar.weekday date.number
            date.number + ((day + 7 - own) % 7 : Nat) +
              7 * (n - (if 0 < n && own != day then 1 else 0))
          else date.number
        | none => date.number
      let shown := Date.ofNumber number
      let month := (shown.year + t.distance .year) * 12 + (shown.month - 1 : Nat) +
        t.distance .month
      let number := Date.number
        { year := month / 12, month := (month % 12).toNat + 1, day := 1 } + shown.day - 1 +
          t.distance .day
      let m := momentOf zone number hour minute second
      some { seconds := m.seconds + apart, nanoseconds }

/-- The clock and the description in a text that may begin with what describes a clock. -/
def ownClock (clock : Clock) (text : Octets) : Clock × Octets :=
  let trimmed := text.dropWhile Octets.isSpace
  let mark := "TZ=\"".toList
  if mark.isPrefixOf trimmed then
    let name := (trimmed.drop mark.length).takeWhile (· != '"')
    (Clock.ofText name, trimmed.drop (mark.length + name.length + 1))
  else (clock, text)

/-- The moment that a text describes, if it describes one. -/
def momentOf? (clock : Clock) (text : Octets) : Option Moment := do
  let (clock, text) := ownClock clock text
  let parts := parts (text.length + 1) (outsideParentheses 0 text)
  let told ← understand (parts.length + 1) {} parts
  let guess ← told.moment present clock.usual
  told.moment present (clock.zoneAt guess.seconds)

/-- The moment that digits write: months, days, hours and minutes, with a year perhaps and
seconds behind a point. -/
def stampMoment? (clock : Clock) (text : Octets) : Option Moment := do
  let whole := text.takeWhile (· != '.')
  let seconds ← match text.drop whole.length with
    | [] => some 0
    | _ :: digits => if digits.length = 2 then Octets.decimal? digits else none
  let n ← Octets.decimal? whole
  let year ← match whole.length with
    | 8 => some (present.reading {}).date.year
    | 10 => some (fullYear (n / 100000000) 2)
    | 12 => some (n / 100000000 : Int)
    | _ => none
  let date : Date := { year, month := n / 1000000 % 100, day := n / 10000 % 100 }
  let hour := n / 100 % 100
  let minute := n % 100
  if date.month = 0 || 12 < date.month || !date.exists? || 23 < hour || 59 < minute ||
      60 < seconds then none
  else
    let guess := momentOf clock.usual date.number hour minute seconds
    some (momentOf (clock.zoneAt guess.seconds) date.number hour minute seconds)

end CommandChains.Machine.Calendar
