import CommandChains.Machine.Quotation
import CommandChains.Machine.Tool.Basic

/-!
# Amounts

Tools are told how much is wanted by a number with or without a unit behind it. Units
stand for powers of 1024, or of 1000 if they say so. There is a greatest amount.
-/

namespace CommandChains.Machine

namespace Amount

inductive Mistake where
  | notNumber
  | tooLarge
  | outOfRange
  deriving DecidableEq, Repr

/-- What is said about a mistake in some text, where `what` says what is meant by it. -/
def Mistake.message (what : String) (text : Octets) (m : Mistake) : Octets :=
  let reason := match m with
    | notNumber => ""
    | tooLarge => ": Value too large for defined data type"
    | outOfRange => ": Numerical result out of range"
  ("invalid " ++ what ++ ": ").toList ++ Octets.quoted text ++ reason.toList

def greatest : Nat := 18446744073709551615

/-- The letters of the units, each with the power that it stands for. -/
def powers : List (Char × Nat) :=
  [('k', 1), ('K', 1), ('m', 2), ('M', 2), ('G', 3), ('T', 4), ('P', 5), ('E', 6), ('Z', 7),
    ('Y', 8)]

def unit? : Octets → Option Nat
  | [] => some 1
  | ['b'] => some 512
  | c :: rest => do
    let power ← powers.lookup c
    match rest with
    | [] | ['i', 'B'] => some (Nat.pow 1024 power)
    | ['B'] | ['D'] => some (Nat.pow 1000 power)
    | _ => none

def read (text : Octets) : Except Mistake Nat :=
  let digits := text.takeWhile Char.isDigit
  match digits, unit? (text.drop digits.length) with
  | [], _ | _, none => .error .notNumber
  | digits, some unit =>
    let amount := Octets.decimal digits * unit
    if amount ≤ greatest then .ok amount else .error .tooLarge

/-- The number that a text writes without a unit, if it is in some range. -/
def readWithin (least most : Int) (text : Octets) : Except Mistake Int :=
  match Octets.integer? text with
  | none => .error .notNumber
  | some n => if least ≤ n ∧ n ≤ most then .ok n else .error .outOfRange

end Amount

/-!
## Parts of lines

A tool that prints parts of every line. The parts are told by their places, which are
counted from one: places of characters, or of fields between delimiters.
-/

namespace Tool

/-- A line without so many fields in front, each with the blanks before it. -/
def skipFields : Nat → Octets → Octets
  | 0, line => line
  | n + 1, line =>
    let blank (c : Char) : Bool := c == ' ' || c == '\t'
    skipFields n ((line.dropWhile blank).dropWhile fun c => !blank c)

/-! ## Places -/

/-- A closed range of places. One without an end goes on for ever. -/
structure Range where
  first : Nat
  last : Option Nat
  deriving DecidableEq, Repr

namespace Range

def holds (r : Range) (place : Nat) : Bool := decide (r.first ≤ place) && r.last.all (place ≤ ·)

def later : Option Nat → Option Nat → Option Nat
  | some m, some n => some (max m n)
  | _, _ => none

/-- Ranges in order of their beginnings, where those that overlap become one. -/
def merge : List Range → List Range
  | [] => []
  | r :: rest =>
    match merge rest with
    | [] => [r]
    | next :: others =>
      if r.last.all (next.first ≤ ·) then ⟨r.first, later r.last next.last⟩ :: others
      else r :: next :: others

def ordered (ranges : List Range) : List Range :=
  merge (ranges.mergeSort fun a b => decide (a.first ≤ b.first))

/-- The ranges between others that are in order, from a place on. -/
def between (place : Nat) : List Range → List Range
  | [] => [⟨place, none⟩]
  | r :: rest =>
    let gap := if place < r.first then [⟨place, some (r.first - 1)⟩] else []
    match r.last with
    | none => gap
    | some last => gap ++ between (last + 1) rest

end Range

inductive RangeMistake where
  | zero
  | noEnd
  | twoDashes
  | decreasing
  | tooLarge (digits : Octets)
  | stray (text : Octets)
  deriving DecidableEq, Repr

/-- What is said about a list of places, which may be those of fields. -/
def RangeMistake.message (ofFields : Bool) : RangeMistake → Octets
  | zero => ((if ofFields then "fields" else "byte/character positions") ++
      " are numbered from 1").toList
  | noEnd => "invalid range with no endpoint: -".toList
  | twoDashes => (if ofFields then "invalid field range" else "invalid byte or character range").toList
  | decreasing => "invalid decreasing range".toList
  | tooLarge digits =>
    if ofFields then "field number ".toList ++ Octets.quoted digits ++ " is too large".toList
    else "byte/character offset ".toList ++ Octets.quoted digits ++ " is too large".toList
  | stray text =>
    (if ofFields then "invalid field value " else "invalid byte/character position ").toList ++
      Octets.quoted text

structure RangeSofar where
  low : Option Nat := none
  dash : Bool := false
  high : Option Nat := none

namespace RangeSofar

def finish (r : RangeSofar) : Except RangeMistake Range :=
  match r.dash, r.low, r.high with
  | false, low, _ =>
    let place := low.getD 0
    if place = 0 then .error .zero else .ok ⟨place, some place⟩
  | true, none, none => .error .noEnd
  | true, low, none => .ok ⟨low.getD 1, none⟩
  | true, low, some high =>
    if high < low.getD 1 then .error .decreasing else .ok ⟨low.getD 1, some high⟩

/-- Reads a list of ranges, in at most so many steps. -/
def read : Nat → RangeSofar → Octets → Except RangeMistake (List Range)
  | 0, _, _ => .ok []
  | _, r, [] => r.finish.map ([·])
  | steps + 1, r, c :: rest =>
    if c = '-' then
      if r.dash then .error .twoDashes
      else if r.low = some 0 then .error .zero
      else read steps { r with dash := true } rest
    else if c = ',' ∨ c = ' ' ∨ c = '\t' then do
      let first ← r.finish
      let others ← read steps {} rest
      pure (first :: others)
    else if c.isDigit then
      let digits := c :: rest.takeWhile Char.isDigit
      let place := Octets.decimal digits
      if Amount.greatest ≤ place then .error (.tooLarge digits)
      else
        read steps (if r.dash then { r with high := some place } else { r with low := some place })
          (rest.drop (digits.length - 1))
    else .error (.stray (c :: rest))

end RangeSofar

def rangesOf (text : Octets) : Except RangeMistake (List Range) :=
  (RangeSofar.read (text.length + 1) {} text).map Range.ordered

/-! ## The tool -/

def select {α : Type} (ranges : List Range) (items : List α) : List (List α) :=
  ranges.map fun r => match r.last with
    | none => items.drop (r.first - 1)
    | some last => (items.take last).drop (r.first - 1)

/-- Prints parts of every line: characters, or fields between delimiters. -/
def cut : Tool := fun t =>
  t.withArguments
      { plain := "nsz", valued := "bcfdO", hidden := "O"
        words := [("bytes", 'b'), ("characters", 'c'), ("fields", 'f'), ("delimiter", 'd'),
          ("only-delimited", 's'), ("output-delimiter", 'O'), ("complement", 'C'),
          ("zero-terminated", 'z')] } 1 fun a =>
    let lists := a.options.filter fun option => "bcf".contains option.1
    let delimiter := (a.value? 'd').getD ['\t']
    let complaint? : Option String :=
      if (a.values 'd').any fun value => decide (1 < value.length) then
        some "the delimiter must be a single character"
      else match lists with
        | [] => some "you must specify a list of bytes, characters, or fields"
        | [(letter, _)] =>
          if letter != 'f' && a.has 'd' then
            some "an input delimiter may be specified only when operating on fields"
          else if letter != 'f' && a.has 's' then
            some "suppressing non-delimited lines makes sense\n\tonly when operating on fields"
          else none
        | _ => some "only one list may be specified"
    match complaint?, lists with
    | some message, _ => t.refuses message.toList 1
    | none, lists =>
      let (letter, list) := lists.headD ('b', [])
      match rangesOf list with
      | .error mistake => t.refuses (mistake.message (letter == 'f')) 1
      | .ok ranges =>
        let ranges := if a.has 'C' then Range.between 1 ranges else ranges
        let mark := delimiter.headD '\x00'
        let part (line : Octets) : Option Octets :=
          if letter = 'f' then
            if line.contains mark then
              some (Octets.joined ((a.value? 'O').getD [mark])
                (select ranges (Octets.splitAt mark line)).flatten)
            else if a.has 's' then none
            else some line
          else
            let parts := select ranges line
            some (match a.value? 'O' with
              | some between => Octets.joined between (parts.filter (!·.isEmpty))
              | none => parts.flatten)
        t.overSources a.operands Task.plainly 1 fun sources =>
          sources.flatMap fun s =>
            Octets.ofRecords a.lineEnd ((Octets.records a.lineEnd s.text).filterMap part)

end Tool

end CommandChains.Machine
