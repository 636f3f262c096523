import CommandChains.Machine.Arguments
import CommandChains.Machine.Numeral
import CommandChains.Machine.Tool.Fields

/-!
# Numbers with units

A tool that reads numbers with or without letters for units and writes them with others.
The units are powers of 1000 or of 1024.
-/

namespace CommandChains.Machine.Units

open Numeral

inductive Scale where
  | none
  | auto
  | thousands
  | binary
  | marked
  deriving DecidableEq, Repr

def Scale.base : Scale → Nat
  | none | auto | thousands => 1000
  | binary | marked => 1024

inductive Rounding where
  | up
  | down
  | fromZero
  | towardsZero
  | nearest
  deriving DecidableEq, Repr

structure Quotient where
  negative : Bool := false
  n : Nat
  d : Nat
  deriving DecidableEq, Repr

def Rounding.round (r : Rounding) (q : Quotient) : Quotient :=
  let low := q.n / q.d
  let high := (q.n + q.d - 1) / q.d
  let n := match r with
    | .up => if q.negative then low else high
    | .down => if q.negative then high else low
    | .fromZero => high
    | .towardsZero => low
    | .nearest => (2 * q.n + q.d) / (2 * q.d)
  { q with n, d := 1 }

/-- A quotient times a power of ten, rounded, and divided again. -/
def Rounding.atPlaces (r : Rounding) (places : Nat) (q : Quotient) : Quotient :=
  let scale := Nat.pow 10 places
  let whole := r.round { q with n := q.n * scale }
  { whole with d := scale }

/-! ## Reading -/

inductive Mistake where
  | tooLarge
  | notNumber
  | suffix
  | forbiddenSuffix
  | missingMark
  | leftover (rest : Octets)

def Mistake.message (text : Octets) : Mistake → Octets
  | tooLarge => "value too large to be converted: ".toList ++ Octets.quoted text
  | notNumber => "invalid number: ".toList ++ Octets.quoted text
  | suffix => "invalid suffix in input: ".toList ++ Octets.quoted text
  | forbiddenSuffix =>
    "rejecting suffix in input: ".toList ++ Octets.quoted text ++ " (consider using --from)".toList
  | missingMark =>
    "missing 'i' suffix in input: ".toList ++ Octets.quoted text ++ " (e.g Ki/Mi/Gi)".toList
  | leftover rest =>
    "invalid suffix in input ".toList ++ Octets.quoted text ++ ": ".toList ++ Octets.quoted rest

def letters : Octets := "KMGTPEZY".toList

/-- Reads a number and says how many places it has behind the point. -/
def read (scale : Scale) (text : Octets) : Except Mistake (Quotient × Nat) :=
  let (negative, unsigned) := match text with
    | '-' :: rest => (true, rest)
    | rest => (false, rest)
  let whole := unsigned.takeWhile Char.isDigit
  let (fraction, point, rest) := match unsigned.drop whole.length with
    | '.' :: rest =>
      let digits := rest.takeWhile Char.isDigit
      (digits, true, rest.drop digits.length)
    | rest => ([], false, rest)
  if (whole.isEmpty && !point) || (point && fraction.isEmpty) then .error .notNumber
  else if 33 < (whole.dropWhile (· == '0')).length then .error .tooLarge
  else
    let n := Octets.decimal (whole ++ fraction)
    let d := Nat.pow 10 fraction.length
    match rest with
    | [] =>
      if scale = .marked then .error .missingMark
      else .ok ({ negative, n, d }, fraction.length)
    | rest =>
      let rest := rest.dropWhile fun c => c == ' ' || c == '\t'
      match rest with
      | [] => .error .suffix
      | c :: behind =>
        match letters.idxOf? c with
        | none => .error .suffix
        | some place =>
          if scale = .none then .error .forbiddenSuffix
          else
            let (base, behind) := match scale, behind with
              | .auto, 'i' :: behind => (1024, behind)
              | scale, behind => (scale.base, behind)
            let (marked, behind) := match scale, behind with
              | .marked, 'i' :: behind => (true, behind)
              | .marked, behind => (false, behind)
              | _, behind => (true, behind)
            if !marked then .error .missingMark
            else if !behind.isEmpty then .error (.leftover behind)
            else .ok ({ negative, n := n * Nat.pow base (place + 1), d }, 0)

/-! ## Writing -/

structure Manner where
  scale : Scale
  rounding : Rounding
  /-- The places behind the point, if they were asked for. -/
  places : Option Nat
  noughts : Nat
  suffix : Octets

/-- The power of a base that a quotient is at least, at most so great. -/
def powerOf (base : Nat) (q : Quotient) : Nat → Nat
  | 0 => 0
  | most + 1 =>
    let rest := powerOf base { q with d := q.d * base } most
    if base * q.d ≤ q.n then rest + 1 else 0

/-- A number with so many places and a letter behind it. -/
def written (m : Manner) (places : Nat) (q : Quotient) (behind : Octets) : Octets :=
  let sign := if q.negative then ['-'] else []
  sign ++ Octets.padded (m.noughts - sign.length) (fixed places q.n q.d) '0' ++ behind

/-- A number as it is written, or what is said if it cannot be. -/
def write (m : Manner) (q : Quotient) (places : Nat) : Except Octets Octets :=
  let digits := powerOf 10 q 60
  let used := m.places.getD places
  let shown := (if q.negative then ['-'] else []) ++ realText {} 'g' q.n q.d
  if m.scale = .none && 18 < digits + used then
    .error (if used = 0 then "value too large to be printed: '".toList ++ shown ++
        "' (consider using --to)".toList
      else "value/precision too large to be printed: '".toList ++ shown ++ '/' :: Octets.ofNat used ++
        "' (consider using --to)".toList)
  else if 26 < digits then
    .error ("value too large to be printed: '".toList ++ shown ++
      "' (cannot handle values > 999Y)".toList)
  else if m.scale = .none then .ok (written m used (m.rounding.atPlaces used q) [])
  else
    let base := m.scale.base
    let power := powerOf base q 60
    let scaled : Quotient := { q with d := q.d * Nat.pow base power }
    let adjust := match m.places with
      | some places => min (power * 3) places
      | none => if scaled.n < 10 * scaled.d then 1 else 0
    let value := m.rounding.atPlaces adjust scaled
    let (value, power) := if base * value.d ≤ value.n then
        ({ value with d := value.d * base }, power + 1)
      else (value, power)
    let point := value.n != 0 && value.n < 10 * value.d && power != 0
    let letter := if power = 0 then []
      else (letters.drop (power - 1)).take 1 ++ if m.scale = .marked then ['i'] else []
    .ok (written m (m.places.getD (if point then 1 else 0)) value letter)

/-! ## Formats -/

structure Format where
  before : Octets := []
  behind : Octets := []
  noughts : Nat := 0
  padding : Int := 0
  places : Option Nat := none
  grouped : Bool := false

/-- What is in front of the place of a number, and what follows the mark. -/
def splitFormat : Octets → Option (Octets × Octets)
  | [] => none
  | '%' :: '%' :: rest => (splitFormat rest).map fun (before, behind) => ('%' :: '%' :: before, behind)
  | '%' :: rest => some ([], rest)
  | c :: rest => (splitFormat rest).map fun (before, behind) => (c :: before, behind)

def Format.ofText (text : Octets) : Except Octets Format :=
  let named := "format ".toList ++ Octets.quoted text
  match splitFormat text with
  | none => .error (named ++ " has no % directive".toList)
  | some (before, rest) =>
    let flags := rest.takeWhile fun c => c == ' ' || c == '\x27' || c == '0'
    let rest := rest.drop flags.length
    let (negative, digits) := match rest with
      | '-' :: digits => (true, digits.takeWhile Char.isDigit)
      | digits => (false, digits.takeWhile Char.isDigit)
    let rest := if digits.isEmpty then rest
      else rest.drop (digits.length + if negative then 1 else 0)
    let width := Octets.decimal digits
    let zeros := flags.contains '0'
    let noughts := if zeros && !negative then width else 0
    let padding : Int := if negative then -(width : Int) else if zeros then 0 else width
    match rest with
    | [] => .error (named ++ " ends in %".toList)
    | rest =>
      let (places, rest) : Except Octets (Option Nat) × Octets := match rest with
        | '.' :: rest =>
          let digits := rest.takeWhile Char.isDigit
          if rest.head?.any fun c => c == '-' || c == '+' || c == ' ' then
            (.error ("invalid precision in format ".toList ++ Octets.quoted text), rest)
          else (.ok (some (Octets.decimal digits)), rest.drop digits.length)
        | rest => (.ok none, rest)
      match places, rest with
      | .error message, _ => .error message
      | .ok places, 'f' :: behind =>
        if (splitFormat behind).isSome then .error (named ++ " has too many % directives".toList)
        else .ok { before, behind, noughts, padding, places, grouped := flags.contains '\x27' }
      | .ok _, _ =>
        .error ("invalid ".toList ++ named ++ ", directive must be %[0]['][-][N][.][N]f".toList)

/-! ## Lines -/

inductive Strictness where
  | abort
  | fail
  | warn
  | ignore
  deriving DecidableEq, Repr

structure Request where
  manner : Manner
  format : Format
  source : Scale
  fromUnit : Nat
  toUnit : Nat
  padding : Int
  fields : List Tool.Range
  delimiter : Option Char
  strictness : Strictness
  lineEnd : Char
  header : Nat

/-- The fields of a line. Blanks in front belong to a field if nothing else separates fields. -/
def fieldsOf (delimiter : Option Char) : Nat → Octets → List Octets
  | 0, _ => []
  | most + 1, line =>
    match delimiter with
    | some c => Octets.splitAt c line
    | none =>
      let blank (c : Char) : Bool := c == ' ' || c == '\t' || c == '\n'
      let front := line.takeWhile blank
      let body := (line.drop front.length).takeWhile fun c => !blank c
      match line.drop (front.length + body.length) with
      | [] => [front ++ body]
      | _ :: rest => (front ++ body) :: fieldsOf delimiter most rest

/-- A field as it is written, or what is said about it. -/
def convert (r : Request) (place : Nat) (field : Octets) : Except Octets Octets :=
  let text := if r.manner.suffix.length < field.length && r.manner.suffix.isSuffixOf field then
      field.take (field.length - r.manner.suffix.length)
    else field
  let body := text.dropWhile fun c => c == ' ' || c == '\t'
  let padding : Int := if r.padding != 0 then r.padding
    else if r.delimiter.isNone && (body.length < text.length || 1 < place) then text.length
    else 0
  match read r.source body with
  | .error mistake => .error (mistake.message body)
  | .ok (q, places) =>
    let q : Quotient := { q with n := q.n * r.fromUnit, d := q.d * r.toUnit }
    match write r.manner q places with
    | .error message => .error message
    | .ok shown =>
      let shown := shown ++ r.manner.suffix
      let placed := if padding < 0 then Octets.filled padding.natAbs shown
        else Octets.padded padding.natAbs shown
      .ok (r.format.before ++ placed ++ r.format.behind)

/-- A line as it is written, with what is said about it, and whether all went well. A mistake
that ends everything gives only what comes before it. -/
def line (r : Request) (t : Task) (text : Octets) : Octets × Octets × Bool :=
  let between := r.delimiter.getD ' '
  let fields := (fieldsOf r.delimiter (text.length + 1) text).zipIdx 1
  let (output, errors, good) := fields.foldl (fun (output, errors, good) (field, place) =>
      if !good && r.strictness = .abort then (output, errors, good)
      else
        let front := if place = 1 then [] else [between]
        if r.fields.any fun range => range.holds place then
          match convert r place field with
          | .ok shown => (output ++ front ++ shown, errors, good)
          | .error message =>
            let told := if r.strictness = .ignore then [] else t.complaint message
            if r.strictness = .abort then (output ++ front, errors ++ told, false)
            else (output ++ front ++ field, errors ++ told, false)
        else (output ++ front ++ field, errors, good))
    (([], [], true) : Octets × Octets × Bool)
  (output, errors, good)

def lines (r : Request) (t : Task) (texts : List Octets) : Octets × Octets × Bool :=
  texts.foldl (fun (output, errors, good) text =>
    if !good && r.strictness = .abort then (output, errors, good)
    else
      let (shown, told, fine) := line r t text
      let ended := !fine && r.strictness = .abort
      (output ++ shown ++ (if ended then [] else [r.lineEnd]), errors ++ told, good && fine))
    ([], [], true)

/-! ## The tool -/

def sourceScales : Choices Scale :=
  [(["none"], .none), (["auto"], .auto), (["si"], .thousands), (["iec"], .binary),
    (["iec-i"], .marked)]

def scales : Choices Scale :=
  [(["none"], .none), (["si"], .thousands), (["iec"], .binary), (["iec-i"], .marked)]

def roundings : Choices Rounding :=
  [(["up"], .up), (["down"], .down), (["from-zero"], .fromZero), (["towards-zero"], .towardsZero),
    (["nearest"], .nearest)]

/-- What can be done about texts that are no numbers. -/
def strictnesses : Choices Strictness :=
  [(["abort"], .abort), (["fail"], .fail), (["warn"], .warn), (["ignore"], .ignore)]

def unitSize? (text : Octets) : Option Nat :=
  let digits := text.takeWhile Char.isDigit
  let scaled (power base : Nat) : Option Nat := some (Octets.decimal digits * Nat.pow base power)
  if digits.isEmpty || Octets.decimal digits = 0 then none
  else
    match text.drop digits.length with
    | [] => some (Octets.decimal digits)
    | [c] => ("KMGTPEZY".toList.idxOf? c).bind fun place => scaled (place + 1) 1000
    | [c, 'i'] => ("KMGTPEZY".toList.idxOf? c).bind fun place => scaled (place + 1) 1024
    | _ => none

structure Refusal where
  message : Octets
  hinted : Bool := false

def request (a : Arguments) : Except Refusal Request := do
  let choice {α : Type} (choices : Choices α) (letter : Char) (option : String) (usual : α) :
      Except Refusal α :=
    match a.value? letter with
    | none => pure usual
    | some text => (choices.chosen option text).mapError fun message => { message, hinted := true }
  let source ← choice sourceScales 'f' "--from" .none
  let scale ← choice scales 't' "--to" .none
  let rounding ← choice roundings 'r' "--round" .fromZero
  let strictness ← choice strictnesses 'I' "--invalid" .abort
  let size (letter : Char) : Except Refusal Nat :=
    match a.value? letter with
    | none => pure 1
    | some text =>
      match unitSize? text with
      | some n => pure n
      | none => throw { message := "invalid unit size: ".toList ++ Octets.quoted text }
  let fromUnit ← size 'F'
  let toUnit ← size 'T'
  let padding ← match a.value? 'p' with
    | none => pure (0 : Int)
    | some text =>
      match (Octets.integer? text).filter (· != 0) with
      | some n => pure n
      | none => throw { message := "invalid padding value ".toList ++ Octets.quoted text }
  if (a.value? 'd').any fun text => decide (1 < text.length) then
    throw { message := "the delimiter must be a single character".toList }
  let header ← match a.value? 'H' with
    | none => pure 0
    | some [] => pure 1
    | some text =>
      match Octets.decimal? text with
      | some (n + 1) => pure (n + 1)
      | _ => throw { message := "invalid header value ".toList ++ Octets.quoted text }
  if 1 < (a.values 'L').length then
    throw { message := "multiple field specifications".toList }
  let fields ← match a.value? 'L' with
    | none => pure [⟨1, some 1⟩]
    | some text =>
      if text = ['-'] then pure [⟨1, none⟩]
      else (Tool.rangesOf text).mapError fun mistake =>
        { message := mistake.message true, hinted := true }
  let format ← match a.value? 'O' with
    | none => pure {}
    | some text => (Format.ofText text).mapError fun message => { message }
  if a.has 'O' && a.has 'g' then
    throw { message := "--grouping cannot be combined with --format".toList }
  if (a.has 'g' || format.grouped) && scale != .none then
    throw { message := "grouping cannot be combined with --to".toList }
  let suffix := (a.value? 's').getD []
  pure
    { manner := { scale, rounding, places := format.places, noughts := format.noughts, suffix }
      format, source, fromUnit, toUnit
      padding := if format.padding != 0 then format.padding else padding
      fields, delimiter := (a.value? 'd').map fun text => text.headD '\x00'
      strictness, lineEnd := a.lineEnd, header }

def convertAll : Tool := fun t =>
  t.withArguments
      { plain := "z", valued := "dftrIFTpLOs", optional := "H", hidden := "ftrIFTpLOsH"
        words := [("from", 'f'), ("from-unit", 'F'), ("to", 't'), ("to-unit", 'T'), ("round", 'r'),
          ("padding", 'p'), ("suffix", 's'), ("grouping", 'g'), ("delimiter", 'd'), ("field", 'L'),
          ("debug", 'D'), ("dev-debug", 'V'), ("header", 'H'), ("format", 'O'), ("invalid", 'I'),
          ("zero-terminated", 'z')] } 1 fun a =>
    match request a with
    | .error r => if r.hinted then t.refuses r.message 1 else t.fails r.message 1
    | .ok r =>
      let warning := if a.has 'D' && r.source = .none && r.manner.scale = .none && !a.has 'F' &&
          !a.has 'T' && r.padding = 0 && !a.has 'g' && !a.has 'O' then
          t.complaint "no conversion option specified".toList
        else []
      let warning := warning ++ if a.has 'D' && a.has 'H' && !a.operands.isEmpty then
          t.complaint "--header ignored with command-line input".toList
        else []
      let status (good : Bool) : Nat :=
        if good || r.strictness = .warn || r.strictness = .ignore then 0 else 2
      if a.operands.isEmpty then
        let all := Octets.records r.lineEnd t.input
        let (output, errors, good) := lines r t (all.drop r.header)
        let front := Octets.ofRecords r.lineEnd (all.take r.header)
        let ended := t.input.getLast? = some r.lineEnd || output.getLast? != some r.lineEnd
        { output := front ++ (if ended then output else output.dropLast)
          errors := warning ++ errors, status := status good }
      else
        let (output, errors, good) := lines r t a.operands
        { output, errors := warning ++ errors, left := some t.input, status := status good }

end CommandChains.Machine.Units
