import CommandChains.Machine.Tool.Format
import CommandChains.Machine.Expression
import CommandChains.Machine.Tool.Basic

/-!
# Tools that count

Tools that print rows of numbers and the factors of numbers.
-/

namespace CommandChains.Machine.Tool

/-! ## Rows of numbers -/

/-- A decimal number: a whole number of units, so many places behind the point. -/
structure Scaled where
  units : Int
  places : Nat := 0
  /-- The number of characters in which it was written, with a nought before the point. -/
  width : Nat := 0
  deriving DecidableEq, Repr

namespace Scaled

def ofText? (text : Octets) : Option Scaled := do
  let (negative, unsigned) := match text with
    | '-' :: rest => (true, rest)
    | '+' :: rest => (false, rest)
    | rest => (false, rest)
  let whole := unsigned.takeWhile Char.isDigit
  let (fraction, rest) := match unsigned.drop whole.length with
    | '.' :: rest => (rest.takeWhile Char.isDigit, rest.dropWhile Char.isDigit)
    | rest => ([], rest)
  if whole.isEmpty && fraction.isEmpty then none
  let n : Int := Octets.decimal (whole ++ fraction)
  let n := if negative then -n else n
  let width := (if negative then 1 else 0) + max 1 whole.length +
    if fraction.isEmpty then 0 else fraction.length + 1
  match rest with
  | [] => some ⟨n, fraction.length, width⟩
  | c :: exponent =>
    let e ← if c = 'e' ∨ c = 'E' then Octets.integer? exponent else none
    let places := (fraction.length - e).toNat
    some ⟨n * Nat.pow 10 (e - fraction.length).toNat, places, width⟩

def at_ (s : Scaled) (places : Nat) : Int :=
  s.units * Nat.pow 10 (places - s.places)

def text (places : Nat) (units : Int) : Octets :=
  let digits := Octets.padded (places + 1) (Octets.ofNat units.natAbs) '0'
  let whole := digits.take (digits.length - places)
  (if units < 0 then ['-'] else []) ++ whole ++
    if places = 0 then [] else '.' :: digits.drop (digits.length - places)

end Scaled

def rowLimit : Nat := 1000000

def row (first step last : Int) : List Int :=
  let count := if step = 0 then 0
    else if 0 < step then (Int.fdiv (last - first) step + 1).toNat
    else (Int.fdiv (first - last) (-step) + 1).toNat
  (List.range (min count rowLimit)).map fun (n : Nat) => first + step * (n : Int)

def isNegative : Octets → Bool
  | '-' :: c :: _ => c.isDigit || c == '.'
  | _ => false

/-- The form in which numbers are shown: the texts around their place. -/
structure NumberForm where
  before : Octets
  place : Octets
  behind : Octets
  deriving DecidableEq, Repr

namespace NumberForm

/-- A text as far as its first place for a number, and from there on. Two signs for a place
stand for one character of the text. -/
def cut : Nat → Octets → Octets × Octets
  | rounds + 1, '%' :: '%' :: rest =>
    let (text, rest) := cut rounds rest
    ('%' :: text, rest)
  | _, '%' :: rest => ([], '%' :: rest)
  | rounds + 1, c :: rest =>
    let (text, rest) := cut rounds rest
    (c :: text, rest)
  | _, rest => ([], rest)

def ofText (text : Octets) : Except Octets NumberForm :=
  let wrong (what : Octets) : Except Octets NumberForm :=
    .error ("format ".toList ++ Octets.quoted text ++ ' ' :: what)
  let (before, rest) := cut text.length text
  let place := rest.drop 1
  let flags := place.takeWhile fun c => "-+#0 \x27".contains c
  let width := (place.drop flags.length).takeWhile Char.isDigit
  let places := match place.drop (flags.length + width.length) with
    | '.' :: digits => '.' :: digits.takeWhile Char.isDigit
    | _ => []
  let size := flags.length + width.length + places.length
  let size := if (place.drop size).head? == some 'L' then size + 1 else size
  if rest.isEmpty then wrong "has no % directive".toList
  else
    match place.drop size with
    | [] => wrong "ends in %".toList
    | letter :: rest =>
      let (behind, more) := cut rest.length rest
      if !"efgaEFGA".contains letter then
        wrong ("has unknown %".toList ++ letter :: " directive".toList)
      else if !more.isEmpty then wrong "has too many % directives".toList
      else .ok { before, place := place.take (size + 1), behind }

def show_ (form : NumberForm) (number : Octets) : Octets :=
  form.before ++ (fillFirst form.place [number]).1.output ++ form.behind

end NumberForm

/-- The texts of numbers in a row, all with the same number of places. They are as wide as
the widest of their ends if that is asked for. -/
def rowTexts (wide : Bool) (first step last : Scaled) : List Octets :=
  let places := max first.places step.places
  let fine := max places last.places
  let values := (row (first.at_ fine) (step.at_ fine) (last.at_ fine)).map fun n =>
    n / (Nat.pow 10 (fine - places) : Int)
  let widthOf (s : Scaled) : Nat :=
    if s.places ≤ places then
      s.width + (places - s.places) + if s.places = 0 ∧ places ≠ 0 then 1 else 0
    else s.width - (s.places - places) - if places = 0 then 1 else 0
  let width := if wide then max (widthOf first) (widthOf last) else 0
  values.map fun n =>
    match Scaled.text places n with
    | '-' :: digits => '-' :: Octets.padded (width - 1) digits '0'
    | digits => Octets.padded width digits '0'

/-- The options of the tool that prints numbers in a row. -/
def rowOptions : Known :=
  { plain := "w", valued := "sf", untilOperand := true, takesAsOperand := isNegative
    words := [("equal-width", 'w'), ("separator", 's'), ("format", 'f')] }

def sequence : Tool := fun t =>
  t.withArguments rowOptions 1 fun a =>
    let form : Except Octets (Option NumberForm) :=
      match a.value? 'f' with
      | none => .ok none
      | some text => (NumberForm.ofText text).map some
    if a.operands.isEmpty then t.refuses "missing operand".toList 1
    else if 3 < a.operands.length then
      t.refuses ("extra operand ".toList ++ Octets.quoted (a.operands.getD 3 [])) 1
    else
      match form, a.operands.find? fun operand => (Scaled.ofText? operand).isNone with
      | .error message, _ => t.fails message 1
      | .ok form, bad =>
        let isZero := a.operands.length == 3 &&
          ((a.operands[1]?.bind Scaled.ofText?).any fun step => step.units == 0)
        if form.isSome && a.has 'w' then
          t.refuses
            "format string may not be specified when printing equal width strings".toList 1
        else if isZero && bad != a.operands.head? then
          t.refuses ("invalid Zero increment value: ".toList ++
            Octets.quoted (a.operands.getD 1 [])) 1
        else
          match bad with
          | some bad =>
            t.refuses ("invalid floating point argument: ".toList ++ Octets.quoted bad) 1
          | none =>
            let one : Scaled := ⟨1, 0, 1⟩
            let texts := match a.operands.filterMap Scaled.ofText? with
              | [last] => rowTexts (a.has 'w') one one last
              | [first, last] => rowTexts (a.has 'w') first one last
              | [first, step, last] => rowTexts (a.has 'w') first step last
              | _ => []
            let texts := match form with
              | none => texts
              | some form => texts.map form.show_
            let line := Octets.joined ((a.value? 's').getD ['\n']) texts
            t.prints (if texts.isEmpty then [] else line ++ ['\n'])

/-! ## Factors -/

/-- The prime factors of a number from `divisor` on, in so many rounds. -/
def factorsFrom : Nat → Nat → Nat → List Nat
  | 0, _, n => if 1 < n then [n] else []
  | rounds + 1, divisor, n =>
    if n < 2 then []
    else if n < divisor * divisor then [n]
    else if n % divisor = 0 then divisor :: factorsFrom rounds divisor (n / divisor)
    else factorsFrom rounds (divisor + 1) n

/-- Prints the prime factors of numbers, which are operands or words of the input. -/
def factor : Tool := fun t =>
  t.withArguments {} 1 fun a =>
    let fromInput := a.operands.isEmpty
    let numbers := if fromInput then Octets.words t.input else a.operands
    let good (text : Octets) : Option Nat :=
      Octets.decimal? (match text with
        | '+' :: rest => rest
        | rest => rest)
    let output := numbers.flatMap fun text =>
      match good text with
      | some n =>
        let factors := (factorsFrom 1000000 2 n).map Octets.ofNat
        Octets.ofNat n ++ ":".toList ++ (factors.flatMap fun factor => ' ' :: factor) ++ ['\n']
      | none => []
    let errors := numbers.flatMap fun text =>
      if (good text).isSome then []
      else t.complaint (Octets.quoted text ++ " is not a valid positive integer".toList)
    { output, errors, left := if fromInput then none else some t.input,
      status := if errors.isEmpty then 0 else 1 }

/-!
## Computations

A tool that works out the value of its operands: sums and products, comparisons, a
choice of two values, and parts of texts. Every operand is a value, an operator or a
parenthesis.
-/

inductive ComputationMistake where
  | missingArgument
  | missingParenthesis
  | otherThanParenthesis (word : Octets)
  | closedParenthesis
  | unexpected (word : Octets)
  | notNumber
  | divisionByZero
  | pattern (mistake : Expression.Mistake)
  deriving DecidableEq, Repr

/-- What is said about a mistake in some words. If something is missing, it is missing
behind the last one. -/
def ComputationMistake.message (words : List Octets) : ComputationMistake → Octets
  | missingArgument =>
    "syntax error: missing argument after ".toList ++ Octets.quoted (words.getLastD [])
  | missingParenthesis =>
    "syntax error: expecting ')' after ".toList ++ Octets.quoted (words.getLastD [])
  | otherThanParenthesis word =>
    "syntax error: expecting ')' instead of ".toList ++ Octets.quoted word
  | closedParenthesis => "syntax error: unexpected ')'".toList
  | unexpected word => "syntax error: unexpected argument ".toList ++ Octets.quoted word
  | notNumber => "non-integer argument".toList
  | divisionByZero => "division by zero".toList
  | pattern mistake => mistake.message.toList

namespace Computation

def isNothing (value : Octets) : Bool :=
  value.isEmpty || (Octets.integer? value == some 0 && value.head? != some '+')

def ofBool (b : Bool) : Octets := if b then ['1'] else ['0']

def number? (value : Octets) : Option Int :=
  if value.head? = some '+' then none else Octets.integer? value

def number (value : Octets) : Except ComputationMistake Int :=
  match number? value with
  | some n => .ok n
  | none => .error .notNumber

def compareValues (a b : Octets) : Ordering :=
  match number? a, number? b with
  | some m, some n => compare m n
  | _, _ => if a = b then .eq else if Octets.atMost a b then .lt else .gt

/-- The part of a text that a pattern matches at its beginning: that of its first group,
or else how long it is. -/
def matched (text pattern : Octets) : Except ComputationMistake Octets :=
  match Expression.ofText { forgiving := true, emptyRanges := true } pattern with
  | .error mistake => .error (.pattern mistake)
  | .ok e =>
    let hasGroup := Octets.occursIn "\\(".toList pattern
    match Expression.matchAt {} e text 0 with
    | none => .ok (if hasGroup then [] else ['0'])
    | some m => .ok (if hasGroup then m.textOf text 1 else Octets.ofNat m.stop)

def operatorsAt : Nat → List String
  | 0 => ["|"]
  | 1 => ["&"]
  | 2 => ["<", "<=", "=", "==", "!=", ">=", ">"]
  | 3 => ["+", "-"]
  | 4 => ["*", "/", "%"]
  | 5 => [":"]
  | _ => []

def join (operator : String) (a b : Octets) : Except ComputationMistake Octets :=
  let order := compareValues a b
  let numbers (f : Int → Int → Int) : Except ComputationMistake Octets := do
    let m ← number a
    let n ← number b
    pure (Octets.ofInt (f m n))
  let quotient (f : Int → Int → Int) : Except ComputationMistake Octets := do
    let m ← number a
    let n ← number b
    if n = 0 then .error .divisionByZero else pure (Octets.ofInt (f m n))
  match operator with
  | "|" => .ok (if !isNothing a then a else if isNothing b then ['0'] else b)
  | "&" => .ok (if isNothing a || isNothing b then ['0'] else a)
  | "<" => .ok (ofBool (order == .lt))
  | "<=" => .ok (ofBool (order != .gt))
  | "=" | "==" => .ok (ofBool (order == .eq))
  | "!=" => .ok (ofBool (order != .eq))
  | ">=" => .ok (ofBool (order != .lt))
  | ">" => .ok (ofBool (order == .gt))
  | "+" => numbers fun m n => m + n
  | "-" => numbers fun m n => m - n
  | "*" => numbers fun m n => m * n
  | "/" => quotient Int.tdiv
  | "%" => quotient Int.tmod
  | _ => matched a b

/-- Values that have been read, and the words behind them. -/
abbrev Reading := Except ComputationMistake (Octets × List Octets)

/-- Goes on with the operators of a level, where `operand` reads what they join. -/
def readMore (operand : List Octets → Reading) (operators : List String) :
    Nat → Octets → List Octets → Reading
  | 0, value, words => .ok (value, words)
  | _, value, [] => .ok (value, [])
  | rounds + 1, value, word :: rest =>
    if operators.contains (String.ofList word) then
      if rest.isEmpty then .error .missingArgument
      else
        match operand rest with
        | .error mistake => .error mistake
        | .ok (other, rest) =>
          match join (String.ofList word) value other with
          | .error mistake => .error mistake
          | .ok value => readMore operand operators rounds value rest
    else .ok (value, word :: rest)

/-- The place of the first character of a text that belongs to a set, counted from one. -/
def placeOf (text characters : Octets) : Nat :=
  match text.findIdx? characters.contains with
  | some place => place + 1
  | none => 0

/-- A single value: a word, something in parentheses, or a part of a text. -/
def readSingle (value : List Octets → Reading) (whole : List Octets → Reading) :
    List Octets → Reading
  | [] => .error .missingArgument
  | word :: rest =>
    let two (work : Octets → Octets → Except ComputationMistake Octets) : Reading :=
      match value rest with
      | .error mistake => .error mistake
      | .ok (a, rest) =>
        match value rest with
        | .error mistake => .error mistake
        | .ok (b, rest) => (work a b).map fun made => (made, rest)
    if rest.isEmpty then
      if ["(", "+", "match", "substr", "index", "length"].contains (String.ofList word) then
        .error .missingArgument
      else if word = [')'] then .error .closedParenthesis
      else .ok (word, [])
    else
      match String.ofList word with
      | "(" =>
        match whole rest with
        | .error mistake => .error mistake
        | .ok (inner, [')'] :: rest) => .ok (inner, rest)
        | .ok (_, []) => .error .missingParenthesis
        | .ok (_, other :: _) => .error (.otherThanParenthesis other)
      | "+" => .ok (rest.headD [], rest.tail)
      | "length" => (value rest).map fun (a, rest) => (Octets.ofNat a.length, rest)
      | "match" => two matched
      | "index" => two fun a b => .ok (Octets.ofNat (placeOf a b))
      | "substr" =>
        match value rest with
        | .error mistake => .error mistake
        | .ok (text, rest) =>
          match value rest with
          | .error mistake => .error mistake
          | .ok (start, rest) =>
            match value rest with
            | .error mistake => .error mistake
            | .ok (count, rest) =>
              let part := match number? start, number? count with
                | some m, some n =>
                  if m < 1 ∨ n < 1 then [] else (text.drop (m - 1).toNat).take n.toNat
                | _, _ => []
              .ok (part, rest)
      | ")" => .error .closedParenthesis
      | _ => .ok (word, rest)

/-- A value made with the operators from a level on, in at most so many steps. -/
def read : Nat → Nat → List Octets → Reading
  | 0, _, words => .ok ([], words)
  | steps + 1, level, words =>
    if 6 ≤ level then readSingle (read steps 6) (read steps 0) words
    else
      match read steps (level + 1) words with
      | .error mistake => .error mistake
      | .ok (value, rest) =>
        readMore (read steps (level + 1)) (operatorsAt level) words.length value rest

end Computation

def computation : Tool := fun t =>
  let words := match t.arguments with
    | ['-', '-'] :: rest => rest
    | words => words
  if words.isEmpty then t.refuses "missing operand".toList 2
  else
    match Computation.read (7 * words.length + 7) 0 words with
    | .error mistake => t.fails (mistake.message words) 2
    | .ok (_, word :: _) => t.fails ((ComputationMistake.unexpected word).message words) 2
    | .ok (value, []) =>
      { output := value ++ ['\n'], left := some t.input
        status := if Computation.isNothing value then 1 else 0 }

end CommandChains.Machine.Tool
