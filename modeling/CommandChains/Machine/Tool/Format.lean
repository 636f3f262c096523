import CommandChains.Machine.Numeral
import CommandChains.Machine.Tool.Basic
import CommandChains.Machine.Quotation

/-!
# Tools that print their arguments

One tool prints its arguments in a line. Another one fills them into a pattern, which
has places for texts and numbers, and uses the pattern again while arguments are
left.
-/

namespace CommandChains.Machine.Tool

open Numeral

/-! ## In a line -/

def setsOptions : Octets → Bool
  | '-' :: letters => !letters.isEmpty && letters.all fun c => c == 'n' || c == 'e' || c == 'E'
  | _ => false

/-- Prints its arguments. The options in front say whether a newline follows and whether
escapes are read; the last word on escapes counts. -/
def echo : Tool := fun t =>
  let options := t.arguments.takeWhile setsOptions
  let letters := options.flatMap fun option => option.drop 1
  let escapes := (letters.filter fun c => c == 'e' || c == 'E').getLast? == some 'e'
  let text := Octets.joined [' '] (t.arguments.drop options.length)
  let newline := if letters.contains 'n' then [] else ['\n']
  if escapes then
    match Escapes.readAll { strict := false } text.length text with
    | (shown, none) => t.prints (shown ++ newline)
    | (shown, some _) => t.prints shown
  else t.prints (text ++ newline)

/-! ## Arguments as numbers -/

/-- What has been read of an argument: a value, and what is wrong. -/
structure Reading (α : Type) where
  value : α
  problem : Option Octets := none
  remark : Option Octets := none

/-- What is said of an argument of which something is left. -/
def leftover (argument rest : Octets) : Option Octets :=
  if rest.isEmpty then none
  else if rest = argument then
    some (Octets.quoted argument ++ ": expected a numeric value".toList)
  else some (Octets.quoted argument ++ ": value not completely converted".toList)

/-- What is said of an argument that stands for a character if more characters follow. -/
def ignored (rest : Octets) : Option Octets :=
  if rest.isEmpty then none
  else
    some ("warning: ".toList ++ rest ++
      ": character(s) following character constant have been ignored".toList)

/-- Reads an argument as a whole number. It may be written to base ten, eight or
sixteen; a quote in front makes the code of a character of it. -/
def wholeNumber (argument : Octets) : Reading Int :=
  match argument with
  | '"' :: c :: rest | '\x27' :: c :: rest => ⟨c.toNat, none, ignored rest⟩
  | _ =>
    let text := argument.dropWhile Octets.isSpace
    let (negative, unsigned) := match text with
      | '-' :: rest => (true, rest)
      | '+' :: rest => (false, rest)
      | rest => (false, rest)
    let (base, digits, rest) :=
      let plain (base : Nat) : Nat × List Nat × Octets :=
        let digits := Octets.digitsOf base unsigned.length unsigned
        (base, digits, unsigned.drop digits.length)
      match unsigned with
      | '0' :: x :: rest =>
        let digits := Octets.digitsOf 16 rest.length rest
        if (x = 'x' ∨ x = 'X') ∧ digits ≠ [] then (16, digits, rest.drop digits.length)
        else plain 8
      | '0' :: _ => plain 8
      | _ => plain 10
    let n : Int := Octets.valueOf base digits
    ⟨if negative then -n else n, leftover argument (if digits.isEmpty then argument else rest),
      none⟩

def realNumber (argument : Octets) : Reading RealNumber :=
  match argument with
  | '"' :: c :: rest | '\x27' :: c :: rest =>
    ⟨{ magnitude := .ratio c.toNat 1 }, none, ignored rest⟩
  | _ =>
    let (value, rest) := leadingReal argument
    ⟨value, leftover argument rest, none⟩

/-! ## Patterns -/

structure Filled where
  output : Octets := []
  remarks : List Octets := []
  /-- Whether an argument was not what its place asks for. -/
  unfit : Bool := false
  left : List Octets := []
  ended : Bool := false
  mistake : Option Octets := none

namespace Filled

def after (text : Octets) (f : Filled) : Filled :=
  { f with output := text ++ f.output }

def beside {α : Type} (r : Reading α) (f : Filled) : Filled :=
  { f with
    remarks := r.remark.toList ++ r.problem.toList ++ f.remarks
    unfit := r.problem.isSome || f.unfit }

/-- One thing behind another, if nothing has ended the first. -/
def andThen (first : Filled) (second : Unit → Filled) : Filled :=
  if first.ended || first.mistake.isSome then first
  else
    let second := second ()
    { second with
      output := first.output ++ second.output
      remarks := first.remarks ++ second.remarks
      unfit := first.unfit || second.unfit }

def ofEscapes (left : List Octets) : Octets × Option Escapes.Piece → Filled
  | (output, some (.mistake message)) => { output, left, mistake := some message }
  | (output, ended) => { output, left, ended := ended.isSome }

end Filled

/-- The numbers that fit in a word of sixty-four bits with a sign. -/
def clamped (n : Int) : Int :=
  max (-9223372036854775808) (min 9223372036854775807 n)

/-- What is said of a number that does not fit. -/
def outOfRange (argument : Octets) : Octets :=
  Octets.quoted argument ++ ": Numerical result out of range".toList

/-- A number as a word of sixty-four bits without a sign. One that does not fit is the
greatest of them. -/
def wrapped (n : Int) : Nat :=
  if n < 0 ∧ -18446744073709551616 < n then (18446744073709551616 + n).toNat
  else min n.natAbs 18446744073709551615

def wholeNumberWithin {α : Type} (fits : Int → Bool) (bring : Int → α) (argument : Octets) :
    Reading α :=
  let reading := wholeNumber argument
  { value := bring reading.value
    problem := if fits reading.value then reading.problem else some (outOfRange argument)
    remark := reading.remark }

def signedPlace (l : Layout) (argument : Octets) : Filled :=
  let reading := wholeNumberWithin (fun n => clamped n == n) clamped argument
  let n := reading.value
  Filled.beside reading
    { output := l.number (l.sign (decide (n < 0))) (l.digits (Octets.ofNat n.natAbs))
        l.precision.isNone }

def unsignedPlace (l : Layout) (base : Nat) (mark : Octets) (change : Char → Char)
    (argument : Octets) : Filled :=
  let reading := wholeNumberWithin (fun n => decide (n.natAbs ≤ 18446744073709551615)) wrapped
    argument
  let n := reading.value
  let digits := l.digits ((inBase base n).map change)
  let mark := if l.has '#' && n != 0 then mark else []
  Filled.beside reading { output := l.number mark digits l.precision.isNone }

def realPlace (l : Layout) (letter : Char) (argument : Octets) : Filled :=
  let reading := realNumber argument
  Filled.beside reading { output := placedReal l 64 letter reading.value }

def fillPlace (l : Layout) (letter : Char) (argument : Octets) : Filled :=
  match letter with
  | 's' => { output := l.place (l.precision.elim argument fun n => argument.take n) }
  | 'c' => { output := l.place [argument.headD '\x00'] }
  | 'd' | 'i' => signedPlace l argument
  | 'u' => unsignedPlace l 10 [] id argument
  | 'o' => unsignedPlace l 8 ['0'] id argument
  | 'x' => unsignedPlace l 16 ['0', 'x'] id argument
  | 'X' => unsignedPlace l 16 ['0', 'X'] Char.toUpper argument
  | letter => realPlace l letter argument

/-- Whether a letter says how to fill a place with these flags, and perhaps a point. -/
def isFitting (flags : Octets) (point : Bool) (letter : Char) : Bool :=
  "aAcdeEfFgGiosuxX".contains letter &&
    !((flags.contains 'I' || flags.contains '\x27') && "aAceEosxX".contains letter) &&
    !(flags.contains '#' && "cdisu".contains letter) &&
    !(flags.contains '0' && "cs".contains letter) &&
    !(point && letter == 'c')

/-- What stands in a place for a number: written there, or left to an argument. -/
structure Count where
  reading : Reading Int := { value := 0 }
  given : Bool := false
  pattern : Octets
  arguments : List Octets

def readCount (pattern : Octets) (arguments : List Octets) : Count :=
  match pattern with
  | '*' :: pattern =>
    { reading := wholeNumber (arguments.headD ['0']), given := true, pattern
      arguments := arguments.tail }
  | pattern =>
    let digits := pattern.takeWhile Char.isDigit
    { reading := { value := (Octets.decimal? digits).getD 0 }, given := !digits.isEmpty
      pattern := pattern.drop digits.length, arguments }

/-- Fills the place that a pattern begins with, behind the sign for it. Gives the pattern
that is left, too. -/
def fillFirst (pattern : Octets) (arguments : List Octets) : Filled × Octets :=
  match pattern with
  | '%' :: rest => ({ output := ['%'], left := arguments }, rest)
  | 'q' :: rest =>
    ({ output := (arguments.take 1).flatMap (Octets.asWord false), left := arguments.tail }, rest)
  | 'b' :: rest =>
    let argument := arguments.headD []
    (Filled.ofEscapes arguments.tail
      (Escapes.readAll { alone := "\"", named := true } argument.length argument), rest)
  | _ =>
    let flags := pattern.takeWhile fun c => "-+ #0\x27I".contains c
    let width := readCount (pattern.drop flags.length) arguments
    let (point, places) := match width.pattern with
      | '.' :: rest => (true, readCount rest width.arguments)
      | rest => (false, { pattern := rest, arguments := width.arguments })
    let rest := places.pattern.dropWhile fun c => "hlLjzt".contains c
    let letter := rest.headD '\x00'
    if isFitting flags point letter then
      let layout : Layout :=
        { flags := if width.reading.value < 0 then '-' :: flags else flags
          width := width.reading.value.natAbs
          precision :=
            if point ∧ 0 ≤ places.reading.value then some places.reading.value.toNat else none }
      let filled := fillPlace layout letter (places.arguments.headD [])
      (Filled.beside width.reading
        (Filled.beside places.reading { filled with left := places.arguments.tail }), rest.tail)
    else
      let shown := '%' :: pattern.take (pattern.length - rest.tail.length)
      ({ mistake := some (shown ++ ": invalid conversion specification".toList) }, [])

/-- A pattern filled once. Every round takes at least one character, so as many rounds as
there are characters are enough. -/
def fill : Nat → Octets → List Octets → Filled
  | 0, _, arguments => { left := arguments }
  | _, [], arguments => { left := arguments }
  | rounds + 1, c :: rest, arguments =>
    if c = '\\' then
      match Escapes.read { leadingNought := false, alone := "\"", named := true } rest with
      | (.text shown, rest) => (fill rounds rest arguments).after shown
      | (.stop, _) => { left := arguments, ended := true }
      | (.mistake message, _) => { left := arguments, mistake := some message }
    else if c = '%' then
      let (filled, rest) := fillFirst rest arguments
      filled.andThen fun _ => fill rounds rest filled.left
    else (fill rounds rest arguments).after [c]

/-- A pattern filled again and again while arguments are left, at most so many times. -/
def fillAll (pattern : Octets) : Nat → List Octets → Filled
  | 0, _ => {}
  | times + 1, arguments =>
    let filled := fill pattern.length pattern arguments
    if filled.left.isEmpty || filled.left.length = arguments.length then filled
    else filled.andThen fun _ => fillAll pattern times filled.left

def printf : Tool := fun t =>
  let arguments := match t.arguments with
    | ['-', '-'] :: rest => rest
    | arguments => arguments
  match arguments with
  | [] => t.refuses "missing operand".toList 1
  | pattern :: rest =>
    let filled := fillAll pattern (rest.length + 1) rest
    let unused :=
      if filled.ended || filled.mistake.isSome then []
      else
        (filled.left.take 1).flatMap fun first =>
          t.complaint ("warning: ignoring excess arguments, starting with ".toList ++
            Octets.quoted first)
    { output := filled.output
      errors := (filled.remarks ++ filled.mistake.toList).flatMap t.complaint ++ unused
      left := some t.input
      status := if filled.unfit || filled.mistake.isSome then 1 else 0 }

end CommandChains.Machine.Tool
