import CommandChains.Machine.Shell.Quoting
import CommandChains.Machine.Tool.Format

/-!
# Patterns that shells fill

Shells fill arguments into patterns by themselves, and each in a way of its own: what
escapes there are, what is said about arguments that are no numbers, and which letters
say how a place is filled.
-/

namespace CommandChains.Machine.Shell.Printing

open Numeral (Layout RealNumber)

structure Filled where
  output : Octets := []
  remarks : List Octets := []
  status : Nat := 0
  left : List Octets := []
  ended : Bool := false

namespace Filled

def after (text : Octets) (f : Filled) : Filled := { f with output := text ++ f.output }

/-- One thing behind another, unless the first has ended everything. -/
def andThen (first : Filled) (second : List Octets → Filled) : Filled :=
  if first.ended then first
  else
    let next := second first.left
    { next with
      output := first.output ++ next.output, remarks := first.remarks ++ next.remarks
      status := max first.status next.status }

def gaveUp (message : Octets) (status : Nat) : Filled :=
  { remarks := [message], status, ended := true }

end Filled

structure Manner where
  escape : Octets → Octets × Octets
  /-- Reads a text with escapes in the place of an argument, and whether it ends
  everything. -/
  escaped : Octets → Octets × Bool
  /-- What is said about an argument of which something is left, or that does not fit. -/
  remark : Octets → Octets → Bool → Option (Octets × Bool)
  bits : Nat
  /-- What is done at a letter that says nothing, with the place as it is written. -/
  unknown : Octets → Char → Filled
  /-- What is done where the pattern ends in a place. -/
  unfinished : Octets → Filled
  others : Layout → Char → Octets → Option Octets

/-- The whole number at the beginning of a text, and what is behind it, or all of the text
if there is none. -/
def leadingWhole (argument : Octets) : Int × Octets :=
  let text := argument.dropWhile Octets.isSpace
  let (negative, unsigned) := match text with
    | '-' :: rest => (true, rest)
    | '+' :: rest => (false, rest)
    | rest => (false, rest)
  let read (base : Nat) (from_ : Octets) : Int × Octets :=
    let digits := Octets.digitsOf base from_.length from_
    let n : Int := Octets.valueOf base digits
    (if negative then -n else n, if digits.isEmpty then argument else from_.drop digits.length)
  match unsigned with
  | '0' :: x :: rest =>
    if (x = 'x' ∨ x = 'X') ∧ Octets.digitsOf 16 1 rest ≠ [] then read 16 rest
    else read 8 unsigned
  | '0' :: _ => read 8 unsigned
  | _ => read 10 unsigned

/-- A number out of an argument with what is said about it. -/
def numberOf (m : Manner) (signed : Bool) (argument : Option Octets) : Int × List Octets × Nat :=
  match argument with
  | none => (0, [], 0)
  | some ('"' :: c :: _) | some ('\x27' :: c :: _) => (c.toNat, [], 0)
  | some ['"'] | some ['\x27'] => (0, [], 0)
  | some text =>
    let (n, rest) := leadingWhole text
    let fit := if signed then Tool.clamped n else (Tool.wrapped n : Int)
    let isFar := if signed then fit != n else decide (18446744073709551615 < n.natAbs)
    match m.remark text rest isFar with
    | some (message, bad) => (fit, [message], if bad then 1 else 0)
    | none => (fit, [], 0)

/-- A number with a fraction out of an argument with what is said about it. -/
def realOf (m : Manner) (argument : Option Octets) : RealNumber × List Octets × Nat :=
  let nought : RealNumber := { magnitude := .ratio 0 1 }
  match argument with
  | none | some [] => (nought, [], 0)
  | some ('"' :: c :: _) | some ('\x27' :: c :: _) => ({ magnitude := .ratio c.toNat 1 }, [], 0)
  | some text =>
    let (value, rest) := Numeral.leadingReal text
    match m.remark text rest false with
    | some (message, bad) => (value, [message], if bad then 1 else 0)
    | none => (value, [], 0)

def fillPlace (m : Manner) (l : Layout) (letter : Char) (argument : Option Octets) :
    Option Filled :=
  let signedText (n : Int) : Octets :=
    l.number (l.sign (decide (n < 0))) (l.digits (Octets.ofNat n.natAbs)) l.precision.isNone
  let unsignedText (base : Nat) (mark : Octets) (n : Nat) : Octets :=
    let digits := l.digits (Numeral.inBase base n)
    let mark := if l.has '#' && n != 0 && !(base = 8 && digits.head? = some '0') then mark else []
    l.number mark digits l.precision.isNone
  let unsigned (base : Nat) (mark : Octets) (change : Char → Char) : Option Filled :=
    let (n, remarks, status) := numberOf m false argument
    some { output := (unsignedText base mark n.toNat).map change, remarks, status }
  let text := argument.getD []
  match letter with
  | 's' => some { output := l.place (l.precision.elim text fun n => text.take n) }
  | 'c' => some { output := l.place [text.headD '\x00'] }
  | 'b' =>
    let (shown, ended) := m.escaped text
    some { output := l.place (l.precision.elim shown fun n => shown.take n), ended }
  | 'd' | 'i' =>
    let (n, remarks, status) := numberOf m true argument
    some { output := signedText n, remarks, status }
  | 'u' => unsigned 10 [] id
  | 'o' => unsigned 8 ['0'] id
  | 'x' => unsigned 16 ['0', 'x'] id
  | 'X' => unsigned 16 ['0', 'x'] Char.toUpper
  | letter =>
    if "aAeEfFgG".contains letter then
      let (value, remarks, status) := realOf m argument
      some { output := Numeral.placedReal l m.bits letter value, remarks, status }
    else (m.others l letter text).map fun output => { output }

/-- What stands in a place for a number: written there, or left to an argument. -/
structure Count where
  value : Int := 0
  given : Bool := false
  remarks : List Octets := []
  status : Nat := 0
  pattern : Octets
  arguments : List Octets

def readCount (m : Manner) (pattern : Octets) (arguments : List Octets) : Count :=
  match pattern with
  | '*' :: pattern =>
    let (value, remarks, status) := numberOf m true arguments.head?
    { value, given := true, remarks, status, pattern, arguments := arguments.tail }
  | pattern =>
    let digits := pattern.takeWhile Char.isDigit
    { value := (Octets.decimal? digits).getD 0, given := !digits.isEmpty
      pattern := pattern.drop digits.length, arguments }

/-- Fills the place that a pattern begins with, behind the sign for it. Gives the pattern
that is left, too. -/
def fillFirst (m : Manner) (sizes : String) (pattern : Octets) (arguments : List Octets) :
    Filled × Octets :=
  match pattern with
  | '%' :: rest => ({ output := ['%'], left := arguments }, rest)
  | _ =>
    let flags := pattern.takeWhile fun c => "-+ #0".contains c
    let width := readCount m (pattern.drop flags.length) arguments
    let (point, places) := match width.pattern with
      | '.' :: rest => (true, readCount m rest width.arguments)
      | rest => (false, { pattern := rest, arguments := width.arguments })
    let rest := places.pattern.dropWhile fun c => sizes.contains c
    let written := '%' :: pattern.take (pattern.length - rest.length)
    match rest with
    | [] => (m.unfinished written, [])
    | letter :: behind =>
      let layout : Layout :=
        { flags := if width.value < 0 then '-' :: flags else flags
          width := width.value.natAbs
          precision := if point ∧ 0 ≤ places.value then some places.value.toNat else none }
      match fillPlace m layout letter places.arguments.head? with
      | some filled =>
        ({ filled with
            remarks := width.remarks ++ places.remarks ++ filled.remarks
            status := max (max width.status places.status) filled.status
            left := places.arguments.tail }, behind)
      | none => (m.unknown (written ++ [letter]) letter, [])

/-- A pattern filled once. Every round takes at least one character, so as many rounds as
there are characters are enough. -/
def fill (m : Manner) (sizes : String) : Nat → Octets → List Octets → Filled
  | 0, _, arguments => { left := arguments }
  | _, [], arguments => { left := arguments }
  | rounds + 1, c :: rest, arguments =>
    if c = '\\' then
      let (shown, rest) := m.escape rest
      (fill m sizes rounds rest arguments).after shown
    else if c = '%' then
      let (filled, rest) := fillFirst m sizes rest arguments
      filled.andThen (fill m sizes rounds rest)
    else (fill m sizes rounds rest arguments).after [c]

/-- A pattern filled again and again while arguments are left, at most so many times. -/
def fillAll (m : Manner) (sizes : String) (pattern : Octets) : Nat → List Octets → Filled
  | 0, _ => {}
  | times + 1, arguments =>
    let filled := fill m sizes pattern.length pattern arguments
    if filled.left.isEmpty || filled.left.length = arguments.length then filled
    else filled.andThen (fillAll m sizes pattern times)

/-! ## The small shell -/

def smallEscape (text : Octets) : Octets × Octets :=
  match text with
  | c :: rest =>
    let digits := Octets.digitsOf 8 3 text
    if !digits.isEmpty then ([Escapes.byteOf 8 digits], text.drop digits.length)
    else
      match Escapes.letter? c with
      | some shown => ([shown], rest)
      | none => (['\\'], text)
  | [] => (['\\'], [])

/-- A text with escapes in the small shell, and whether it ends everything. Every round takes
at least one character, so as many rounds as there are characters are enough. -/
def smallEscaped : Nat → Octets → Octets × Bool
  | 0, _ => ([], false)
  | _, [] => ([], false)
  | rounds + 1, c :: rest =>
    let go (shown rest : Octets) : Octets × Bool :=
      let (more, ended) := smallEscaped rounds rest
      (shown ++ more, ended)
    if c != '\\' then go [c] rest
    else
      match rest with
      | 'c' :: _ => ([], true)
      | '0' :: rest =>
        let digits := Octets.digitsOf 8 3 rest
        go [Escapes.byteOf 8 digits] (rest.drop digits.length)
      | rest =>
        let (shown, rest) := smallEscape rest
        go shown rest

def small : Manner where
  escape := smallEscape
  escaped text := smallEscaped (text.length + 1) text
  remark argument rest isFar :=
    if !rest.isEmpty then
      some (argument ++ (if rest = argument then ": expected numeric value"
        else ": not completely converted").toList, true)
    else if isFar then some (argument ++ ": Numerical result out of range".toList, true)
    else none
  bits := 53
  unknown written _ := .gaveUp (written ++ ": invalid directive".toList) 2
  unfinished _ := .gaveUp "missing format character".toList 2
  others _ _ _ := none

/-! ## The large shell -/

/-- What stands behind a backslash in the large shell, where some characters stand for
themselves. -/
def largeEscape (alone : String) (text : Octets) : Octets × Octets :=
  match text with
  | c :: rest =>
    let digits (base most : Nat) (from_ : Octets) : Octets × Octets :=
      let found := Octets.digitsOf base most from_
      ([Escapes.byteOf base found], from_.drop found.length)
    let named (most : Nat) : Octets × Octets :=
      let found := Octets.digitsOf 16 most rest
      if found.isEmpty then (['\\', c], rest)
      else
        let code := Octets.valueOf 16 found
        let shown := if code < 128 then [Char.ofNat code]
          else '\\' :: (if code < 65536 then 'u' else 'U') ::
            Octets.padded (if code < 65536 then 4 else 8) ((Nat.toDigits 16 code).map Char.toUpper) '0'
        (shown, rest.drop found.length)
    if alone.contains c then ([c], rest)
    else if !(Octets.digitsOf 8 1 text).isEmpty then digits 8 3 text
    else
      match c with
      | 'x' => if (Octets.digitsOf 16 1 rest).isEmpty then (['\\', 'x'], rest) else digits 16 2 rest
      | 'u' => named 4
      | 'U' => named 8
      | 'E' => (['\x1b'], rest)
      | c =>
        match Escapes.letter? c with
        | some shown => ([shown], rest)
        | none => (['\\', c], rest)
  | [] => (['\\'], [])

/-- A text with escapes in the large shell, and whether it ends everything. -/
def largeEscaped : Nat → Octets → Octets × Bool
  | 0, _ => ([], false)
  | _, [] => ([], false)
  | rounds + 1, c :: rest =>
    let go (shown rest : Octets) : Octets × Bool :=
      let (more, ended) := largeEscaped rounds rest
      (shown ++ more, ended)
    if c != '\\' then go [c] rest
    else
      match rest with
      | 'c' :: _ => ([], true)
      | '0' :: rest =>
        let digits := Octets.digitsOf 8 3 rest
        go [Escapes.byteOf 8 digits] (rest.drop digits.length)
      | rest =>
        let (shown, rest) := largeEscape "" rest
        go shown rest

def large : Manner where
  escape := largeEscape "\"'?"
  escaped text := largeEscaped (text.length + 1) text
  remark argument rest isFar :=
    if !rest.isEmpty then some (argument ++ ": invalid number".toList, true)
    else if isFar then
      some ("warning: ".toList ++ argument ++ ": Numerical result out of range".toList, false)
    else none
  bits := 64
  unknown _ letter :=
    .gaveUp ("\x60".toList ++ [letter] ++ "\x27: invalid format character".toList) 1
  unfinished written :=
    .gaveUp ("\x60".toList ++ written ++ "\x27: missing format character".toList) 1
  others l letter text :=
    if letter = 'q' ∨ letter = 'Q' then some (l.place (Quoting.backslashed text)) else none

/-- Letters for sizes of numbers that mean nothing to the large shell. -/
def sizeLetters : String := "hjlLtz"

end CommandChains.Machine.Shell.Printing
