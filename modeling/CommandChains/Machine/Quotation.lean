import CommandChains.Machine.Octets

/-!
# Quotation

How messages show texts. There are two ways: between quotes, where a backslash begins
what stands for a character that would not be seen; and as words of a script, which are
quoted only where a shell would take them for something else.
-/

namespace CommandChains.Machine

namespace Octets

def isSeen (c : Char) : Bool := decide (' ' ≤ c) && decide (c ≤ '~')

/-- What stands behind a backslash for a character that is not seen. -/
def escaped (c : Char) : Octets :=
  match c with
  | '\x07' => ['a']
  | '\x08' => ['b']
  | '\t' => ['t']
  | '\n' => ['n']
  | '\x0b' => ['v']
  | '\x0c' => ['f']
  | '\r' => ['r']
  | c =>
    let digit (n : Nat) : Char := Char.ofNat ('0'.toNat + n % 8)
    [digit (c.toNat / 64), digit (c.toNat / 8), digit c.toNat]

def quoted (text : Octets) : Octets :=
  let shown (c : Char) : Octets :=
    if c = '\\' ∨ c = '\x27' then ['\\', c]
    else if isSeen c then [c]
    else '\\' :: escaped c
  '\x27' :: text.flatMap shown ++ ['\x27']

/-! ## Words of scripts -/

/-- Whether a text is something else than itself to a shell. A colon counts only if
something may follow it in a message. -/
def needsQuotes (colon : Bool) (text : Octets) : Bool :=
  text.isEmpty || !text.all isSeen ||
    text.any (fun c => " !\"$&()*;<=>[^\x60|\x27\\?".contains c || (colon && c == ':')) ||
    text.head? == some '#' || text.head? == some '~' || text == ['\x7b'] || text == ['\x7d']

/-- Whether a text with single quotes can stand between double quotes as it is. -/
def fitsDouble (text : Octets) : Bool :=
  let fits (c : Char) : Bool := c.isAlphanum || " %+,-./:]_@\x27".contains c
  match text with
  | ['\x7b'] | ['\x7d'] => true
  | c :: rest => (fits c || c == '#' || c == '~') && rest.all fits
  | [] => true

/-- The inside of a word between single quotes, where `inEscape` says whether what stands
before it is written with backslashes. -/
def insideSingle (inEscape : Bool) : Octets → Octets
  | [] => []
  | c :: rest =>
    if c = '\x27' then "\x27\\\x27\x27".toList ++ insideSingle false rest
    else if isSeen c then
      (if inEscape then ['\x27', '\x27'] else []) ++ c :: insideSingle false rest
    else
      (if inEscape then [] else "\x27$\x27".toList) ++ '\\' :: escaped c ++ insideSingle true rest

def shellQuoted (text : Octets) : Octets :=
  if text.contains '\x27' && fitsDouble text then '"' :: text ++ ['"']
  else '\x27' :: insideSingle false text ++ ['\x27']

/-- A text as a word of a script, quoted only if it has to be. -/
def asWord (colon : Bool) (text : Octets) : Octets :=
  if needsQuotes colon text then shellQuoted text else text

/-- The name of a file as it stands in front of a message. -/
def asName (text : Octets) : Octets := asWord true text

end Octets

/-!
## Texts with escapes

The texts that tools print from their arguments. A backslash and a letter stand for a
control character or end the text; a backslash and digits stand for a byte. Which
escapes there are differs a little from tool to tool.
-/

namespace Escapes

def letter? : Char → Option Char
  | 'a' => some '\x07'
  | 'b' => some '\x08'
  | 'e' => some '\x1b'
  | 'f' => some '\x0c'
  | 'n' => some '\n'
  | 'r' => some '\r'
  | 't' => some '\t'
  | 'v' => some '\x0b'
  | '\\' => some '\\'
  | _ => none

/-- The byte that some digits write. What does not fit in it is dropped. -/
def byteOf (base : Nat) (digits : List Nat) : Char :=
  Char.ofNat (Octets.valueOf base digits % 256)

inductive Piece where
  | text (shown : Octets)
  | stop
  | mistake (message : Octets)
  deriving DecidableEq, Repr

structure Manner where
  /-- Whether a byte written to base eight begins with a nought of its own. -/
  leadingNought : Bool := true
  /-- Whether two hexadecimal digits have to follow their letter. -/
  strict : Bool := true
  /-- Other characters that a backslash lets stand for themselves. -/
  alone : String := ""
  without : String := ""
  /-- Whether characters can be named by the numbers that they have everywhere. -/
  named : Bool := false

/-- The mistake of a letter without the digits that have to follow it. -/
def withoutDigits : Piece := .mistake "missing hexadecimal number in escape".toList

/-- Reads a number of so many digits that names a character. Only what can be written in no
other way may be named, and it is shown as it is named. -/
def readNamed (letter : Char) (size : Nat) (text : Octets) : Piece × Octets :=
  let digits := Octets.digitsOf 16 size text
  let code := Octets.valueOf 16 digits
  let written := Octets.padded size (Nat.toDigits 16 code) '0'
  if digits.length < size then (withoutDigits, text)
  else if code = 0x24 ∨ code = 0x40 ∨ code = 0x60 then
    (.text [Char.ofNat code], text.drop size)
  else if code ≤ 0x9f ∨ 0xd800 ≤ code ∧ code ≤ 0xdfff then
    (.mistake ("invalid universal character name \\".toList ++ letter :: written), text)
  else
    let letter := if code ≤ 0xffff then 'u' else 'U'
    let size := if code ≤ 0xffff then 4 else 8
    (.text ('\\' :: letter :: Octets.padded size ((Nat.toDigits 16 code).map Char.toUpper) '0'),
      text.drop digits.length)

/-- Reads what follows a backslash. Gives what it stands for, and what is left. -/
def read (m : Manner) : Octets → Piece × Octets
  | [] => (.text ['\\'], [])
  | c :: rest =>
    let number (base most : Nat) (text : Octets) : Piece × Octets :=
      let digits := Octets.digitsOf base most text
      (.text [byteOf base digits], text.drop digits.length)
    if m.without.contains c then (.text ['\\', c], rest)
    else if c = 'c' then (.stop, rest)
    else if c = 'x' then
      if (Octets.digitsOf 16 2 rest).isEmpty then
        (if m.strict then withoutDigits else .text ['\\', 'x'], rest)
      else number 16 2 rest
    else if c = 'u' && m.named then readNamed c 4 rest
    else if c = 'U' && m.named then readNamed c 8 rest
    else if c = '0' && m.leadingNought then number 8 3 rest
    else if '0' ≤ c ∧ c ≤ '7' then number 8 3 (c :: rest)
    else if m.alone.contains c then (.text [c], rest)
    else
      match letter? c with
      | some shown => (.text [shown], rest)
      | none => (.text ['\\', c], rest)

/-- A text with its escapes read, as far as its end, and whether something ended it.
Every round takes at least one character, so as many rounds as there are characters
are enough. -/
def readAll (m : Manner) : Nat → Octets → Octets × Option Piece
  | 0, _ => ([], none)
  | _, [] => ([], none)
  | rounds + 1, c :: rest =>
    if c = '\\' then
      match read m rest with
      | (.text shown, rest) =>
        let (text, ended) := readAll m rounds rest
        (shown ++ text, ended)
      | (piece, _) => ([], some piece)
    else
      let (text, ended) := readAll m rounds rest
      (c :: text, ended)

end Escapes

end CommandChains.Machine
