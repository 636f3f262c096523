import CommandChains.Machine.Scripting.Value

/-!
# Texts with places to fill

A pattern has places for values, each with a percent sign, marks that say how wide it is and what
fills it, and a letter that says what the value is taken for.
-/

namespace CommandChains.Machine.Scripting

open Numeral

structure Filler where
  text : Octets
  amount : Number
  isUnset : Bool := false
  isNoNumber : Bool := false
  deriving Inhabited

inductive Oddity where
  | missing
  | surplus
  | unknown (text : Octets)
  | unfinished
  | unset (place : Nat)
  | notNumeric (text : Octets)

/-- How wide something is: as a number says, or as a value does. -/
inductive Extent where
  | fixed (n : Nat)
  | next
  | chosen (place : Nat)

structure Blank where
  chosen : Option Nat := none
  flags : Octets := []
  /-- Whether each character of the value is taken for a number. -/
  isVector : Bool := false
  width : Option Extent := none
  precision : Option Extent := none
  size : Octets := []
  letter : Char

namespace Blank

def choice? (text : Octets) : Option (Nat × Octets) :=
  let digits := text.takeWhile Char.isDigit
  match text.drop digits.length with
  | '$' :: rest => if digits.isEmpty then none else some (Octets.decimal digits, rest)
  | _ => none

/-- How wide something is, as the beginning of a text says. -/
def extent? (text : Octets) : Option (Extent × Octets) :=
  match text with
  | '*' :: rest =>
    match choice? rest with
    | some (n, rest) => some (.chosen n, rest)
    | none => some (.next, rest)
  | text =>
    let digits := text.takeWhile Char.isDigit
    if digits.isEmpty then none
    else some (.fixed (Octets.decimal digits), text.drop digits.length)

/-- Reads a place behind its percent sign, as far as its letter. Without a letter there is only
what is behind all marks. -/
def read (text : Octets) : Option Blank × Octets :=
  let (chosen, text) := match choice? text with
    | some (n, rest) => (some n, rest)
    | none => ((none : Option Nat), text)
  let flags := text.takeWhile fun c => " +-0#".contains c
  let text := text.drop flags.length
  let (isVector, text) := match text with
    | 'v' :: rest => (true, rest)
    | text => (false, text)
  let (width, text) := match extent? text with
    | some (e, rest) => (some e, rest)
    | none => ((none : Option Extent), text)
  let (precision, text) := match text with
    | '.' :: rest =>
      match extent? rest with
      | some (e, rest) => (some e, rest)
      | none => (some (.fixed 0), rest)
    | text => ((none : Option Extent), text)
  let size := (text.takeWhile fun c => "hlqLVztj".contains c).take 2
  match text.drop size.length with
  | letter :: rest => (some { chosen, flags, isVector, width, precision, size, letter }, rest)
  | [] => (none, [])

end Blank

structure Filling where
  fillers : Array Filler
  next : Nat := 0
  /-- Whether a value has been chosen by its number. -/
  choosing : Bool := false
  oddities : List Oddity := []

namespace Filling

def note (o : Oddity) (f : Filling) : Filling := { f with oddities := o :: f.oddities }

def take (chosen : Option Nat) (f : Filling) : Filler × Filling :=
  let (place, f) := match chosen with
    | some n => (n - 1, { f with choosing := true })
    | none => (f.next, { f with next := f.next + 1 })
  match f.fillers[place]? with
  | some v => (v, if v.isUnset then f.note (.unset place) else f)
  | none => ({ text := [], amount := .whole 0 }, f.note .missing)

def takeNumber (chosen : Option Nat) (f : Filling) : Filler × Filling :=
  let (v, f) := f.take chosen
  (v, if v.isNoNumber then f.note (.notNumeric v.text) else f)

def measure (e : Option Extent) (f : Filling) : Option Int × Filling :=
  match e with
  | none => (none, f)
  | some (.fixed n) => (some n, f)
  | some .next =>
    let (v, f) := f.takeNumber none
    (some v.amount.signed, f)
  | some (.chosen n) =>
    let (v, f) := f.takeNumber (some n)
    (some v.amount.signed, f)

end Filling

/-- A number with a sign, within the size that letters ask for. -/
def sized (size : Octets) (n : Number) : Int :=
  let m : Int := n.word
  let m := if 9223372036854775807 < m then m - Number.words else m
  let m := match n with
    | .real _ => if Number.most < n.truncated then -1 else
        if n.truncated < Number.least then Number.least else m
    | .whole _ => m
  match size with
  | ['h'] => Int.bmod m 65536
  | ['h', 'h'] => Int.bmod m 256
  | _ => m

/-- A number without a sign, within the size that letters ask for. -/
def sizedWord (size : Octets) (n : Number) : Nat :=
  match size with
  | ['h'] => n.word % 65536
  | ['h', 'h'] => n.word % 256
  | _ => n.word

def wholeText (l : Layout) (letter : Char) (size : Octets) (n : Number) : Octets :=
  let plain := l.precision.isNone
  let unsigned := sizedWord size n
  let based (base : Nat) (mark : Octets) (change : Char → Char) : Octets :=
    let digits := l.digits ((inBase base unsigned).map change)
    l.number (if l.has '#' && unsigned != 0 then mark else []) digits plain
  match letter with
  | 'd' | 'i' | 'D' =>
    let m := sized size n
    l.number (l.sign (decide (m < 0))) (l.digits (Octets.ofNat m.natAbs)) plain
  | 'o' | 'O' =>
    let digits := l.digits (inBase 8 unsigned)
    l.number [] (if l.has '#' && digits.head? != some '0' then '0' :: digits else digits) plain
  | 'x' => based 16 "0x".toList id
  | 'X' => based 16 "0X".toList Char.toUpper
  | 'b' => based 2 "0b".toList id
  | 'B' => based 2 "0B".toList id
  | _ => l.number [] (l.digits (Octets.ofNat unsigned)) plain

/-- A text in its place, which noughts can fill as well. -/
def placedText (l : Layout) (text : Octets) : Octets :=
  if l.has '0' && !l.has '-' then Octets.padded l.width text '0' else l.place text

/-- A number in its place, as a letter asks for. -/
def numberText (l : Layout) (letter : Char) (size : Octets) (n : Number) : Octets :=
  let isOdd : Bool := match n with
    | .real x => x.isNaN || x.isInf
    | .whole _ => false
  if isOdd then
    let negative : Bool := match n with
      | .real x => x < 0
      | .whole _ => false
    let text := n.text.filter (· != '-')
    l.place (l.sign negative ++ text)
  else if "eEfFgGaA".contains letter then placedReal l 53 letter (realOf n.float)
  else wholeText l letter size n

def fillBlank (b : Blank) (source : Octets) (f : Filling) : Octets × Filling :=
  let (width, f) := f.measure b.width
  let (precision, f) := f.measure b.precision
  let width := width.getD 0
  let flags := if width < 0 then '-' :: b.flags else b.flags
  let l : Layout :=
    { flags, width := width.natAbs
      precision := precision.bind fun n => if n < 0 then none else some n.toNat }
  if b.letter = '%' then (placedText l ['%'], f)
  else if b.isVector && "diuoxXbB".contains b.letter then
    let (v, f) := f.take b.chosen
    let pieces := v.text.map fun c => wholeText l b.letter [] (.ofNat c.toNat)
    (Octets.joined ['.'] pieces, f)
  else if b.letter = 's' then
    let (v, f) := f.take b.chosen
    (placedText l ((l.precision.map v.text.take).getD v.text), f)
  else if b.letter = 'c' then
    let (v, f) := f.takeNumber b.chosen
    let code := v.amount.truncated
    let c := if code < 0 ∨ 1114111 < code then '\ufffd' else Char.ofNat code.toNat
    (placedText l [c], f)
  else if "diuoxXbBDUOeEfFgGaA".contains b.letter then
    let (v, f) := f.takeNumber b.chosen
    (numberText l b.letter b.size v.amount, f)
  else ('%' :: source, f.note (.unknown ('%' :: source)))

/-- Fills the places of a pattern, at most so many. -/
def fillPlaces : Nat → Octets → Filling → Octets × Filling
  | 0, text, f => (text, f)
  | rounds + 1, text, f =>
    let plain := text.takeWhile (· != '%')
    match text.drop plain.length with
    | [] => (plain, f)
    | _ :: rest =>
      match Blank.read rest with
      | (none, _) =>
        if rest.isEmpty then (plain ++ ['%'], f.note .unfinished)
        else (plain ++ '%' :: rest, f.note (.unknown ('%' :: rest)))
      | (some b, behind) =>
        let (shown, f) := fillBlank b (rest.take (rest.length - behind.length)) f
        let (others, f) := fillPlaces rounds behind f
        (plain ++ shown ++ others, f)

/-- A pattern with its places filled, and what is odd about it. -/
def filled (pattern : Octets) (fillers : List Filler) : Octets × List Oddity :=
  let (text, f) := fillPlaces (pattern.length + 1) pattern { fillers := fillers.toArray }
  let hasUnknown := f.oddities.any fun
    | .unknown _ | .unfinished => true
    | _ => false
  let f := if !f.choosing && !hasUnknown && f.next < f.fillers.size then f.note .surplus else f
  (text, f.oddities.reverse)

end CommandChains.Machine.Scripting
