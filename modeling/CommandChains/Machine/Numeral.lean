import CommandChains.Machine.Duration

/-!
# Numerals

Numbers as texts write them: whole numbers to a base, and numbers with a fraction, which
are quotients here. A layout says how a number is put in a place of some width.
-/

namespace CommandChains.Machine

namespace Numeral

/-! ## Places -/

structure Layout where
  flags : Octets := []
  width : Nat := 0
  precision : Option Nat := none
  deriving DecidableEq, Repr

namespace Layout

def has (l : Layout) (flag : Char) : Bool := l.flags.contains flag

def place (l : Layout) (text : Octets) : Octets :=
  if l.has '-' then Octets.filled l.width text else Octets.padded l.width text

/-- A number in its place: a sign or mark in front, and digits. Noughts fill the place
if they are asked for. -/
def number (l : Layout) (front digits : Octets) (noughts : Bool) : Octets :=
  if noughts && l.has '0' && !l.has '-' then
    front ++ Octets.padded (l.width - front.length) digits '0'
  else l.place (front ++ digits)

/-- What stands in front of a number with a sign. -/
def sign (l : Layout) (negative : Bool) : Octets :=
  if negative then ['-'] else if l.has '+' then ['+'] else if l.has ' ' then [' '] else []

/-- The digits of a number, at least as many as the precision says. -/
def digits (l : Layout) (text : Octets) : Octets :=
  match l.precision with
  | none => text
  | some 0 => if text = ['0'] then [] else text
  | some n => Octets.padded n text '0'

end Layout

def inBase (base n : Nat) : Octets :=
  Nat.toDigits base n

/-- A quotient rounded to the nearest whole number, a half to the even one. -/
def rounded (n d : Nat) : Nat :=
  let q := n / d
  let r := 2 * (n % d)
  if d < r ∨ (r = d ∧ q % 2 = 1) then q + 1 else q

def powerOfTwo (e : Int) : Nat × Nat :=
  (Nat.pow 2 e.toNat, Nat.pow 2 (-e).toNat)

/-- A quotient rounded to a number of so many bits and a power of two. -/
def nearestBinary (bits n d : Nat) : Nat × Int :=
  if n = 0 ∨ d = 0 then (0, 0)
  else
    let size : Int := (n.log2 : Int) - d.log2
    let mantissa (e : Int) : Nat :=
      let (up, down) := powerOfTwo e
      rounded (n * up) (d * down)
    let e := (bits : Int) - 1 - size
    let e := if mantissa e < Nat.pow 2 (bits - 1) then e + 1 else e
    let m := mantissa e
    if m = Nat.pow 2 bits then (m / 2, 1 - e) else (m, -e)

/-- A quotient rounded to the nearest number with a mantissa of so many bits, as a
quotient. -/
def nearestQuotient (bits n d : Nat) : Nat × Nat :=
  let (m, e) := nearestBinary bits n d
  let (up, down) := powerOfTwo e
  (m * up, down)

def fixed (places n d : Nat) : Octets :=
  let all := Octets.padded (places + 1) (Octets.ofNat (rounded (n * Nat.pow 10 places) d)) '0'
  let whole := all.take (all.length - places)
  if places = 0 then whole else whole ++ '.' :: all.drop (all.length - places)

/-- The power of ten that a number other than nought begins at. -/
def exponentOf (n d : Nat) : Int :=
  let guess : Int := ((Octets.ofNat n).length : Int) - (Octets.ofNat d).length
  if d * Nat.pow 10 guess.toNat ≤ n * Nat.pow 10 (-guess).toNat then guess else guess - 1

/-- The digits of a number, the first one and so many more, and its exponent. -/
def scientific (places n d : Nat) : Octets × Int :=
  if n = 0 then (List.replicate (places + 1) '0', 0)
  else
    let scaled (e : Int) : Octets :=
      Octets.ofNat (rounded (n * Nat.pow 10 (-e).toNat * Nat.pow 10 places)
        (d * Nat.pow 10 e.toNat))
    let e := exponentOf n d
    if (scaled e).length ≤ places + 1 then (scaled e, e) else (scaled (e + 1), e + 1)

def withExponent (mark : Char) (digits : Octets) (e : Int) : Octets :=
  let point := match digits with
    | first :: (second :: rest) => first :: '.' :: second :: rest
    | digits => digits
  point ++ mark :: (if e < 0 then '-' else '+') :: Octets.padded 2 (Octets.ofNat e.natAbs) '0'

/-- A text without the noughts at its end, and without a point before them. -/
def withoutNoughts (text : Octets) : Octets :=
  if text.contains '.' then
    ((text.reverse.dropWhile (· == '0')).dropWhile (· == '.')).reverse
  else text

/-- A number to base sixteen with an exponent of two, from a mantissa of so many bits. -/
def hexadecimalText (l : Layout) (bits n d : Nat) : Octets :=
  let (m, e) := nearestBinary bits n d
  -- The bits of the first digit, and the digits behind it.
  let front := if bits % 4 = 0 then 4 else bits % 4
  let size := (bits - front) / 4
  let (m, places) := match l.precision with
    | some p =>
      if p < size then (rounded m (Nat.pow 16 (size - p)), p) else (m * Nat.pow 16 (p - size), p)
    | none => (m, size)
  let digits := Octets.padded (places + 1) (inBase 16 m) '0'
  let first := digits.take (digits.length - places)
  let fraction := digits.drop (digits.length - places)
  let kept := if l.precision.isSome then fraction
    else (fraction.reverse.dropWhile (· == '0')).reverse
  let exponent : Int := if n = 0 then 0 else e + 4 * size
  first ++ (if kept.isEmpty && !l.has '#' then [] else '.' :: kept) ++
    'p' :: (if exponent < 0 then '-' else '+') :: Octets.ofNat exponent.natAbs

/-- A number with a fraction, in the form that a letter asks for. -/
def realText (l : Layout) (letter : Char) (n d : Nat) : Octets :=
  let places := l.precision.getD 6
  match letter.toLower with
  | 'f' => fixed places n d
  | 'e' =>
    let (digits, e) := scientific places n d
    withExponent letter digits e
  | _ =>
    let significant := max 1 places
    let (digits, e) := scientific (significant - 1) n d
    if -4 ≤ e ∧ e < significant then
      let text := fixed ((significant : Int) - 1 - e).toNat n d
      if l.has '#' then text else withoutNoughts text
    else
      let mark := if letter = 'G' then 'E' else 'e'
      let kept := if l.has '#' then digits else
        match (digits.reverse.dropWhile (· == '0')).reverse with
        | [] => ['0']
        | kept => kept
      withExponent mark kept e

/-! ## Numbers with a fraction -/

/-- A number with a fraction, as an argument can write it. -/
inductive Magnitude where
  | ratio (numerator denominator : Nat)
  | infinite
  | undefined
  deriving DecidableEq

/-- A number with a fraction, and whether a minus sign stands in front of it. -/
structure RealNumber where
  negative : Bool := false
  magnitude : Magnitude
  deriving DecidableEq

/-- What stands behind a word for no number in parentheses. -/
def withoutPayload (text : Octets) : Octets :=
  match text with
  | '(' :: rest =>
    match rest.dropWhile fun c => c.isAlphanum || c == '_' with
    | ')' :: behind => behind
    | _ => text
  | _ => text

/-- The number with a fraction at the beginning of a text, and what is behind it, or all of
the text if there is none. -/
def leadingReal (argument : Octets) : RealNumber × Octets :=
  let text := argument.dropWhile Octets.isSpace
  let (negative, unsigned) := match text with
    | '-' :: rest => (true, rest)
    | '+' :: rest => (false, rest)
    | rest => (false, rest)
  if Octets.lower (unsigned.take 3) = "nan".toList then
    (⟨negative, .undefined⟩, withoutPayload (unsigned.drop 3))
  else
    match Duration.readAmount unsigned with
    | some (.infinite, rest) => (⟨negative, .infinite⟩, rest)
    | some (.ratio n d, rest) => (⟨negative, .ratio n d⟩, rest)
    | none => (⟨negative, .ratio 0 1⟩, argument)

/-- A number with a fraction in its place, in the form that a letter asks for. It is rounded
to so many bits before. -/
def placedReal (l : Layout) (bits : Nat) (letter : Char) (value : RealNumber) : Octets :=
  let inCase (text : Octets) : Octets := if letter.isUpper then text.map Char.toUpper else text
  let sign := l.sign value.negative
  match value.magnitude with
  | .infinite => l.place (sign ++ inCase "inf".toList)
  | .undefined => l.place (sign ++ inCase "nan".toList)
  | .ratio n d =>
    if letter = 'a' ∨ letter = 'A' then
      l.number (sign ++ inCase ['0', 'x']) (inCase (hexadecimalText l bits n d)) true
    else
      let (n, d) := nearestQuotient bits n d
      l.number sign (realText l letter n d) true

end Numeral

/-!
## Numbers with a floating point

How numbers are kept in a fixed number of bits: a sign, an exponent of two, and the bits
behind the first one of a mantissa. The smallest numbers have fewer bits. The greatest
exponent stands for what is no number.
-/

structure FloatingPoint where
  exponentBits : Nat
  fractionBits : Nat
  /-- Whether the first bit of the mantissa is kept, too. -/
  keepsFirst : Bool := false
  safeDigits : Nat
  deriving DecidableEq, Repr

namespace FloatingPoint

open Numeral

def single : FloatingPoint := { exponentBits := 8, fractionBits := 23, safeDigits := 6 }

def double : FloatingPoint := { exponentBits := 11, fractionBits := 52, safeDigits := 15 }

def extended : FloatingPoint :=
  { exponentBits := 15, fractionBits := 64, keepsFirst := true, safeDigits := 18 }

def mantissaBits (f : FloatingPoint) : Nat := if f.keepsFirst then f.fractionBits else f.fractionBits + 1

/-- The exponent that is kept as nought, with the sign turned. -/
def bias (f : FloatingPoint) : Nat := (1 <<< (f.exponentBits - 1)) - 1

/-- The exponent of the last bit of the smallest numbers. -/
def leastExponent (f : FloatingPoint) : Int := 2 - (f.bias : Int) - f.mantissaBits

def decode (f : FloatingPoint) (bits : Nat) : RealNumber :=
  let fraction := bits % (1 <<< f.fractionBits)
  let exponent := (bits >>> f.fractionBits) % (1 <<< f.exponentBits)
  let negative := bits.testBit (f.fractionBits + f.exponentBits)
  let hidden := 1 <<< (f.mantissaBits - 1)
  if exponent = (1 <<< f.exponentBits) - 1 then
    ⟨negative, if fraction % hidden = 0 then .infinite else .undefined⟩
  else if f.keepsFirst && exponent != 0 && fraction < hidden then ⟨negative, .undefined⟩
  else
    let mantissa := if f.keepsFirst || exponent = 0 then fraction else fraction + hidden
    let (up, down) := powerOfTwo (f.leastExponent + (max exponent 1 - 1 : Nat))
    ⟨negative, .ratio (mantissa * up) down⟩

/-- The number that can be kept which is nearest to a quotient, as a mantissa and an
exponent. -/
def nearest (f : FloatingPoint) (n d : Nat) : Nat × Int :=
  let (m, e) := nearestBinary f.mantissaBits n d
  if e < f.leastExponent then
    let (up, down) := powerOfTwo f.leastExponent
    (rounded (n * down) (d * up), f.leastExponent)
  else (m, e)

/-- Whether a text writes the number that is kept for a quotient. -/
def readsBack (f : FloatingPoint) (n d : Nat) (text : Octets) : Bool :=
  match Duration.readAmount text with
  | some (.ratio p q, _) =>
    let (m, e) := f.nearest p q
    let (up, down) := powerOfTwo e
    m * up * d == n * down
  | _ => false

/-- A number with as few digits as make it, from a number of digits on, at most so many
numbers of digits being tried. -/
def shortestFrom (f : FloatingPoint) (n d : Nat) : Nat → Nat → Octets
  | 0, digits => realText { precision := some digits } 'g' n d
  | tries + 1, digits =>
    let text := realText { precision := some digits } 'g' n d
    if f.readsBack n d text then text else shortestFrom f n d tries (digits + 1)

/-- A number as a text from which it can be read back. -/
def shortest (f : FloatingPoint) (x : RealNumber) : Octets :=
  let sign := if x.negative then ['-'] else []
  match x.magnitude with
  | .infinite => sign ++ "inf".toList
  | .undefined => sign ++ "nan".toList
  | .ratio n d =>
    let (up, down) := powerOfTwo (f.leastExponent + f.mantissaBits - 1)
    let isSmall := n * down < d * up
    sign ++ f.shortestFrom n d (f.safeDigits + 3) (if isSmall then 1 else f.safeDigits)

end FloatingPoint

open Numeral

def floatOf (r : RealNumber) : Float :=
  let size := match r.magnitude with
    | .undefined => 0.0 / 0.0
    | .infinite => 1.0 / 0.0
    | .ratio n d =>
      let (m, e) := FloatingPoint.double.nearest n d
      Float.scaleB (Float.ofNat m) e
  if r.negative then -size else size

def realOf (x : Float) : RealNumber := FloatingPoint.double.decode x.toBits.toNat

end CommandChains.Machine
