import CommandChains.Machine.Octets

/-!
# Durations

A duration is written as a number with an optional unit: seconds, minutes, hours or
days. The number may have a fraction and an exponent, may be written in base
sixteen with an exponent of two, or be infinite. Durations are kept in whole
nanoseconds.
-/

namespace CommandChains.Machine.Duration

def second : Nat := 1000000000

def forever : Nat := 1000000000 * second

inductive Amount where
  | ratio (numerator denominator : Nat)
  | infinite
  deriving DecidableEq, Repr

/-- The exponent behind a number, if one of these letters and digits follow, and the
rest of the text. -/
def readExponent (small capital : Char) (text : Octets) : Int × Octets :=
  match text with
  | c :: rest =>
    let (negative, unsigned) := match rest with
      | '-' :: rest => (true, rest)
      | '+' :: rest => (false, rest)
      | rest => (false, rest)
    let digits := unsigned.takeWhile Char.isDigit
    if (c = small ∨ c = capital) ∧ digits ≠ [] then
      let n : Int := Octets.decimal digits
      (if negative then -n else n, unsigned.drop digits.length)
    else (0, text)
  | [] => (0, [])

def exponentLimit : Int := 5000

def scaled (n base : Nat) (exponent : Int) : Amount :=
  let e := max (-exponentLimit) (min exponentLimit exponent)
  if 0 ≤ e then .ratio (n * Nat.pow base e.toNat) 1 else .ratio n (Nat.pow base (-e).toNat)

/-- Reads digits of a base, a point and more digits. Gives the number without the point,
and how many digits stand behind it. -/
def readDigits (base : Nat) (text : Octets) : Option (Nat × Nat × Octets) :=
  let whole := Octets.digitsOf base text.length text
  let after := text.drop whole.length
  let (fraction, rest) := match after with
    | '.' :: rest =>
      let digits := Octets.digitsOf base rest.length rest
      if whole.isEmpty && digits.isEmpty then ([], after) else (digits, rest.drop digits.length)
    | rest => ([], rest)
  if whole.isEmpty && fraction.isEmpty then none
  else some (Octets.valueOf base (whole ++ fraction), fraction.length, rest)

def readAmount (text : Octets) : Option (Amount × Octets) :=
  let startsWith (word : String) : Bool :=
    word.toList.isPrefixOf (Octets.lower (text.take word.length))
  let plain : Option (Amount × Octets) := do
    let (n, places, rest) ← readDigits 10 text
    let (exponent, rest) := readExponent 'e' 'E' rest
    pure (scaled n 10 (exponent - places), rest)
  if startsWith "infinity" then some (.infinite, text.drop 8)
  else if startsWith "inf" then some (.infinite, text.drop 3)
  else match text with
    | '0' :: x :: rest =>
      if x = 'x' ∨ x = 'X' then
        match readDigits 16 rest with
        | some (n, places, rest) =>
          let (exponent, rest) := readExponent 'p' 'P' rest
          some (scaled n 2 (exponent - 4 * places), rest)
        | none => some (.ratio 0 1, x :: rest)
      else plain
    | _ => plain

def unit? : Octets → Option Nat
  | [] | ['s'] => some 1
  | ['m'] => some 60
  | ['h'] => some 3600
  | ['d'] => some 86400
  | _ => none

/-- The duration that a text writes, if it writes one. Blanks and a plus sign may stand
in front. -/
def ofText? (text : Octets) : Option Nat := do
  let text := text.dropWhile Octets.isSpace
  let (negative, text) := match text with
    | '+' :: rest => (false, rest)
    | '-' :: rest => (true, rest)
    | text => (false, text)
  let (amount, rest) ← readAmount text
  let scale ← unit? rest
  match amount with
  | .infinite => if negative then none else some forever
  | .ratio n d =>
    if negative && n != 0 then none else some (min forever (n * scale * second / d))

end CommandChains.Machine.Duration
