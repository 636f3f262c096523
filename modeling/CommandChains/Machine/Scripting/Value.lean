import CommandChains.Machine.Numeral

/-!
# Values of scripts

A script computes with numbers and texts, and with links to what it keeps. A number is whole as
long as it fits into 64 bits, and has a floating point otherwise; a text counts as the number at
its beginning.
-/

namespace CommandChains.Machine.Scripting

open Numeral

/-! ## Numbers -/

inductive Number where
  | whole (n : Int)
  | real (x : Float)
  deriving Inhabited

namespace Number

def least : Int := -9223372036854775808

def most : Int := 18446744073709551615

def words : Int := 18446744073709551616

/-- The first whole number that a floating point does not keep exactly, and its successors. -/
def exactLimit : Float := 9007199254740992

/-- A whole number, or the nearest one with a floating point if it does not fit. -/
def ofInt (n : Int) : Number :=
  if least ≤ n ∧ n ≤ most then whole n else real (Float.ofInt n)

def ofNat (n : Nat) : Number := ofInt n

def float : Number → Float
  | whole n => Float.ofInt n
  | real x => x

/-- The whole number that a floating point keeps exactly, if it keeps one. -/
def wholeOf? (x : Float) : Option Int :=
  if x.floor == x && x.abs < exactLimit then
    let size : Int := x.abs.toUInt64.toNat
    some (if x < 0 then -size else size)
  else none

/-- A number as a whole one, if it is kept exactly. -/
def whole? : Number → Option Int
  | whole n => some n
  | real x => wholeOf? x

def settled (n : Number) : Number :=
  match n.whole? with
  | some m => whole m
  | none => n

/-- A number without its fraction. What is no number is nought. -/
def truncated : Number → Int
  | whole n => n
  | real x =>
    match realOf x with
    | ⟨negative, .ratio n d⟩ => if negative then -((n / d : Nat) : Int) else (n / d : Nat)
    | ⟨negative, .infinite⟩ => if negative then least else most
    | ⟨_, .undefined⟩ => 0

/-- A number without its fraction, still with a floating point if it is too large. -/
def cut (n : Number) : Number :=
  match n with
  | whole _ => n
  | real x =>
    if x.isNaN || x.isInf then n
    else
      match ofInt (truncated n) with
      | whole m => whole m
      | real _ => real (if x < 0 then x.ceil else x.floor)

def word (n : Number) : Nat :=
  let m := n.truncated
  if most < m then most.toNat else if m < least then (least % words).toNat else (m % words).toNat

def signed (n : Number) : Int :=
  let m := n.truncated
  max least (min 9223372036854775807 m)

/-- A number with a floating point as a text, of 15 digits at most. -/
def textOfFloat (x : Float) : Octets :=
  let r := realOf x
  let sign := if r.negative && x != 0 then ['-'] else []
  match r.magnitude with
  | .undefined => "NaN".toList
  | .infinite => sign ++ "Inf".toList
  | .ratio n d => sign ++ realText { precision := some 15 } 'g' n d

def text : Number → Octets
  | whole n => Octets.ofInt n
  | real x => textOfFloat x

def isZero : Number → Bool
  | whole n => n == 0
  | real x => x == 0

/-! ## Reading -/

/-- A word at the beginning of a text that stands for no usual number. -/
def leadingWord? (text : Octets) : Option (Float × Octets) :=
  let starts (word : String) : Bool :=
    Octets.lower (text.take word.length) == word.toList
  if starts "infinity" then some (1.0 / 0.0, text.drop 8)
  else if starts "inf" then some (1.0 / 0.0, text.drop 3)
  else if starts "nan" then some (0.0 / 0.0, text.drop 3)
  else none

/-- The number at the beginning of a text, and what is behind it. If there is none, it is
nought, and all of the text is left. -/
def leading (given : Octets) : Number × Octets :=
  let text := given.dropWhile Octets.isSpace
  let (negative, body) := match text with
    | '-' :: rest => (true, rest)
    | '+' :: rest => (false, rest)
    | rest => (false, rest)
  match leadingWord? body with
  | some (x, rest) => (real (if negative then -x else x), rest)
  | none =>
    match Duration.readDigits 10 body with
    | none => (whole 0, given)
    | some (n, places, behind) =>
      let (exponent, rest) := Duration.readExponent 'e' 'E' behind
      let isReal : Bool := places != 0 || rest.length != behind.length
      if isReal then
        match Duration.scaled n 10 (exponent - places) with
        | .ratio p q => (real (floatOf ⟨negative, .ratio p q⟩), rest)
        | .infinite => (real (1.0 / 0.0), rest)
      else (ofInt (if negative then -(n : Int) else n), rest)

/-- Whether a text is a number with nothing but blanks in front of it and behind it. -/
def isText (text : Octets) : Bool :=
  let rest := (leading text).2
  rest.length < text.length && rest.all Octets.isSpace &&
    (text.dropWhile Octets.isSpace).length != rest.length

/-! ## Computing -/

/-- The first whole number whose sums may not fit, and its successors. -/
def sumLimit : Float := 4611686018427387904

/-- Two numbers as whole ones, if both are kept exactly. Two with a floating point may be larger
than one beside a whole number. -/
def wholes? (a b : Number) : Option (Int × Int) :=
  match a, b with
  | real x, real y =>
    if x.floor == x && y.floor == y && x.abs < sumLimit && y.abs < sumLimit then
      some ((real x).truncated, (real y).truncated)
    else none
  | a, b =>
    match a.whole?, b.whole? with
    | some m, some n => some (m, n)
    | _, _ => none

def add (a b : Number) : Number :=
  match wholes? a b with
  | some (m, n) => ofInt (m + n)
  | none => real (a.float + b.float)

def sub (a b : Number) : Number :=
  match wholes? a b with
  | some (m, n) => ofInt (m - n)
  | none => real (a.float - b.float)

def mul (a b : Number) : Number :=
  match a.whole?, b.whole? with
  | some m, some n => ofInt (m * n)
  | _, _ => real (a.float * b.float)

/-- The quotient of two numbers, of which the second is not nought. -/
def div (a b : Number) : Number :=
  match a.whole?, b.whole? with
  | some m, some n =>
    if 9007199254740992 < m.natAbs ∧ m % n = 0 then ofInt (m / n) else real (a.float / b.float)
  | _, _ => real (a.float / b.float)

/-- The remainder of a division by a number that is not nought, with the sign of that number. -/
def mod (a b : Number) : Number := ofInt (Int.fmod a.truncated b.truncated)

/-- A power. It is whole if the base is no power of two and the result fits for sure. -/
def pow (a b : Number) : Number :=
  let x := real (Float.pow a.float b.float)
  match a.whole?, b.whole? with
  | some m, some n =>
    let size := m.natAbs
    if n < 0 ∨ Nat.land size (size - 1) = 0 then x
    else if (size.log2 + 1) * n.toNat ≤ 64 then ofInt (Int.pow m n.toNat)
    else x
  | _, _ => x

def neg (n : Number) : Number :=
  match n with
  | whole m => ofInt (-m)
  | real x => real (-x)

def compare? (a b : Number) : Option Ordering :=
  match a, b with
  | whole m, whole n => some (compare m n)
  | _, _ =>
    let x := a.float
    let y := b.float
    if x < y then some .lt else if y < x then some .gt else if x == y then some .eq else none

end Number

/-! ## Values -/

inductive Sigil where
  | scalar
  | array
  | hash
  | code
  | glob
  deriving DecidableEq, Repr

def Sigil.sign : Sigil → Char
  | scalar => '$'
  | array => '@'
  | hash => '%'
  | code => '&'
  | glob => '*'

def Sigil.kind : Sigil → String
  | scalar => "SCALAR"
  | array => "ARRAY"
  | hash => "HASH"
  | code => "CODE"
  | glob => "GLOB"

inductive Value where
  | unset
  | number (n : Number)
  | text (s : Octets)
  | dual (n : Int) (s : Octets)
  | link (kind : Sigil) (place : Nat)
  /-- A pattern, and the letters that say how it is read. -/
  | rule (source flags : Octets)
  | glob (name : String)
  | handle (name : String)
  deriving Inhabited

namespace Value

def ofInt (n : Int) : Value := number (.ofInt n)

def ofNat (n : Nat) : Value := ofInt n

def ofString (s : String) : Value := text s.toList

def ofBool (b : Bool) : Value := if b then ofInt 1 else dual 0 []

def isDefined : Value → Bool
  | unset => false
  | _ => true

def isLink : Value → Bool
  | link _ _ | rule _ _ | handle _ => true
  | _ => false

def holds : Value → Bool
  | unset => false
  | number n => !n.isZero
  | text s | dual _ s => !(s.isEmpty || s == ['0'])
  | _ => true

def address (kind : Sigil) (place : Nat) : Nat :=
  let shift : Nat := match kind with
    | .scalar => 0
    | .array => 1
    | .hash => 2
    | .code => 3
    | .glob => 4
  94035423297536 + 24 * (8 * place + shift)

def addressOfName (name : String) : Nat :=
  address .glob (name.toList.foldl (fun n c => (n * 31 + c.toNat) % 4096) 7)

def linkText (kind : String) (address : Nat) : Octets :=
  kind.toList ++ "(0x".toList ++ inBase 16 address ++ [')']

/-- A pattern as a text, from which it can be read again. -/
def ruleText (source flags : Octets) : Octets :=
  "(?\x5e".toList ++ flags ++ ':' :: source ++ [')']

def amount : Value → Number
  | unset => .whole 0
  | number n => n
  | text s => (Number.leading s).1
  | dual n _ => .whole n
  | link kind place => .ofNat (address kind place)
  | rule _ _ => .ofNat (address .scalar 4097)
  | glob _ => .whole 0
  | handle name => .ofNat (addressOfName name)

/-- A value as a text, where links tell only what they lead to. -/
def plainText : Value → Octets
  | unset => []
  | number n => n.text
  | text s => s
  | dual _ s => s
  | link kind place => linkText kind.kind (address kind place)
  | rule source flags => ruleText source flags
  | glob name => '*' :: name.toList
  | handle name => linkText "GLOB" (addressOfName name)

/-! ## Counting up -/

def isLabel (s : Octets) : Bool :=
  !s.isEmpty && (s.dropWhile Char.isAlpha).all Char.isDigit

/-- The next text, from its last character on: what is carried to the front is what the last
character calls for. -/
def nextBackwards : Octets → Octets
  | [] => []
  | c :: rest =>
    let carried (first extra : Char) : Octets :=
      if rest.isEmpty then [first, extra] else first :: nextBackwards rest
    if c == 'z' then carried 'a' 'a'
    else if c == 'Z' then carried 'A' 'A'
    else if c == '9' then carried '0' '1'
    else Char.ofNat (c.toNat + 1) :: rest

def next (v : Value) : Value :=
  match v with
  | text s =>
    if s.isEmpty then ofInt 1
    else if isLabel s && !s.all Char.isDigit then text (nextBackwards s.reverse).reverse
    else number (v.amount.add (.whole 1))
  | v => number (v.amount.add (.whole 1))

def previous (v : Value) : Value := number (v.amount.sub (.whole 1))

end Value

end CommandChains.Machine.Scripting
