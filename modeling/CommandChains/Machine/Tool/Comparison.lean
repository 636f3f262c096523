import CommandChains.Machine.Numeral

/-!
# Ways to compare texts

Texts are put in order by their bytes, or by what they write: whole numbers and decimal
fractions, numbers with exponents or with units, months, and names with numbers in them.
-/

namespace CommandChains.Machine.Tool

structure Decimal where
  negative : Bool := false
  whole : Nat := 0
  places : Octets := []
  deriving DecidableEq, Repr

namespace Decimal

/-- The number at the beginning of a text, or nought. -/
def read (text : Octets) : Decimal :=
  let text := text.dropWhile fun c => c == ' ' || c == '\t'
  let (negative, text) := match text with
    | '-' :: rest => (true, rest)
    | text => (false, text)
  let whole := text.takeWhile Char.isDigit
  let places := match text.drop whole.length with
    | '.' :: rest => rest.takeWhile Char.isDigit
    | _ => []
  ⟨negative, Octets.decimal whole, places⟩

/-- The number as a whole number of the smallest units that are needed. -/
def units (d : Decimal) (places : Nat) : Int :=
  let n : Int := Octets.decimal ((Octets.ofNat d.whole) ++ d.places ++
    List.replicate (places - d.places.length) '0')
  if d.negative then -n else n

def order (a b : Decimal) : Ordering :=
  let places := max a.places.length b.places.length
  compare (a.units places) (b.units places)

end Decimal

def orderOfBytes (a b : Octets) : Ordering :=
  if a = b then .eq else if Octets.atMost a b then .lt else .gt

/-- A number with a letter behind it that stands for a power of a thousand, as it is
compared: the power counts more than the number. -/
def orderWithPowers (a b : Octets) : Ordering :=
  let power (text : Octets) : Int :=
    let number := (text.dropWhile fun c => c == ' ' || c == '\t')
    let (negative, digits) := match number with
      | '-' :: rest => (true, rest)
      | rest => (false, rest)
    let behind := digits.dropWhile fun c => c.isDigit || c == '.'
    let isNought := (digits.take (digits.length - behind.length)).all fun c => c == '0' || c == '.'
    let power : Int := match behind with
      | c :: _ => ("kKMGTPEZYRQ".toList.findIdx? (· == c)).elim 0 fun n => max 1 (n : Int)
      | [] => 0
    if isNought then 0 else if negative then -power else power
  (compare (power a) (power b)).then ((Decimal.read a).order (Decimal.read b))

/-- A number with a fraction or an exponent, or something that is none. -/
inductive General where
  | notNumber
  | real (r : Numeral.RealNumber)
  deriving DecidableEq

namespace General

def read (text : Octets) : General :=
  let (r, rest) := Numeral.leadingReal text
  if rest.length = text.length then notNumber else real r

/-- The place of a kind of number among the others. -/
def rank : General → Nat
  | notNumber => 0
  | real ⟨true, .undefined⟩ => 1
  | real ⟨false, .undefined⟩ => 2
  | real ⟨true, .infinite⟩ => 3
  | real ⟨_, .ratio _ _⟩ => 4
  | real ⟨false, .infinite⟩ => 5

def order : General → General → Ordering
  | real ⟨negative, .ratio n d⟩, real ⟨negative', .ratio n' d'⟩ =>
    let value (negative : Bool) (n : Nat) : Int := if negative then -(n : Int) else n
    let (n, d) := Numeral.nearestQuotient 64 n d
    let (n', d') := Numeral.nearestQuotient 64 n' d'
    compare (value negative (n * d')) (value negative' (n' * d))
  | a, b => compare a.rank b.rank

end General

/-- The number of the month whose name begins a text, or nought. -/
def monthOf (text : Octets) : Nat :=
  let name := String.ofList ((text.dropWhile fun c => c == ' ' || c == '\t').take 3 |>.map
    Char.toUpper)
  match ["JAN", "FEB", "MAR", "APR", "MAY", "JUN", "JUL", "AUG", "SEP", "OCT", "NOV",
      "DEC"].findIdx? (· == name) with
  | some place => place + 1
  | none => 0

/-- What a character counts in a name with numbers. A tilde stands before everything, even
the end, and letters stand before all other characters. -/
def versionRank : Option Char → Nat
  | none => 1
  | some '~' => 0
  | some c => if c.isDigit then 1 else if c.isAlpha then c.toNat + 1 else c.toNat + 300

/-- The order of two names with numbers, in at most so many steps: what is no number is
compared by its characters, numbers by their values. -/
def orderOfVersions : Nat → Octets → Octets → Ordering
  | 0, _, _ => .eq
  | _, [], [] => .eq
  | steps + 1, a, b =>
    let isText (c : Option Char) : Bool := c.any fun c => !c.isDigit
    if isText a.head? || isText b.head? then
      (compare (versionRank a.head?) (versionRank b.head?)).then
        (orderOfVersions steps (if isText a.head? then a.drop 1 else a)
          (if isText b.head? then b.drop 1 else b))
    else
      let m := a.takeWhile Char.isDigit
      let n := b.takeWhile Char.isDigit
      (compare (Octets.decimal m) (Octets.decimal n)).then
        (orderOfVersions steps (a.drop m.length) (b.drop n.length))

/-- A name without the endings that are set apart by points and begin with a letter. -/
def withoutEndings (name : Octets) : Octets :=
  let ending (c : Char) : Bool := c.isAlphanum || c == '~'
  let rec cut : Nat → Octets → Octets
    | 0, name => name
    | steps + 1, name =>
      let last := (name.reverse.takeWhile ending).reverse
      let before := name.take (name.length - last.length)
      if last.head?.any (fun c => c.isAlpha || c == '~') && before.getLast? == some '.' &&
          1 < before.length then cut steps before.dropLast
      else name
  cut name.length name

def orderOfNames (a b : Octets) : Ordering :=
  let byRank (a b : Octets) : Ordering :=
    if a = b then .eq
    else if a.isEmpty then .lt else if b.isEmpty then .gt
    else if a = ['.'] then .lt else if b = ['.'] then .gt
    else if a = ['.', '.'] then .lt else if b = ['.', '.'] then .gt
    else match a.head? == some '.', b.head? == some '.' with
      | true, false => .lt
      | false, true => .gt
      | _, _ =>
        let steps := a.length + b.length + 1
        (orderOfVersions steps (withoutEndings a) (withoutEndings b)).then
          (orderOfVersions steps a b)
  byRank a b

end CommandChains.Machine.Tool
