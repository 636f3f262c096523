import CommandChains.Machine.Octets
import CommandChains.Machine.Numeral

/-!
# Programs about records, and their values

A program says what to do with records of a text: rules with a pattern and statements, and
functions. This is what such a program consists of.
-/

namespace CommandChains.Machine.Records

inductive Comparison where
  | less
  | lessEqual
  | equal
  | notEqual
  | greater
  | greaterEqual
  deriving DecidableEq, Repr

inductive Operation where
  | add
  | subtract
  | multiply
  | divide
  | modulo
  | power
  deriving DecidableEq, Repr

inductive Origin where
  | input
  | file
  | command
  deriving DecidableEq, Repr

inductive Expr where
  | number (x : Float)
  | text (s : Octets)
  | regex (source : Octets)
  | variable (name : String)
  | element (name : String) (subscripts : List Expr)
  | field (place : Expr)
  | group (e : Expr)
  /-- Several things in parentheses, for what can be printed together. -/
  | several (list : List Expr)
  | assign (op : Option Operation) (target value : Expr)
  /-- One more or one less; the value is that before or behind. -/
  | step (up first : Bool) (target : Expr)
  | choice (condition yes no : Expr)
  | and (a b : Expr)
  | or (a b : Expr)
  | contains (name : String) (subscripts : List Expr)
  | matching (negated : Bool) (text pattern : Expr)
  | compare (c : Comparison) (a b : Expr)
  | join (a b : Expr)
  | compute (op : Operation) (a b : Expr)
  | negative (e : Expr)
  | positive (e : Expr)
  | not (e : Expr)
  | call (name : String) (arguments : List Expr)
  | builtin (name : String) (arguments : List Expr)
  | getline (origin : Origin) (source : Expr) (target : Option Expr)
  deriving Inhabited

inductive Outlet where
  | output
  | file
  | addition
  | command
  deriving DecidableEq, Repr

inductive Stmt where
  | nothing
  | value (e : Expr)
  | print (formatted : Bool) (arguments : List Expr) (outlet : Outlet) (target : Expr)
  | ifElse (condition : Expr) (yes no : Stmt)
  | whileLoop (condition : Expr) (body : Stmt)
  | doLoop (body : Stmt) (condition : Expr)
  | forLoop (first : Option Expr) (condition : Option Expr) (next : Option Expr) (body : Stmt)
  | forEach (name array : String) (body : Stmt)
  | block (list : List Stmt)
  | next
  | nextFile
  | exit (status : Option Expr)
  | return_ (value : Option Expr)
  | break_
  | continue_
  | delete (name : String) (subscripts : List Expr)
  | deleteAll (name : String)
  deriving Inhabited

inductive Pattern where
  | always
  | when (condition : Expr)
  | between (first last : Expr)

structure Function where
  parameters : List String
  body : Stmt

structure Program where
  begins : List Stmt := []
  rules : List (Pattern × Stmt) := []
  ends : List Stmt := []
  functions : List (String × Function) := []

/-!
## Numbers of programs about records

Programs about records compute with numbers of 64 bits with a floating point. Here they are
read from texts and written as texts, by a layout like that of printed numbers.
-/

open Numeral

/-- The number at the beginning of a text, or nought. -/
def numberOf (text : Octets) : Float := floatOf (leadingReal text).1

/-- Whether a text is a number with nothing but blanks around it. -/
def looksNumeric (text : Octets) : Bool :=
  let inner := text.dropWhile Octets.isSpace
  match inner with
  | [] => false
  | c :: _ =>
    (c.isDigit || c == '+' || c == '-' || c == '.') &&
      (let (_, rest) := leadingReal inner
       let read := inner.take (inner.length - rest.length)
       !read.isEmpty && read.all (fun c => c.isDigit || "+-.eE".contains c) &&
         rest.all Octets.isSpace)

/-- The whole number that a number is, if it is one that is not too large. -/
def wholeOf? (x : Float) : Option Int :=
  match realOf x with
  | ⟨negative, .ratio n d⟩ =>
    let q := n / d
    if q * d = n ∧ q < 18446744073709551616 then some (if negative then -(q : Int) else q) else none
  | _ => none

/-- A number without its fraction, within the range of whole numbers. -/
def truncated (x : Float) : Int :=
  match realOf x with
  | ⟨negative, .ratio n d⟩ =>
    if negative then -(min (n / d) 9223372036854775808 : Nat)
    else (min (n / d) 18446744073709551615 : Nat)
  | ⟨negative, .infinite⟩ => if negative then -9223372036854775808 else 9223372036854775807
  | ⟨_, .undefined⟩ => -9223372036854775808

/-- A number as it is written with a layout and a letter, or nothing if the letter is for
no number. -/
def formatted (l : Layout) (letter : Char) (x : Float) : Octets :=
  let whole := truncated x
  let unsigned : Nat := (if whole < 0 then whole + 18446744073709551616 else whole).toNat
  match letter with
  | 'd' | 'i' =>
    let digits := l.digits (Octets.ofNat whole.natAbs)
    l.number (l.sign (decide (whole < 0))) digits l.precision.isNone
  | 'u' => l.number [] (l.digits (Octets.ofNat unsigned)) l.precision.isNone
  | 'o' =>
    let digits := l.digits (inBase 8 unsigned)
    let digits := if l.has '#' && digits.head? != some '0' then '0' :: digits else digits
    l.number [] digits l.precision.isNone
  | 'x' | 'X' =>
    let digits := inBase 16 unsigned
    let digits := l.digits (if letter = 'X' then digits.map Char.toUpper else digits)
    let front := if l.has '#' && unsigned != 0 then ['0', letter] else []
    l.number front digits l.precision.isNone
  | letter =>
    let r := realOf x
    let r := match r.magnitude with
      | .undefined => { r with negative := true }
      | _ => r
    placedReal l 64 letter r

/-!
## Values of programs about records

A value is a number or a text. What is read from outside is a text that counts as a number if
it looks like one, and what has never been set is nought and the empty text at once.
-/

inductive Value where
  | number (x : Float)
  | text (s : Octets)
  | given (s : Octets)
  | unset
  deriving Inhabited

/-! ## Numbers in patterns -/

/-- Where a value is filled into a pattern: how it is placed, and the letter that says what it
is taken for. -/
structure Directive where
  flags : Octets := []
  /-- A width or a precision is none if it is taken from a value. -/
  width : Option Nat := some 0
  precision : Option (Option Nat) := none
  letter : Char

namespace Directive

/-- A number at the beginning of a text, or a star for one, and what is behind it. -/
def measure (text : Octets) : Option Nat × Octets :=
  match text with
  | '*' :: rest => (none, rest)
  | text =>
    let digits := text.takeWhile Char.isDigit
    (some (Octets.decimal digits), text.drop digits.length)

/-- The directive behind a percent sign, and what is behind it. A text that is over has none. -/
def read (text : Octets) : Directive × Octets :=
  let flags := text.takeWhile fun c => "-+ #0".contains c
  let (width, rest) := measure (text.drop flags.length)
  let (precision, rest) := match rest with
    | '.' :: rest =>
      let (p, rest) := measure rest
      (some p, rest)
    | rest => (none, rest)
  let rest := match rest with
    | c :: behind => if c = 'l' ∨ c = 'h' then behind else rest
    | [] => rest
  ({ flags, width, precision, letter := rest.headD '\x00' }, rest.drop 1)

/-- The layout of a directive, where these numbers stand for its stars. What is left of the
numbers comes too. -/
def layout (d : Directive) (stars : List Int) : Numeral.Layout × List Int :=
  let (width, stars) : Int × List Int := match d.width with
    | some n => ((n : Int), stars)
    | none => (stars.headD 0, stars.drop 1)
  let flags := if width < 0 then '-' :: d.flags else d.flags
  let (precision, stars) : Option Nat × List Int := match d.precision with
    | none => (none, stars)
    | some (some n) => (some n, stars)
    | some none =>
      let n := stars.headD 0
      (if n < 0 then none else some n.toNat, stars.drop 1)
  ({ flags, width := width.natAbs, precision }, stars)

def stars (d : Directive) : Nat :=
  (if d.width.isNone then 1 else 0) + (if d.precision = some none then 1 else 0)

end Directive

/-- A number in a pattern that has one place for it. -/
def filledWith (x : Float) : Nat → Octets → Octets
  | 0, _ => []
  | _, [] => []
  | rounds + 1, '%' :: rest =>
    match rest with
    | '%' :: rest => '%' :: filledWith x rounds rest
    | rest =>
      let (d, rest) := Directive.read rest
      formatted (d.layout []).1 d.letter x ++ filledWith x rounds rest
  | rounds + 1, c :: rest => c :: filledWith x rounds rest

/-- A number as a text: all digits of a whole number, others as a pattern says. -/
def textOfNumber (pattern : Octets) (x : Float) : Octets :=
  match wholeOf? x with
  | some n => Octets.ofInt n
  | none => filledWith x pattern.length pattern

namespace Value

def amount (v : Value) : Float :=
  match v with
  | number x => x
  | text s | given s => numberOf s
  | unset => 0

/-- A value as a text, where numbers are written as a pattern says. -/
def textBy (pattern : Octets) : Value → Octets
  | number x => textOfNumber pattern x
  | text s | given s => s
  | unset => []

/-- Whether a value counts as true: a number that is not nought, or a text that is not
empty. -/
def holds : Value → Bool
  | number x => x != 0
  | text s => !s.isEmpty
  | given s => if looksNumeric s then numberOf s != 0 else !s.isEmpty
  | unset => false

def isNumeric : Value → Bool
  | number _ | unset => true
  | text _ => false
  | given s => looksNumeric s

def ofBool (b : Bool) : Value := .number (if b then 1 else 0)

def ofNat (n : Nat) : Value := .number (Float.ofNat n)

/-- The key in an array, and its number if it is kept by one. -/
def key (pattern : Octets) (v : Value) : String × Option Int :=
  match v with
  | number x => (String.ofList (textOfNumber pattern x), wholeOf? x)
  | v => (String.ofList (v.textBy pattern), none)

end Value

/-- Whether two things that are in some order compare in a way. -/
def Comparison.holds (c : Comparison) (less equal : Bool) : Bool :=
  match c with
  | .less => less
  | .lessEqual => less || equal
  | .equal => equal
  | .notEqual => !equal
  | .greater => !(less || equal)
  | .greaterEqual => !less

/-- Whether two values compare in a way: as numbers if both can be, else as texts. -/
def Value.compare (pattern : Octets) (c : Comparison) (a b : Value) : Bool :=
  if a.isNumeric && b.isNumeric then
    let x := a.amount
    let y := b.amount
    match c with
    | .less => x < y
    | .lessEqual => x ≤ y
    | .equal => x == y
    | .notEqual => x != y
    | .greater => y < x
    | .greaterEqual => y ≤ x
  else
    let s := a.textBy pattern
    let t := b.textBy pattern
    c.holds (!Octets.atMost t s) (s == t)

/-- The remainder of a division of one number by another, with the sign of the first. -/
def remainder (x y : Float) : Float :=
  let r := realOf x
  let s := realOf y
  match r.magnitude, s.magnitude with
  | .ratio n d, .ratio p q =>
    if p = 0 then 0.0 / 0.0
    else floatOf ⟨r.negative, .ratio ((n * q) % (p * d)) (d * q)⟩
  | .ratio _ _, .infinite => x
  | _, _ => 0.0 / 0.0

def Operation.of (op : Operation) (x y : Float) : Float :=
  match op with
  | .add => x + y
  | .subtract => x - y
  | .multiply => x * y
  | .divide => x / y
  | .modulo => remainder x y
  | .power => Float.pow x y

/-!
## Patterns of programs about records

How a program fills values into a pattern.
-/

inductive Unfit where
  | tooFew
  | badLetter (place : Nat)

/-- What is said about it, with the function and the pattern. -/
def Unfit.message (function pattern : Octets) : Unfit → Octets
  | tooFew =>
    "not enough arguments passed to ".toList ++ function ++ "(\"".toList ++ pattern ++ "\")".toList
  | badLetter place =>
    "improper conversion(number ".toList ++ Octets.ofNat place ++ ") in ".toList ++ function ++
      "(\"".toList ++ pattern ++ "\")".toList

/-- A value in its place, or nothing if the letter is not known. -/
def placed? (conversion : Octets) (l : Numeral.Layout) (letter : Char) (v : Value) :
    Option Octets :=
  match letter with
  | 's' =>
    let text := v.textBy conversion
    some (l.place ((l.precision.map text.take).getD text))
  | 'c' =>
    let text := match v with
      | .text s => s.take 1
      | .given s =>
        if looksNumeric s then [Char.ofNat ((truncated (numberOf s)) % 256).toNat] else s.take 1
      | .number x => [Char.ofNat (truncated x % 256).toNat]
      | .unset => []
    some (l.place (if text.isEmpty then ['\x00'] else text))
  | letter =>
    if "dioxXuegfEG".contains letter then some (formatted l letter v.amount) else none

def fill (conversion : Octets) : Nat → Nat → List Value → Octets → Except Unfit Octets
  | 0, _, _, _ => .ok []
  | _, _, _, [] => .ok []
  | rounds + 1, place, values, '%' :: rest =>
    match rest with
    | '%' :: rest => (fill conversion rounds place values rest).map ('%' :: ·)
    | rest =>
      let (d, rest) := Directive.read rest
      match values.drop d.stars with
      | [] => .error .tooFew
      | v :: others =>
        let stars := (values.take d.stars).map fun v => truncated v.amount
        match placed? conversion (d.layout stars).1 d.letter v with
        | none => .error (.badLetter place)
        | some text => (fill conversion rounds (place + 1) others rest).map (text ++ ·)
  | rounds + 1, place, values, c :: rest =>
    (fill conversion rounds place values rest).map (c :: ·)

end CommandChains.Machine.Records
