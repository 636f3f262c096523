import CommandChains.Machine.Octets

/-!
# Permissions

What the owner of a file, the group and all others may do with it, as a number of twelve
bits. Permissions can be written in base eight or as clauses that change them, and shown as
nine letters.
-/

namespace CommandChains.Machine.Permission

def all : Nat := 4095

def without (bits others : Nat) : Nat := Nat.land bits (Nat.xor all (Nat.land all others))

inductive Portion where
  | bits (n : Nat)
  /-- These bits, and the right to run if somebody has it already. -/
  | bitsAndRun (n : Nat)
  | copy (bits : Nat)
  deriving DecidableEq, Repr

structure Change where
  /-- The bits of those it is about. Nought means everybody, but for the mask. -/
  affected : Nat
  operator : Char
  portion : Portion
  mentioned : Nat
  deriving DecidableEq, Repr

/-- The bits that belong to a letter for some people. -/
def classBits : Char → Nat
  | 'u' => 2496
  | 'g' => 1080
  | 'o' => 519
  | _ => 4095

def letterBits? : Char → Option Nat
  | 'r' => some 292
  | 'w' => some 146
  | 'x' => some 73
  | 's' => some 3072
  | 't' => some 512
  | _ => none

def portion? (letters : Octets) : Option Portion :=
  match letters with
  | ['u'] => some (.copy 448)
  | ['g'] => some (.copy 56)
  | ['o'] => some (.copy 7)
  | _ =>
    (letters.filter (· != 'X')).mapM letterBits? |>.map fun bits =>
      let n := bits.foldl Nat.lor 0
      if letters.contains 'X' then .bitsAndRun n else .bits n

def Portion.named : Portion → Nat
  | .bits n | .bitsAndRun n => n
  | .copy _ => 0

/-- The number that digits of base eight write, if it is small enough. -/
def octal? (digits : Octets) : Option Nat :=
  let found := Octets.digitsOf 8 digits.length digits
  let n := Octets.valueOf 8 found
  if found.length = digits.length && !digits.isEmpty && n ≤ all then some n else none

/-- The changes that operators with what stands behind them write. -/
def actions (affected : Nat) : Nat → Octets → Option (List Change)
  | _, [] => some []
  | 0, _ => none
  | rounds + 1, operator :: rest =>
    if operator != '+' && operator != '-' && operator != '=' then none
    else
      let behind := rest.takeWhile fun c => c != '+' && c != '-' && c != '='
      let change : Option Change :=
        if behind.head?.any Char.isDigit then
          (octal? behind).map fun n =>
            { affected := all, operator, portion := .bits n, mentioned := all }
        else
          (portion? behind).map fun portion =>
            { affected, operator, portion
              mentioned := if affected = 0 then portion.named
                else Nat.land affected portion.named }
      match change, actions affected rounds (rest.drop behind.length) with
      | some change, some changes => some (change :: changes)
      | _, _ => none

def clause? (text : Octets) : Option (List Change) :=
  let who := text.takeWhile fun c => "ugoa".contains c
  let affected := who.foldl (fun n c => Nat.lor n (classBits c)) 0
  let rest := text.drop who.length
  if rest.isEmpty then none else actions affected rest.length rest

/-- The changes that a text writes, if it writes some. -/
def changes? (text : Octets) : Option (List Change) :=
  if text.head?.any Char.isDigit then
    (octal? text).map fun n =>
      let mentioned := if text.length < 5 then Nat.lor (Nat.land n 3072) 1023 else all
      [{ affected := all, operator := '=', portion := .bits n, mentioned }]
  else ((Octets.splitAt ',' text).mapM clause?).map List.flatten

def Change.apply (mask : Nat) (isDirectory : Bool) (mode : Nat) (c : Change) : Nat :=
  let kept := if isDirectory then without 3072 c.mentioned else 0
  let value := match c.portion with
    | .bits n => n
    | .bitsAndRun n => if Nat.land mode 73 != 0 || isDirectory then Nat.lor n 73 else n
    | .copy bits =>
      let own := Nat.land mode bits
      let some_ (n : Nat) : Nat := if Nat.land own n != 0 then n else 0
      Nat.lor (Nat.lor (some_ 292) (some_ 146)) (some_ 73)
  let reach := if c.affected = 0 then without all mask else c.affected
  let value := without (Nat.land value reach) kept
  match c.operator with
  | '+' => Nat.lor mode value
  | '-' => without mode value
  | _ =>
    let preserved := Nat.lor (if c.affected = 0 then 0 else without all c.affected) kept
    Nat.lor (Nat.land mode preserved) value

def applied (mask : Nat) (isDirectory : Bool) (mode : Nat) (changes : List Change) : Nat :=
  changes.foldl (Change.apply mask isDirectory) mode

def letters (mode : Nat) : Octets :=
  let has (bits : Nat) : Bool := Nat.land mode bits != 0
  let run (bits special : Nat) (both alone : Char) : Char :=
    if has special then (if has bits then both else alone) else if has bits then 'x' else '-'
  [if has 256 then 'r' else '-', if has 128 then 'w' else '-', run 64 2048 's' 'S',
    if has 32 then 'r' else '-', if has 16 then 'w' else '-', run 8 1024 's' 'S',
    if has 4 then 'r' else '-', if has 2 then 'w' else '-', run 1 512 't' 'T']

/-- A number in base eight, with so many digits at least. -/
def octalText (width mode : Nat) : Octets :=
  Octets.padded width (Nat.toDigits 8 mode) '0'

end CommandChains.Machine.Permission
