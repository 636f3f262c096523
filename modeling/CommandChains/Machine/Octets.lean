import CommandChains.Text.Utf8

/-!
# Octets

The programs of the machine know nothing of encodings: to them every byte is a
character. Their texts are lists of characters that stand for one byte each, so
that what they do can be said with characters.
-/

namespace CommandChains.Machine

/-- A text of the machine, a character for each byte. -/
abbrev Octets := List Char

namespace Octets

def ofBytes (bytes : Text.Bytes) : Octets :=
  bytes.map fun b => Char.ofNat b.toNat

def toBytes (octets : Octets) : Text.Bytes :=
  octets.map fun c => UInt8.ofNat c.toNat

def ofText (text : String) : Octets :=
  ofBytes (Text.Utf8.encode text)

def toText (octets : Octets) : String :=
  Text.Utf8.decode (toBytes octets)

/-! ## Cutting and joining -/

def splitAt (separator : Char) (text : Octets) : List Octets :=
  text.foldr (fun c pieces =>
    if c = separator then [] :: pieces
    else match pieces with
      | [] => [[c]]
      | piece :: rest => (c :: piece) :: rest) [[]]

/-- The records of a text, without the marks that end them. A mark at the very end starts
no further record. -/
def records (mark : Char) (text : Octets) : List Octets :=
  let pieces := splitAt mark text
  if text.isEmpty || text.getLast? == some mark then pieces.dropLast else pieces

def ofRecords (mark : Char) (records : List Octets) : Octets :=
  records.flatMap (· ++ [mark])

def lines (text : Octets) : List Octets := records '\n' text

def unlines (lines : List Octets) : Octets := ofRecords '\n' lines

/-- Whether a character is one of the blanks of ASCII. -/
def isSpace (c : Char) : Bool :=
  c == ' ' || (decide ('\t' ≤ c) && decide (c ≤ '\r'))

def words (text : Octets) : List Octets :=
  (text.foldr (fun c pieces =>
    if isSpace c then [] :: pieces
    else match pieces with
      | [] => [[c]]
      | piece :: rest => (c :: piece) :: rest) [[]]).filter (!·.isEmpty)

def joined (between : Octets) (pieces : List Octets) : Octets :=
  between.intercalate pieces

/-- A text with blanks in front of it, so that it is at least so wide. -/
def padded (width : Nat) (text : Octets) (blank : Char := ' ') : Octets :=
  List.replicate (width - text.length) blank ++ text

/-- A text with blanks behind it, so that it is at least so wide. -/
def filled (width : Nat) (text : Octets) : Octets :=
  text ++ List.replicate (width - text.length) ' '

def occursIn (text : Octets) : Octets → Bool
  | [] => text.isEmpty
  | c :: rest => text.isPrefixOf (c :: rest) || occursIn text rest

/-- Whether a text stands before another one in the order of bytes, or is the same. -/
def atMost : Octets → Octets → Bool
  | [], _ => true
  | _ :: _, [] => false
  | c :: a, d :: b => decide (c < d) || (c == d && atMost a b)

def lower (text : Octets) : Octets :=
  text.map Char.toLower

/-! ## Numbers -/

def decimal (digits : Octets) : Nat :=
  digits.foldl (fun n c => n * 10 + (c.toNat - '0'.toNat)) 0

/-- The number that a text writes, if it is digits only. -/
def decimal? (text : Octets) : Option Nat :=
  if text.isEmpty || !text.all Char.isDigit then none else some (decimal text)

/-- The number that a text writes, if it is digits with or without a sign. -/
def integer? (text : Octets) : Option Int :=
  match text with
  | '-' :: digits => (decimal? digits).map fun n => -(n : Int)
  | '+' :: digits => (decimal? digits).map fun n => (n : Int)
  | digits => (decimal? digits).map fun n => (n : Int)

/-- The value of a digit of a base up to 16. -/
def digit? (c : Char) : Option Nat :=
  if c.isDigit then some (c.toNat - '0'.toNat)
  else if 'a' ≤ c ∧ c ≤ 'f' then some (c.toNat - 'a'.toNat + 10)
  else if 'A' ≤ c ∧ c ≤ 'F' then some (c.toNat - 'A'.toNat + 10)
  else none

/-- The digits of a base at the beginning of a text, at most so many. -/
def digitsOf (base most : Nat) (text : Octets) : List Nat :=
  (((text.take most).map digit?).takeWhile fun d => d.any (· < base)).filterMap id

def valueOf (base : Nat) (digits : List Nat) : Nat :=
  digits.foldl (fun n d => n * base + d) 0

def ofNat (n : Nat) : Octets := (toString n).toList

/-- The decimal digits of a number, with a dash if it is negative. -/
def ofInt (n : Int) : Octets := (toString n).toList

end Octets

end CommandChains.Machine
