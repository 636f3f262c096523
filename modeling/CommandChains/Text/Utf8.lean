/-!
# UTF-8

Text is written as UTF-8 and read back in one of two ways. The lossy reading
puts the replacement character for every ill-formed part, one for each maximal
ill-formed subpart: a sequence that breaks off counts once, and a byte that can
neither start nor continue a sequence counts once. The strict reading refuses a
text with an ill-formed part.

Both readings are views of one decoder, which takes a byte at a time. Its state
between two bytes is the sequence that has been begun, if there is one, so the
reading of two texts put together is the reading of the first followed by the
reading of the second from the state the first leaves behind.
-/

namespace CommandChains.Text

/-- A text as it is stored and sent. -/
abbrev Bytes := List UInt8

namespace Utf8

def encodeChar (c : Char) : Bytes :=
  let n := c.toNat
  if n < 0x80 then [UInt8.ofNat n]
  else if n < 0x800 then [UInt8.ofNat (0xC0 + n / 0x40), UInt8.ofNat (0x80 + n % 0x40)]
  else if n < 0x10000 then
    [UInt8.ofNat (0xE0 + n / 0x1000), UInt8.ofNat (0x80 + n / 0x40 % 0x40),
      UInt8.ofNat (0x80 + n % 0x40)]
  else
    [UInt8.ofNat (0xF0 + n / 0x40000), UInt8.ofNat (0x80 + n / 0x1000 % 0x40),
      UInt8.ofNat (0x80 + n / 0x40 % 0x40), UInt8.ofNat (0x80 + n % 0x40)]

def encodeChars (text : List Char) : Bytes :=
  text.flatMap encodeChar

def encode (text : String) : Bytes :=
  encodeChars text.toList

/-- A sequence that has been begun. The next byte must lie between `low` and
`high`; after it `owed` more bytes are due. -/
structure Begun where
  value : Nat
  owed : Nat
  low : Nat := 0x80
  high : Nat := 0xBF
  deriving DecidableEq, Repr

/-- What is read at a byte: the characters that end there, with `none` for an
ill-formed part, and the sequence that is open afterwards. -/
structure Step where
  units : List (Option Char)
  begun : Option Begun
  deriving DecidableEq, Repr

/-- Reads a byte that starts a sequence. The bounds on the second byte leave out
overlong forms, surrogates and everything above U+10FFFF. -/
def start (b : UInt8) : Step :=
  let n := b.toNat
  if n < 0x80 then ⟨[some (Char.ofNat n)], none⟩
  else if n < 0xC2 then ⟨[none], none⟩
  else if n < 0xE0 then ⟨[], some ⟨n - 0xC0, 0, 0x80, 0xBF⟩⟩
  else if n < 0xE1 then ⟨[], some ⟨0, 1, 0xA0, 0xBF⟩⟩
  else if n = 0xED then ⟨[], some ⟨0xD, 1, 0x80, 0x9F⟩⟩
  else if n < 0xF0 then ⟨[], some ⟨n - 0xE0, 1, 0x80, 0xBF⟩⟩
  else if n < 0xF1 then ⟨[], some ⟨0, 2, 0x90, 0xBF⟩⟩
  else if n < 0xF4 then ⟨[], some ⟨n - 0xF0, 2, 0x80, 0xBF⟩⟩
  else if n < 0xF5 then ⟨[], some ⟨4, 2, 0x80, 0x8F⟩⟩
  else ⟨[none], none⟩

/-- Reads one byte. A byte that does not continue the open sequence ends it as
ill-formed and starts afresh. -/
def step (begun : Option Begun) (b : UInt8) : Step :=
  match begun with
  | none => start b
  | some p =>
    if p.low ≤ b.toNat ∧ b.toNat ≤ p.high then
      let value := p.value * 0x40 + (b.toNat - 0x80)
      match p.owed with
      | 0 => ⟨[some (Char.ofNat value)], none⟩
      | owed + 1 => ⟨[], some ⟨value, owed, 0x80, 0xBF⟩⟩
    else ⟨none :: (start b).units, (start b).begun⟩

/-- The characters read from some bytes, starting with a sequence that may be
open. A sequence that is open at the end is ill-formed. -/
def unitsFrom : Option Begun → Bytes → List (Option Char)
  | none, [] => []
  | some _, [] => [none]
  | begun, b :: rest => (step begun b).units ++ unitsFrom (step begun b).begun rest

/-- The characters of some bytes, with `none` for every ill-formed part. -/
def units (bytes : Bytes) : List (Option Char) :=
  unitsFrom none bytes

/-- The character that stands for an ill-formed part. -/
def replacement : Char := '\uFFFD'

/-- The characters of some bytes, ill-formed parts replaced. -/
def decodeChars (bytes : Bytes) : List Char :=
  (units bytes).map (·.getD replacement)

/-- The text of some bytes, ill-formed parts replaced. -/
def decode (bytes : Bytes) : String :=
  String.ofList (decodeChars bytes)

/-- The text of some bytes, or nothing if a part is ill-formed. -/
def decode? (bytes : Bytes) : Option String :=
  if (units bytes).all Option.isSome then some (decode bytes) else none

@[simp] theorem encodeChars_nil : encodeChars [] = [] := rfl

@[simp] theorem encodeChars_cons (c : Char) (text : List Char) :
    encodeChars (c :: text) = encodeChar c ++ encodeChars text := rfl

@[simp] theorem encodeChars_append (a b : List Char) :
    encodeChars (a ++ b) = encodeChars a ++ encodeChars b := by
  simp [encodeChars]

@[simp] theorem encode_append (a b : String) : encode (a ++ b) = encode a ++ encode b := by
  simp [encode]

@[simp] theorem unitsFrom_none_nil : unitsFrom none [] = [] := by simp [unitsFrom]

@[simp] theorem unitsFrom_some_nil (p : Begun) : unitsFrom (some p) [] = [none] := by
  simp [unitsFrom]

theorem unitsFrom_cons (begun : Option Begun) (b : UInt8) (rest : Bytes) :
    unitsFrom begun (b :: rest) =
      (step begun b).units ++ unitsFrom (step begun b).begun rest := by
  simp [unitsFrom]

end Utf8

/-!
## Places in a text

A place in a text can be given by the number of bytes before it. A place inside a
character counts as the place before that character.
-/

/-- What stands behind the first `n` bytes of a text. -/
def dropBytes : Nat → List Char → List Char
  | _, [] => []
  | n, c :: rest => if c.utf8Size ≤ n then dropBytes (n - c.utf8Size) rest else c :: rest

def takeBytes : Nat → List Char → List Char
  | _, [] => []
  | n, c :: rest => if c.utf8Size ≤ n then c :: takeBytes (n - c.utf8Size) rest else []

end CommandChains.Text
