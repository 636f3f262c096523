import CommandChains.Machine.Scripting.Value

/-!
# Values in bytes

A template says how values are written one behind the other in bytes, and how they are read again:
each letter stands for a kind of value, and a number behind it says how many there are or how long
a text is.
-/

namespace CommandChains.Machine.Scripting

open Numeral

inductive Times where
  | fixed (n : Nat)
  | rest

inductive Piece where
  /-- A letter, with the number of bits of a sum if only that is wanted. -/
  | plain (letter : Char) (big : Bool) (times : Option Times) (sum : Option Nat)
  | group (pieces : List Piece) (times : Option Times)

namespace Piece

/-- How many times something stands, as the beginning of a text says. -/
def timesIn (text : Octets) : Option Times × Octets :=
  match text with
  | '*' :: rest => (some .rest, rest)
  | '[' :: rest => (some (.fixed (Octets.decimal (rest.takeWhile Char.isDigit))),
      (rest.dropWhile (· != ']')).drop 1)
  | text =>
    let digits := text.takeWhile Char.isDigit
    (if digits.isEmpty then none else some (.fixed (Octets.decimal digits)),
      text.drop digits.length)

/-- Reads a template up to its end or a parenthesis, and tells what is behind that. -/
def read : Nat → Octets → List Piece × Octets
  | 0, text => ([], text)
  | _, [] => ([], [])
  | rounds + 1, c :: rest =>
    if Octets.isSpace c then read rounds rest
    else if c = '#' then read rounds (rest.dropWhile (· != '\n'))
    else if c = ')' then ([], rest)
    else if c = '(' then
      let (inner, rest) := read rounds rest
      let (times, rest) := timesIn rest
      let (others, rest) := read rounds rest
      (.group inner times :: others, rest)
    else
      let (sum, c, rest) := if c = '%' then
          let digits := rest.takeWhile Char.isDigit
          let bits := if digits.isEmpty then 16 else Octets.decimal digits
          (some bits, (rest.drop digits.length).headD 'C', rest.drop (digits.length + 1))
        else (none, c, rest)
      let marks := rest.takeWhile fun d => d == '<' || d == '>' || d == '!'
      let (times, rest) := timesIn (rest.drop marks.length)
      let (others, rest) := read rounds rest
      (.plain c (marks.contains '>' || c == 'n' || c == 'N') times sum :: others, rest)

def ofText (template : Octets) : List Piece := (read (template.length + 1) template).1

/-- How many bytes a number of a kind takes. -/
def size? : Char → Option Nat
  | 'c' | 'C' => some 1
  | 's' | 'S' | 'n' | 'v' => some 2
  | 'l' | 'L' | 'N' | 'V' | 'i' | 'I' | 'f' => some 4
  | 'q' | 'Q' | 'j' | 'J' | 'd' | 'F' => some 8
  | _ => none

def isSigned (letter : Char) : Bool := "cslqij".contains letter

def bytesOf : Nat → Nat → Octets
  | 0, _ => []
  | size + 1, n => Char.ofNat (n % 256) :: bytesOf size (n / 256)

def ofBytes (bytes : Octets) : Nat := bytes.foldr (fun c n => c.toNat % 256 + 256 * n) 0

def encoded (letter : Char) (big : Bool) (size : Nat) (v : Value) : Octets :=
  let bits : Nat :=
    if letter = 'f' then v.amount.float.toFloat32.toBits.toNat
    else if letter = 'd' ∨ letter = 'F' then v.amount.float.toBits.toNat
    else (v.amount.truncated % (Nat.pow 256 size : Nat)).toNat
  let bytes := bytesOf size bits
  if big then bytes.reverse else bytes

def decoded (letter : Char) (big : Bool) (bytes : Octets) : Value :=
  let n := ofBytes (if big then bytes.reverse else bytes)
  if letter = 'f' then .number (.real (Float32.ofBits n.toUInt32).toFloat)
  else if letter = 'd' ∨ letter = 'F' then .number (.real (Float.ofBits n.toUInt64))
  else if isSigned letter then .ofInt (Int.bmod n (Nat.pow 256 bytes.length))
  else .ofNat n

/-- The byte of two digits, of which the second or the first is the high one. -/
def byteOf (low : Bool) (a b : Char) : Char :=
  let digit (c : Char) : Nat := (if c.isAlpha then c.toNat + 9 else c.toNat) % 16
  Char.ofNat (if low then digit a + 16 * digit b else 16 * digit a + digit b)

def ofHexadecimal (low : Bool) : Octets → Octets
  | [] => []
  | [a] => [byteOf low a '0']
  | a :: b :: rest => byteOf low a b :: ofHexadecimal low rest

def hexadecimal (low : Bool) (bytes : Octets) : Octets :=
  bytes.flatMap fun c =>
    let digit (n : Nat) : Char := "0123456789abcdef".toList.getD n '0'
    let high := digit (c.toNat % 256 / 16)
    let rest := digit (c.toNat % 16)
    if low then [rest, high] else [high, rest]

/-- The bytes of bits, eight for each byte, with the high or the low one first. -/
def ofBits (low : Bool) : Nat → Octets → Octets
  | 0, _ => []
  | _, [] => []
  | rounds + 1, bits =>
    let eight := Octets.filled 8 (bits.take 8) |>.map fun c => c.toNat % 2
    let eight := if low then eight.reverse else eight
    Char.ofNat (eight.foldl (fun n b => 2 * n + b) 0) :: ofBits low rounds (bits.drop 8)

def bits (low : Bool) (bytes : Octets) : Octets :=
  bytes.flatMap fun c =>
    let eight := (List.range 8).map fun n => if (c.toNat >>> n) % 2 = 1 then '1' else '0'
    if low then eight else eight.reverse

/-- A number in digits of seven bits, of which all but the last are marked. -/
def compressed : Nat → Nat → Octets
  | 0, _ => []
  | rounds + 1, n =>
    if n < 128 then [Char.ofNat n]
    else (compressed rounds (n / 128)).map (fun c => Char.ofNat (c.toNat % 128 + 128)) ++
      [Char.ofNat (n % 128)]

/-- Writes values as a piece says. Tells the bytes and what values are left. -/
def packOne (letter : Char) (big : Bool) (times : Option Times) (sofar : Octets)
    (values : List Value) : Octets × List Value :=
  let text := (values.headD .unset).plainText
  let long (n : Nat) (blank : Char) : Octets :=
    text.take n ++ List.replicate (n - text.length) blank
  let extent (usual : Nat) : Nat := match times with
    | none => usual
    | some (.fixed n) => n
    | some .rest => text.length
  let count : Nat := match times with
    | none => 1
    | some (.fixed n) => n
    | some .rest => values.length
  let each (write : Value → Octets) : Octets × List Value :=
    let given := (List.range count).map fun n => (values[n]?).getD .unset
    (sofar ++ given.flatMap write, values.drop count)
  match letter with
  | 'a' => (sofar ++ long (extent 1) '\x00', values.drop 1)
  | 'A' => (sofar ++ long (extent 1) ' ', values.drop 1)
  | 'Z' =>
    match times with
    | some .rest => (sofar ++ text ++ ['\x00'], values.drop 1)
    | _ =>
      let n := extent 1
      (sofar ++ (text.take (n - 1)) ++ List.replicate (n - min (n - 1) text.length) '\x00',
        values.drop 1)
  | 'H' => (sofar ++ ofHexadecimal false (text.take (extent 1)), values.drop 1)
  | 'h' => (sofar ++ ofHexadecimal true (text.take (extent 1)), values.drop 1)
  | 'B' => (sofar ++ ofBits false (text.length + 1) (text.take (extent 1)), values.drop 1)
  | 'b' => (sofar ++ ofBits true (text.length + 1) (text.take (extent 1)), values.drop 1)
  | 'x' => (sofar ++ List.replicate (match times with
      | some .rest => 0
      | _ => count) '\x00', values)
  | 'X' => (sofar.take (sofar.length - count), values)
  | '@' => (sofar.take count ++ List.replicate (count - sofar.length) '\x00', values)
  | 'U' | 'W' => each fun v => [Char.ofNat v.amount.truncated.toNat]
  | 'w' => each fun v => compressed 64 v.amount.truncated.toNat
  | letter =>
    match size? letter with
    | some size => each fun v => encoded letter big size v
    | none => (sofar, values)

def packAll : Nat → List Piece → Octets → List Value → Octets × List Value
  | 0, _, sofar, values => (sofar, values)
  | _, [], sofar, values => (sofar, values)
  | rounds + 1, piece :: rest, sofar, values =>
    match piece with
    | plain letter big times _ =>
      let (sofar, values) := packOne letter big times sofar values
      packAll rounds rest sofar values
    | group inner times =>
      let again : Option Piece := match times with
        | none => none
        | some (.fixed n) => if 1 < n then some (group inner (some (.fixed (n - 1)))) else none
        | some .rest => some (group inner (some .rest))
      let isOver : Bool := match times with
        | some (.fixed 0) => true
        | some .rest => values.isEmpty
        | _ => false
      if isOver then packAll rounds rest sofar values
      else
        let (sofar, values) := packAll rounds inner sofar values
        packAll rounds (again.toList ++ rest) sofar values

def withoutEnd (text : Octets) : Octets :=
  (text.reverse.dropWhile fun c => c == '\x00' || Octets.isSpace c).reverse

/-- Reads numbers in digits of seven bits, at most so many. -/
def readCompressed : Nat → Nat → Octets → List Value × Octets
  | 0, _, text => ([], text)
  | _, _, [] => ([], [])
  | count + 1, n, c :: rest =>
    let m := 128 * n + c.toNat % 128
    if 128 ≤ c.toNat then readCompressed (count + 1) m rest
    else
      let (others, rest) := readCompressed count 0 rest
      (.ofNat m :: others, rest)

/-- Reads values as a letter says. Tells them and the place behind them. -/
def unpackOne (letter : Char) (big : Bool) (times : Option Times) (text : Octets) (place : Nat) :
    List Value × Nat :=
  let left := text.drop place
  let extent (usual most : Nat) : Nat := match times with
    | none => min usual most
    | some (.fixed n) => min n most
    | some .rest => most
  let texts (shown : Octets → Octets) : List Value × Nat :=
    let n := extent 1 left.length
    ([.text (shown (left.take n))], place + n)
  let digits (each : Nat) (shown : Octets → Octets) : List Value × Nat :=
    let n := extent 1 (each * left.length)
    ([.text ((shown left).take n)], place + (n + each - 1) / each)
  match letter with
  | 'a' => texts id
  | 'A' => texts withoutEnd
  | 'Z' =>
    match times with
    | some .rest =>
      let shown := left.takeWhile (· != '\x00')
      ([.text shown], place + min (shown.length + 1) left.length)
    | _ => texts fun s => s.takeWhile (· != '\x00')
  | 'H' => digits 2 (hexadecimal false)
  | 'h' => digits 2 (hexadecimal true)
  | 'B' => digits 8 (bits false)
  | 'b' => digits 8 (bits true)
  | 'x' => ([], place + extent 1 left.length)
  | 'X' => ([], place - extent 1 place)
  | '@' => ([], extent 0 text.length)
  | 'U' | 'W' =>
    let n := extent 1 left.length
    ((left.take n).map fun c => .ofNat c.toNat, place + n)
  | 'w' =>
    let (values, rest) := readCompressed (extent 1 left.length) 0 left
    (values, text.length - rest.length)
  | letter =>
    match size? letter with
    | none => ([], place)
    | some size =>
      let n := extent 1 (left.length / size)
      ((List.range n).map fun k => decoded letter big ((left.drop (k * size)).take size),
        place + n * size)

def unpackAll : Nat → List Piece → Octets → Nat → List Value × Nat
  | 0, _, _, place => ([], place)
  | _, [], _, place => ([], place)
  | rounds + 1, piece :: rest, text, place =>
    match piece with
    | plain letter big times sum =>
      let (values, place) := unpackOne letter big times text place
      let values := match sum with
        | none => values
        | some bits =>
          let total := values.foldl (fun n v => n + v.amount.truncated) 0
          [.ofInt (if bits < 64 then total % (Nat.pow 2 bits : Nat) else total)]
      let (others, place) := unpackAll rounds rest text place
      (values ++ others, place)
    | group inner times =>
      let again : Option Piece := match times with
        | none => none
        | some (.fixed n) => if 1 < n then some (group inner (some (.fixed (n - 1)))) else none
        | some .rest => some (group inner (some .rest))
      let isOver : Bool := match times with
        | some (.fixed 0) => true
        | some .rest => text.length ≤ place
        | _ => false
      if isOver then unpackAll rounds rest text place
      else
        let (values, place) := unpackAll rounds inner text place
        let (others, place) := unpackAll rounds (again.toList ++ rest) text place
        (values ++ others, place)

def pack (template : Octets) (values : List Value) : Octets :=
  (packAll (100 * (template.length + values.length) + 100) (ofText template) [] values).1

def unpack (template text : Octets) : List Value :=
  (unpackAll (100 * (template.length + text.length) + 100) (ofText template) text 0).1

end Piece

end CommandChains.Machine.Scripting
