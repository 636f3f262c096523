import CommandChains.Machine.Digest
import CommandChains.Machine.Tool.Basic
import CommandChains.Machine.Arguments
import CommandChains.Machine.Numeral
import CommandChains.Machine.Tool.Fields

/-!
# Bytes in print

Tools that write bytes with few characters, so that they can go where only texts can, and
tools that print them as numbers.
-/

namespace CommandChains.Machine

/-!
## Armor

Bytes written with few characters, so that they can go where only texts can. Most ways take
the bits of the bytes in portions and write a digit for each; a last portion that is not
full is filled with zeros, and marks may fill the last group of digits. One way takes four
bytes as a number and writes it to base 85.
-/

/-- A way to write portions of bits as digits. -/
structure Armor where
  alphabet : Octets
  bits : Nat
  group : Nat
  isFilled : Bool := true
  /-- Whether an incomplete group is read as far as it goes. -/
  readsParts : Bool := true
  /-- Whether the bits of a byte are taken from the last one. -/
  backwards : Bool := false
  forbidden : Octets := []
  deriving DecidableEq, Repr

namespace Armor

def digits : Octets := "0123456789".toList
def letters : Octets := "ABCDEFGHIJKLMNOPQRSTUVWXYZ".toList

def first62 : Octets := letters ++ letters.map Char.toLower ++ digits

def base64 : Armor := { alphabet := first62 ++ ['+', '/'], bits := 6, group := 4 }
def base64url : Armor := { alphabet := first62 ++ ['-', '_'], bits := 6, group := 4, forbidden := ['+', '/'] }
def base32 : Armor :=
  { alphabet := letters ++ "234567".toList, bits := 5, group := 8, readsParts := false }
def base32hex : Armor :=
  { alphabet := digits ++ letters.take 22, bits := 5, group := 8, readsParts := false }
def base16 : Armor :=
  { alphabet := digits ++ letters.take 6, bits := 4, group := 2, isFilled := false }
def base2 (backwards : Bool) : Armor :=
  { alphabet := ['0', '1'], bits := 1, group := 8, isFilled := false, backwards }

def mark : Char := '='

/-! ## Bits -/

def bitsOf (c : Char) : List Bool :=
  [7, 6, 5, 4, 3, 2, 1, 0].map fun place => c.toNat.testBit place

def ofBits (bits : List Bool) : Nat := bits.foldl (fun n bit => 2 * n + bit.toNat) 0

/-- Portions of bits, at most so many. The last one is filled with zeros. -/
def portions (size : Nat) : Nat → List Bool → List (List Bool)
  | 0, _ => []
  | most + 1, bits =>
    if bits.isEmpty then []
    else
      let portion := bits.take size
      (portion ++ List.replicate (size - portion.length) false) ::
        portions size most (bits.drop size)

/-! ## Writing and reading -/

/-- The bits of a byte in the order in which they are taken. -/
def bitsInOrder (a : Armor) (c : Char) : List Bool :=
  if a.backwards then (bitsOf c).reverse else bitsOf c

/-- The bytes that some bits make, without a rest that makes none, at most so many. -/
def bytesWithin (a : Armor) : Nat → List Bool → Octets
  | 0, _ => []
  | most + 1, bits =>
    if bits.length < 8 then []
    else
      let byte := bits.take 8
      Char.ofNat (ofBits (if a.backwards then byte.reverse else byte)) ::
        a.bytesWithin most (bits.drop 8)

def encode (a : Armor) (text : Octets) : Octets :=
  let bits := text.flatMap a.bitsInOrder
  let written := (portions a.bits bits.length bits).map fun portion =>
    (a.alphabet[ofBits portion]?).getD ' '
  let missing := (a.group - written.length % a.group) % a.group
  written ++ if a.isFilled then List.replicate missing mark else []

def bitsOfDigit? (a : Armor) (c : Char) : Option (List Bool) :=
  (a.alphabet.idxOf? c).map fun value =>
    (List.range a.bits).reverse.map fun place => value.testBit place

/-- The bytes that a group of digits stands for, and whether all is well with the group. -/
def decodeGroup (a : Armor) (group : Octets) : Octets × Bool :=
  let valid := group.takeWhile fun c => a.alphabet.contains c
  let bits := valid.flatMap fun c => (a.bitsOfDigit? c).getD []
  let isWhole := group.length = a.group
  let rest := group.drop valid.length
  let fits := a.isFilled && (a.bits * valid.length) % 8 < a.bits && 8 ≤ bits.length &&
    rest.all (· == mark)
  if isWhole || a.readsParts then
    (a.bytesWithin bits.length bits, isWhole && (rest.isEmpty || fits))
  else ([], false)

/-- The bytes that groups of digits stand for, up to the first mistake, and whether there is
none. -/
def decodeGroups (a : Armor) : List Octets → Octets × Bool
  | [] => ([], true)
  | group :: rest =>
    match a.decodeGroup group with
    | (bytes, false) => (bytes, false)
    | (bytes, true) =>
      let (others, isGood) := a.decodeGroups rest
      (bytes ++ others, isGood)

/-- The bytes that digits stand for, up to the first mistake, and whether there is none.
Newlines do not count. -/
def decode (a : Armor) (text : Octets) : Octets × Bool :=
  if text.any a.forbidden.contains then ([], false)
  else a.decodeGroups (Digest.pieces a.group (text.filter (· != '\n')))

end Armor

/-! ## Base 85 -/

namespace Armor85

def alphabet : Octets :=
  Armor.digits ++ Armor.letters.map Char.toLower ++ Armor.letters ++
    ".-:+=^!/*?&<>()[]\x7b\x7d@%$#".toList

def digitsOf : Nat → Nat → Octets
  | 0, _ => []
  | count + 1, n => digitsOf count (n / 85) ++ [(alphabet[n % 85]?).getD ' ']

/-- Bytes as digits, if they are in groups of four. -/
def encode (text : Octets) : Octets × Bool :=
  let whole := text.length % 4 = 0
  let groups := (Digest.pieces 4 text).filter fun piece => piece.length == 4
  (groups.flatMap fun piece => digitsOf 5 (Digest.Order.greatestFirst.number piece), whole)

/-- The bytes that groups of digits stand for, up to the first mistake. -/
def decodeGroups : List Octets → Octets × Bool
  | [] => ([], true)
  | group :: rest =>
    let values := group.filterMap alphabet.idxOf?
    let n := Octets.valueOf 85 values
    if values.length != 5 || 4294967296 ≤ n then ([], false)
    else
      let (others, isGood) := decodeGroups rest
      (Digest.Order.greatestFirst.bytes 4 n ++ others, isGood)

/-- The bytes that digits stand for. Newlines do not count. -/
def decode (text : Octets) : Octets × Bool :=
  decodeGroups (Digest.pieces 5 (text.filter (· != '\n')))

end Armor85

/-!
## Tools for armor

Tools that write bytes with few characters, in lines of some width, or read them back.
-/

namespace Tool

/-- A way to write bytes: what is written and read, and the characters that count. -/
structure ArmorKind where
  encode : Octets → Octets × Bool
  decode : Octets → Octets × Bool
  counts : Char → Bool

namespace ArmorKind

/-- The kind of a way that takes portions of bits. -/
def ofArmor (a : Armor) : ArmorKind where
  encode text := (a.encode text, true)
  decode := a.decode
  counts c := a.alphabet.contains c || (a.isFilled && c == Armor.mark)

def base85 : ArmorKind where
  encode := Armor85.encode
  decode := Armor85.decode
  counts c := Armor85.alphabet.contains c

end ArmorKind

/-- A text in lines of so many characters. With a width of nought it stays in one. -/
def inLines (width : Nat) (text : Octets) : Octets :=
  if width = 0 then text else Octets.unlines (Digest.pieces width text)

/-- The width of lines that an option says, if it says one. A width that is too large is no
limit. -/
def wrapWidth? (text : Octets) : Option Nat :=
  match Octets.integer? (text.dropWhile Octets.isSpace) with
  | some (.ofNat n) => some (if 9223372036854775807 < n then 0 else n)
  | _ => none

def armorWith (t : Task) (kind : ArmorKind) (a : Arguments) : Report :=
  match wrapWidth? ((a.value? 'w').getD "76".toList), a.operands with
  | none, _ =>
    t.fails ("invalid wrap size: ".toList ++ Octets.quoted ((a.value? 'w').getD [])) 1
  | some _, _ :: extra :: _ => t.refuses ("extra operand ".toList ++ Octets.quoted extra) 1
  | some width, operands =>
    let (sources, left) := t.sources operands
    match sources.find? fun s => s.contents.toOption.isNone with
    | some s =>
      match s.contents with
      | .error e =>
        let reason := if e = FileTree.isADirectory then "read error: ".toList ++ reasonOf e
          else Octets.asName s.name ++ ": ".toList ++ reasonOf e
        { errors := t.complaint reason, left, status := 1 }
      | .ok _ => { left }
    | none =>
      let text := Task.textOf sources
      let decodes := a.has 'd'
      let (output, isGood) :=
        if decodes then kind.decode (if a.has 'i' then text.filter kind.counts else text)
        else kind.encode text
      let message := if decodes then "invalid input"
        else "invalid input (length must be multiple of 4 characters)"
      if isGood then { output := if decodes then output else inLines width output, left }
      else
        { output := if decodes then output else []
          errors := t.complaint message.toList, left, status := 1 }

def armorWords : List (String × Char) :=
  [("decode", 'd'), ("wrap", 'w'), ("ignore-garbage", 'i')]

def armor (kind : Armor) : Tool := fun t =>
  t.withArguments { plain := "di", valued := "w", words := armorWords } 1
    (armorWith t (.ofArmor kind))

def armorKinds : List (Char × String × ArmorKind) :=
  [('1', "base64", .ofArmor .base64), ('2', "base64url", .ofArmor .base64url),
    ('3', "base32", .ofArmor .base32), ('4', "base32hex", .ofArmor .base32hex),
    ('5', "base16", .ofArmor .base16), ('6', "base2msbf", .ofArmor (.base2 false)),
    ('7', "base2lsbf", .ofArmor (.base2 true)), ('8', "z85", .base85)]

/-- Writes or reads bytes in a way that is asked for. -/
def anyArmor : Tool := fun t =>
  let words := armorKinds.map fun kind => (kind.2.1, kind.1)
  t.withArguments { plain := "di", valued := "w", words := armorWords ++ words } 1 fun a =>
    let asked := (a.options.reverse.filterMap fun option =>
      (armorKinds.lookup option.1).map (·.2)).head?
    match asked with
    | some kind => armorWith t kind a
    | none => t.refuses "missing encoding type".toList 1

end Tool

/-!
## Bytes as numbers

A tool that prints bytes as numbers or as characters, in blocks: each block on a line for
every way in which it is to be shown, with the place of the block in front. A block that is
the same as the one before it is only hinted at.
-/

namespace Dump

open Numeral

/-! ## What is shown -/

inductive Kind where
  | signed
  | unsigned
  | octal
  | hexadecimal
  | fraction
  /-- The name of a character, where the first bit does not count. -/
  | name
  | character
  deriving DecidableEq, Repr

structure Column where
  kind : Kind
  size : Nat
  /-- Whether the characters follow at the end of the line. -/
  trailer : Bool := false
  deriving DecidableEq, Repr

def names : List String :=
  ["nul", "soh", "stx", "etx", "eot", "enq", "ack", "bel", "bs", "ht", "nl", "vt", "ff", "cr",
    "so", "si", "dle", "dc1", "dc2", "dc3", "dc4", "nak", "syn", "etb", "can", "em", "sub", "esc",
    "fs", "gs", "rs", "us", "sp"]

def nameOf (c : Char) : Octets :=
  let n := c.toNat % 128
  if n = 127 then "del".toList
  else
    match names[n]? with
    | some name => name.toList
    | none => [Char.ofNat n]

/-- A character as itself, as an escape, or as a number. -/
def characterOf (c : Char) : Octets :=
  if c = '\x00' then ['\\', '0']
  else if '\x07' ≤ c ∧ c ≤ '\r' then '\\' :: Octets.escaped c
  else if Octets.isSeen c then [c]
  else Octets.escaped c

/-- The columns that numbers of some bytes can take at most. -/
def Column.width (c : Column) : Nat :=
  let greatest := (1 <<< (8 * c.size)) - 1
  match c.kind with
  | .signed => (Octets.ofNat ((greatest + 1) / 2)).length + 1
  | .unsigned => (Octets.ofNat greatest).length
  | .octal => (inBase 8 greatest).length
  | .hexadecimal => 2 * c.size
  | .fraction => if c.size = 4 then 15 else if c.size = 8 then 24 else 29
  | .name | .character => 3

def Column.shown (c : Column) (order : Digest.Order) (bytes : Octets) : Octets :=
  let n := order.number bytes
  match c.kind with
  | .signed =>
    let whole := 1 <<< (8 * c.size)
    Octets.ofInt (if 2 * n < whole then n else (n : Int) - whole)
  | .unsigned => Octets.ofNat n
  | .octal => Octets.padded c.width (inBase 8 n) '0'
  | .hexadecimal => Octets.padded c.width (inBase 16 n) '0'
  | .fraction =>
    let f := if c.size = 4 then FloatingPoint.single
      else if c.size = 8 then FloatingPoint.double else FloatingPoint.extended
    f.shortest (f.decode n)
  | .name => nameOf (bytes.headD '\x00')
  | .character => characterOf (bytes.headD '\x00')

/-! ## Types -/

inductive Mistake where
  | stray (c : Char)
  | noSuchSize (size : Nat) (what : String)
  | malformed

def Mistake.message (text : Octets) : Mistake → Octets
  | stray c => "invalid character '".toList ++ c :: "' in type string ".toList ++ Octets.quoted text
  | noSuchSize size what =>
    "invalid type string ".toList ++ Octets.quoted text ++ ";\nthis system doesn't provide a ".toList ++
      Octets.ofNat size ++ ("-byte " ++ what ++ " type").toList
  | malformed => "invalid type string ".toList ++ Octets.quoted text

/-- The size at the beginning of a text, and the rest. Letters stand for some sizes. -/
def sizeAt (letters : List (Char × Nat)) (usual : Nat) (sizes : List Nat) (what : String)
    (text : Octets) : Except Mistake (Nat × Octets) :=
  let digits := text.takeWhile Char.isDigit
  match text with
  | [] => .ok (usual, [])
  | c :: rest =>
    match letters.lookup c with
    | some size => .ok (size, rest)
    | none =>
      if digits.isEmpty then .ok (usual, text)
      else if sizes.contains (Octets.decimal digits) then
        .ok (Octets.decimal digits, text.drop digits.length)
      else .error (.noSuchSize (Octets.decimal digits) what)

def wholeSizes : List (Char × Nat) := [('C', 1), ('S', 2), ('I', 4), ('L', 8)]

/-- The first way to show a block that a text names, and the rest. -/
def columnAt : Octets → Except Mistake (Column × Octets)
  | [] => .error .malformed
  | c :: rest =>
    let whole (kind : Kind) : Except Mistake (Column × Octets) :=
      (sizeAt wholeSizes 4 [1, 2, 4, 8] "integral" rest).map fun (size, rest) =>
        ({ kind, size }, rest)
    match c with
    | 'd' => whole .signed
    | 'u' => whole .unsigned
    | 'o' => whole .octal
    | 'x' => whole .hexadecimal
    | 'f' =>
      (sizeAt [('F', 4), ('D', 8), ('L', 16)] 8 [4, 8, 16] "floating point" rest).map
        fun (size, rest) => ({ kind := .fraction, size }, rest)
    | 'a' => .ok ({ kind := .name, size := 1 }, rest)
    | 'c' => .ok ({ kind := .character, size := 1 }, rest)
    | c => .error (.stray c)

/-- The ways to show a block that a text names, at most so many. -/
def columnsWithin : Nat → Octets → Except Mistake (List Column)
  | 0, _ => .ok []
  | most + 1, text =>
    if text.isEmpty then .ok []
    else
      match columnAt text with
      | .error e => .error e
      | .ok (column, rest) =>
        let (column, rest) : Column × Octets := match rest with
          | 'z' :: rest => ({ column with trailer := true }, rest)
          | rest => (column, rest)
        (columnsWithin most rest).map (column :: ·)

/-- The ways to show a block that a text names. -/
def columns (text : Octets) : Except Mistake (List Column) := columnsWithin text.length text

def types : List (Char × String) :=
  [('a', "a"), ('b', "o1"), ('c', "c"), ('D', "u4"), ('d', "u2"), ('F', "fD"), ('e', "fD"),
    ('f', "fF"), ('H', "x4"), ('X', "x4"), ('i', "dI"), ('I', "dL"), ('L', "dL"), ('l', "dL"),
    ('O', "o4"), ('B', "o2"), ('o', "o2"), ('s', "d2"), ('h', "x2"), ('x', "x2")]

/-! ## Lines -/

/-- How places are shown: the base and the least number of digits. -/
structure Radix where
  base : Nat
  width : Nat
  deriving DecidableEq, Repr

def place (radix : Option Radix) (n : Nat) : Octets :=
  match radix with
  | some r => Octets.padded r.width (inBase r.base n) '0'
  | none => []

structure Manner where
  columns : List Column
  block : Nat
  radix : Option Radix
  order : Digest.Order
  all : Bool

namespace Manner

def width (m : Manner) : Nat :=
  m.columns.foldl (fun n c => max n ((c.width + 1) * (m.block / c.size))) 0

/-- The bytes that every way to show a block can end at. -/
def unit (m : Manner) : Nat := m.columns.foldl (fun n c => Nat.lcm n c.size) 1

/-- A block in one way. Blanks are shared out between the fields. -/
def line (m : Manner) (bytes : Octets) (c : Column) : Octets :=
  let fields := m.block / c.size
  let blank := (m.block - bytes.length) / c.size
  let extra := m.width - c.width * fields
  let padded := bytes ++ List.replicate (m.unit * ((bytes.length + m.unit - 1) / m.unit) -
    bytes.length) '\x00'
  let shown := ((Digest.pieces c.size padded).take (fields - blank)).zipIdx.flatMap
    fun (piece, k) =>
      let before := extra * (fields - k) / fields
      let behind := extra * (fields - k - 1) / fields
      Octets.padded (before - behind + c.width) (c.shown m.order piece)
  if c.trailer then
    shown ++ List.replicate (blank * c.width + extra * blank / fields) ' ' ++ "  >".toList ++
      bytes.map (fun c => if Octets.isSeen c then c else '.') ++ ['<']
  else shown

def shown (m : Manner) (offset : Nat) (bytes : Octets) : Octets :=
  let gap := List.replicate (m.radix.elim 0 Radix.width) ' '
  m.columns.zipIdx.flatMap fun (c, k) =>
    (if k = 0 then place m.radix offset else gap) ++ m.line bytes c ++ ['\n']

/-- Blocks, where the one before is known and `hinted` says that it was left out. -/
def blocks (m : Manner) (offset : Nat) (before : Option Octets) (hinted : Bool) :
    List Octets → Octets
  | [] => if m.radix.isSome then place m.radix offset ++ ['\n'] else []
  | bytes :: rest =>
    let repeated := !m.all && bytes.length = m.block && before == some bytes
    let text := if repeated then (if hinted then [] else ['*', '\n']) else m.shown offset bytes
    text ++ m.blocks (offset + bytes.length) (some bytes) repeated rest

end Manner

/-! ## Texts among bytes -/

/-- Texts of at least so many characters that end with a zero byte, each with its place.
`run` holds the characters read last, the last one first. -/
def textsIn (least : Nat) (offset : Nat) (run : Octets) : Octets → List (Nat × Octets)
  | [] => []
  | c :: rest =>
    if Octets.isSeen c then textsIn least (offset + 1) (c :: run) rest
    else
      let others := textsIn least (offset + 1) [] rest
      if c = '\x00' && least ≤ run.length then (offset - run.length, run.reverse) :: others
      else others

def shownText (radix : Option Radix) (entry : Nat × Octets) : Octets :=
  let front := if radix.isSome then place radix entry.1 ++ [' '] else []
  front ++ entry.2 ++ ['\n']

/-! ## Options -/

/-- A number of bytes, which may be written to base eight, ten or sixteen and have a unit. -/
def amount (text : Octets) : Except String Nat :=
  let (base, body) : Nat × Octets := match text with
    | '0' :: x :: rest =>
      if (x = 'x' ∨ x = 'X') ∧ (Octets.digitsOf 16 1 rest).length = 1 then (16, rest)
      else (8, text)
    | '0' :: _ => (8, text)
    | _ => (10, text)
  let digits := Octets.digitsOf base body.length body
  if digits.isEmpty then .error "invalid"
  else
    match Amount.unit? (body.drop digits.length) with
    | none => .error "invalid suffix in"
    | some unit =>
      let n := Octets.valueOf base digits * unit
      if n ≤ Amount.greatest then .ok n else .error "large"

/-- The number of bytes that an option says, or what is said about it. -/
def optionAmount (t : Task) (a : Arguments) (letter : Char) (word : String) :
    Except Octets (Option Nat) :=
  match a.value? letter with
  | none => .ok none
  | some [] => .ok none
  | some text =>
    let isLong := t.arguments.any fun w =>
      let name := (w.drop 2).takeWhile (· != '=')
      "--".toList.isPrefixOf w && !name.isEmpty && name.isPrefixOf word.toList
    let option := (if isLong then "--" ++ word else "-" ++ String.ofList [letter]).toList
    match amount text with
    | .ok n => .ok (some n)
    | .error "large" => .error (option ++ " argument ".toList ++ Octets.quoted text ++ " too large".toList)
    | .error reason =>
      .error (reason.toList ++ ' ' :: option ++ " argument ".toList ++ Octets.quoted text)

/-- An offset as an operand writes it, to base eight or sixteen, with a letter behind it for
blocks. -/
def offset? (text : Octets) : Option Nat :=
  let text := match text with
    | '+' :: rest => rest
    | text => text
  let (base, text) : Nat × Octets := match text with
    | '0' :: 'x' :: rest | '0' :: 'X' :: rest => (16, rest)
    | text => (8, text)
  let digits := Octets.digitsOf base text.length text
  let unit? : Option Nat := match text.drop digits.length with
    | [] => some 1
    | ['b'] => some 512
    | ['B'] => some 1024
    | _ => none
  if digits.isEmpty then none else unit?.map (· * Octets.valueOf base digits)

def radix? : Char → Option (Option Radix)
  | 'd' => some (some ⟨10, 7⟩)
  | 'o' => some (some ⟨8, 7⟩)
  | 'x' => some (some ⟨16, 6⟩)
  | 'n' => some none
  | _ => none

/-- The ways to show a block that options ask for, in order. -/
def asked (a : Arguments) : Except Octets (List Column) :=
  a.options.foldl (fun found (letter, value) =>
    match found with
    | .error e => .error e
    | .ok before =>
      let text := if letter = 't' then some value else (types.lookup letter).map String.toList
      match text with
      | none => .ok before
      | some text =>
        match columns text with
        | .ok more => .ok (before ++ more)
        | .error e => .error (e.message text)) (.ok [])

def orders : Choices Digest.Order := [(["little"], .leastFirst), (["big"], .greatestFirst)]

/-- What is wrong with arguments: whether a hint follows is said, too. -/
structure Refusal where
  message : Octets
  hinted : Bool := false

structure Request where
  skip : Nat
  most : Option Nat
  least : Option Nat
  width : Option Nat
  radix : Option Radix
  order : Digest.Order
  columns : List Column

def request (t : Task) (a : Arguments) : Except Refusal Request := do
  let plain {α : Type} (e : Except Octets α) : Except Refusal α :=
    e.mapError fun message => { message }
  let radix ← match a.value? 'A' with
    | none => pure (some ⟨8, 7⟩)
    | some value =>
      match radix? (value.headD ' ') with
      | some radix => pure radix
      | none => .error { message := "invalid output address radix '".toList ++ [value.headD ' '] ++
          "'; it must be one character from [doxn]".toList }
  let skip ← plain (optionAmount t a 'j' "skip-bytes")
  let most ← plain (optionAmount t a 'N' "read-bytes")
  let least ← plain (optionAmount t a 'S' "strings")
  let width ← plain (optionAmount t a 'w' "width")
  let order ← match a.value? 'E' with
    | none => pure Digest.Order.leastFirst
    | some name => (orders.chosen "--endian" name).mapError fun message =>
      { message, hinted := true }
  let columns ← plain (asked a)
  if a.has 'S' && !columns.isEmpty then
    .error { message := "no type may be specified when dumping strings".toList }
  else
    pure
      { skip := skip.getD 0, most, radix, order
        least := if a.has 'S' then some (least.getD 3) else none
        width := if a.has 'w' then some (width.getD 32) else none
        columns := if columns.isEmpty then [{ kind := .octal, size := 2 }] else columns }

/-- The operands without an offset at their end, and the offset. -/
def splitOperands (a : Arguments) : List Octets × Option Nat :=
  let modern := "AjNtvSwE".toList.any a.has
  if modern then (a.operands, none)
  else
    match a.operands with
    | [one] => if one.head? = some '+' then
        match offset? one with
        | some n => ([], some n)
        | none => ([one], none)
      else ([one], none)
    | [file, text] =>
      let c := text.headD ' '
      if c = '+' || c.isDigit then
        match offset? text with
        | some n => ([file], some n)
        | none => ([file, text], none)
      else ([file, text], none)
    | operands => (operands, none)

def dump : Tool := fun t =>
  t.withArguments
      { plain := "aBbcDdeFfHhIiLlOosvXx", valued := "AjNtSE", optional := "w", hidden := "E"
        words := [("skip-bytes", 'j'), ("address-radix", 'A'), ("read-bytes", 'N'), ("format", 't'),
          ("output-duplicates", 'v'), ("strings", 'S'), ("traditional", 'T'), ("width", 'w'),
          ("endian", 'E')] } 1 fun a =>
    match request t a with
    | .error r => if r.hinted then t.refuses r.message 1 else t.fails r.message 1
    | .ok r =>
      let (operands, offset) := splitOperands a
      let skip := offset.getD r.skip
      let (sources, left) := t.sources operands
      let errors := t.complaints sources Task.plainly
      let status := if errors.isEmpty then 0 else 1
      let text := Task.textOf sources
      let rest := text.drop skip
      let taken := match r.most with
        | some n => rest.take n
        | none => rest
      -- With a limit nothing behind it is read.
      let left := match left, r.most with
        | none, some n => if r.least.isNone then some (t.input.drop (skip + n)) else none
        | left, _ => left
      if sources.all fun s => s.contents.toOption.isNone then { errors, left, status := 1 }
      else if text.length < skip then
        { errors := errors ++ t.complaint "cannot skip past end of combined input".toList
          left, status := 1 }
      else
        match r.least with
        | some least =>
          { output := (textsIn least skip [] taken).flatMap (shownText r.radix), errors, left, status }
        | none =>
          let m : Manner :=
            { columns := r.columns, block := 16, radix := r.radix, order := r.order, all := a.has 'v' }
          let usual := if m.unit < 16 then m.unit * (16 / m.unit) else m.unit
          let (block, warning) : Nat × Octets := match r.width with
            | none => (usual, [])
            | some n =>
              if n != 0 && n % m.unit = 0 then (n, [])
              else (m.unit, t.complaint ("warning: invalid width ".toList ++ Octets.ofNat n ++
                "; using ".toList ++ Octets.ofNat m.unit ++ " instead".toList))
          { output := { m with block }.blocks skip none false (Digest.pieces block taken)
            errors := warning ++ errors, left, status }

end Dump

end CommandChains.Machine
