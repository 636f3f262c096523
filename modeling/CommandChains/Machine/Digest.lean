import CommandChains.Machine.Octets

/-!
# Blocks of words

A digest takes a text in blocks of words. Behind the text stand a one bit and the number
of its bits, and zero bits between them so that the last block is full.
-/

namespace CommandChains.Machine.Digest

/-- Whether the first byte of a word counts most or least. -/
inductive Order where
  | greatestFirst
  | leastFirst
  deriving DecidableEq, Repr

def Order.number (o : Order) (bytes : Octets) : Nat :=
  let inOrder := match o with
    | .greatestFirst => bytes
    | .leastFirst => bytes.reverse
  Octets.valueOf 256 (inOrder.map Char.toNat)

/-- The last bytes of a number, so many of them, in the order of what they count. -/
def leastBytes : Nat → Nat → Octets
  | 0, _ => []
  | count + 1, n => Char.ofNat (n % 256) :: leastBytes count (n / 256)

def Order.bytes (o : Order) (count n : Nat) : Octets :=
  match o with
  | .greatestFirst => (leastBytes count n).reverse
  | .leastFirst => leastBytes count n

/-- Pieces of a text that are so long, at most so many of them. The last one may be
shorter. -/
def piecesWithin (size : Nat) : Nat → Octets → List Octets
  | 0, _ => []
  | most + 1, text =>
    if text.isEmpty then [] else text.take size :: piecesWithin size most (text.drop size)

def pieces (size : Nat) (text : Octets) : List Octets := piecesWithin size text.length text

def wordsOf (o : Order) (width : Nat) (text : Octets) : List (BitVec width) :=
  (pieces (width / 8) text).map fun piece => BitVec.ofNat width (o.number piece)

/-- The zero bytes that are needed so that a text of this length, with one byte more and
the length in `tail` bytes, fills blocks. -/
def gap (block tail length : Nat) : Nat :=
  (block - (length + 1 + tail) % block) % block

def padded (o : Order) (block tail : Nat) (text : Octets) : Octets :=
  text ++ '\x80' :: List.replicate (gap block tail text.length) '\x00' ++
    o.bytes tail (8 * text.length)

def blocks (o : Order) (width block tail : Nat) (text : Octets) : List (List (BitVec width)) :=
  (pieces block (padded o block tail text)).map (wordsOf o width)

def ofWords (o : Order) {width : Nat} (words : List (BitVec width)) : Octets :=
  words.flatMap fun word => o.bytes (width / 8) word.toNat

def hexDigit (n : Nat) : Char :=
  if n < 10 then Char.ofNat ('0'.toNat + n) else Char.ofNat ('a'.toNat + n - 10)

def hex (bytes : Octets) : Octets :=
  bytes.flatMap fun c => [hexDigit (c.toNat / 16), hexDigit (c.toNat % 16)]

def at_ {width : Nat} (words : List (BitVec width)) (place : Nat) : BitVec width :=
  (words[place]?).getD 0

/-!
## Sums of texts

Short sums that tell whether a text has changed by accident: the remainder of the text as
a polynomial, and two sums of bytes.
-/

def shiftIn (remainder : BitVec 32) (bit : Bool) : BitVec 32 :=
  let moved := remainder <<< 1
  if (remainder.msb != bit) then moved ^^^ 0x04c11db7 else moved

def remainderWith (remainder : BitVec 32) (c : Char) : BitVec 32 :=
  [7, 6, 5, 4, 3, 2, 1, 0].foldl (fun r place => shiftIn r (c.toNat.testBit place)) remainder

/-- The bytes of a number from the least one, without zeros at the end. -/
def lengthBytes (n : Nat) : Octets :=
  ((Order.leastFirst.bytes 8 n).reverse.dropWhile (· == '\x00')).reverse

def remainder (text : Octets) : Nat :=
  (~~~((text ++ lengthBytes text.length).foldl remainderWith 0)).toNat

/-- The sum of all bytes, which is turned by one bit before each byte. -/
def turningSum (text : Octets) : Nat :=
  (text.foldl (fun (sum : BitVec 16) c => sum.rotateRight 1 + BitVec.ofNat 16 c.toNat) 0).toNat

def plainSum (text : Octets) : Nat :=
  let all := text.foldl (fun n c => n + c.toNat) 0 % 4294967296
  let once := all % 65536 + all / 65536
  once % 65536 + once / 65536

/-!
## Digests of many rounds

Digests that mix a few words with the words of one block after the other, in many rounds.
-/

/-!
## The digest MD5

Four words are mixed with the words of a block in 64 steps. Each step adds a word of the
block and a constant, and turns the sum.
-/

namespace Md5

structure State where
  a : BitVec 32
  b : BitVec 32
  c : BitVec 32
  d : BitVec 32
  deriving DecidableEq, Repr

def start : State := ⟨0x67452301, 0xefcdab89, 0x98badcfe, 0x10325476⟩

/-- What is added in each step: the first bits of the sines of 1, 2, and so on. -/
def constants : List (BitVec 32) :=
  [0xd76aa478, 0xe8c7b756, 0x242070db, 0xc1bdceee, 0xf57c0faf, 0x4787c62a, 0xa8304613, 0xfd469501,
    0x698098d8, 0x8b44f7af, 0xffff5bb1, 0x895cd7be, 0x6b901122, 0xfd987193, 0xa679438e, 0x49b40821,
    0xf61e2562, 0xc040b340, 0x265e5a51, 0xe9b6c7aa, 0xd62f105d, 0x02441453, 0xd8a1e681, 0xe7d3fbc8,
    0x21e1cde6, 0xc33707d6, 0xf4d50d87, 0x455a14ed, 0xa9e3e905, 0xfcefa3f8, 0x676f02d9, 0x8d2a4c8a,
    0xfffa3942, 0x8771f681, 0x6d9d6122, 0xfde5380c, 0xa4beea44, 0x4bdecfa9, 0xf6bb4b60, 0xbebfbc70,
    0x289b7ec6, 0xeaa127fa, 0xd4ef3085, 0x04881d05, 0xd9d4d039, 0xe6db99e5, 0x1fa27cf8, 0xc4ac5665,
    0xf4292244, 0x432aff97, 0xab9423a7, 0xfc93a039, 0x655b59c3, 0x8f0ccc92, 0xffeff47d, 0x85845dd1,
    0x6fa87e4f, 0xfe2ce6e0, 0xa3014314, 0x4e0811a1, 0xf7537e82, 0xbd3af235, 0x2ad7d2bb, 0xeb86d391]

def turn (step : Nat) : Nat :=
  let turns := match step / 16 with
    | 0 => [7, 12, 17, 22]
    | 1 => [5, 9, 14, 20]
    | 2 => [4, 11, 16, 23]
    | _ => [6, 10, 15, 21]
  (turns[step % 4]?).getD 0

def step (block : List (BitVec 32)) (s : State) (entry : BitVec 32 × Nat) : State :=
  let (constant, n) := entry
  let (mixed, place) := match n / 16 with
    | 0 => ((s.b &&& s.c) ||| (~~~s.b &&& s.d), n)
    | 1 => ((s.d &&& s.b) ||| (~~~s.d &&& s.c), 5 * n + 1)
    | 2 => (s.b ^^^ s.c ^^^ s.d, 3 * n + 5)
    | _ => (s.c ^^^ (s.b ||| ~~~s.d), 7 * n)
  let sum := s.a + mixed + constant + at_ block (place % 16)
  ⟨s.d, s.b + sum.rotateLeft (turn n), s.b, s.c⟩

def mix (s : State) (block : List (BitVec 32)) : State :=
  let mixed := constants.zipIdx.foldl (step block) s
  ⟨s.a + mixed.a, s.b + mixed.b, s.c + mixed.c, s.d + mixed.d⟩

def digest (text : Octets) : Octets :=
  let s := (blocks .leastFirst 32 64 8 text).foldl mix start
  ofWords .leastFirst [s.a, s.b, s.c, s.d]

end Md5

/-!
## The digest SHA-1

Five words are mixed with 80 words that follow from those of a block: each one from four
of the 16 before it.
-/

namespace Sha1

structure State where
  a : BitVec 32
  b : BitVec 32
  c : BitVec 32
  d : BitVec 32
  e : BitVec 32
  deriving DecidableEq, Repr

def start : State := ⟨0x67452301, 0xefcdab89, 0x98badcfe, 0x10325476, 0xc3d2e1f0⟩

/-- The words of a block that come next, when the first of them has been used. -/
def further (words : List (BitVec 32)) : List (BitVec 32) :=
  words.drop 1 ++
    [(at_ words 13 ^^^ at_ words 8 ^^^ at_ words 2 ^^^ at_ words 0).rotateLeft 1]

def step (entry : State × List (BitVec 32)) (n : Nat) : State × List (BitVec 32) :=
  let (s, words) := entry
  let (mixed, constant) : BitVec 32 × BitVec 32 := match n / 20 with
    | 0 => ((s.b &&& s.c) ||| (~~~s.b &&& s.d), 0x5a827999)
    | 1 => (s.b ^^^ s.c ^^^ s.d, 0x6ed9eba1)
    | 2 => ((s.b &&& s.c) ||| (s.b &&& s.d) ||| (s.c &&& s.d), 0x8f1bbcdc)
    | _ => (s.b ^^^ s.c ^^^ s.d, 0xca62c1d6)
  (⟨s.a.rotateLeft 5 + mixed + s.e + constant + at_ words 0, s.a, s.b.rotateLeft 30, s.c, s.d⟩,
    further words)

def mix (s : State) (block : List (BitVec 32)) : State :=
  let mixed := ((List.range 80).foldl step (s, block)).1
  ⟨s.a + mixed.a, s.b + mixed.b, s.c + mixed.c, s.d + mixed.d, s.e + mixed.e⟩

def digest (text : Octets) : Octets :=
  let s := (blocks .greatestFirst 32 64 8 text).foldl mix start
  ofWords .greatestFirst [s.a, s.b, s.c, s.d, s.e]

end Sha1

/-!
## The digests of SHA-2

Eight words are mixed with words that follow from those of a block. The constants are the
first bits behind the point of the square roots and of the cube roots of primes, so that
nobody has chosen them. Words have 32 or 64 bits.
-/

namespace Sha2

/-! ## Constants -/

/-- The next primes from a number on, at most so many numbers being looked at. -/
def primesFrom : Nat → Nat → List Nat
  | 0, _ => []
  | most + 1, n =>
    let isPrime := (List.range n).all fun d => d < 2 || n % d != 0
    if isPrime then n :: primesFrom most (n + 1) else primesFrom most (n + 1)

def primes : List Nat := primesFrom 408 2

/-- The greatest number below `low + 2 ^ bits` whose value does not exceed a limit, if that
of `low` does not. -/
def greatest (value : Nat → Nat) (limit : Nat) : Nat → Nat → Nat
  | 0, low => low
  | bits + 1, low =>
    let middle := low + (1 <<< bits)
    greatest value limit bits (if value middle ≤ limit then middle else low)

/-- The first bits behind the point of the square root of a number. -/
def squareRootBits (bits n : Nat) : Nat :=
  greatest (fun x => x * x) (n <<< (2 * bits)) (bits + 10) 0 % (1 <<< bits)

/-- The first bits behind the point of the cube root of a number. -/
def cubeRootBits (bits n : Nat) : Nat :=
  greatest (fun x => x * x * x) (n <<< (3 * bits)) (bits + 10) 0 % (1 <<< bits)

/-! ## Mixing -/

structure State (width : Nat) where
  a : BitVec width
  b : BitVec width
  c : BitVec width
  d : BitVec width
  e : BitVec width
  f : BitVec width
  g : BitVec width
  h : BitVec width
  deriving DecidableEq, Repr

def State.ofList {width : Nat} (words : List (BitVec width)) : State width :=
  ⟨at_ words 0, at_ words 1, at_ words 2, at_ words 3, at_ words 4, at_ words 5, at_ words 6,
    at_ words 7⟩

def State.toList {width : Nat} (s : State width) : List (BitVec width) :=
  [s.a, s.b, s.c, s.d, s.e, s.f, s.g, s.h]

structure Family (width : Nat) where
  constants : List (BitVec width)
  first : Nat × Nat × Nat
  fifth : Nat × Nat × Nat
  /-- How far a word of the block is turned twice and moved. -/
  second : Nat × Nat × Nat
  last : Nat × Nat × Nat

def turned {width : Nat} (by_ : Nat × Nat × Nat) (x : BitVec width) : BitVec width :=
  x.rotateRight by_.1 ^^^ x.rotateRight by_.2.1 ^^^ x.rotateRight by_.2.2

def moved {width : Nat} (by_ : Nat × Nat × Nat) (x : BitVec width) : BitVec width :=
  x.rotateRight by_.1 ^^^ x.rotateRight by_.2.1 ^^^ (x >>> by_.2.2)

def step {width : Nat} (family : Family width) (entry : State width × List (BitVec width))
    (constant : BitVec width) : State width × List (BitVec width) :=
  let (s, words) := entry
  let choice := (s.e &&& s.f) ^^^ (~~~s.e &&& s.g)
  let majority := (s.a &&& s.b) ^^^ (s.a &&& s.c) ^^^ (s.b &&& s.c)
  let sum := s.h + turned family.fifth s.e + choice + constant + at_ words 0
  let next := moved family.last (at_ words 14) + at_ words 9 +
    moved family.second (at_ words 1) + at_ words 0
  (⟨sum + turned family.first s.a + majority, s.a, s.b, s.c, s.d + sum, s.e, s.f, s.g⟩,
    words.drop 1 ++ [next])

def mix {width : Nat} (family : Family width) (s : State width) (block : List (BitVec width)) :
    State width :=
  let mixed := (family.constants.foldl (step family) (s, block)).1
  .ofList (s.toList.zipWith (· + ·) mixed.toList)

def family32 : Family 32 where
  constants := (primes.take 64).map fun p => BitVec.ofNat 32 (cubeRootBits 32 p)
  first := (2, 13, 22)
  fifth := (6, 11, 25)
  second := (7, 18, 3)
  last := (17, 19, 10)

def family64 : Family 64 where
  constants := (primes.take 80).map fun p => BitVec.ofNat 64 (cubeRootBits 64 p)
  first := (28, 34, 39)
  fifth := (14, 18, 41)
  second := (1, 8, 7)
  last := (19, 61, 6)

def laterPrimes : List Nat := (primes.drop 8).take 8

def start512 : List (BitVec 64) :=
  (primes.take 8).map fun p => BitVec.ofNat 64 (squareRootBits 64 p)

/-- The digest with words of 32 bits, which begins with some words and gives so many
bytes. -/
def digest32 (start : List (BitVec 32)) (bytes : Nat) (text : Octets) : Octets :=
  let s := (blocks .greatestFirst 32 64 8 text).foldl (mix family32) (.ofList start)
  (ofWords .greatestFirst s.toList).take bytes

/-- The digest with words of 64 bits, which begins with some words and gives so many
bytes. -/
def digest64 (start : List (BitVec 64)) (bytes : Nat) (text : Octets) : Octets :=
  let s := (blocks .greatestFirst 64 128 16 text).foldl (mix family64) (.ofList start)
  (ofWords .greatestFirst s.toList).take bytes

def digest224 : Octets → Octets :=
  digest32 (laterPrimes.map fun p => BitVec.ofNat 32 (squareRootBits 64 p)) 28

def digest256 : Octets → Octets :=
  digest32 ((primes.take 8).map fun p => BitVec.ofNat 32 (squareRootBits 32 p)) 32

def digest384 : Octets → Octets :=
  digest64 (laterPrimes.map fun p => BitVec.ofNat 64 (squareRootBits 64 p)) 48

def digest512 : Octets → Octets := digest64 start512 64

end Sha2

/-!
## The digest SM3

Eight words are mixed with words that follow from those of a block, in 64 steps. Two words
of the block go into each step.
-/

namespace Sm3

open Sha2 (State)

def start : State 32 :=
  ⟨0x7380166f, 0x4914b2b9, 0x172442d7, 0xda8a0600, 0xa96f30bc, 0x163138aa, 0xe38dee4d, 0xb0fb0e4e⟩

/-- A word mixed with itself turned two ways. -/
def spread (by_ : Nat × Nat) (x : BitVec 32) : BitVec 32 :=
  x ^^^ x.rotateLeft by_.1 ^^^ x.rotateLeft by_.2

/-- The words of a block that come next, when the first of them has been used. -/
def further (words : List (BitVec 32)) : List (BitVec 32) :=
  let mixed := at_ words 0 ^^^ at_ words 7 ^^^ (at_ words 13).rotateLeft 15
  words.drop 1 ++ [spread (15, 23) mixed ^^^ (at_ words 3).rotateLeft 7 ^^^ at_ words 10]

def step (entry : State 32 × List (BitVec 32)) (n : Nat) : State 32 × List (BitVec 32) :=
  let (s, words) := entry
  let early := n < 16
  let constant : BitVec 32 := if early then 0x79cc4519 else 0x7a879d8a
  let turned := s.a.rotateLeft 12
  let first := (turned + s.e + constant.rotateLeft (n % 32)).rotateLeft 7
  let second := first ^^^ turned
  let majority := if early then s.a ^^^ s.b ^^^ s.c
    else (s.a &&& s.b) ||| (s.a &&& s.c) ||| (s.b &&& s.c)
  let choice := if early then s.e ^^^ s.f ^^^ s.g else (s.e &&& s.f) ||| (~~~s.e &&& s.g)
  let one := majority + s.d + second + (at_ words 0 ^^^ at_ words 4)
  let two := choice + s.h + first + at_ words 0
  (⟨one, s.a, s.b.rotateLeft 9, s.c, spread (9, 17) two, s.e, s.f.rotateLeft 19, s.g⟩,
    further words)

def mix (s : State 32) (block : List (BitVec 32)) : State 32 :=
  let mixed := ((List.range 64).foldl step (s, block)).1
  .ofList (s.toList.zipWith (· ^^^ ·) mixed.toList)

def digest (text : Octets) : Octets :=
  ofWords .greatestFirst ((blocks .greatestFirst 32 64 8 text).foldl mix start).toList

end Sm3

/-!
## The digest BLAKE2b

Sixteen words are mixed in twelve rounds, by columns and by diagonals. The digest can be
as short as one byte; its length goes into it.
-/

namespace Blake2

/-- The order in which a round takes the words of a block. -/
def orders : List (List Nat) :=
  [[0, 1, 2, 3, 4, 5, 6, 7, 8, 9, 10, 11, 12, 13, 14, 15],
    [14, 10, 4, 8, 9, 15, 13, 6, 1, 12, 0, 2, 11, 7, 5, 3],
    [11, 8, 12, 0, 5, 2, 15, 13, 10, 14, 3, 6, 7, 1, 9, 4],
    [7, 9, 3, 1, 13, 12, 11, 14, 2, 6, 5, 10, 4, 0, 15, 8],
    [9, 0, 5, 7, 2, 4, 10, 15, 14, 1, 11, 12, 6, 8, 3, 13],
    [2, 12, 6, 10, 0, 11, 8, 3, 4, 13, 7, 5, 15, 14, 1, 9],
    [12, 5, 1, 15, 14, 13, 4, 10, 0, 7, 6, 3, 9, 2, 8, 11],
    [13, 11, 7, 14, 12, 1, 3, 9, 5, 0, 15, 4, 8, 6, 2, 10],
    [6, 15, 14, 9, 11, 3, 0, 8, 12, 2, 13, 7, 1, 4, 10, 5],
    [10, 2, 8, 4, 7, 6, 1, 5, 15, 11, 9, 14, 3, 12, 13, 0]]

/-- The places of the words that are mixed with one another: columns, then diagonals. -/
def groups : List (Nat × Nat × Nat × Nat) :=
  [(0, 4, 8, 12), (1, 5, 9, 13), (2, 6, 10, 14), (3, 7, 11, 15),
    (0, 5, 10, 15), (1, 6, 11, 12), (2, 7, 8, 13), (3, 4, 9, 14)]

def mixGroup (words : List (BitVec 64)) (group : Nat × Nat × Nat × Nat) (x y : BitVec 64) :
    List (BitVec 64) :=
  let (i, j, k, l) := group
  let a := at_ words i + at_ words j + x
  let d := (at_ words l ^^^ a).rotateRight 32
  let c := at_ words k + d
  let b := (at_ words j ^^^ c).rotateRight 24
  let a := a + b + y
  let d := (d ^^^ a).rotateRight 16
  let c := c + d
  let b := (b ^^^ c).rotateRight 63
  (((words.set i a).set j b).set k c).set l d

def round (block : List (BitVec 64)) (words : List (BitVec 64)) (order : List Nat) :
    List (BitVec 64) :=
  groups.zipIdx.foldl (fun words (group, n) =>
    let word (place : Nat) : BitVec 64 := at_ block ((order[place]?).getD 0)
    mixGroup words group (word (2 * n)) (word (2 * n + 1))) words

/-- Mixes a block into eight words, where `taken` is how many bytes have been taken with it
and `isLast` says that no more follow. -/
def mix (taken : Nat) (isLast : Bool) (state block : List (BitVec 64)) : List (BitVec 64) :=
  let before := Sha2.start512
  let words := state ++ before.take 4 ++
    [at_ before 4 ^^^ BitVec.ofNat 64 taken, at_ before 5,
      if isLast then ~~~at_ before 6 else at_ before 6, at_ before 7]
  let words := (orders ++ orders.take 2).foldl (round block) words
  (state.zipWith (· ^^^ ·) words).zipWith (· ^^^ ·) (words.drop 8)

/-- Mixes all blocks into eight words, where so many bytes have been taken before. -/
def mixAll (taken : Nat) : List Octets → List (BitVec 64) → List (BitVec 64)
  | [], state => state
  | piece :: rest, state =>
    let taken := taken + piece.length
    let full := piece ++ List.replicate (128 - piece.length) '\x00'
    mixAll taken rest (mix taken rest.isEmpty state (wordsOf .leastFirst 64 full))

def digest (bytes : Nat) (text : Octets) : Octets :=
  let start := match Sha2.start512 with
    | first :: others => (first ^^^ BitVec.ofNat 64 (0x01010000 + bytes)) :: others
    | [] => []
  let all := if text.isEmpty then [[]] else pieces 128 text
  (ofWords .leastFirst (mixAll 0 all start)).take bytes

end Blake2

end CommandChains.Machine.Digest
