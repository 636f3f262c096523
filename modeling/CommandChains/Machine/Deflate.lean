import CommandChains.Machine.Octets

/-!
# Codes of packed texts

A packed text is a row of bits in blocks. In a block, characters, lengths of repetitions and
distances have codes of as many bits as their frequency suggests; the codes follow from their
lengths. Here stand the codes, and how a packed text is read.
-/

namespace CommandChains.Machine.Deflate

/-! ## Bits -/

abbrev Bits := List Bool

def lowFirst : Nat → Nat → Bits
  | 0, _ => []
  | width + 1, n => (n % 2 == 1) :: lowFirst width (n / 2)

def highFirst (width n : Nat) : Bits := (lowFirst width n).reverse

def valueOf : Bits → Nat
  | [] => 0
  | b :: rest => (if b then 1 else 0) + 2 * valueOf rest

def bitsOf (text : Octets) : Bits := text.flatMap fun c => lowFirst 8 c.toNat

/-- The text that some bits make. What is missing at the end counts as zeros. -/
def octetsOf : Bits → Octets
  | a :: b :: c :: d :: e :: f :: g :: h :: rest =>
    Char.ofNat (valueOf [a, b, c, d, e, f, g, h]) :: octetsOf rest
  | [] => []
  | rest => [Char.ofNat (valueOf rest)]

def number (width n : Nat) : Octets := octetsOf (lowFirst (8 * width) n)

/-! ## Lengths and distances -/

def shortest : Nat := 3

def longest : Nat := 258

def blockEnd : Nat := 256

/-- The least values of codes that have so many further bits. -/
def bases (first : Nat) : List Nat → List (Nat × Nat)
  | [] => []
  | extra :: rest => (first, extra) :: bases (first + Nat.pow 2 extra) rest

/-- Lengths of repetitions: for each symbol behind the one that ends a block the least length and
the number of further bits. -/
def lengthCodes : List (Nat × Nat) :=
  bases shortest [0, 0, 0, 0, 0, 0, 0, 0, 1, 1, 1, 1, 2, 2, 2, 2, 3, 3, 3, 3, 4, 4, 4, 4,
    5, 5, 5, 5] ++ [(longest, 0)]

/-- Distances: for each symbol the least distance and the number of further bits. -/
def distanceCodes : List (Nat × Nat) :=
  bases 1 [0, 0, 0, 0, 1, 1, 2, 2, 3, 3, 4, 4, 5, 5, 6, 6, 7, 7, 8, 8, 9, 9, 10, 10, 11, 11,
    12, 12, 13, 13]

/-- The place of the last entry that is not beyond a value. -/
def placeOf (table : List (Nat × Nat)) (value : Nat) : Nat :=
  (table.takeWhile fun entry => decide (entry.1 ≤ value)).length - 1

/-- The order in which the lengths of the codes for lengths of codes are written. -/
def lengthOrder : List Nat :=
  [16, 17, 18, 0, 8, 7, 9, 6, 10, 5, 11, 4, 12, 3, 13, 2, 14, 1, 15]

/-- The lengths of the codes for symbols that need not be written. -/
def fixedLengths : List Nat :=
  List.replicate 144 8 ++ List.replicate 112 9 ++ List.replicate 24 7 ++ List.replicate 8 8

/-- The lengths of the codes for distances that need not be written. -/
def fixedDistances : List Nat := List.replicate 30 5

/-! ## Codes from their lengths -/

def lengthLimit : Nat := 15

def counts (lengths : List Nat) : List Nat :=
  (List.range lengthLimit).map fun n => lengths.count (n + 1)

/-- The first code of each length, where `code` is the one that would come next. -/
def firstCodes (code : Nat) : List Nat → List Nat
  | [] => []
  | count :: rest => code :: firstCodes (2 * (code + count)) rest

/-- The codes of all symbols from the lengths: those of one length follow each other. A symbol
without a code has no bits. -/
def codesOf (lengths : List Nat) : Array Bits :=
  let rec go (next : Array Nat) : List Nat → List Bits
    | [] => []
    | 0 :: rest => [] :: go next rest
    | length :: rest =>
      let code := (next[length - 1]?).getD 0
      highFirst length code :: go (next.setIfInBounds (length - 1) (code + 1)) rest
  (go (firstCodes 0 (counts lengths)).toArray lengths).toArray

/-- What codes are read with: how many have each length, and the symbols in their order. -/
structure Decoder where
  counts : List Nat
  symbols : Array Nat

/-- What is left of the room for codes when those of each length have been given away, or nothing
if there are too many. -/
def roomLeft : Nat → List Nat → Option Nat
  | room, [] => some room
  | room, count :: rest =>
    if 2 * room < count then none else roomLeft (2 * room - count) rest

/-- The decoder for codes of these lengths. The codes have to use up the room unless none is
longer than a bit. -/
def decoder? (lengths : List Nat) : Option Decoder :=
  let counts := counts lengths
  let short := (counts.drop 1).all (· == 0)
  match roomLeft 1 counts with
  | none => none
  | some left =>
    if left != 0 && !short then none
    else
      let ofLength (length : Nat) : List Nat :=
        (lengths.zipIdx.filter fun entry => entry.1 == length).map (·.2)
      some { counts
             symbols := ((List.range lengthLimit).flatMap fun n => ofLength (n + 1)).toArray }

/-! ## Reading -/

inductive Flaw where
  | ended
  | broken
  deriving DecidableEq, Repr

structure Unpacking where
  bits : Bits
  /-- Where in a byte the first of the bits stands. -/
  offset : Nat := 0
  text : Array Char := #[]

abbrev Inflate := ExceptT Flaw (StateM Unpacking)

namespace Inflate

def bit : Inflate Bool := do
  let s ← get
  match s.bits with
  | [] => throw .ended
  | b :: bits =>
    set { s with bits, offset := (s.offset + 1) % 8 }
    pure b

def take : Nat → Inflate Nat
  | 0 => pure 0
  | width + 1 => do
    let b ← bit
    let rest ← take width
    pure ((if b then 1 else 0) + 2 * rest)

/-- Takes a code, where `code` has been read, `first` is the first code of its length and `index`
the place of its symbol. -/
def symbol (symbols : Array Nat) (code first index : Nat) : List Nat → Inflate Nat
  | [] => throw .broken
  | count :: rest => do
    let code := code + if ← bit then 1 else 0
    if code < first + count then
      pure ((symbols[index + code - first]?).getD 0)
    else
      symbol symbols (2 * code) (2 * (first + count)) (index + count) rest

def decode (d : Decoder) : Inflate Nat := symbol d.symbols 0 0 0 d.counts

def put (c : Char) : Inflate Unit := modify fun s => { s with text := s.text.push c }

def repeated (distance : Nat) : Nat → Inflate Unit
  | 0 => pure ()
  | count + 1 => do
    let s ← get
    put ((s.text[s.text.size - distance]?).getD '\x00')
    repeated distance count

def entry (table : List (Nat × Nat)) (place : Nat) : Inflate Nat := do
  match table[place]? with
  | none => throw .broken
  | some (base, extra) => do pure (base + (← take extra))

/-- Takes what the codes of a block stand for. Each round takes at least one bit. -/
def content (symbols distances : Decoder) : Nat → Inflate Unit
  | 0 => throw .ended
  | rounds + 1 => do
    let s ← decode symbols
    if s = blockEnd then pure ()
    else if s < blockEnd then
      put (Char.ofNat s)
      content symbols distances rounds
    else
      let length ← entry lengthCodes (s - blockEnd - 1)
      let distance ← entry distanceCodes (← decode distances)
      if (← get).text.size < distance then throw .broken
      repeated distance length
      content symbols distances rounds

def stored : Nat → Inflate Unit
  | 0 => pure ()
  | count + 1 => do
    put (Char.ofNat (← take 8))
    stored count

def align : Inflate Unit := do
  let offset := (← get).offset
  let _ ← take ((8 - offset) % 8)

/-- Takes so many lengths of codes. Each round takes at least one. -/
def lengths (d : Decoder) (wanted : Nat) : Nat → List Nat → Inflate (List Nat)
  | 0, sofar => pure sofar
  | rounds + 1, sofar => do
    if wanted ≤ sofar.length then pure sofar
    else
      let s ← decode d
      let again (value times : Nat) : Inflate (List Nat) :=
        if wanted < sofar.length + times then throw .broken
        else lengths d wanted rounds (sofar ++ List.replicate times value)
      match s with
      | 16 => do again (sofar.getLastD 0) (3 + (← take 2))
      | 17 => do again 0 (3 + (← take 3))
      | 18 => do again 0 (11 + (← take 7))
      | length => again length 1

def triples : Nat → Inflate (List Nat)
  | 0 => pure []
  | count + 1 => do
    let first ← take 3
    pure (first :: (← triples count))

/-- The decoder for codes of these lengths, which have to be right. -/
def decoderOf (lengths : List Nat) : Inflate Decoder :=
  match decoder? lengths with
  | some d => pure d
  | none => throw .broken

def ownBlock (rounds : Nat) : Inflate Unit := do
  let symbolCount := 257 + (← take 5)
  let distanceCount := 1 + (← take 5)
  let orderCount := 4 + (← take 4)
  if 286 < symbolCount || 30 < distanceCount then throw .broken
  let written := lengthOrder.zip (← triples orderCount)
  let d ← decoderOf ((List.range 19).map fun n => (written.lookup n).getD 0)
  let all ← lengths d (symbolCount + distanceCount) (symbolCount + distanceCount) []
  let symbols ← decoderOf (all.take symbolCount)
  let distances ← decoderOf (all.drop symbolCount)
  content symbols distances rounds

/-- Takes a block. Says whether it is the last one. -/
def block (rounds : Nat) : Inflate Bool := do
  let isLast ← bit
  match ← take 2 with
  | 0 => do
    align
    let size ← take 16
    let check ← take 16
    if size + check != 65535 then throw .broken
    stored size
  | 1 => do content (← decoderOf fixedLengths) (← decoderOf (List.replicate 32 5)) rounds
  | 2 => ownBlock rounds
  | _ => throw .broken
  pure isLast

/-- Takes all blocks. Each round takes at least one bit. -/
def blocks (size : Nat) : Nat → Inflate Unit
  | 0 => throw .ended
  | rounds + 1 => do
    if ← block size then align else blocks size rounds

end Inflate

/-- What a packed text holds, or what is wrong with it and what could be read, and the bits
behind it. -/
def unpack (bits : Bits) : Except Flaw Unit × Unpacking :=
  let size := bits.length + 1
  (Inflate.blocks size size).run.run { bits }

/-!
## Repetitions in a text

To pack a text, parts that have stood there before are told by their length and distance. Places
where the same characters begin are linked by a number that is made of three characters.
-/

inductive Token where
  | literal (c : Char)
  | copy (length distance : Nat)
  deriving DecidableEq, Repr

def Token.size : Token → Nat
  | literal _ => 1
  | copy length _ => length

structure Effort where
  /-- Behind a repetition of this length the search is short. -/
  good : Nat
  lazy_ : Nat
  nice : Nat
  chain : Nat
  /-- Whether a repetition is taken only if none that begins at the next place is longer. -/
  waits : Bool

def Effort.ofLevel : Nat → Effort
  | 1 => ⟨4, 4, 8, 4, false⟩
  | 2 => ⟨4, 5, 16, 8, false⟩
  | 3 => ⟨4, 6, 32, 32, false⟩
  | 4 => ⟨4, 4, 16, 16, true⟩
  | 5 => ⟨8, 16, 32, 32, true⟩
  | 6 => ⟨8, 16, 128, 128, true⟩
  | 7 => ⟨8, 32, 128, 256, true⟩
  | 8 => ⟨32, 128, 258, 1024, true⟩
  | _ => ⟨32, 258, 258, 4096, true⟩

def reach : Nat := 32506

/-- The greatest distance of a repetition of the least length. -/
def shortReach : Nat := 4096

def linkCount : Nat := 32768

/-- The text that is searched, and the places in it where parts begin. -/
structure Window where
  text : Array Char
  heads : Array Nat
  before : Array Nat

namespace Window

def ofText (text : Array Char) : Window :=
  { text, heads := .replicate linkCount 0, before := .replicate (text.size + longest) 0 }

/-- The code of the character at a place. Beyond the end there are zeros. -/
def codeAt (w : Window) (place : Nat) : Nat := ((w.text[place]?).getD '\x00').toNat

def linkAt (w : Window) (place : Nat) : Nat :=
  let two := Nat.xor (w.codeAt place * 32) (w.codeAt (place + 1))
  Nat.xor (two * 32) (w.codeAt (place + 2)) % linkCount

/-- Takes note of a place. Gives the last place with the same number; zero means none. -/
def enter (w : Window) (place : Nat) : Nat × Window :=
  let link := w.linkAt place
  let head := (w.heads[link]?).getD 0
  (head, { w with
    heads := w.heads.setIfInBounds link place, before := w.before.setIfInBounds place head })

def enterAll (w : Window) (place : Nat) : Nat → Window
  | 0 => w
  | count + 1 => (w.enter place).2.enterAll (place + 1) count

/-- How many characters are the same at two places, at most so many. -/
def sameFrom (w : Window) (a b : Nat) : Nat → Nat
  | 0 => 0
  | most + 1 => if w.codeAt a = w.codeAt b then w.sameFrom (a + 1) (b + 1) most + 1 else 0

/-- The longest repetition and where it begins, looked for at so many places from one on, where
the best so far is known. -/
def search (w : Window) (nice start : Nat) : Nat → Nat → Nat × Nat → Nat × Nat
  | 0, _, best => best
  | chain + 1, place, best =>
    let length := w.sameFrom place start longest
    let found := if best.1 < length then (length, place) else best
    if best.1 < length && decide (nice ≤ length) then found
    else
      let next := (w.before[place]?).getD 0
      if next ≤ start - reach then found else w.search nice start chain next found

/-- The longest repetition at a place that is longer than one that is known. -/
def repetition (w : Window) (e : Effort) (start head : Nat) (known : Nat × Nat) : Nat × Nat :=
  let chain := if e.good ≤ known.1 then e.chain / 4 else e.chain
  let (length, place) := w.search e.nice start chain head known
  (min length (w.text.size - start), place)

end Window

/-- A part, and how much of the text had been seen when it was found. -/
structure Finding where
  token : Token
  seen : Nat

/-- The parts of a text from a place on, where each repetition is taken at once. Each round takes
at least one character. -/
def greedy (e : Effort) : Nat → Window → Nat → List Finding
  | 0, _, _ => []
  | rounds + 1, w, start =>
    if w.text.size ≤ start then []
    else
      let (head, w) := w.enter start
      let (length, place) :=
        if head != 0 && decide (start - head ≤ reach) then
          w.repetition e start head (shortest - 1, 0)
        else (0, 0)
      if shortest ≤ length then
        let w := if length ≤ e.lazy_ then w.enterAll (start + 1) (length - 1) else w
        ⟨.copy length (start - place), start⟩ :: greedy e rounds w (start + length)
      else
        ⟨.literal ((w.text[start]?).getD '\x00'), start⟩ :: greedy e rounds w (start + 1)

/-- The parts of a text from a place on, where a repetition that has been found waits for a longer
one that begins at the next place. Each round takes at least one character. -/
def waiting (e : Effort) : Nat → Window → Nat → Nat × Nat → Bool → List Finding
  | 0, _, _, _, _ => []
  | rounds + 1, w, start, known, pending =>
    let last : Char := (w.text[start - 1]?).getD '\x00'
    if w.text.size ≤ start then if pending then [⟨.literal last, start⟩] else []
    else
      let (head, w) := w.enter start
      let looks := head != 0 && decide (known.1 < e.lazy_) && decide (start - head ≤ reach)
      let found := if looks then w.repetition e start head known else (shortest - 1, known.2)
      let tooFar := found.1 = shortest && decide (shortReach < start - found.2)
      let found := if tooFar then (shortest - 1, found.2) else found
      if shortest ≤ known.1 && decide (found.1 ≤ known.1) then
        let w := w.enterAll (start + 1) (known.1 - 2)
        ⟨.copy known.1 (start - 1 - known.2), start⟩ ::
          waiting e rounds w (start - 1 + known.1) (shortest - 1, found.2) false
      else
        let rest := waiting e rounds w (start + 1) found true
        if pending then ⟨.literal last, start⟩ :: rest else rest

def findings (level : Nat) (text : Octets) : List Finding :=
  let e := Effort.ofLevel level
  let w := Window.ofText text.toArray
  if e.waits then waiting e (text.length + 1) w 0 (shortest - 1, 0) false
  else greedy e (text.length + 1) w 0

/-!
## How texts are packed

The parts of a text are put into blocks. For each block the shortest of three forms is taken:
the characters as they stand, codes that everybody knows, or codes of its own, whose lengths
follow from the frequencies.
-/

/-! ## Lengths of codes from frequencies -/

inductive Tree where
  | leaf (symbol : Nat)
  | join (first second : Tree)

structure Weighed where
  tree : Tree
  weight : Nat
  depth : Nat := 0

def Weighed.before (a b : Weighed) : Bool :=
  decide (a.weight < b.weight) || (a.weight == b.weight && decide (a.depth ≤ b.depth))

def Weighed.symbol? (w : Weighed) : Option Nat :=
  match w.tree with
  | .leaf s => some s
  | .join _ _ => none

/-- Trees in a row where each comes before the two at twice its place, counted from one. -/
abbrev Heap := Array Weighed

namespace Heap

def at_ (h : Heap) (place : Nat) : Weighed := (h[place - 1]?).getD ⟨.leaf 0, 0, 0⟩

/-- Moves a tree down from a place to where it belongs, in at most so many steps. -/
def sink (h : Heap) (w : Weighed) : Nat → Nat → Heap
  | 0, place => h.setIfInBounds (place - 1) w
  | steps + 1, place =>
    let left := 2 * place
    if h.size < left then h.setIfInBounds (place - 1) w
    else
      let child :=
        if left < h.size && (h.at_ (left + 1)).before (h.at_ left) then left + 1 else left
      if w.before (h.at_ child) then h.setIfInBounds (place - 1) w
      else sink (h.setIfInBounds (place - 1) (h.at_ child)) w steps child

def ofTrees (trees : Array Weighed) : Heap :=
  (List.range (trees.size / 2)).foldr (fun n h => sink h (Heap.at_ h (n + 1)) h.size (n + 1)) trees

def removeFirst (h : Heap) : Weighed × Heap :=
  let rest : Heap := h.pop
  (h.at_ 1, if rest.isEmpty then rest else sink rest (h.at_ h.size) rest.size 1)

/-- Joins the first two trees again and again. Gives the whole tree and all trees in the order in
which they were joined. -/
def joined : Nat → Heap → List Weighed → Weighed × List Weighed
  | 0, h, done => (h.at_ 1, (h.at_ 1 :: done).reverse)
  | rounds + 1, h, done =>
    if h.size < 2 then (h.at_ 1, (h.at_ 1 :: done).reverse)
    else
      let (a, rest) := removeFirst h
      let b := rest.at_ 1
      let both : Weighed :=
        ⟨.join a.tree b.tree, a.weight + b.weight, max a.depth b.depth + 1⟩
      joined rounds (sink rest both rest.size 1) (b :: a :: done)

end Heap

/-- How deep the symbols of a tree are, at most so deep, and how many trees would be deeper. -/
def Tree.depths (most : Nat) : Nat → Tree → List (Nat × Nat) × Nat
  | depth, leaf s => ([(s, min depth most)], if most < depth then 1 else 0)
  | depth, join a b =>
    let here := min depth most
    let (first, m) := a.depths most (here + 1)
    let (second, n) := b.depths most (here + 1)
    (first ++ second, m + n + if most < depth then 1 else 0)

/-- How many codes there are of each length, made fewer of the greatest until there is room for all.
Each round makes room for two. -/
def shortened (most : Nat) : Nat → Array Nat → Array Nat
  | 0, counts => counts
  | excess + 1, counts =>
    let bits := ((List.range most).reverse.find? fun n => (counts[n]?).getD 0 != 0).getD 0
    let counts := counts.modify bits (· - 1)
    let counts := counts.modify (bits + 1) (· + 2)
    shortened most (excess - 1) (counts.modify most (· - 1))
termination_by excess => excess
decreasing_by omega

/-- Symbols in a row with their lengths: so many of them have each length, the greatest first. -/
def givenLengths (counts : Array Nat) (most : Nat) (symbols : List Nat) : List (Nat × Nat) :=
  let lengths := (List.range (most + 1)).reverse.flatMap fun length =>
    List.replicate (if length = 0 then 0 else (counts[length]?).getD 0) length
  symbols.zip lengths

/-- The frequencies of symbols, where at least two of them are given a code. -/
def atLeastTwo (weights : List (Nat × Nat)) : List (Nat × Nat) :=
  match weights with
  | [] => [(0, 1), (1, 1)]
  | [(s, w)] => if s < 2 then [(s, w), (s + 1, 1)] else [(s, w), (0, 1)]
  | weights => weights

/-- The lengths of codes for symbols with these frequencies, through the last one that has a code. -/
def lengthsOf (most : Nat) (frequencies : Array Nat) : List Nat :=
  let used := (frequencies.toList.zipIdx.filter fun entry => entry.1 != 0).map fun (w, s) => (s, w)
  let weights := atLeastTwo used
  let last := weights.foldl (fun n entry => max n entry.1) 0
  let trees := weights.map fun (s, w) => (⟨.leaf s, w, 0⟩ : Weighed)
  let (root, order) := Heap.joined trees.length (Heap.ofTrees trees.toArray) []
  let (depths, excess) := root.tree.depths most 0
  let lengths :=
    if excess = 0 then depths
    else
      let counts := (List.range (most + 1)).map fun n => (depths.filter fun d => d.2 == n).length
      givenLengths (shortened most excess counts.toArray) most (order.filterMap Weighed.symbol?)
  let table := lengths.foldl (fun (a : Array Nat) (s, length) => a.setIfInBounds s length)
    (Array.replicate (last + 1) 0)
  table.toList

/-! ## Lengths as they are written -/

structure Written where
  symbol : Nat
  further : Bits := []

/-- So many equal lengths as they are written, where it is known whether they go on from others
that are the same. Each round writes at least one. -/
def writtenRun (length : Nat) : Nat → Nat → Bool → List Written
  | 0, _, _ => []
  | _, 0, _ => []
  | rounds + 1, count, goesOn =>
    let plain (n : Nat) : List Written := List.replicate n ⟨length, []⟩
    if length = 0 then
      let n := min count 138
      let part := if n < 3 then plain n
        else if n ≤ 10 then [⟨17, lowFirst 3 (n - 3)⟩] else [⟨18, lowFirst 7 (n - 11)⟩]
      part ++ writtenRun length rounds (count - n) true
    else if goesOn then
      let n := min count 6
      let part := if n < 3 then plain n else [⟨16, lowFirst 2 (n - 3)⟩]
      part ++ writtenRun length rounds (count - n) true
    else
      let n := min count 7
      let part := if n < 4 then plain n else plain 1 ++ [⟨16, lowFirst 2 (n - 4)⟩]
      part ++ writtenRun length rounds (count - n) true

def writtenLengths (lengths : List Nat) : List Written :=
  (lengths.splitBy (· == ·)).flatMap fun run =>
    writtenRun (run.headD 0) run.length run.length false

/-! ## Blocks -/

/-- A part as symbols with further bits: one, or one for the length and one for the distance. -/
structure Coded where
  symbol : Nat
  further : Bits := []
  distance : Option (Nat × Bits) := none

def Token.coded : Token → Coded
  | literal c => { symbol := c.toNat }
  | copy length distance =>
    let place := placeOf lengthCodes length
    let (base, extra) := (lengthCodes[place]?).getD (0, 0)
    let far := placeOf distanceCodes distance
    let (farBase, farExtra) := (distanceCodes[far]?).getD (0, 0)
    { symbol := blockEnd + 1 + place, further := lowFirst extra (length - base)
      distance := some (far, lowFirst farExtra (distance - farBase)) }

def frequencies (size : Nat) (symbols : List Nat) : Array Nat :=
  symbols.foldl (fun a s => a.modify s (· + 1)) (.replicate size 0)

/-- The bits of parts with these codes, through the end of the block. -/
def contentBits (symbols distances : Array Bits) (parts : List Coded) : Bits :=
  parts.flatMap (fun p =>
    (symbols[p.symbol]?).getD [] ++ p.further ++
      match p.distance with
      | some (d, further) => (distances[d]?).getD [] ++ further
      | none => []) ++ (symbols[blockEnd]?).getD []

/-- The bits of a block with codes of its own, behind those that say what it is. -/
def ownBits (parts : List Coded) : Bits :=
  let symbols := lengthsOf lengthLimit
    (frequencies 286 (blockEnd :: parts.map Coded.symbol))
  let distances := lengthsOf lengthLimit
    (frequencies 30 (parts.filterMap fun p => p.distance.map (·.1)))
  let written := writtenLengths symbols ++ writtenLengths distances
  let lengths := lengthsOf 7 (frequencies 19 (written.map Written.symbol))
  let codes := codesOf lengths
  let ordered := lengthOrder.map fun s => (lengths[s]?).getD 0
  let count := max 4 (ordered.reverse.dropWhile (· == 0)).length
  lowFirst 5 (symbols.length - 257) ++ lowFirst 5 (distances.length - 1) ++
    lowFirst 4 (count - 4) ++ (ordered.take count).flatMap (lowFirst 3) ++
    written.flatMap (fun w => (codes[w.symbol]?).getD [] ++ w.further) ++
    contentBits (codesOf symbols) (codesOf distances) parts

def blockBits (before : Nat) (isLast : Bool) (text : Octets) (parts : List Coded) : Bits :=
  let own := ownBits parts
  let fixed := contentBits (codesOf fixedLengths) (codesOf fixedDistances) parts
  let bytes (bits : Bits) : Nat := (bits.length + 3 + 7) / 8
  let shortest := min (bytes own) (bytes fixed)
  if text.length + 4 ≤ shortest then
    let gap := (8 - (before + 3) % 8) % 8
    isLast :: lowFirst 2 0 ++ List.replicate gap false ++ lowFirst 16 text.length ++
      lowFirst 16 (65535 - text.length) ++ bitsOf text
  else if bytes fixed ≤ bytes own then isLast :: lowFirst 2 1 ++ fixed
  else isLast :: lowFirst 2 2 ++ own

def partLimit : Nat := 32767

/-- Whether a block should end behind so many parts, where so much of the text has been seen
since it began: it is long, or it has become much shorter than the text. -/
def isFull (level : Nat) (parts : List Coded) (count seen : Nat) : Bool :=
  let copies := parts.filterMap Coded.distance
  let guess := (count * 8 + (copies.map fun d => 5 + d.2.length).foldl (· + ·) 0) / 8
  (decide (2 < level) && count % 4096 == 0 && decide (copies.length < count / 2) &&
    decide (guess < seen / 2)) || decide (partLimit ≤ count)

/-- The blocks of a text that begins at a place, where `parts` of the next block are known, the
latest first, `count` of them with `size` characters. -/
def blocksOf (level : Nat) (before start : Nat) (text : Octets) (parts : List Coded)
    (count size : Nat) : List Finding → Bits
  | [] => blockBits before true text parts.reverse
  | f :: rest =>
    let parts := f.token.coded :: parts
    let count := count + 1
    let size := size + f.token.size
    if isFull level parts count (f.seen - start) then
      let block := blockBits before false (text.take size) parts.reverse
      block ++ blocksOf level (before + block.length) (start + size) (text.drop size) [] 0 0 rest
    else blocksOf level before start text parts count size rest

def pack (level : Nat) (text : Octets) : Octets :=
  octetsOf (blocksOf level 0 0 text [] 0 0 (findings level text))

end CommandChains.Machine.Deflate
