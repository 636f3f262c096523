import CommandChains.Machine.CharacterClass
import CommandChains.Machine.Tool.Basic

/-!
# Copies in blocks

A tool that copies in blocks of a size: it takes so many blocks from a place on, may change
what it copies, and puts it to a place. In the end it counts the blocks, those of the full
size and others.
-/

namespace CommandChains.Machine.Blocks

def greatest : Nat := 9223372036854775807

inductive Mistake where
  | invalid
  | tooLarge
  deriving DecidableEq

/-- What a unit at the beginning of a text stands for, and what is behind it. -/
def unit (text : Octets) : Nat × Octets :=
  let powers : List (Char × Nat) :=
    [('k', 1), ('K', 1), ('M', 2), ('G', 3), ('T', 4), ('P', 5), ('E', 6), ('Z', 7), ('Y', 8)]
  match text with
  | 'c' :: rest => (1, rest)
  | 'w' :: rest => (2, rest)
  | 'b' :: rest => (512, rest)
  | c :: rest =>
    match powers.lookup c, rest with
    | some power, 'i' :: 'B' :: rest => (Nat.pow 1024 power, rest)
    | some power, 'B' :: rest => (Nat.pow 1000 power, rest)
    | some power, rest => (Nat.pow 1024 power, rest)
    | none, _ => (1, text)
  | [] => (1, [])

/-- The number that a text writes: factors with a sign between them, each with or without a
unit. Says whether a factor of nought looks like something else. -/
def number : Nat → Octets → Except (Mistake × Bool) (Nat × Bool)
  | 0, _ => .error (.invalid, false)
  | rounds + 1, text =>
    let trimmed := text.dropWhile Octets.isSpace
    let unsigned := if trimmed.head? = some '+' then trimmed.drop 1 else trimmed
    let digits := unsigned.takeWhile Char.isDigit
    if digits.isEmpty then .error (.invalid, false)
    else
      let (factor, rest) := unit (unsigned.drop digits.length)
      let n := Octets.decimal digits * factor
      let rest := match rest with
        | ['B'] => if text.dropLast.getLast? = some 'B' then rest else []
        | rest => rest
      match rest with
      | [] => if n ≤ greatest then .ok (n, false) else .error (.tooLarge, false)
      | 'x' :: more =>
        match number rounds more with
        | .error (.invalid, odd) => .error (.invalid, odd)
        | .error (.tooLarge, odd) =>
          if n = 0 then .ok (0, odd) else .error (.tooLarge, odd)
        | .ok (m, odd) =>
          if greatest < n * m then .error (.tooLarge, odd)
          else .ok (n * m, odd || (n * m == 0 && text.take 2 == ['0', 'x']))
      | _ => .error (.invalid, false)

/-! ## Orders -/

inductive Telling where
  | everything
  | counts
  | nothing
  deriving DecidableEq

structure Plan where
  source : Option Octets := none
  target : Option Octets := none
  size : Option Nat := none
  inSize : Option Nat := none
  outSize : Option Nat := none
  record : Nat := 0
  skip : Nat := 0
  seek : Nat := 0
  count : Option Nat := none
  changes : List Octets := []
  inFlags : List Octets := []
  outFlags : List Octets := []
  telling : Telling := .everything
  said : Octets := []

def changeNames : List String :=
  ["ascii", "ebcdic", "ibm", "block", "unblock", "lcase", "ucase", "sparse", "swab", "noerror",
    "nocreat", "excl", "notrunc", "sync", "fdatasync", "fsync"]

/-- What can be asked of the two ends of a copy. -/
def flagNames : List String :=
  ["append", "direct", "directory", "dsync", "noatime", "nocache", "noctty", "nofollow",
    "nonblock", "sync", "fullblock", "count_bytes", "skip_bytes", "seek_bytes"]

/-- Words out of some, or a complaint about another one. -/
def chosen (t : Task) (what : String) (names : List String) (text : Octets) :
    Except Report (List Octets) :=
  let words := Octets.splitAt ',' text
  match words.find? fun word => !names.contains (String.ofList word) with
  | some word =>
    .error (t.refuses (("invalid " ++ what ++ ": ").toList ++ Octets.quoted word) 1)
  | none => .ok words

def Plan.operand (t : Task) (p : Plan) (word : Octets) : Except Report Plan :=
  let name := word.takeWhile (· != '=')
  let value := word.drop (name.length + 1)
  let unknown : Except Report Plan :=
    .error (t.refuses ("unrecognized operand ".toList ++ Octets.quoted word) 1)
  let warning := t.complaint "warning: '0x' is a zero multiplier; use '00x' if that is intended".toList
  let counted (least most : Nat) (set : Plan → Nat → Plan) : Except Report Plan :=
    let refuse (odd : Bool) (reason : String) : Except Report Plan :=
      let r := t.fails ("invalid number: ".toList ++ Octets.quoted value ++ reason.toList) 1
      .error { r with errors := p.said ++ (if odd then warning else []) ++ r.errors }
    let tooLarge := ": Value too large for defined data type"
    match number (value.length + 1) value with
    | .error (.invalid, odd) => refuse odd ""
    | .error (.tooLarge, odd) => refuse odd tooLarge
    | .ok (n, odd) =>
      if n < least then refuse odd ""
      else if most < n then refuse odd tooLarge
      else .ok (set { p with said := p.said ++ if odd then warning else [] } n)
  let bytes (flag : String) (flags : List Octets) : List Octets :=
    if value.contains 'B' then flags ++ [flag.toList] else flags
  if !word.contains '=' then unknown
  else
    match String.ofList name with
    | "if" => .ok { p with source := some value }
    | "of" => .ok { p with target := some value }
    | "conv" =>
      (chosen t "conversion" changeNames value).map fun words =>
        { p with changes := p.changes ++ words }
    | "iflag" =>
      (chosen t "input flag" flagNames value).map fun words =>
        { p with inFlags := p.inFlags ++ words }
    | "oflag" =>
      (chosen t "output flag" flagNames value).map fun words =>
        { p with outFlags := p.outFlags ++ words }
    | "status" =>
      match String.ofList value with
      | "none" => .ok { p with telling := .nothing }
      | "noxfer" => .ok { p with telling := .counts }
      | "progress" => .ok { p with telling := .everything }
      | _ => .error (t.refuses ("invalid status level: ".toList ++ Octets.quoted value) 1)
    | "bs" => counted 1 (greatest - 1) fun p n => { p with size := some n }
    | "ibs" => counted 1 (greatest - 1) fun p n => { p with inSize := some n }
    | "obs" => counted 1 (greatest - 1) fun p n => { p with outSize := some n }
    | "cbs" => counted 1 (greatest - 1) fun p n => { p with record := n }
    | "skip" | "iseek" =>
      counted 0 greatest fun p n => { p with skip := n, inFlags := bytes "skip_bytes" p.inFlags }
    | "seek" | "oseek" =>
      counted 0 greatest fun p n => { p with seek := n, outFlags := bytes "seek_bytes" p.outFlags }
    | "count" =>
      counted 0 greatest fun p n =>
        { p with
          count := if n = greatest then none else some n
          inFlags := bytes "count_bytes" p.inFlags }
    | _ =>
      match number (value.length + 1) value with
      | .error (_, true) => unknown.mapError fun r => { r with errors := warning ++ r.errors }
      | _ => unknown

namespace Plan

def has (p : Plan) (change : String) : Bool := p.changes.contains change.toList

def conflict? (p : Plan) : Option String :=
  let count (names : List String) : Nat := (names.filter p.has).length
  let flag (name : String) : Bool :=
    p.inFlags.contains name.toList || p.outFlags.contains name.toList
  if 1 < count ["ascii", "ebcdic", "ibm"] then
    some "cannot combine any two of \x7bascii,ebcdic,ibm\x7d"
  else if (p.has "block" || p.has "ebcdic" || p.has "ibm") && (p.has "unblock" || p.has "ascii") &&
      p.record != 0 then
    some "cannot combine block and unblock"
  else if 1 < count ["lcase", "ucase"] then some "cannot combine lcase and ucase"
  else if 1 < count ["excl", "nocreat"] then some "cannot combine excl and nocreat"
  else if flag "direct" && flag "nocache" then some "cannot combine direct and nocache"
  else none

def inBlock (p : Plan) : Nat := (p.size.or p.inSize).getD 512

def outBlock (p : Plan) : Nat := (p.size.or p.outSize).getD 512

def makesRecords (p : Plan) : Bool :=
  p.record != 0 && (p.has "block" || p.has "ebcdic" || p.has "ibm")

def makesLines (p : Plan) : Bool := p.record != 0 && (p.has "unblock" || p.has "ascii")

/-- Whether the blocks are cut anew before they are put. -/
def recuts (p : Plan) : Bool :=
  p.size.isNone ||
    ["ascii", "ebcdic", "ibm", "block", "unblock", "lcase", "ucase", "swab"].any p.has

def skipped (p : Plan) : Nat :=
  if p.inFlags.contains "skip_bytes".toList then p.skip else p.skip * p.inBlock

def sought (p : Plan) : Nat :=
  if p.outFlags.contains "seek_bytes".toList then p.seek else p.seek * p.outBlock

def taken (p : Plan) : Option Nat :=
  p.count.map fun n => if p.inFlags.contains "count_bytes".toList then n else n * p.inBlock

end Plan

/-! ## Copying -/

def cut (size : Nat) : Nat → Octets → List Octets
  | _, [] => []
  | 0, _ => []
  | most + 1, text => text.take size :: cut size most (text.drop size)

/-- Every second character in the place of the one before it. -/
def swapped : Octets → Octets
  | a :: b :: rest => b :: a :: swapped rest
  | rest => rest

/-- Lines as records of one length, and how many were too long. -/
def records (length : Nat) (text : Octets) : Octets × Nat :=
  let lines := Octets.lines text
  (lines.flatMap fun line => Octets.filled length (line.take length),
    (lines.filter fun line => decide (length < line.length)).length)

def linesOf (length : Nat) (text : Octets) : Octets :=
  Octets.unlines ((cut length text.length text).map fun record =>
    (record.reverse.dropWhile (· == ' ')).reverse)

namespace Plan

/-- A block filled up to the full size, if that is wanted. -/
def evened (p : Plan) (block : Octets) : Octets :=
  if p.has "sync" then
    let blank := if p.makesRecords || p.makesLines then ' ' else '\x00'
    block ++ List.replicate (p.inBlock - block.length) blank
  else block

/-- What becomes of a text, and how many of its lines were too long. -/
def change (p : Plan) (text : Octets) : Octets × Nat :=
  let text := if p.has "ascii" then CharacterCode.changed CharacterCode.cardsToLetters text else text
  let text :=
    if p.has "lcase" then text.map Char.toLower
    else if p.has "ucase" then text.map Char.toUpper
    else text
  let text := if p.has "ebcdic" then CharacterCode.changed CharacterCode.lettersToCards text
    else if p.has "ibm" then CharacterCode.changed CharacterCode.lettersToPrinter text
    else text
  let text := if p.has "swab" then swapped text else text
  if p.makesRecords then
    if p.has "ebcdic" || p.has "ibm" then
      let newline := '%'
      let (done, cutOff) := records p.record (text.map fun c => if c = newline then '\n' else c)
      (done.map fun c => if c = ' ' then '@' else c, cutOff)
    else records p.record text
  else if p.makesLines then (linesOf p.record text, 0)
  else (text, 0)

end Plan

structure Copy where
  text : Octets := []
  fullIn : Nat := 0
  partIn : Nat := 0
  fullOut : Nat := 0
  partOut : Nat := 0
  cutOff : Nat := 0

/-- How many blocks have the full size, and how many have not. -/
def sizes (size : Nat) (blocks : List Octets) : Nat × Nat :=
  let full := (blocks.filter fun block => decide (block.length = size)).length
  (full, blocks.length - full)

def Plan.copy (p : Plan) (taken : Octets) : Copy :=
  let blocks := cut p.inBlock taken.length taken
  let (fullIn, partIn) := sizes p.inBlock blocks
  let evened := blocks.map p.evened
  if p.recuts then
    let (text, cutOff) := p.change evened.flatten
    let fullOut := text.length / p.outBlock
    let partOut := if text.length % p.outBlock = 0 then 0 else 1
    { text, fullIn, partIn, fullOut, partOut, cutOff }
  else
    let (fullOut, partOut) := sizes p.inBlock evened
    { text := evened.flatten, fullIn, partIn, fullOut, partOut }

def Copy.told (c : Copy) (telling : Telling) : Octets :=
  let line (full part : Nat) (what : String) : Octets :=
    Octets.ofNat full ++ '+' :: Octets.ofNat part ++ (" records " ++ what ++ "\n").toList
  let cutOff := if c.cutOff = 0 then []
    else Octets.ofNat c.cutOff ++
      (if c.cutOff = 1 then " truncated record\n" else " truncated records\n").toList
  let counts := line c.fullIn c.partIn "in" ++ line c.fullOut c.partOut "out" ++ cutOff
  match telling with
  | .nothing => []
  | .counts => counts
  | .everything =>
    counts ++ Octets.ofNat c.text.length ++ " bytes copied, 0.0001 s, ".toList ++
      Octets.ofNat (c.text.length * 10) ++ " kB/s\n".toList

/-- What can be read from a source, where what is asked for can be read of a device without
end. -/
def readable (t : Task) (p : Plan) : Except SystemError Octets :=
  match p.source with
  | none => .ok t.input
  | some path =>
    match t.files.node path, p.taken with
    | .ok (.device "zero"), some most | .ok (.device "full"), some most =>
      .ok (List.replicate (min (p.skipped + most) 4194304) '\x00')
    | _, _ => t.contents path

def Plan.put (t : Task) (p : Plan) (left : Octets) (c : Copy) (said : Octets) : Report :=
  let failing (subject reason : Octets) (c : Copy) : Report :=
    { errors := said ++ t.complaint (subject ++ ": ".toList ++ reason) ++ c.told p.telling
      left, status := 1 }
  let sync (r : Report) (name : Octets) (isFile : Bool) : Report :=
    if (p.has "fsync" || p.has "fdatasync") && !isFile then
      { r with
        late := t.complaint ("fsync failed for ".toList ++ Octets.shellQuoted name ++
          ": Invalid argument".toList) ++ c.told p.telling
        status := 1 }
    else r
  let done : Report := { errors := said, late := c.told p.telling, left }
  let standard := "standard output".toList
  match p.target with
  | none =>
    if p.sought ≠ 0 then
      failing (Octets.shellQuoted standard) "cannot seek: Illegal seek".toList {}
    else sync { done with output := c.text } standard false
  | some path =>
    let how : Files.Opening :=
      { empties := p.sought = 0 && !p.has "notrunc", mustBeNew := p.has "excl"
        makes := !p.has "nocreat" }
    match openPath t.files how path with
    | .error e =>
      t.fails ("failed to open ".toList ++ Octets.shellQuoted path ++ ": ".toList ++ reasonOf e) 1
    | .ok (.file .full, files) =>
      if c.text.isEmpty then { done with files := some files }
      else
        let isInput := left.length < t.input.length
        let first := min (p.skipped + p.inBlock) t.input.length
        { failing ("error writing ".toList ++ Octets.shellQuoted path) "No space left on device".toList
            { c with
              text := [], fullOut := 0, partOut := 0, fullIn := min 1 c.fullIn
              partIn := if c.fullIn = 0 then c.partIn else 0 } with
          left := some (if isInput then t.input.drop first else left) }
    | .ok (.file (.file number), files) =>
      let old := files.textOf (.file number)
      let before := old.take p.sought ++ List.replicate (p.sought - old.length) '\x00'
      let behind := if p.has "notrunc" then old.drop (p.sought + c.text.length) else []
      let new := if p.outFlags.contains "append".toList then
          (if p.has "notrunc" || p.sought ≠ 0 then old else []) ++ c.text
        else before ++ c.text ++ behind
      { done with files := some (if new = old then files else files.setText number new) }
    | .ok (d, files) => sync ({ done with files := some files }.put files d c.text) path false

def copyBlocks : Tool := fun t =>
  t.withArguments {} 1 fun a =>
    match a.operands.foldlM (Plan.operand t) {} with
    | .error r => r
    | .ok p =>
      let refused (message : String) : Report :=
        { t.fails message.toList 1 with
          errors := p.said ++ t.complaint message.toList }
      if p.outFlags.contains "fullblock".toList then
        t.refuses "invalid output flag: 'fullblock'".toList 1
      else
        match p.conflict? with
        | some message => refused message
        | none =>
          let isInput := match p.source with
            | none => true
            | some path => t.isInput path && path != ['-']
          let name := match p.source with
            | none => Octets.shellQuoted "standard input".toList
            | some path => Octets.asName path
          match readable t p with
          | .error e =>
            let subject := (p.source.map Octets.shellQuoted).getD []
            if e = FileTree.isADirectory then
              { p.put t t.input {} [] with
                errors := t.complaint ("error reading ".toList ++ subject ++ ": ".toList ++
                  reasonOf e) ++ Copy.told {} p.telling
                status := 1 }
            else
              t.fails ("failed to open ".toList ++ subject ++ ": ".toList ++ reasonOf e) 1
          | .ok text =>
            let tooFar := text.length < p.skipped && p.telling != .nothing
            let said := p.said ++ if tooFar then
                t.complaint (name ++ ": cannot skip to specified offset".toList) else []
            let rest := text.drop p.skipped
            let taken := match p.taken with
              | some most => rest.take most
              | none => rest
            let fails := p.target.isNone && p.sought != 0
            let left := if isInput && !fails then rest.drop taken.length else t.input
            p.put t left (p.copy taken) said

end CommandChains.Machine.Blocks
