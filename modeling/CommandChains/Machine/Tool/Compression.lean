import CommandChains.Machine.Deflate
import CommandChains.Machine.Tool.Basic

/-!
# Packing files

A tool that packs texts and unpacks them. A packed text has a header in front, and behind it a
checksum and the size of the text. Several packed texts can stand one behind the other.
-/

namespace CommandChains.Machine.Compression

open Deflate

/-! ## Checksums -/

def remainder (n : UInt32) : Nat → UInt32
  | 0 => n
  | rounds + 1 =>
    let half := n >>> 1
    remainder (if n % 2 = 1 then half ^^^ 0xEDB88320 else half) rounds

def remainders : Array UInt32 := (Array.range 256).map fun n => remainder (UInt32.ofNat n) 8

def checksum (text : Octets) : Nat :=
  let sum := text.foldl (fun (sum : UInt32) c =>
    let place := ((sum ^^^ UInt32.ofNat c.toNat) % 256).toNat
    (remainders[place]?).getD 0 ^^^ (sum >>> 8)) 0xFFFFFFFF
  (sum ^^^ 0xFFFFFFFF).toNat

/-! ## Packed texts -/

/-- A packed text with its header, where the header can hold a name. -/
def packed (level : Nat) (name : Option Octets) (text : Octets) : Octets :=
  let hint : Char := if level = 9 then '\x02' else if level = 1 then '\x04' else '\x00'
  let named : Char := if name.isSome then '\x08' else '\x00'
  ['\x1f', Char.ofNat 139, '\x08', named, '\x00', '\x00', '\x00', '\x00', hint, '\x03'] ++
    name.elim [] (· ++ ['\x00']) ++ pack level text ++ number 4 (checksum text) ++
    number 4 text.length

inductive Trouble where
  | ended
  | notPacked
  | notArchive
  | method (n : Nat)
  | encrypted
  | flags (n : Nat)
  | broken
  | sum
  | size
  deriving DecidableEq, Repr

def Trouble.message (name : Octets) (trouble : Trouble) : Octets :=
  let apart (text : String) : Octets := "\ngzip: ".toList ++ name ++ (": " ++ text ++ "\n").toList
  let plain (text : String) : Octets := "gzip: ".toList ++ name ++ (text ++ "\n").toList
  match trouble with
  | ended => apart "unexpected end of file"
  | notPacked => apart "not in gzip format"
  | notArchive => apart "not a valid zip file"
  | method n => plain (": unknown method " ++ toString n ++ " -- not supported")
  | encrypted => plain " is encrypted -- not supported"
  | flags n => plain (" has flags 0x" ++ String.ofList (Nat.toDigits 16 n) ++ " -- not supported")
  | broken => apart "invalid compressed data--format violated"
  | sum => apart "invalid compressed data--crc error"
  | size => apart "invalid compressed data--length error"

def behindZero? (text : Octets) : Option Octets :=
  match text.dropWhile (· != '\x00') with
  | [] => none
  | _ :: rest => some rest

/-- What is behind the parts of a header that flags announce. -/
def behindParts (flags : Nat) (text : Octets) : Except Trouble Octets := do
  let part (bit : Nat) (skip : Octets → Option Octets) (text : Octets) : Except Trouble Octets :=
    if flags / bit % 2 = 0 then .ok text
    else match skip text with
      | some rest => .ok rest
      | none => .error .ended
  let extra (text : Octets) : Option Octets :=
    match text with
    | a :: b :: rest =>
      let size := a.toNat + 256 * b.toNat
      if rest.length < size then none else some (rest.drop size)
    | _ => none
  let check (text : Octets) : Option Octets := if text.length < 2 then none else some (text.drop 2)
  let text ← part 4 extra text
  let text ← part 8 behindZero? text
  let text ← part 16 behindZero? text
  part 2 check text

def behindHeader (text : Octets) : Except Trouble Octets :=
  match text with
  | [] => .error .ended
  | ['\x00'] => .error .notPacked
  | [_] => .error .ended
  | '\x1f' :: mark :: rest =>
    if mark.toNat = 157 || mark.toNat = 160 || mark.toNat = 30 then .error .ended
    else if mark.toNat != 139 && mark.toNat != 158 then .error .notPacked
    else
      match rest with
      | [] => .error .ended
      | method :: rest =>
        if method.toNat != 8 then .error (.method method.toNat)
        else
          match rest with
          | [] => .error .ended
          | flags :: rest =>
            let flags := flags.toNat
            if flags / 32 % 2 = 1 then .error .encrypted
            else if 64 ≤ flags then .error (.flags flags)
            else if rest.length < 6 then .error .ended
            else behindParts flags (rest.drop 6)
  | 'P' :: 'K' :: '\x03' :: '\x04' :: _ => .error .notArchive
  | _ => .error .notPacked

/-- What has come of reading packed texts one behind the other. -/
structure Unpacked where
  text : Octets := []
  errors : Octets := []
  status : Nat := 0
  stops : Bool := false
  /-- How long header and checks of the first one are. -/
  frame : Nat := 0
  sum : Nat := 0

/-- Reads packed texts one behind the other, where `first` tells whether none has been read. Each
round takes at least one byte. -/
def unpackAll (name : Octets) (verbose : Bool) : Nat → Bool → Octets → Unpacked
  | 0, _, _ => {}
  | rounds + 1, first, text =>
    let fails (trouble : Trouble) (text : Octets) (stops : Bool) : Unpacked :=
      { text, errors := trouble.message name, status := 1, stops }
    let ignored (what : String) : Octets :=
      "\ngzip: ".toList ++ name ++ (": decompression OK, trailing " ++ what ++ " ignored\n").toList
    match behindHeader text with
    | .error trouble =>
      if first || (trouble != .notPacked && trouble != .notArchive) then
        fails trouble [] (first || trouble = .ended)
      else if text.all (· == '\x00') then
        if verbose then { errors := ignored "zero bytes", status := 2 } else {}
      else { errors := ignored "garbage", status := 2 }
    | .ok body =>
      let (result, u) := unpack (bitsOf body)
      let found := u.text.toList
      match result with
      | .error .ended => fails .ended found true
      | .error .broken => fails .broken [] true
      | .ok () =>
        let rest := octetsOf u.bits
        if rest.length < 8 then fails .ended found true
        else
          let sum := valueOf (bitsOf (rest.take 4))
          let size := valueOf (bitsOf ((rest.drop 4).take 4))
          let wrongSum := sum != checksum found
          let wrongSize := size != found.length % 4294967296
          let frame := text.length - body.length + 8
          if wrongSum || wrongSize then
            { text := found, status := 1, stops := true, frame, sum
              errors := (if wrongSum then Trouble.sum.message name else []) ++
                if wrongSize then Trouble.size.message name else [] }
          else
            let rest := rest.drop 8
            if rest.isEmpty then { text := found, frame, sum }
            else
              let others := unpackAll name verbose rounds false rest
              { others with
                text := found ++ others.text, frame
                sum := if others.text.isEmpty then sum else others.sum }

/-! ## What is asked for -/

structure Request where
  level : Nat := 6
  unpacks : Bool := false
  lists : Bool := false
  tests : Bool := false
  toOutput : Bool := false
  force : Bool := false
  keeps : Bool := false
  quiet : Bool := false
  verbose : Bool := false
  recursive : Bool := false
  nameless : Bool := false
  ending : Octets := ".gz".toList

def Request.endings (r : Request) : List Octets :=
  r.ending :: ([".gz", ".z", ".taz", ".tgz", "-gz", "-z", "_z"].map String.toList)

/-- The ending of a name, if it is one of a packed file. -/
def Request.endingOf? (r : Request) (name : Octets) : Option Octets :=
  let last := (Octets.splitAt '/' name).getLastD []
  r.endings.find? fun ending =>
    decide (ending.length < last.length) &&
      ending.reverse.isPrefixOf (Octets.lower last).reverse

/-- How far a text has become shorter, in percents with one digit behind the point. -/
def ratio (saved : Int) (size : Nat) : Octets :=
  if size = 0 then "  0.0%".toList
  else
    let tenths := (saved.natAbs * 10000 / size + 5) / 10
    let digits := Octets.ofNat (tenths / 10) ++ '.' :: Octets.ofNat (tenths % 10)
    Octets.padded 5 (if saved < 0 && tenths != 0 then '-' :: digits else digits) ++ ['%']

/-- How far a packed text is shorter than what it holds. -/
def Unpacked.ratio (u : Unpacked) (size : Nat) : Octets :=
  Compression.ratio ((u.text.length : Int) - ((size : Int) - u.frame)) u.text.length

structure Progress where
  output : Octets := []
  errors : Octets := []
  files : Files
  input : Octets
  heard : Bool := false
  status : Nat := 0
  stops : Bool := false
  headed : Bool := false
  /-- The sizes of packed and other texts that have been listed. -/
  totals : Nat × Nat := (0, 0)
  /-- How long the header and checks of the last text were. -/
  frame : Nat := 0

namespace Progress

def tells (p : Progress) (message : Octets) : Progress := { p with errors := p.errors ++ message }

def warns (p : Progress) (message : Octets) : Progress :=
  { p.tells ("gzip: ".toList ++ message ++ ['\n']) with
    status := if p.status = 0 then 2 else p.status }

def fails (p : Progress) (message : Octets) : Progress :=
  { p.tells ("gzip: ".toList ++ message ++ ['\n']) with status := 1 }

def after (p : Progress) (u : Unpacked) : Progress :=
  { p.tells u.errors with
    status := if u.status = 1 || p.status = 0 then u.status else p.status
    stops := u.stops }

def lists (p : Progress) (r : Request) (name : Octets) (size : Nat) (u : Unpacked) : Progress :=
  let columns (a b : Octets) : Octets := Octets.padded 19 a ++ ' ' :: Octets.padded 19 b
  let head : Octets :=
    if p.headed then []
    else
      (if r.verbose then "method  crc     date  time  ".toList else []) ++
        if r.quiet then []
        else
          columns "compressed".toList "uncompressed".toList ++
            "  ratio uncompressed_name\n".toList
  let details : Octets :=
    if r.verbose then
      "defla ".toList ++ Octets.padded 8 (Nat.toDigits 16 u.sum) '0' ++
        " Jan  1 00:00 ".toList
    else []
  { p with
    output := p.output ++ head ++ details ++
      columns (Octets.ofNat size) (Octets.ofNat u.text.length) ++ ' ' :: u.ratio size ++
      ' ' :: name ++ ['\n']
    headed := true, frame := u.frame
    totals := (p.totals.1 + size, p.totals.2 + u.text.length) }

/-- With a line about all texts that have been listed. -/
def listsTotals (p : Progress) (r : Request) : Progress :=
  let (size, whole) := p.totals
  if size = 0 || whole = 0 then p
  else
    { p with
      output := p.output ++ (if r.verbose then List.replicate 28 ' ' else []) ++
        (if r.verbose || !r.quiet then
          Octets.padded 19 (Octets.ofNat size) ++ ' ' :: Octets.padded 19 (Octets.ofNat whole) ++
            [' ']
        else []) ++
        ratio ((whole : Int) - ((size : Int) - p.frame)) whole ++ " (totals)\n".toList }

end Progress

/-! ## Files -/

/-- A text where whatever is no packed text stays as it is, if that is asked for. -/
def unpackedText (r : Request) (name text : Octets) : Unpacked :=
  let strange := match behindHeader text with
    | .error .notPacked => true
    | .error .ended => text.length < 2
    | _ => false
  if r.force && r.toOutput && !r.lists && strange then { text }
  else unpackAll name r.verbose (text.length + 1) true text

def workOnInput (r : Request) (p : Progress) : Progress :=
  let text := p.input
  let p := { p with input := [], heard := true }
  if r.unpacks then
    let u := unpackedText { r with toOutput := true } "stdin".toList text
    let p := p.after u
    if r.lists then
      if u.status = 1 then { p with stops := true } else p.lists r "stdout".toList text.length u
    else
      let p := if r.tests then p else { p with output := p.output ++ u.text }
      if r.verbose && r.tests && u.status = 0 then p.tells " OK\n".toList else p
  else
    let done := packed r.level none text
    let p := { p with output := p.output ++ done }
    if r.verbose then
      let saved := (text.length : Int) - ((done.length : Int) - 18)
      p.tells (ratio saved text.length ++ ['\n'])
    else p

/-- The path that is meant by an operand: a packed file can be named without its ending. -/
def pathOf (r : Request) (files : Files) (name : Octets) : Except Octets Octets :=
  match files.node name with
  | .ok _ => .ok name
  | .error e =>
    if r.unpacks && (r.endingOf? name).isNone && e = FileTree.notFound then
      match r.endings.find? fun ending => files.has (name ++ ending) with
      | some ending => .ok (name ++ ending)
      | none => .error (name ++ r.ending ++ ": ".toList ++ reasonOf e)
    else .error (name ++ ": ".toList ++ reasonOf e)

/-- The name of what comes of a file, or what is said if there is none, and whether that is a
warning. -/
def targetOf (r : Request) (path : Octets) : Except (Option (Octets × Bool)) Octets :=
  let speaks := r.verbose || (!r.recursive && !r.quiet)
  match r.unpacks, r.endingOf? path with
  | true, none =>
    if !r.recursive && (r.lists || r.tests) then .ok path
    else .error (if speaks then some (path ++ ": unknown suffix -- ignored".toList, true) else none)
  | true, some ending =>
    let bare := path.take (path.length - ending.length)
    .ok (if ending == ".tgz".toList || ending == ".taz".toList then bare ++ ".tar".toList else bare)
  | false, some ending =>
    if r.force then .ok (path ++ r.ending)
    else
      .error (if speaks then
        some (path ++ " already has ".toList ++ ending ++ " suffix -- unchanged".toList, false)
      else none)
  | false, none => .ok (path ++ r.ending)

/-- Puts a text into the place of a file, under another name. -/
def putFile (r : Request) (path target text : Octets) (p : Progress) : Except SystemError Progress :=
  match p.files.node path with
  | .error e => .error e
  | .ok node =>
    match p.files.write target text { mode := p.files.modeOf node } with
    | .error e => .error e
    | .ok files =>
      if r.keeps then .ok { p with files }
      else (files.remove path).map fun files => { p with files }

def workOnFile (r : Request) (path : Octets) (node : Node) (p : Progress) : Progress :=
  let regular := match node with
    | .data _ | .file _ => true
    | _ => false
  if !r.toOutput && !regular then
    p.warns (path ++ " is not a directory or a regular file - ignored".toList)
  else
    let target := if r.toOutput && !r.lists && !r.tests then .ok "stdout".toList else targetOf r path
    match target with
    | .error none => p
    | .error (some (message, true)) => p.warns message
    | .error (some (message, false)) => p.tells ("gzip: ".toList ++ message ++ ['\n'])
    | .ok target =>
      let text := p.files.textOf node
      let u := if r.unpacks then unpackedText r path text else {}
      let last := (Octets.splitAt '/' path).getLastD []
      let done := if r.unpacks then u.text
        else packed r.level (if r.nameless then none else some last) text
      let p := p.after u
      if u.status = 1 then
        if r.toOutput && !r.tests then { p with output := p.output ++ u.text } else p
      else if r.lists then p.lists r target text.length u
      else
        let share := if r.unpacks then u.ratio text.length
          else
            let frame := 18 + if r.nameless then 0 else last.length + 1
            ratio ((text.length : Int) - ((done.length : Int) - frame)) text.length
        let remark := if !r.verbose then []
          else if r.tests then path ++ ":\t OK\n".toList
          else
            path ++ ":\t".toList ++ share ++
              (if r.keeps then " -- created ".toList else " -- replaced with ".toList) ++ target ++
              ['\n']
        if r.tests then p.tells remark
        else if r.toOutput then { p.tells remark with output := p.output ++ done }
        else if !r.force && p.files.has target then
          p.warns (target ++ " already exists;\tnot overwritten".toList)
        else
          match putFile r path target done p with
          | .ok p => p.tells remark
          | .error e => p.fails (target ++ ": ".toList ++ reasonOf e)

/-- Works on what an operand names: on what is in a directory, so deep at most, if that is asked
for. -/
def workOn (r : Request) : Nat → Progress → Octets → Progress
  | depth, p, name =>
    if p.stops then p
    else if name == ['-'] then workOnInput r p
    else
      match pathOf r p.files name with
      | .error message => p.fails message
      | .ok path =>
        match p.files.node path with
        | .error e => p.fails (path ++ ": ".toList ++ reasonOf e)
        | .ok node =>
          if !node.isDirectory then workOnFile r path node p
          else if !r.recursive then p.warns (path ++ " is a directory -- ignored".toList)
          else
            match depth with
            | 0 => p
            | depth + 1 =>
              (Files.names node).foldl (fun p entry => workOn r depth p (path ++ '/' :: entry)) p

def depthLimit : Nat := 64

/-! ## The tool -/

def known : Known :=
  { plain := "acdfhklLnNqrtvV123456789", valued := "bS", hidden := "YRZ"
    words := [("ascii", 'a'), ("to-stdout", 'c'), ("stdout", 'c'), ("decompress", 'd'),
      ("uncompress", 'd'), ("force", 'f'), ("help", 'h'), ("keep", 'k'), ("list", 'l'),
      ("license", 'L'), ("no-name", 'n'), ("name", 'N'), ("quiet", 'q'), ("silent", 'q'),
      ("synchronous", 'Y'), ("recursive", 'r'), ("suffix", 'S'), ("test", 't'),
      ("verbose", 'v'), ("version", 'V'), ("fast", '1'), ("best", '9'), ("lzw", 'Z'),
      ("bits", 'b'), ("rsyncable", 'R')] }

def requestOf (a : Arguments) : Request :=
  let lists := a.has 'l'
  let tests := a.has 't'
  { level := ((a.last? "123456789").map fun c => c.toNat - '0'.toNat).getD 6
    unpacks := a.has 'd' || lists || tests, lists, tests, toOutput := a.has 'c' || lists || tests
    force := a.has 'f', keeps := a.has 'k', quiet := a.last? "qv" == some 'q'
    verbose := a.last? "qv" == some 'v', recursive := a.has 'r'
    nameless := a.last? "nN" == some 'n', ending := (a.value? 'S').getD ".gz".toList }

/-- Packs or unpacks files, as some options in front and the arguments say. -/
def pack (options : List String) : Tool := fun t =>
  let t := { t with name := "gzip".toList, arguments := options.map String.toList ++ t.arguments }
  let hint : Octets := "Try \x60gzip --help' for more information.\n".toList
  match Arguments.read known t.arguments with
  | .error misuse =>
    { errors := t.complaint misuse.message ++ hint, left := some t.input, status := 1 }
  | .ok a =>
    let r := requestOf a
    if a.has 'h' || a.has 'V' || a.has 'L' then t.prints []
    else if r.ending.isEmpty || r.ending.contains '/' then
      t.fails ("invalid suffix '".toList ++ r.ending ++ "'".toList) 1
    else
      let beginning : Progress := { files := t.files, input := t.input }
      let p :=
        if a.operands.isEmpty then workOnInput r beginning
        else
          let p := a.operands.foldl (workOn r depthLimit) beginning
          if r.lists && 1 < a.operands.length && !p.stops then p.listsTotals r else p
      { output := p.output, late := p.errors, files := some p.files
        left := if p.heard then none else some p.input, status := p.status }

end CommandChains.Machine.Compression
