import CommandChains.Machine.Arguments
import CommandChains.Machine.Digest
import CommandChains.Machine.Tool.Basic

/-!
# Tools that print digests

Tools that print a digest of every source, or look whether files still have the digests
that a list says.
-/

namespace CommandChains.Machine.Tool

structure DigestKind where
  label : String
  bytes : Nat
  digest : Nat → Octets → Octets
  isVariable : Bool := false

namespace DigestKind

def md5 : DigestKind := { label := "MD5", bytes := 16, digest := fun _ => Digest.Md5.digest }
def sha1 : DigestKind := { label := "SHA1", bytes := 20, digest := fun _ => Digest.Sha1.digest }
def sha224 : DigestKind :=
  { label := "SHA224", bytes := 28, digest := fun _ => Digest.Sha2.digest224 }
def sha256 : DigestKind :=
  { label := "SHA256", bytes := 32, digest := fun _ => Digest.Sha2.digest256 }
def sha384 : DigestKind :=
  { label := "SHA384", bytes := 48, digest := fun _ => Digest.Sha2.digest384 }
def sha512 : DigestKind :=
  { label := "SHA512", bytes := 64, digest := fun _ => Digest.Sha2.digest512 }
def blake2b : DigestKind :=
  { label := "BLAKE2b", bytes := 64, digest := Digest.Blake2.digest, isVariable := true }
def sm3 : DigestKind := { label := "SM3", bytes := 32, digest := fun _ => Digest.Sm3.digest }

def labelFor (k : DigestKind) (bytes : Nat) : Octets :=
  k.label.toList ++ if bytes = k.bytes then [] else '-' :: Octets.ofNat (8 * bytes)

def hexOf (k : DigestKind) (bytes : Nat) (text : Octets) : Octets :=
  Digest.hex (k.digest bytes text)

end DigestKind

/-! ## Lines of lists -/

/-- A name as it stands in a list, and whether it had to be changed. -/
def listedName (lineEnd : Char) (name : Octets) : Octets × Bool :=
  if lineEnd = '\n' && name.any fun c => c == '\\' || c == '\n' || c == '\r' then
    (name.flatMap fun c =>
      if c = '\\' then ['\\', '\\'] else if c = '\n' then ['\\', 'n']
      else if c = '\r' then ['\\', 'r'] else [c], true)
  else (name, false)

/-- A name that stood in a list, if it is well formed. -/
def unlistedName : Octets → Option Octets
  | [] => some []
  | '\\' :: 'n' :: rest => (unlistedName rest).map ('\n' :: ·)
  | '\\' :: 'r' :: rest => (unlistedName rest).map ('\r' :: ·)
  | '\\' :: '\\' :: rest => (unlistedName rest).map ('\\' :: ·)
  | '\\' :: _ => none
  | c :: rest => (unlistedName rest).map (c :: ·)

/-- What a line of a list says: how the digest is made, its digits, and the file. -/
structure Listed where
  kind : DigestKind
  bytes : Nat
  digits : Octets
  name : Octets

def isHexDigit (c : Char) : Bool := (Octets.digit? c).isSome

/-- Reads what stands behind the label of a line. -/
def Listed.ofLabelled? (k : DigestKind) (text : Octets) : Option Listed :=
  let (bytes?, text) := match k.isVariable, text with
    | true, '-' :: rest =>
      let digits := rest.takeWhile Char.isDigit
      let bits := Octets.decimal digits
      (if bits % 8 = 0 && bits != 0 && bits ≤ 512 then some (bits / 8) else none,
        rest.drop digits.length)
    | _, text => (some k.bytes, text)
  let text := match text with
    | ' ' :: rest => rest
    | text => text
  match bytes?, text with
  | some bytes, '(' :: rest =>
    let after := (rest.reverse.takeWhile (· != ')')).reverse
    let name := rest.take (rest.length - after.length - 1)
    let trimmed := after.dropWhile fun c => c == ' ' || c == '\t'
    match trimmed with
    | '=' :: value =>
      let digits := value.dropWhile fun c => c == ' ' || c == '\t'
      if after.length < rest.length && digits.length = 2 * bytes && digits.all isHexDigit then
        some { kind := k, bytes, digits, name }
      else none
    | _ => none
  | _, _ => none

/-- Reads a line of digits and a name. Between them stand two characters, or only one if
`short` says that this has been so before, or nothing is known and it is so here. -/
def Listed.ofPlain? (k : DigestKind) (short : Option Bool) (text : Octets) :
    Option (Listed × Bool) :=
  let digits := text.takeWhile isHexDigit
  let fits := if k.isVariable then
      digits.length % 2 = 0 && digits.length != 0 && digits.length ≤ 2 * k.bytes
    else digits.length = 2 * k.bytes
  let found (name : Octets) (isShort : Bool) : Option (Listed × Bool) :=
    some ({ kind := k, bytes := digits.length / 2, digits, name }, isShort)
  match fits, text.drop digits.length with
  | true, c :: d :: rest =>
    if c != ' ' && c != '\t' then none
    else if rest.isEmpty || (d != ' ' && d != '*') then
      if short = some false then none else found (d :: rest) true
    else if short = some true then found (d :: rest) true
    else found rest false
  | _, _ => none

/-- Reads a line of a list, where digests may be made in some ways, of which the plain one
needs no label. Gives what is known of plain lines, too. -/
def Listed.ofLine? (kinds : List DigestKind) (plain : Option DigestKind) (short : Option Bool)
    (line : Octets) : Option (Listed × Option Bool) :=
  let text := line.dropWhile fun c => c == ' ' || c == '\t'
  let (isEscaped, text) := match text with
    | '\\' :: rest => (true, rest)
    | text => (false, text)
  let labelled := kinds.find? fun k => k.label.toList.isPrefixOf text
  let found : Option (Listed × Option Bool) := match labelled with
    | some k => (Listed.ofLabelled? k (text.drop k.label.length)).map fun listed => (listed, short)
    | none => plain.bind fun k =>
      (Listed.ofPlain? k short text).map fun (listed, isShort) => (listed, some isShort)
  match found, isEscaped with
  | some (listed, short), true =>
    (unlistedName listed.name).map fun name => ({ listed with name }, short)
  | found, _ => found

/-! ## Looking at lists -/

structure Verdicts where
  quiet : Bool
  silent : Bool
  warns : Bool
  strict : Bool
  skipsMissing : Bool

structure Verification where
  output : Octets := []
  errors : Octets := []
  wellFormed : Nat := 0
  malformed : Nat := 0
  unreadable : Nat := 0
  different : Nat := 0
  verified : Bool := false
  /-- Whether plain lines have one character between digits and name. -/
  short : Option Bool := none

def Verification.look (t : Task) (v : Verdicts) (list : Octets) (label : Octets)
    (kinds : List DigestKind) (plain : Option DigestKind) (s : Verification)
    (entry : Octets × Nat) : Verification :=
  let (line, n) := entry
  let shown (name : Octets) : Octets :=
    let (name, changed) := listedName '\n' name
    if changed then '\\' :: name else name
  if line.head? = some '#' || line.isEmpty then s
  else
    match Listed.ofLine? kinds plain s.short line with
    | none =>
      let told := if v.warns then
          t.complaint (Octets.asName list ++ ": ".toList ++ Octets.ofNat n ++
            ": improperly formatted ".toList ++ label ++ " checksum line".toList)
        else []
      { s with malformed := s.malformed + 1, errors := s.errors ++ told }
    | some (listed, short) =>
      let s := { s with wellFormed := s.wellFormed + 1, short }
      let contents := if t.isInput listed.name then .ok [] else t.contents listed.name
      match contents with
      | .error e =>
        if v.skipsMissing && e = FileTree.notFound then s
        else
          { s with
            unreadable := s.unreadable + 1
            errors := s.errors ++ t.complaint (Octets.asName listed.name ++ ": ".toList ++ reasonOf e)
            output := s.output ++ (if v.silent then []
              else shown listed.name ++ ": FAILED open or read\n".toList) }
      | .ok text =>
        let same := listed.kind.hexOf listed.bytes text == Octets.lower listed.digits
        let line := if v.silent then []
          else if same then (if v.quiet then [] else shown listed.name ++ ": OK\n".toList)
          else shown listed.name ++ ": FAILED\n".toList
        { s with
          verified := s.verified || same
          different := s.different + (if same then 0 else 1)
          output := s.output ++ line }

/-- What is told about a number of things: a number of one has its own words. -/
def counted (n : Nat) (one many : String) : Octets :=
  "WARNING: ".toList ++ Octets.ofNat n ++ (if n = 1 then one else many).toList

def verifyList (t : Task) (v : Verdicts) (label : Octets) (kinds : List DigestKind)
    (plain : Option DigestKind) (source : Source) : Verification × Bool :=
  let name := if source.isInput then "standard input".toList else source.name
  let unread (message : Octets) : Verification × Bool :=
    ({ errors := t.complaint (Octets.asName name ++ ": ".toList ++ message) }, false)
  match source.contents with
  | .error e => unread (if e = FileTree.isADirectory then "read error".toList else reasonOf e)
  | .ok text =>
    let lines := (Octets.lines text).map fun line =>
      if line.getLast? = some '\r' then line.dropLast else line
    let s := (lines.zipIdx 1).foldl (Verification.look t v name label kinds plain) {}
    let add (s : Verification) (message : Octets) : Verification :=
      { s with errors := s.errors ++ t.complaint message }
    if s.wellFormed = 0 then
      (add s (Octets.asName name ++ ": no properly formatted checksum lines found".toList), false)
    else
      let good := s.different = 0 && s.unreadable = 0 && (!v.strict || s.malformed = 0) &&
        (!v.skipsMissing || s.verified)
      if v.silent then (s, good)
      else
        let s := if s.malformed = 0 then s
          else add s (counted s.malformed " line is improperly formatted"
            " lines are improperly formatted")
        let s := if s.unreadable = 0 then s
          else add s (counted s.unreadable " listed file could not be read"
            " listed files could not be read")
        let s := if s.different = 0 then s
          else add s (counted s.different " computed checksum did NOT match"
            " computed checksums did NOT match")
        let s := if v.skipsMissing && !s.verified then
            add s (Octets.asName name ++ ": no file was verified".toList)
          else s
        (s, good)

/-! ## The tools -/

def digestWords : List (String × Char) :=
  [("check", 'c'), ("ignore-missing", 'I'), ("quiet", 'q'), ("status", 'S'), ("warn", 'w'),
    ("strict", 'R'), ("tag", 'T'), ("zero", 'z')]

/-- What is wrong with the options of a tool for digests, if something is. -/
def digestMisuse? (a : Arguments) (own : Bool) : Option String :=
  let text := (a.last? "btT").any (· == 't')
  let only := "option is meaningful only when verifying checksums"
  if own && a.has 'T' && text then some "--tag does not support --text mode"
  else if a.has 'z' && a.has 'c' then
    some "the --zero option is not supported when verifying checksums"
  else if own && a.has 'T' && a.has 'c' then
    some "the --tag option is meaningless when verifying checksums"
  else if (a.has 'b' || a.has 't') && a.has 'c' then
    some "the --binary and --text options are meaningless when verifying checksums"
  else if a.has 'c' then none
  else if a.has 'I' then some ("the --ignore-missing " ++ only)
  else if a.last? "wqS" == some 'S' then some ("the --status " ++ only)
  else if a.last? "wqS" == some 'w' then some ("the --warn " ++ only)
  else if a.last? "wqS" == some 'q' then some ("the --quiet " ++ only)
  else if a.has 'R' then some ("the --strict " ++ only)
  else none

def verify (t : Task) (a : Arguments) (label : Octets) (kinds : List DigestKind)
    (plain : Option DigestKind) : Report :=
  let told := a.last? "wqS"
  let v : Verdicts :=
    { quiet := told == some 'q', silent := told == some 'S', warns := told == some 'w'
      strict := a.has 'R', skipsMissing := a.has 'I' }
  let (sources, left) := t.sources a.operands
  let found := sources.map (verifyList t v label kinds plain)
  { output := found.flatMap fun entry => entry.1.output
    errors := found.flatMap fun entry => entry.1.errors
    left, status := if found.all (·.2) then 0 else 1 }

/-- The length of digests that was asked for, in bytes, or a report that refuses it. -/
def digestBytes (t : Task) (k : DigestKind) (value : Option Octets) : Except Report Nat :=
  match value with
  | none => .ok k.bytes
  | some text =>
    let invalid := "invalid length: ".toList ++ Octets.quoted text
    match Octets.decimal? text with
    | none => .error (t.fails invalid 1)
    | some bits =>
      let also (message : String) : Except Report Nat :=
        .error { errors := t.complaint invalid ++ t.complaint message.toList, left := some t.input
                 status := 1 }
      if bits % 8 != 0 then also "length is not a multiple of 8"
      else if 512 < bits then also "maximum digest length for 'BLAKE2b' is 512 bits"
      else .ok (if bits = 0 then k.bytes else bits / 8)

def digestLine (k : DigestKind) (bytes : Nat) (tagged binary : Bool) (lineEnd : Char) (s : Source) :
    Octets :=
  let (name, changed) := listedName lineEnd s.name
  let digits := k.hexOf bytes s.text
  (if changed then ['\\'] else []) ++
    (if tagged then k.labelFor bytes ++ " (".toList ++ name ++ ") = ".toList ++ digits
    else digits ++ [' ', if binary then '*' else ' '] ++ name) ++ [lineEnd]

/-- Prints a line for every source that can be read. -/
def overReadable (t : Task) (operands : List Octets) (line : Source → Octets) : Report :=
  t.overSources operands Task.plainly 1 fun sources =>
    (sources.filter fun s => s.contents.toOption.isSome).flatMap line

def digests (k : DigestKind) : Tool := fun t =>
  t.withArguments
      { plain := "bctwz", valued := if k.isVariable then "l" else ""
        words := digestWords ++ [("binary", 'b'), ("text", 't')] ++
          if k.isVariable then [("length", 'l')] else [] } 1 fun a =>
    match digestBytes t k (a.value? 'l'), digestMisuse? a true with
    | .error refusal, _ => refusal
    | .ok _, some message => t.refuses message.toList 1
    | .ok bytes, none =>
      if a.has 'c' then verify t a k.label.toList [k] (some k)
      else
        let binary := a.last? "btT" == some 'b'
        overReadable t a.operands (digestLine k bytes (a.has 'T') binary a.lineEnd)

def shortSum (turning : Bool) (lineEnd : Char) (named : Bool) (s : Source) : Octets :=
  let name := if named then ' ' :: s.name else []
  let blocks (size : Nat) : Octets := Octets.ofNat ((s.text.length + size - 1) / size)
  (if turning then
    Octets.padded 5 (Octets.ofNat (Digest.turningSum s.text)) '0' ++ ' ' ::
      Octets.padded 5 (blocks 1024)
  else Octets.ofNat (Digest.plainSum s.text) ++ ' ' :: blocks 512) ++ name ++ [lineEnd]

def sums : Tool := fun t =>
  t.withArguments { plain := "rs", words := [("sysv", 's')] } 1 fun a =>
    let turning := a.last? "rs" != some 's'
    overReadable t a.operands (shortSum turning '\n' (!a.operands.isEmpty))

inductive SumKind where
  | turning
  | plain
  | remainder
  | digest (k : DigestKind)

def sumKinds : Choices SumKind :=
  [(["bsd"], .turning), (["sysv"], .plain), (["crc"], .remainder), (["md5"], .digest .md5),
    (["sha1"], .digest .sha1), (["sha224"], .digest .sha224), (["sha256"], .digest .sha256),
    (["sha384"], .digest .sha384), (["sha512"], .digest .sha512),
    (["blake2b"], .digest .blake2b), (["sm3"], .digest .sm3)]

def anySums : Tool := fun t =>
  t.withArguments
      { plain := "cwz", valued := "al"
        words := digestWords ++ [("algorithm", 'a'), ("length", 'l'), ("untagged", 'U'),
          ("debug", 'D')] } 1 fun a =>
    let name := (a.value? 'a').getD "crc".toList
    match sumKinds.find? fun choice => choice.1.any fun full => full.toList = name with
    | none => t.refuses (sumKinds.complaint "invalid" "--algorithm" name) 1
    | some (_, kind) =>
      let known := [DigestKind.md5, .sha1, .sha224, .sha256, .sha384, .sha512, .blake2b, .sm3]
      let digestKind : DigestKind := match kind with
        | .digest k => k
        | _ => .blake2b
      let isDigest := match kind with
        | .digest _ => true
        | _ => false
      let isVariable := isDigest && digestKind.isVariable
      match digestBytes t .blake2b (a.value? 'l') with
      | .error refusal =>
        if isVariable || (Octets.decimal ((a.value? 'l').getD [])) % 8 != 0 then refusal
        else t.fails "--length is only supported with --algorithm=blake2b".toList 1
      | .ok bytes =>
        let bytes := if isVariable then bytes else digestKind.bytes
        if a.has 'l' && !isVariable && bytes != 0 && (a.value? 'l') != some ['0'] then
          t.fails "--length is only supported with --algorithm=blake2b".toList 1
        else if a.has 'c' && a.has 'a' && !isDigest then
          t.fails "--check is not supported with --algorithm=\x7bbsd,sysv,crc\x7d".toList 1
        else
          match digestMisuse? a false with
          | some message => t.refuses message.toList 1
          | none =>
            if a.has 'c' then
              let label := if isDigest then digestKind.label.toList else "CRC".toList
              verify t a label (if isDigest then [digestKind] else known)
                (if isDigest then some digestKind else none)
            else
              let named := !a.operands.isEmpty
              overReadable t a.operands fun s =>
                match kind with
                | .turning => shortSum true a.lineEnd named s
                | .plain => shortSum false a.lineEnd named s
                | .remainder =>
                  Octets.ofNat (Digest.remainder s.text) ++ ' ' :: Octets.ofNat s.text.length ++
                    (if named then ' ' :: s.name else []) ++ [a.lineEnd]
                | .digest k => digestLine k bytes (a.last? "TU" != some 'U') false a.lineEnd s

end CommandChains.Machine.Tool
