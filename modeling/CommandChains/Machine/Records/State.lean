import CommandChains.Machine.Expression
import CommandChains.Machine.Records.Value
import CommandChains.Machine.Calendar.Basic
import CommandChains.Machine.Delegate.Surroundings
import CommandChains.Machine.Octets
import Std.Data.HashMap

/-!
# Expressions in programs about records

How expressions are written in such programs: in the extended way, but without numbers of
repetitions between braces, and with backslashes for control characters also in brackets.
-/

namespace CommandChains.Machine.Records

namespace Regex

inductive Mistake where
  | openGroup
  | badClass
  | operand
  | repeatedStart
  deriving DecidableEq, Repr

def Mistake.message : Mistake → String
  | openGroup => "missing ')'"
  | badClass => "bad class -- [], [^] or ["
  | operand => "missing operand"
  | repeatedStart => "syntax error ^* or ^+"

/-- The character that stands behind a backslash, and what is behind it. -/
def escaped (text : Octets) : Octets × Octets :=
  match text with
  | [] => (['\\'], [])
  | c :: rest =>
    match Octets.digitsOf 8 3 text with
    | [] =>
      match Expression.controlNamed? c with
      | some control => ([control], rest)
      | none => ([c], rest)
    | digits => ([Char.ofNat (Octets.valueOf 8 digits % 256)], text.drop digits.length)

/-- The characters of a bracket, through its end, and what is behind it. -/
def readItems (first : Bool) : Nat → Octets → Except Mistake (Octets × Octets)
  | 0, _ => .error .badClass
  | _, [] => .error .badClass
  | rounds + 1, c :: rest =>
    let more (cs rest : Octets) : Except Mistake (Octets × Octets) :=
      (readItems false rounds rest).map fun (others, rest) => (cs ++ others, rest)
    if c = ']' && !first then .ok ([], rest)
    else
      match c, rest with
      | '[', ':' :: inner =>
        let name := inner.takeWhile (· != ':')
        match inner.drop name.length with
        | ':' :: ']' :: rest =>
          match classNamed? name with
          | some member => more (allCharacters.filter member) rest
          | none => .error .badClass
        | _ => more [c] rest
      | _, _ =>
        let (c, rest) := if c = '\\' then
            (((escaped rest).1.headD '\\'), (escaped rest).2) else (c, rest)
        match rest with
        | '-' :: d :: behind =>
          if d = ']' then more [c] rest
          else
            let (d, behind) := if d = '\\' then
                (((escaped behind).1.headD '\\'), (escaped behind).2) else (d, behind)
            if d < c then more [c, '-', d] behind
            else more ((List.range (d.toNat + 1 - c.toNat)).map fun n => Char.ofNat (c.toNat + n))
              behind
        | rest => more [c] rest

structure Progress where
  /-- What has been read of the alternative, and whether it is more than a start. -/
  sofar : Option Expression := none
  others : Option Expression := none
  outer : List (Option Expression × Option Expression) := []
  /-- The last part, which a sign of repetition would repeat. -/
  last : Option Expression := none
  atStart : Bool := false

namespace Progress

def joined (p : Progress) : Option Expression :=
  match p.sofar, p.last with
  | none, last => last
  | sofar, none => sofar
  | some a, some b => some (.both a b)

def push (p : Progress) (e : Expression) : Progress :=
  { p with sofar := p.joined, last := some e, atStart := false }

def whole? (p : Progress) : Option Expression :=
  p.joined.map fun e =>
    match p.others with
    | none => e
    | some first => .either first e

def read : Nat → Progress → Octets → Except Mistake Expression
  | _, p, [] =>
    if !p.outer.isEmpty then .error .openGroup
    else
      match p.whole? with
      | some e => .ok e
      | none => if p.others.isNone then .ok .empty else .error .operand
  | 0, _, _ => .error .operand
  | rounds + 1, p, c :: rest =>
    let part (e : Expression) (rest : Octets) := read rounds (p.push e) rest
    let repeated (least : Nat) (most : Option Nat) :=
      match p.last with
      | some e => read rounds { p with last := some (.repeated e least most) } rest
      | none => .error (if p.atStart then .repeatedStart else .operand)
    match c with
    | '\\' =>
      let (text, rest) := escaped rest
      part (.character text) rest
    | '.' => part (.character allCharacters) rest
    | '[' =>
      let (negated, inner) := match rest with
        | '^' :: inner => (true, inner)
        | inner => (false, inner)
      match readItems true (inner.length + 1) inner with
      | .error e => .error e
      | .ok (accepted, rest) =>
        part (.character (if negated then allCharacters.filter (!accepted.contains ·) else accepted))
          rest
    | '(' => read rounds { outer := (p.joined, p.others) :: p.outer } rest
    | ')' =>
      match p.outer with
      | [] => part (.character [')']) rest
      | (sofar, others) :: outer =>
        match p.whole? with
        | none => .error .operand
        | some e =>
          read rounds { sofar, others, outer, last := some e } rest
    | '|' =>
      match p.whole? with
      | none => .error .operand
      | some e => read rounds { outer := p.outer, others := some e } rest
    | '*' => repeated 0 none
    | '+' => repeated 1 none
    | '?' => repeated 0 (some 1)
    | '^' => read rounds { p with sofar := (p.push .lineStart).joined, last := none, atStart := true }
        rest
    | '$' => read rounds { p with sofar := (p.push .lineEnd).joined, last := none } rest
    | c => part (.character [c]) rest

end Progress

def ofText (text : Octets) : Except Mistake Expression :=
  Progress.read (text.length + 1) {} text

/-- What is said about an expression that cannot be read. -/
def complaint (text : Octets) (m : Mistake) : Octets :=
  ("regular expression compile failed (" ++ m.message ++ ")\n").toList ++ text

end Regex

/-!
## What programs about records know

Arrays, and everything else that a program knows while it runs.
-/

/-!
## Arrays of programs about records

An array holds values by names and by whole numbers, where a number and the name that writes
it are the same. The order in which a loop goes through it comes from how the entries are
kept: in rows by a sum of their names, and in a row those first that were looked for last.
-/

/-- An entry of an array. The marks tell when it was looked for by its name and by its
number; nought means that it is not kept so. -/
structure Entry (α : Type) where
  value : α
  byName : Nat := 0
  byNumber : Nat := 0
  number : Int := 0

structure Table (α : Type) where
  entries : Std.HashMap String (Entry α) := {}
  clock : Nat := 1
  rows : Nat := 63
  named : Bool := false

namespace Table

variable {α : Type}

def rowLimit : Nat := 12

def sumOf (name : String) : Nat :=
  name.toList.foldl (fun h c => Nat.xor h c.toNat * 16777619 % 4294967296) 2166136261

def rowOf (t : Table α) (name : String) : Nat := sumOf name % (t.rows + 1)

def numberRow (t : Table α) (n : Int) : Nat := (n % ((t.rows : Int) + 1)).toNat

def size (t : Table α) : Nat := t.entries.size

/-- An array where all entries are kept by their names. -/
def withNames (t : Table α) : Table α :=
  if t.named then t
  else
    let unnamed := t.entries.toList.filter fun e => e.2.byName == 0
    let inOrder := unnamed.mergeSort fun a b =>
      let ra := t.numberRow a.2.number
      let rb := t.numberRow b.2.number
      decide (ra < rb) || (ra == rb && decide (b.2.byNumber ≤ a.2.byNumber))
    inOrder.foldl (fun t e =>
      { t with
        entries := t.entries.insert e.1 { e.2 with byName := t.clock }, clock := t.clock + 1 })
      { t with named := true }

/-- An array with more rows, if there are too many entries. -/
def widened (t : Table α) : Table α :=
  if (t.rows + 1) * rowLimit < t.size then { t with rows := 2 * t.rows + 1 } else t

def touchName (t : Table α) (name : String) : Table α :=
  let t := t.withNames
  match t.entries[name]? with
  | some e =>
    { t with entries := t.entries.insert name { e with byName := t.clock }, clock := t.clock + 1 }
  | none => t

def touchNumber (t : Table α) (name : String) (n : Int) : Table α :=
  match t.entries[name]? with
  | some e =>
    let t := if e.byNumber = 0 then t.touchName name else t
    let e := (t.entries[name]?).getD e
    { t with
      entries := t.entries.insert name { e with byNumber := t.clock, number := n }
      clock := t.clock + 1 }
  | none => t

/-- Looks for a key, which is a number or a name. -/
def touch (t : Table α) (name : String) (number : Option Int) : Table α :=
  match number with
  | some n => t.touchNumber name n
  | none => t.touchName name

def get? (t : Table α) (name : String) : Option α := (t.entries[name]?).map Entry.value

def set (t : Table α) (name : String) (number : Option Int) (value : α) : Table α :=
  match t.entries[name]? with
  | some _ =>
    let t := t.touch name number
    match t.entries[name]? with
    | some e => { t with entries := t.entries.insert name { e with value } }
    | none => t
  | none =>
    let byName := match number with
      | some _ => if t.named then t.clock else 0
      | none => t.clock
    let t := if number.isNone then t.withNames else t
    let byName := if byName = 0 then 0 else t.clock
    let e : Entry α :=
      { value, byName, byNumber := if number.isSome then t.clock else 0, number := number.getD 0 }
    { t with entries := t.entries.insert name e, clock := t.clock + 1 }.widened

def erase (t : Table α) (name : String) : Table α :=
  let t := { t with entries := t.entries.erase name }
  if t.entries.isEmpty then {} else t

/-- The array with all its names in the order of a loop. -/
def keys (t : Table α) : List String × Table α :=
  let t := t.withNames
  let inOrder := t.entries.toList.mergeSort fun a b =>
    let ra := t.rowOf a.1
    let rb := t.rowOf b.1
    decide (ra < rb) || (ra == rb && decide (b.2.byName ≤ a.2.byName))
  (inOrder.map (·.1), t)

/-- The array of some values with the numbers from one on. -/
def ofValues (values : List α) : Table α :=
  values.zipIdx.foldl (fun t (value, place) =>
    t.set (toString (place + 1)) (some (place + 1 : Nat)) value) {}

end Table

/-!
## The state of a program about records

What a running program knows: its variables and arrays, the record and its fields, what it
reads from and prints to, and what has come of the commands it has started.
-/

open Delegate

/-- Numbers by chance, as a row where each one comes from two earlier ones. -/
structure Chance where
  row : Array Nat
  deriving Inhabited

namespace Chance

def seeds : Nat → Int → List Nat
  | 0, _ => []
  | rounds + 1, n =>
    let next := 16807 * n.tmod 127773 - 2836 * n.tdiv 127773
    (n % 4294967296).toNat :: seeds rounds (if next < 0 then next + 2147483647 else next)

def next (c : Chance) : Nat × Chance :=
  let n := ((c.row[0]?).getD 0 + (c.row[28]?).getD 0) % 4294967296
  (n / 2, { row := (c.row.extract 1 c.row.size).push n })

def skip : Nat → Chance → Chance
  | 0, c => c
  | count + 1, c => skip count c.next.2

def ofSeed (seed : Int) : Chance :=
  let first := (seeds 31 (if seed = 0 then 1 else seed)).toArray
  skip 310 { row := first.extract 3 31 ++ first.extract 0 3 }

end Chance

inductive Slot where
  | value (v : Value)
  | array (place : Nat)
  deriving Inhabited

structure Feed where
  text : Octets
  live : Bool := false

inductive Usage where
  /-- Something is printed there, of which the last is still kept, the latest first. -/
  | destination (target : Destination) (kept : List Octets)
  | consumer (kept : List Octets)
  | source (feed : Feed)
  | producer (feed : Feed) (status : Nat)

structure Link where
  name : Octets
  usage : Usage

structure State where
  globals : Std.HashMap String Slot := {}
  locals : List (String × Slot) := []
  arrays : Std.HashMap Nat (Table Value) := {}
  arrayCount : Nat := 0
  record : Octets := []
  fields : Array Value := #[]
  isSplit : Bool := false
  isJoined : Bool := true
  main : Option Feed := none
  argument : Nat := 1
  hasFiles : Bool := false
  links : List Link := []
  kept : List Octets := []
  sequel : Sequel
  inside : List Nat := []
  status : Nat := 0
  failed : Bool := false
  seed : Value := .number (Float.ofInt Calendar.present.seconds)
  chance : Chance := .ofSeed 1
  /-- How many values are at hand while others are computed. -/
  depth : Nat := 0

namespace State

/-! ## What has been printed -/

/-- With everything that is kept for the output put there. -/
def flushOutput (s : State) : State :=
  if s.kept.isEmpty then s
  else { s with sequel := s.sequel.prints .output s.kept.reverse.flatten, kept := [] }

def put (s : State) (target : Destination) (text : Octets) : State :=
  if text.isEmpty then s
  else
    match target with
    | .output => { s with kept := text :: s.kept }
    | .errors => { s with sequel := s.sequel.prints .errors text }
    | .file outlet => { s with sequel := s.sequel.withFiles (s.sequel.files.append outlet text) }

def flushFiles (s : State) : State :=
  let (s, links) := s.links.foldl (fun (s, links) link =>
    match link.usage with
    | .destination target kept =>
      (s.put target kept.reverse.flatten, links ++ [{ link with usage := .destination target [] }])
    | _ => (s, links ++ [link])) ((s, []) : State × List Link)
  { s with links }

/-- With everything that is kept put where it belongs, but for commands. -/
def flush (s : State) : State := s.flushFiles.flushOutput

/-! ## Files and commands in use -/

def find? (s : State) (name : Octets) (fits : Usage → Bool) : Option (Link × State) :=
  (s.links.find? fun link => link.name == name && fits link.usage).map fun link =>
    let others := s.links.filter fun other => !(other.name == name && fits other.usage)
    (link, { s with links := link :: others })

def withFront (s : State) (link : Link) : State :=
  { s with links := link :: s.links.drop 1 }

end State

/-!
## Records and fields

How a text is taken apart into records and a record into fields: at a character, at blanks, at
empty lines, or where an expression matches.
-/

inductive Separator where
  | blanks
  | nothing
  | character (c : Char)
  | emptyLines
  | expression (e : Expression)

namespace Separator

/-- What separates fields, or what is wrong with the expression for it. -/
def ofFields (text : Octets) : Except Regex.Mistake Separator :=
  match text with
  | [] => .ok .nothing
  | [c] => .ok (if c = ' ' then .blanks else .character c)
  | text => (Regex.ofText text).map .expression

def ofRecords (text : Octets) : Except Regex.Mistake Separator :=
  match text with
  | [] => .ok .emptyLines
  | [c] => .ok (.character c)
  | text => (Regex.ofText text).map .expression

def isBlank (c : Char) : Bool := c == ' ' || c == '\t' || c == '\n'

def words : Nat → Octets → List Octets
  | 0, _ => []
  | rounds + 1, text =>
    match text.dropWhile isBlank with
    | [] => []
    | text =>
      let word := text.takeWhile fun c => !isBlank c
      word :: words rounds (text.drop word.length)

/-- The parts of a text between matches of an expression. A match has to be of some
character. -/
def between (e : Expression) (text : Octets) : Nat → Nat → Nat → List Octets
  | 0, begun, _ => [text.drop begun]
  | rounds + 1, begun, start =>
    match Expression.matchFrom {} e text start with
    | none => [text.drop begun]
    | some m =>
      if m.stop = m.start then
        if text.length ≤ m.start then [text.drop begun] else between e text rounds begun (m.start + 1)
      else (text.drop begun).take (m.start - begun) :: between e text rounds m.stop m.stop

def split (s : Separator) (text : Octets) : List Octets :=
  if text.isEmpty then []
  else
    match s with
    | blanks => words (text.length + 1) text
    | nothing => text.map fun c => [c]
    | character c => Octets.splitAt c text
    | emptyLines => [text]
    | expression e => between e text (text.length + 1) 0 0

def emptyLine? : Nat → Octets → Option Nat
  | _, [] => none
  | place, c :: rest =>
    if c = '\n' && rest.head? = some '\n' then some place else emptyLine? (place + 1) rest

/-- The first record of a text and what is behind it, unless more is needed to tell. The text
is complete if nothing more can come. -/
def record? (s : Separator) (complete : Bool) (text : Octets) : Option (Octets × Octets) :=
  let whole (text : Octets) : Option (Octets × Octets) :=
    if complete && !text.isEmpty then some (text, []) else none
  let at_ (c : Char) : Option (Octets × Octets) :=
    let (front, rest) := text.span (· != c)
    match rest with
    | [] => whole text
    | _ :: rest => some (front, rest)
  match s with
  | blanks => at_ ' '
  | nothing | emptyLines =>
    let text := text.dropWhile (· == '\n')
    match emptyLine? 0 text with
    | some place => some (text.take place, (text.drop place).dropWhile (· == '\n'))
    | none => whole (if text.getLast? = some '\n' then text.dropLast else text)
  | character c => at_ c
  | expression e =>
    let found := (List.range (text.length + 1)).findSome? fun start =>
      match Expression.matchAt {} e text start with
      | some m => if m.start < m.stop then some m else none
      | none => none
    match found with
    | some m =>
      if m.stop < text.length || complete then some (text.take m.start, text.drop m.stop) else none
    | none => whole text

end Separator

def portion : Nat := 4096

structure Taken where
  record : Option Octets
  feed : Feed
  input : Octets
  looked : Bool := false

def portionLimit : Nat := 100000000

/-- The next record of a text that is read in parts. -/
def Feed.record (sep : Separator) : Nat → Feed → Octets → Taken
  | rounds, f, input =>
    let complete := !f.live || input.isEmpty
    match sep.record? complete f.text, rounds with
    | some (record, text), _ => { record, feed := { f with text }, input }
    | none, 0 => { record := none, feed := { f with text := [] }, input, looked := f.live }
    | none, rounds + 1 =>
      if complete then { record := none, feed := { f with text := [] }, input, looked := f.live }
      else
        let f := { f with text := f.text ++ input.take portion }
        { Feed.record sep rounds f (input.drop portion) with looked := true }

end CommandChains.Machine.Records
