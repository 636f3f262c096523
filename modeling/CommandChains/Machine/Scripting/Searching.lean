import CommandChains.Machine.Ordered.Reader
import CommandChains.Machine.Scripting.Syntax

/-!
# Searching in texts

How scripts look for patterns in texts: where the next match is, how a text is taken apart by a
pattern, and how its characters are exchanged for others.
-/

namespace CommandChains.Machine.Scripting

open Ordered

/-! ## Patterns -/

def flagsOf (letters : Octets) : Flags :=
  { ignoreCase := letters.contains 'i', severalLines := letters.contains 'm'
    dotAll := letters.contains 's', spaced := letters.contains 'x'
    spacedClasses := 1 < (letters.filter (· == 'x')).length, noGroups := letters.contains 'n'
    lenient := true }

/-- The places of parentheses that are open at the end of a pattern, the last one first. The
characters of classes do not count. -/
def openPlaces : Nat → Bool → List Nat → Octets → List Nat
  | _, _, places, [] => places
  | n, inClass, places, '\\' :: _ :: rest => openPlaces (n + 2) inClass places rest
  | n, true, places, c :: rest => openPlaces (n + 1) (c != ']') places rest
  | n, false, places, c :: rest =>
    if c = '(' then openPlaces (n + 1) false (n :: places) rest
    else if c = ')' then openPlaces (n + 1) false (places.drop 1) rest
    else openPlaces (n + 1) (c = '[') places rest

/-- The place of a bracket that is open at the end of a pattern. -/
def openClassPlace : Nat → Option Nat → Octets → Option Nat
  | _, place, [] => place
  | n, place, '\\' :: _ :: rest => openClassPlace (n + 2) place rest
  | n, none, c :: rest => openClassPlace (n + 1) (if c = '[' then some n else none) rest
  | n, some place, c :: rest =>
    openClassPlace (n + 1) (if c = ']' && place + 1 < n then none else some place) rest

/-- What is said about a pattern that cannot be read. -/
def patternComplaint (source : Octets) (e : Failure) : Octets :=
  let here := source.length - e.left
  let marked (what : String) (place : Nat) : Octets :=
    what.toList ++ " in regex; marked by <-- HERE in m/".toList ++ source.take place ++
      " <-- HERE ".toList ++ source.drop place ++ ['/']
  let behindLast (c : Char) : Octets :=
    c :: ((source.take here).reverse.takeWhile (· != c)).reverse
  let plain (what : String) : Octets := what.toList ++ " in regex m/".toList ++ source ++ ['/']
  match e.mistake with
  | .openGroup =>
    let last := '(' :: (source.reverse.takeWhile (· != '(')).reverse
    if last == ['(', '?'] then marked "Sequence (? incomplete" source.length
    else if last.head? = some '(' && last[1]? = some '?' &&
        (last.drop 2).all (fun c => "imsxn-\x5e".contains c) then
      marked "Sequence (?... not terminated" source.length
    else marked "Unmatched (" (((openPlaces 0 false [] source).headD 0) + 1)
  | .closedGroup => marked "Unmatched )" (here + 1)
  | .openClass => marked "Unmatched [" (((openClassPlace 0 none source).getD 0) + 1)
  | .nothingToRepeat =>
    let before := source.take (here - 1)
    if before.getLast?.any fun c => "*+?\x7d".contains c then marked "Nested quantifiers" here
    else marked "Quantifier follows nothing" here
  | .lastBackslash => plain "Trailing \\"
  | .unknownFlag =>
    let sequence := (source.take (here + 1)).reverse.takeWhile (· != '(')
    marked ("Sequence (" ++ String.ofList sequence.reverse ++ "...) not recognized") (here + 1)
  | .rangeOrder | .rangeOfClass =>
    marked ("Invalid [] range \"" ++ String.ofList ((source.take here).drop (here - 3)) ++ "\"") here
  | .noGroup => marked "Reference to nonexistent group" here
  | .noName => marked "Reference to nonexistent named group" (here - 1)
  | .unknownClass => marked ("POSIX class " ++ String.ofList (behindLast '[') ++ " unknown") here
  | .collating =>
    let sign := String.ofList ((source.take (here - 1)).drop (here - 2))
    marked ("POSIX syntax [" ++ sign ++ " " ++ sign ++ "] is reserved for future extensions") here
  | .behindWidth => plain "Lookbehind longer than 255 not implemented"
  | .openComment => plain "Sequence (?#... not terminated"
  | .unknownProperty =>
    marked ("Can't find Unicode property definition \"" ++
      String.ofList ((behindLast '\x7b').drop 1).dropLast ++ "\"") here
  | .timesSize => marked "Quantifier in \x7b,\x7d bigger than 65534" here
  | .unknownVerb =>
    let word := String.ofList ((behindLast '*').drop 1).dropLast
    if word.toList.head?.any Char.isLower then
      marked ("Unknown '(*...)' construct '" ++ word ++ "'") here
    else marked ("Unknown verb pattern '" ++ word ++ "'") here
  | .openVerb => marked "Unterminated verb pattern" here
  | .repeatedAgain => marked "Nested quantifiers" here
  | .badProperty =>
    if source.length = here then marked "Empty \\p" here
    else marked "Missing right brace on \\p\x7b\x7d" (here + 1)
  | .noDigits => marked "Missing right brace on \\x\x7b\x7d" here
  | .noBrace => marked "Missing braces on \\o\x7b\x7d" here
  | .nameWithDigit =>
    marked "Group name must start with a non-digit word character" (here + 1)
  | .openName => marked "Sequence (?<... not terminated" here
  | .manyBranches => marked "Switch (?(condition)... contains too many branches" here
  | .lastControl | .badControl =>
    marked "Character following \"\\c\" must be printable ASCII" here
  | m => marked (m.message) here

/-- The pattern that a text is, read as letters say. -/
def compile (source letters : Octets) : Except Octets Compiled :=
  (Compiled.ofText (flagsOf letters) source).mapError (patternComplaint source)

def toldFlags (letters : Octets) : Octets := "msixxn".toList.eraseDups.filter letters.contains

/-! ## Matches -/

/-- Where a pattern matches: its beginning, its end, and what its groups have matched. -/
structure Match where
  start : Nat
  stop : Nat
  groups : List (Nat × Nat × Nat)
  deriving Inhabited

namespace Match

def group? (m : Match) (number : Nat) : Option (Nat × Nat) :=
  if number = 0 then some (m.start, m.stop) else m.groups.lookup number

def isEmpty (m : Match) : Bool := m.start == m.stop

end Match

def part (text : Array Char) (start stop : Nat) : Octets := (text.extract start stop).toList

/-- The first match from some place on that does not end before another place. -/
def Compiled.next? (rule : Compiled) (text : Array Char) (begins ends : Nat) : Option Match :=
  (rule.pattern.findThrough? text begins ends).map fun s => ⟨s.start, s.place, s.groups⟩

/-- All matches from some place on. A match of nothing is followed by another one only behind
its place. -/
def allMatches (rule : Compiled) (text : Array Char) : Nat → Nat → Nat → List Match
  | 0, _, _ => []
  | rounds + 1, begins, ends =>
    match Compiled.next? rule text begins ends with
    | none => []
    | some m =>
      m :: allMatches rule text rounds m.stop (if m.isEmpty then m.stop + 1 else m.stop)

def groupTexts (text : Array Char) (count : Nat) (m : Match) : List Value :=
  (List.range count).map fun n =>
    match m.group? (n + 1) with
    | some (start, stop) => .text (part text start stop)
    | none => .unset

/-! ## Taking texts apart -/

/-- The parts of a text between matches, with what groups have matched between them; at most so
many parts if there is a limit. -/
def splitFrom (rule : Compiled) (text : Array Char) :
    Nat → Nat → Option Nat → List Value
  | 0, begins, _ => [.text (part text begins text.size)]
  | rounds + 1, begins, limit =>
    let found : Option Match :=
      if text.size ≤ begins || limit == some 1 then none
      else
        (Compiled.next? rule text begins (begins + 1)).filter fun m =>
          !(m.isEmpty && text.size ≤ m.start)
    match found with
    | none => [.text (part text begins text.size)]
    | some m =>
      .text (part text begins m.start) :: groupTexts text rule.groups m ++
        splitFrom rule text rounds m.stop (limit.map (· - 1))

def withoutEmptyEnd (values : List Value) : List Value :=
  (values.reverse.dropWhile fun v => v.plainText.isEmpty).reverse

/-- The parts of a text. Without a limit, empty parts at the end do not count. -/
def splitText (rule : Compiled) (text : Octets) (limit : Int) : List Value :=
  if text.isEmpty then []
  else
    let all := splitFrom rule text.toArray (text.length + 1) 0
      (if 0 < limit then some limit.toNat else none)
    if limit = 0 then withoutEmptyEnd all else all

def blanksRule : Compiled :=
  { pattern := .repeated (.character ((Reader.classOf? 's').getD [])) 1 none .greedy }

def splitWords (text : Octets) (limit : Int) : List Value :=
  splitText blanksRule (text.dropWhile Octets.isSpace) limit

/-! ## Exchanging characters -/

namespace Exchange

/-- What stands in the place of a character: another one, nothing, or itself if it is none of
those that are wanted. -/
def target (x : Exchange) (c : Char) : Option (Option Char) :=
  let new := if x.new.isEmpty && !x.deletes then x.wanted else x.new
  if x.complement then
    if x.wanted.contains c then none
    else if x.deletes then some (x.new.getLast?)
    else some (if x.new.isEmpty then some c else x.new.getLast?)
  else
    match x.wanted.findIdx? (· == c) with
    | none => none
    | some place =>
      match new[place]? with
      | some d => some (some d)
      | none => some (if x.deletes then none else new.getLast?)

/-- A text with its characters exchanged, and how many were wanted. The last character that was
put in comes with it. -/
def run (x : Exchange) : Option Char → Octets → Octets × Nat
  | _, [] => ([], 0)
  | last, c :: rest =>
    match x.target c with
    | none =>
      let (others, count) := run x none rest
      (c :: others, count)
    | some none =>
      let (others, count) := run x last rest
      (others, count + 1)
    | some (some d) =>
      let (others, count) := run x (some d) rest
      if x.squeezes && last == some d then (others, count + 1) else (d :: others, count + 1)

end Exchange

/-! ## Letters -/

def plainPattern (text : Octets) : Octets :=
  text.flatMap fun c => if c.isAlphanum || c == '_' || 255 < c.toNat then [c] else ['\\', c]

def withFirst (change : Char → Char) : Octets → Octets
  | [] => []
  | c :: rest => change c :: rest

end CommandChains.Machine.Scripting
