import CommandChains.Machine.CharacterClass

/-!
# Patterns with an order

Patterns that texts match where the order of what could match counts: of several alternatives the
first one that leads on is taken, and a repetition says whether it prefers more or less. A pattern
can look around without moving, and can be a part of itself.
-/

namespace CommandChains.Machine.Ordered

inductive Eagerness where
  | greedy
  | reluctant
  /-- As much as there is, of which nothing is given back. -/
  | possessive
  deriving DecidableEq, Repr

inductive Assertion where
  | textStart
  | textEnd
  | lastLineEnd
  | lineStart
  | lineEnd
  | wordEdge (isOne : Bool)
  | searchStart
  deriving DecidableEq, Repr

inductive Pattern where
  | empty
  | fails
  | character (accepted : Octets)
  | both (first second : Pattern)
  | either (first second : Pattern)
  | repeated (e : Pattern) (least : Nat) (most : Option Nat) (how : Eagerness)
  | group (number : Nat) (e : Pattern)
  | atomic (e : Pattern)
  | ahead (wanted : Bool) (e : Pattern)
  | behind (wanted : Bool) (e : Pattern)
  | again (number : Nat) (ignoreCase : Bool)
  | holds (a : Assertion)
  | keep
  | ifGroup (number : Nat) (yes no : Pattern)
  | ifLook (look yes no : Pattern)
  | call (number : Nat)
  deriving Repr, Inhabited

namespace Pattern

def groupOf? (number : Nat) : Pattern → Option Pattern
  | group n e => if n = number then some e else groupOf? number e
  | both a b | either a b | ifGroup _ a b =>
    match groupOf? number a with
    | some e => some e
    | none => groupOf? number b
  | ifLook l a b =>
    match groupOf? number l, groupOf? number a with
    | some e, _ | none, some e => some e
    | none, none => groupOf? number b
  | repeated e _ _ _ | atomic e | ahead _ e | behind _ e => groupOf? number e
  | _ => none

/-- How many characters a pattern matches, if that is always the same. -/
def width? : Pattern → Option Nat
  | empty | fails | holds _ | ahead _ _ | behind _ _ | keep => some 0
  | character _ => some 1
  | both a b =>
    match a.width?, b.width? with
    | some m, some n => some (m + n)
    | _, _ => none
  | either a b | ifGroup _ a b | ifLook _ a b =>
    match a.width?, b.width? with
    | some m, some n => if m = n then some m else none
    | _, _ => none
  | repeated e least most _ =>
    if most = some least then (e.width?).map (· * least) else none
  | group _ e | atomic e => e.width?
  | again _ _ | call _ => none

/-- Whether each alternative of a pattern matches a number of characters that is always the
same. -/
def hasWidths : Pattern → Bool
  | either a b => a.hasWidths && b.hasWidths
  | e => e.width?.isSome

/-- Whether the place where the match begins is set in a pattern. -/
def keeps : Pattern → Bool
  | keep => true
  | both a b | either a b | ifGroup _ a b | ifLook _ a b => a.keeps || b.keeps
  | repeated e _ _ _ | group _ e | atomic e | ahead _ e | behind _ e => e.keeps
  | _ => false

end Pattern

/-! ## Matching -/

structure Spot where
  place : Nat
  start : Nat
  /-- What the groups have matched: number, start and end, the latest first. -/
  groups : List (Nat × Nat × Nat) := []
  deriving Repr

structure Setting where
  text : Array Char
  whole : Pattern
  began : Nat := 0

namespace Setting

def isWordCharacter (c : Char) : Bool := c.isAlphanum || c == '_'

def holdsAt (c : Setting) (place : Nat) : Assertion → Bool
  | .textStart => place == 0
  | .textEnd => place == c.text.size
  | .lastLineEnd =>
    place == c.text.size || (place + 1 == c.text.size && c.text[place]? == some '\n')
  | .lineStart => place == 0 || (c.text[place - 1]? == some '\n' && place != c.text.size)
  | .lineEnd => place == c.text.size || c.text[place]? == some '\n'
  | .wordEdge isOne =>
    let before := place != 0 && (c.text[place - 1]?).any isWordCharacter
    (before != (c.text[place]?).any isWordCharacter) == isOne
  | .searchStart => place == c.began

/-- How many characters from a place on are out of some, at most so many. -/
def countOf (c : Setting) (accepted : Octets) : Nat → Nat → Nat
  | 0, _ => 0
  | most + 1, place =>
    match c.text[place]? with
    | some x => if accepted.contains x then countOf c accepted most (place + 1) + 1 else 0
    | none => 0

/-- Goes on behind so many characters, or else behind fewer, but not fewer than the least. -/
def givingBack (go : Nat → Option Spot) (least : Nat) : Nat → Option Spot
  | 0 => if least = 0 then go 0 else none
  | count + 1 =>
    if count + 1 < least then none
    else
      match go (count + 1) with
      | some s => some s
      | none => givingBack go least count

/-- Goes on behind so many characters, or else behind one more, as long as there are some. -/
def takingMore (go : Nat → Option Spot) : Nat → Nat → Option Spot
  | 0, count => go count
  | more + 1, count =>
    match go count with
    | some s => some s
    | none => takingMore go more (count + 1)

/-- Whether two characters are the same, perhaps but for their case. -/
def same (ignoreCase : Bool) (a b : Char) : Bool :=
  a == b || (ignoreCase && a.toLower == b.toLower)

/-- Whether a part of the text stands at a place, and where it ends there. -/
def again? (c : Setting) (ignoreCase : Bool) (start stop place : Nat) : Option Nat :=
  let fits := (List.range (stop - start)).all fun n =>
    match c.text[start + n]?, c.text[place + n]? with
    | some a, some b => same ignoreCase a b
    | _, _ => false
  if fits then some (place + (stop - start)) else none

mutual

/-- Matches a pattern from a spot on and then goes on: the first way that leads to an end. It
takes steps of a limited depth. -/
def run (c : Setting) : Nat → Pattern → Spot → (Spot → Option Spot) → Option Spot
  | 0, _, _, _ => none
  | f + 1, e, s, go =>
    match e with
    | .empty => go s
    | .fails => none
    | .character accepted =>
      match c.text[s.place]? with
      | some x => if accepted.contains x then go { s with place := s.place + 1 } else none
      | none => none
    | .both a b => c.run f a s fun s => c.run f b s go
    | .either a b =>
      match c.run f a s go with
      | some s => some s
      | none => c.run f b s go
    | .repeated (.character accepted) least most how =>
      let room := c.text.size - s.place
      let count := c.countOf accepted ((most.map (min room)).getD room) s.place
      let behind (n : Nat) : Option Spot := go { s with place := s.place + n }
      match how with
      | .greedy => givingBack behind least count
      | .reluctant => if count < least then none else takingMore behind (count - least) least
      | .possessive => if count < least then none else behind count
    | .repeated e least most .possessive =>
      match c.rounds f e least most true s some with
      | some s => go s
      | none => none
    | .repeated e least most how => c.rounds f e least most (how = .greedy) s go
    | .group number e =>
      let start := s.place
      c.run f e s fun s => go { s with groups := (number, start, s.place) :: s.groups }
    | .atomic e =>
      match c.run f e s some with
      | some s => go s
      | none => none
    | .ahead wanted e =>
      match c.run f e s some, wanted with
      | some there, true => go { there with place := s.place, start := s.start }
      | none, false => go s
      | _, _ => none
    | .behind wanted e =>
      let ends (there : Spot) : Option Spot := if there.place = s.place then some there else none
      let found := (List.range (s.place + 1)).findSome? fun back =>
        c.run f e { s with place := s.place - back } ends
      match found, wanted with
      | some there, true => go { there with start := s.start }
      | none, false => go s
      | _, _ => none
    | .again number ignoreCase =>
      match s.groups.lookup number with
      | none => none
      | some (start, stop) =>
        match c.again? ignoreCase start stop s.place with
        | some place => go { s with place }
        | none => none
    | .holds a => if c.holdsAt s.place a then go s else none
    | .keep => go { s with start := s.place }
    | .ifGroup number yes no =>
      if (s.groups.lookup number).isSome then c.run f yes s go else c.run f no s go
    | .ifLook look yes no =>
      match c.run f look s some with
      | some there => c.run f yes { there with place := s.place } go
      | none => c.run f no s go
    | .call number =>
      let e := if number = 0 then some c.whole else c.whole.groupOf? number
      match e with
      | none => none
      | some e =>
        let groups := s.groups
        c.run f e s fun s => go { s with groups }

/-- Matches a pattern again and again and then goes on. -/
def rounds (c : Setting) : Nat → Pattern → Nat → Option Nat → Bool → Spot →
    (Spot → Option Spot) → Option Spot
  | 0, _, _, _, _, _, _ => none
  | f + 1, e, least, most, greedy, s, go =>
    let more : Unit → Option Spot := fun _ =>
      if most = some 0 then none
      else
        c.run f e s fun there =>
          if there.place = s.place ∧ least = 0 then none
          else c.rounds f e (least - 1) (most.map (· - 1)) greedy there go
    let enough : Unit → Option Spot := fun _ => if least = 0 then go s else none
    if greedy then
      match more () with
      | some s => some s
      | none => enough ()
    else
      match enough () with
      | some s => some s
      | none => more ()

end

end Setting

def depthLimit : Nat := 1000000

/-- What comes of the first of so many places, from one on, from which something comes. -/
def firstFrom {α : Type} (attempt : Nat → Option α) : Nat → Nat → Option α
  | 0, _ => none
  | left + 1, place =>
    match attempt place with
    | some found => some found
    | none => firstFrom attempt left (place + 1)

/-- The first match of a pattern from some place on that does not end before another place. -/
def Pattern.findThrough? (e : Pattern) (text : Array Char) (begins ends : Nat) : Option Spot :=
  let c : Setting := { text, whole := e, began := begins }
  let enough (s : Spot) : Option Spot := if s.place < ends then none else some s
  firstFrom (fun place => c.run depthLimit e { place, start := place } enough)
    (text.size + 1 - begins) begins

/-- The first match of a pattern from some place on. -/
def Pattern.find? (e : Pattern) (text : Array Char) (begins : Nat) : Option Spot :=
  e.findThrough? text begins 0

end CommandChains.Machine.Ordered
