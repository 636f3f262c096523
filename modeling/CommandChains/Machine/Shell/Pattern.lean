import CommandChains.Machine.CharacterClass
import CommandChains.Machine.Files
import CommandChains.Machine.Shell.Syntax

/-!
# Patterns of scripts

Patterns that whole texts match: an asterisk stands for any text, a question mark for
any character, and brackets for one character out of a set. The large shell also knows
alternatives in parentheses. Characters that were between quotes stand for themselves.
A pattern can stand for the paths of all files that it fits.
-/

namespace CommandChains.Machine.Shell

/-- A character of a word, and whether it may be part of a pattern. -/
abbrev Marked := Char × Bool

namespace Marked

def still (text : Octets) : List Marked := text.map fun c => (c, false)

/-- A text whose characters may be part of a pattern. -/
def active (text : Octets) : List Marked := text.map fun c => (c, true)

def text (marked : List Marked) : Octets := marked.map (·.1)

end Marked

inductive PatternPart where
  | anyText
  | one (accepts : Char → Bool)
  /-- Alternatives, and a sign that says how often they may stand. -/
  | group (sign : Char) (choices : List (List PatternPart))
  deriving Inhabited

namespace PatternPart

/-- What is left of a text from every place on, the whole of it first. -/
def suffixes : Octets → List Octets
  | [] => [[]]
  | c :: rest => (c :: rest) :: suffixes rest

/-- Whether a pattern matches the beginning of a text so that what is left is welcome, in at
most so many steps. -/
def matches_ : Nat → List PatternPart → Octets → (Octets → Bool) → Bool
  | _, [], text, welcome => welcome text
  | 0, _ :: _, _, _ => false
  | steps + 1, .anyText :: rest, text, welcome =>
    if rest.isEmpty && welcome [] then true
    else (suffixes text).any fun left => matches_ steps rest left welcome
  | _ + 1, .one _ :: _, [], _ => false
  | steps + 1, .one accepts :: rest, c :: text, welcome =>
    accepts c && matches_ steps rest text welcome
  | steps + 1, .group sign choices :: rest, text, welcome =>
    let behind (left : Octets) : Bool := matches_ steps rest left welcome
    let again (left : Octets) : Bool :=
      left.length < text.length && matches_ steps (.group '*' choices :: rest) left welcome
    let any (next : Octets → Bool) : Bool :=
      choices.any fun choice => matches_ steps choice text next
    match sign with
    | '?' => behind text || any behind
    | '*' => behind text || any again
    | '+' => any fun left => behind left || again left
    | '!' =>
      (suffixes text).any fun left =>
        let front := text.take (text.length - left.length)
        !(choices.any fun choice => matches_ steps choice front List.isEmpty) && behind left
    | _ => any behind

/-- Reads what stands between brackets, where `first` says that nothing has been read. -/
def readSet (first : Bool) : Nat → List Marked → Option ((Char → Bool) × List Marked)
  | 0, _ => none
  | _, [] => none
  | rounds + 1, (c, active) :: rest =>
    if c = ']' && active && !first then some (fun _ => false, rest)
    else if c = '\\' && active then
      match rest with
      | (d, _) :: rest =>
        (readSet false rounds rest).map fun (more, rest) => (fun e => e == d || more e, rest)
      | [] => none
    else
      let withClass : Option ((Char → Bool) × List Marked) :=
        match c, rest with
        | '[', (':', _) :: rest =>
          let name := (rest.takeWhile fun m => m.1 != ':').map (·.1)
          match rest.drop name.length, classNamed? name with
          | (':', _) :: (']', _) :: rest, some accepts => some (accepts, rest)
          | _, _ => none
        | _, _ => none
      match withClass with
      | some (accepts, rest) =>
        (readSet false rounds rest).map fun (more, rest) => (fun d => accepts d || more d, rest)
      | none =>
        match rest with
        | ('-', true) :: (last, lastActive) :: rest =>
          if last = ']' && lastActive then
            (readSet false rounds (('-', true) :: (last, lastActive) :: rest)).map
              fun (more, rest) => (fun d => d == c || more d, rest)
          else
            (readSet false rounds rest).map fun (more, rest) =>
              (fun d => (decide (c ≤ d) && decide (d ≤ last)) || more d, rest)
        | rest =>
          (readSet false rounds rest).map fun (more, rest) => (fun d => d == c || more d, rest)

/-- The set in brackets at the beginning of a text behind its opening bracket. -/
def set? (dialect : Dialect) (text : List Marked) : Option ((Char → Bool) × List Marked) :=
  match text with
  | (c, true) :: rest =>
    if c = '!' ∨ (c = '^' ∧ dialect = .large) then
      (readSet true (rest.length + 1) rest).map fun (accepts, rest) => (fun d => !accepts d, rest)
    else readSet true (text.length + 1) text
  | text => readSet true (text.length + 1) text

/-- The alternatives up to the parenthesis that closes them, each between two bars, and what
is behind. -/
def choicesOf : Nat → List Marked → Option (List (List Marked) × List Marked)
  | _, [] => none
  | depth, (c, active) :: rest =>
    let keep (depth : Nat) : Option (List (List Marked) × List Marked) :=
      (choicesOf depth rest).map fun (choices, behind) =>
        match choices with
        | [] => ([[(c, active)]], behind)
        | choice :: others => (((c, active) :: choice) :: others, behind)
    if !active then keep depth
    else if c = ')' then if depth = 0 then some ([[]], rest) else keep (depth - 1)
    else if c = '(' then keep (depth + 1)
    else if c = '|' ∧ depth = 0 then
      (choicesOf depth rest).map fun (choices, behind) => ([] :: choices, behind)
    else keep depth

structure Style where
  dialect : Dialect := .small
  grouped : Bool := false
  ignoreCase : Bool := false

/-- The pattern that a text writes. Every round takes at least one character, so as many
rounds as there are characters are enough. -/
def ofMarked (style : Style) : Nat → List Marked → List PatternPart
  | 0, _ => []
  | _, [] => []
  | rounds + 1, (c, active) :: rest =>
    let same (d : Char) : Bool := if style.ignoreCase then d.toLower == c.toLower else d == c
    let plain : List PatternPart := .one same :: ofMarked style rounds rest
    let group : Option (List PatternPart) :=
      match rest with
      | ('(', true) :: inner =>
        if style.grouped && active && "@?*+!".contains c then
          (choicesOf 0 inner).map fun (choices, behind) =>
            .group c (choices.map (ofMarked style rounds)) :: ofMarked style rounds behind
        else none
      | _ => none
    match group with
    | some parts => parts
    | none =>
      if !active then plain
      else if c = '*' then .anyText :: ofMarked style rounds rest
      else if c = '?' then .one (fun _ => true) :: ofMarked style rounds rest
      else if c = '[' then
        match set? style.dialect rest with
        | some (accepts, rest) => .one accepts :: ofMarked style rounds rest
        | none => plain
      else if c = '\\' then
        match rest with
        | (d, _) :: rest => .one (· == d) :: ofMarked style rounds rest
        | [] => plain
      else plain

end PatternPart

def fits (style : PatternPart.Style) (pattern : List Marked) (text : Octets) : Bool :=
  PatternPart.matches_ ((pattern.length + 1) * (text.length + 2))
    (PatternPart.ofMarked style (pattern.length + 1) pattern) text List.isEmpty

/-- A text without what a pattern matches at its beginning, as little of it as can be or as
much. -/
def withoutBeginning (style : PatternPart.Style) (pattern : List Marked) (most : Bool)
    (text : Octets) : Octets :=
  let lengths := List.range (text.length + 1)
  let order := if most then lengths.reverse else lengths
  match order.find? fun n => fits style pattern (text.take n) with
  | some n => text.drop n
  | none => text

/-- A text without what a pattern matches at its end, as little of it as can be or as
much. -/
def withoutEnd (style : PatternPart.Style) (pattern : List Marked) (most : Bool)
    (text : Octets) : Octets :=
  let lengths := List.range (text.length + 1)
  let order := if most then lengths else lengths.reverse
  match order.find? fun n => fits style pattern (text.drop n) with
  | some n => text.take n
  | none => text

/-- The longest text at the beginning of another one that a pattern matches. -/
def longestFit (style : PatternPart.Style) (pattern : List Marked) (text : Octets) : Option Nat :=
  (List.range (text.length + 1)).reverse.find? fun n => fits style pattern (text.take n)

/-! ## Paths -/

def isPathPattern (style : PatternPart.Style) (word : List Marked) : Bool :=
  word.any (fun m => m.2 && (m.1 == '*' || m.1 == '?')) ||
    (word.any (fun m => m.2 && m.1 == '[') && word.any fun m => m.2 && m.1 == ']') ||
    (style.grouped && word.any fun m => m.2 && m.1 == '(')

def patternSteps (word : List Marked) : List (List Marked) :=
  word.foldr (fun m steps =>
    if m.1 = '/' then [] :: steps
    else match steps with
      | [] => [[m]]
      | step :: rest => (m :: step) :: rest) [[]]

/-- The names in a directory that a pattern fits. A dot at the beginning has to be meant. -/
def namesThatFit (style : PatternPart.Style) (hidden : Bool) (files : Files)
    (directory : Octets) (pattern : List Marked) : List Octets :=
  match files.node (if directory.isEmpty then ['.'] else directory) with
  | .error _ => []
  | .ok node =>
    if !node.isDirectory then []
    else
      let dots := if style.dialect = .small then [['.'], ['.', '.']] else []
      let dotted := pattern.head?.any fun m => m.1 == '.'
      (dots ++ Files.names node).filter fun name =>
        (name.head? != some '.' || dotted || (hidden && name != ['.'] && name != ['.', '.'])) &&
          fits style pattern name

/-- The paths that begin with one of some paths and go on as the steps of a pattern say. -/
def pathsAlong (style : PatternPart.Style) (hidden : Bool) (files : Files) :
    List (List Marked) → List Octets → List Octets
  | [], paths => paths
  | step :: rest, paths =>
    let last := rest.isEmpty
    let ends (path : Octets) : Octets := if last then path else path ++ ['/']
    let next := paths.flatMap fun path =>
      if isPathPattern style step then
        (namesThatFit style hidden files path step).map fun name => path ++ name
      else
        let whole := path ++ (Marked.text step)
        if !last || (files.placeOfLink (if whole.isEmpty then ['.'] else whole)).toOption.isSome
        then [whole] else []
    pathsAlong style hidden files rest (next.map ends)

def pathsThatFit (style : PatternPart.Style) (hidden : Bool) (files : Files)
    (word : List Marked) : List Octets :=
  (pathsAlong style hidden files (patternSteps word) [[]]).mergeSort Octets.atMost

end CommandChains.Machine.Shell
