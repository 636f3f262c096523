import CommandChains.Text.Words
import CommandChains.Text.Alphanumeric

/-!
# Patterns of log filters

The value in a field of a directive is a regular expression. Values are compared
with the fields of spans, and nothing logged here lies in a span; what matters of
a pattern is whether it can be used. A directive whose pattern cannot is refused.

A pattern stands between braces, so it holds no closing brace. Whatever needs one,
such as a counted repetition, is therefore ill-formed here. Patterns are matched in
one pass, which sees a text as bytes; the ends of words that are made of other
characters than ASCII cannot be found like this.
-/

namespace CommandChains.Log.Pattern

/-!
## Flags

Flags say how the characters of a pattern are taken. A pattern can change them for
the rest of a group. Which things a pattern may match depends on them: what is
matched is text, so nothing may be able to match a part of a character, and letter
case can be ignored for ASCII only.
-/

structure Flags where
  ignoreCase : Bool := false
  /-- Whether characters are meant and not bytes. -/
  unicode : Bool := true
  /-- White space and comments are skipped. -/
  spaced : Bool := false
  deriving DecidableEq, Repr

namespace Flags

/-- Reads the flags of a group, through the colon or parenthesis that ends them. Gives
the flags, and whether only flags were set. A dash that takes flags back must have
a flag behind it, and nothing may occur twice. -/
def read (f : Flags) (negated dangling : Bool) (seen : List Char) :
    List Char → Option (Flags × Bool × List Char)
  | [] => none
  | ':' :: rest => if dangling then none else some (f, false, rest)
  | ')' :: rest => if dangling || seen.isEmpty then none else some (f, true, rest)
  | c :: rest =>
    if seen.contains c then none
    else match c with
      | '-' => read f true true (c :: seen) rest
      | 'i' => read { f with ignoreCase := !negated } negated false (c :: seen) rest
      | 'u' => read { f with unicode := !negated } negated false (c :: seen) rest
      | 'x' => read { f with spaced := !negated } negated false (c :: seen) rest
      | 'm' | 's' | 'U' | 'R' => read f negated false (c :: seen) rest
      | _ => none

/-! ## What can be matched -/

/-- Whether a character outside a bracket can be matched. `byte` says that its code was
written with two digits, which then are those of a byte if bytes are meant. -/
def canMatch (f : Flags) (byte : Bool) (c : Char) : Bool :=
  if f.unicode then !f.ignoreCase else !byte || decide (c.toNat < 128)

/-- Whether a character in a bracket can be matched. -/
def canMatchInside (f : Flags) (c : Char) : Bool :=
  if f.unicode then !f.ignoreCase else decide (c.toNat < 128)

/-- Whether a class that is given by its name can be matched. -/
def canMatchNamed (f : Flags) (negated : Bool) : Bool :=
  if f.unicode then !f.ignoreCase else !negated

/-- Whether a class that is given by a letter can be matched. With characters in place
of bytes it would take a table. -/
def canMatchLettered (f : Flags) (negated : Bool) : Bool :=
  !f.unicode && !negated

/-- Whether all characters but some can be matched. -/
def canMatchOthers (f : Flags) : Bool :=
  f.unicode

/-! ## White space and comments -/

/-- A text without the white space and comments in front, where `inComment` says that
it begins inside a comment. A comment goes from a number sign to the end of its
line. -/
def skipFrom (inComment : Bool) : List Char → List Char
  | [] => []
  | c :: rest =>
    if inComment then skipFrom (c != '\n') rest
    else if Text.isWhiteSpace c then skipFrom false rest
    else if c = '#' then skipFrom true rest
    else c :: rest

/-- A text without what is skipped in front of it. -/
def skip (f : Flags) (text : List Char) : List Char :=
  if f.spaced then skipFrom false text else text

/-- The first character that is not white space; one number sign is passed over. -/
def firstVisible (passed : Bool) : List Char → Option Char
  | [] => none
  | c :: rest =>
    if Text.isWhiteSpace c then firstVisible passed rest
    else if c = '#' && !passed then firstVisible true rest
    else some c

/-- The character that decides what a dash in a bracket means, which stands before this
text. -/
def peek (f : Flags) (text : List Char) : Option Char :=
  if f.spaced then (firstVisible false text).or text.head? else text.head?

end Flags

/-!
## Escapes of patterns

A backslash takes the special meaning from the character behind it or gives it one:
a control character, a character by its code, a class of characters, or a place in
the text.
-/

/-- What a backslash and what follows it stand for. -/
inductive Escape where
  /-- A character; `byte` says that its code was written with two digits. -/
  | character (c : Char) (byte : Bool := false)
  /-- A place in the text; `atWord` says that it is one where a word begins or ends, or
  one where none does. -/
  | place (atWord : Bool)
  | characters (negated : Bool)
  deriving DecidableEq, Repr

namespace Escape

def control? : Char → Option Char
  | 'a' => some '\x07'
  | 'f' => some '\x0c'
  | 'n' => some '\n'
  | 'r' => some '\r'
  | 't' => some '\t'
  | 'v' => some '\x0b'
  | _ => none

/-- Whether a character may follow a backslash to stand for itself. -/
def isPlain (c : Char) : Bool :=
  decide (c.toNat < 128) && !c.isAlphanum && c != '<' && c != '>'

def hexValue? (c : Char) : Option Nat :=
  if c.isDigit then some (c.toNat - '0'.toNat)
  else if 'a' ≤ c ∧ c ≤ 'f' then some (c.toNat - 'a'.toNat + 10)
  else if 'A' ≤ c ∧ c ≤ 'F' then some (c.toNat - 'A'.toNat + 10)
  else none

/-- Reads so many hexadecimal digits, with what is skipped before each, after the
digits of `n`. -/
def hexDigits (f : Flags) : Nat → Nat → List Char → Option (Nat × List Char)
  | 0, n, text => some (n, f.skip text)
  | count + 1, n, text =>
    match f.skip text with
    | [] => none
    | c :: rest =>
      match hexValue? c with
      | some d => hexDigits f count (n * 16 + d) rest
      | none => none

/-- Reads a character by its code, which has so many digits. -/
def hex (f : Flags) (count : Nat) (text : List Char) : Option (Escape × List Char) :=
  match hexDigits f count 0 text with
  | some (n, rest) =>
    if n.isValidChar then some (.character (Char.ofNat n) (count = 2), rest) else none
  | none => none

/-- Reads what follows a backslash. Digits do not refer to groups here. -/
def read (f : Flags) : List Char → Option (Escape × List Char)
  | [] => none
  | c :: rest =>
    match c with
    | 'x' => hex f 2 rest
    | 'u' => hex f 4 rest
    | 'U' => hex f 8 rest
    | 'd' | 's' | 'w' => some (.characters false, rest)
    | 'D' | 'S' | 'W' => some (.characters true, rest)
    | 'A' | 'z' => some (.place false, rest)
    | 'b' | 'B' | '<' | '>' => some (.place true, rest)
    | c =>
      match control? c with
      | some control => some (.character control, rest)
      | none => if isPlain c then some (.character c, rest) else none

end Escape

/-!
## How deep patterns are

The depth of a pattern is the number of things in it that lie in one another: groups,
repetitions, brackets, and parts that stand side by side. A pattern must not be too
deep.
-/

def depthLimit : Nat := 250

/-- Parts of a pattern that stand side by side. -/
structure Parts where
  count : Nat := 0
  depth : Nat := 0
  deriving DecidableEq, Repr

namespace Parts

def add (p : Parts) (depth : Nat) : Parts :=
  ⟨p.count + 1, max p.depth depth⟩

/-- The depth of the parts together. One part alone is as deep as it is. -/
def together (p : Parts) : Nat :=
  if p.count ≤ 1 then p.depth else p.depth + 1

end Parts

/-- Parts that follow one another. The last one can still become deeper. -/
structure Sequence where
  earlier : Parts := {}
  /-- The depth of the last part, and whether it can be repeated. -/
  last : Option (Nat × Bool) := none
  deriving DecidableEq, Repr

namespace Sequence

def parts (s : Sequence) : Parts :=
  match s.last with
  | some (depth, _) => s.earlier.add depth
  | none => s.earlier

def push (s : Sequence) (depth : Nat) (repeatable : Bool) : Sequence :=
  ⟨s.parts, some (depth, repeatable)⟩

def repeated? (s : Sequence) : Option Sequence :=
  match s.last with
  | some (depth, true) => some { s with last := some (depth + 1, true) }
  | _ => none

end Sequence

/-!
## Brackets of patterns

A bracket is a class of characters. It holds characters, ranges of them, other classes
by a letter or a name, and brackets, one after the other. Between two such rows of
items may stand an operation: what lies in both, in the left one only, or in one
of them only. An operation is about all that stands to its left.
-/

namespace Bracket

def classNames : List String :=
  ["alnum", "alpha", "ascii", "blank", "cntrl", "digit", "graph", "lower", "print", "punct",
    "space", "upper", "word", "xdigit"]

/-- Reads a class that is given by its name, behind an opening bracket. Says whether all
other characters are meant. -/
def readNamed? (text : List Char) : Option (Bool × List Char) :=
  match text with
  | ':' :: rest =>
    let (negated, inner) := match rest with
      | '^' :: inner => (true, inner)
      | inner => (false, inner)
    let name := inner.takeWhile (· != ':')
    match inner.drop name.length with
    | ':' :: ']' :: after =>
      if classNames.contains (String.ofList name) then some (negated, after) else none
    | _ => none
  | _ => none

/-- Reads dashes at the beginning of a bracket, which stand for themselves, and counts
them. -/
def readDashes (f : Flags) : Nat → Nat → List Char → Nat × List Char
  | 0, count, text => (count, text)
  | rounds + 1, count, text =>
    match text with
    | '-' :: rest => readDashes f rounds (count + 1) (f.skip rest)
    | text => (count, text)

structure Opening where
  negated : Bool
  /-- The characters that stood where nothing can have a special meaning. -/
  literals : Nat
  deriving DecidableEq, Repr

/-- Reads the beginning of a bracket, behind it. -/
def readOpening (f : Flags) (text : List Char) : Opening × List Char :=
  let text := f.skip text
  let (negated, text) := match text with
    | '^' :: rest => (true, f.skip rest)
    | text => (false, text)
  match readDashes f text.length 0 text with
  | (0, ']' :: rest) => (⟨negated, 1⟩, f.skip rest)
  | (count, text) => (⟨negated, count⟩, text)

structure Content where
  /-- The depth of what stands to the left of the last operation, if there is one. -/
  left : Option Nat := none
  row : Parts := {}
  deriving DecidableEq, Repr

namespace Content

def depth (c : Content) : Nat :=
  match c.left with
  | some left => max left c.row.together + 1
  | none => c.row.together

def operated (c : Content) : Content :=
  { left := some c.depth }

def push (c : Content) (depth : Nat) : Content :=
  { c with row := c.row.add depth }

end Content

/-- The beginning of a bracket, if it can be matched. The characters in it can be, or
the bracket cannot. -/
def opened? (f : Flags) (o : Opening) : Option Content :=
  if (o.negated && !f.canMatchOthers) || (o.literals != 0 && !f.canMatchInside '-') then none
  else some { row := ⟨o.literals, 0⟩ }

/-- Reads a character or a class of them, which begins with this character. Gives the
character if it is one. -/
def readItem (f : Flags) (c : Char) (rest : List Char) : Option (Option Char × List Char) :=
  if c = '\\' then
    match Escape.read f rest with
    | some (.character c _, after) => if f.canMatchInside c then some (some c, after) else none
    | some (.characters negated, after) =>
      if f.canMatchLettered negated then some (none, after) else none
    | _ => none
  else if f.canMatchInside c then some (some c, rest) else none

/-- Reads an item that begins with this character: a range, or one end of it alone. -/
def readRange (f : Flags) (c : Char) (rest : List Char) : Option (List Char) := do
  let (low, after) ← readItem f c rest
  match f.skip after with
  | '-' :: behind =>
    let next := f.peek behind
    if next = some ']' ∨ next = some '-' then some ('-' :: behind)
    else
      match f.skip behind with
      | [] => none
      | d :: rest => do
        let (high, after) ← readItem f d rest
        let low ← low
        let high ← high
        if low ≤ high then some after else none
  | after => some after

/-- Reads a bracket to its end, where `outer` is what the brackets around it hold so
far, the inmost first. Gives the depth of the whole. Every round takes at least one
character, so as many rounds as there are characters are enough. -/
def readRest (f : Flags) :
    Nat → Content → List Content → List Char → Option (Nat × List Char)
  | 0, _, _, _ => none
  | rounds + 1, content, outer, text =>
    match f.skip text with
    | [] => none
    | '[' :: rest =>
      match readNamed? rest with
      | some (negated, after) =>
        if f.canMatchNamed negated then readRest f rounds (content.push 0) outer after else none
      | none =>
        let (opening, after) := readOpening f rest
        match opened? f opening with
        | some inner => readRest f rounds inner (content :: outer) after
        | none => none
    | ']' :: rest =>
      match outer with
      | [] => some (content.depth + 1, rest)
      | around :: outer => readRest f rounds (around.push (content.depth + 1)) outer rest
    | '&' :: '&' :: rest => readRest f rounds content.operated outer rest
    | '-' :: '-' :: rest => readRest f rounds content.operated outer rest
    | '~' :: '~' :: rest => readRest f rounds content.operated outer rest
    | c :: rest =>
      match readRange f c rest with
      | some after => readRest f rounds (content.push 0) outer after
      | none => none

/-- Reads a bracket, behind the sign that opens it. Gives its depth. -/
def read (f : Flags) (text : List Char) : Option (Nat × List Char) := do
  let (opening, after) := readOpening f text
  let content ← opened? f opening
  readRest f (text.length + 1) content [] after

end Bracket

/-! ## Reading a pattern -/

/-- Why a pattern cannot be used. -/
inductive Problem where
  /-- It cannot be read, or asks for what cannot be matched. -/
  | unreadable
  /-- It asks for ends of words that are not ASCII. -/
  | wordEdges
  deriving DecidableEq, Repr

def Problem.message : Problem → String
  | unreadable => "error building NFA"
  | wordEdges =>
    "unsupported regex feature for DFAs: cannot build DFAs for regexes with Unicode word " ++
      "boundaries; switch to ASCII word boundaries, or heuristically enable Unicode word " ++
      "boundaries or use a different regex engine"

def isGroupName (name : List Char) : Bool :=
  match name with
  | [] => false
  | first :: rest =>
    (first == '_' || Text.isAlphabetic first) && rest.all fun c =>
      c == '_' || c == '.' || c == '[' || c == ']' || Text.isAlphanumeric c

/-- What a group holds so far: alternatives, the last of which is still being read. -/
structure Group where
  alternatives : Parts := {}
  sequence : Sequence := {}
  deriving DecidableEq, Repr

namespace Group

def push (g : Group) (depth : Nat) (repeatable : Bool) : Group :=
  { g with sequence := g.sequence.push depth repeatable }

def divided (g : Group) : Group :=
  { alternatives := g.alternatives.add g.sequence.parts.together }

def depth (g : Group) : Nat :=
  g.divided.alternatives.together

end Group

structure Progress where
  flags : Flags := {}
  /-- The group that is being read, or what lies in none. -/
  group : Group := {}
  /-- The groups around it, the inmost first, with the flags to go back to. -/
  outer : List (Group × Flags) := []
  names : List (List Char) := []
  /-- Whether ends of words that are not ASCII are asked for. -/
  wordEdges : Bool := false

namespace Progress

def filled (p : Progress) (depth : Nat) : Progress :=
  { p with group := p.group.push depth true }

/-- After something that can be repeated, if it can be matched. -/
def filledIf (p : Progress) (fits : Bool) (rest : List Char) : Option (Progress × List Char) :=
  if fits then some (p.filled 0, rest) else none

def opened (p : Progress) (f : Flags) : Progress :=
  { p with flags := f, group := {}, outer := (p.group, p.flags) :: p.outer }

/-- Reads a group with a name, behind the bracket that begins it. -/
def named (p : Progress) (text : List Char) : Option (Progress × List Char) :=
  let name := text.takeWhile (· != '>')
  match text.drop name.length with
  | _ :: rest =>
    if isGroupName name && !p.names.contains name then
      some ({ p.opened p.flags with names := name :: p.names }, rest)
    else none
  | [] => none

/-- Reads what stands behind an opening parenthesis. What is around a match cannot be
looked at. -/
def parenthesis (p : Progress) (text : List Char) : Option (Progress × List Char) :=
  match p.flags.skip text with
  | '?' :: '=' :: _ | '?' :: '!' :: _ => none
  | '?' :: '<' :: '=' :: _ | '?' :: '<' :: '!' :: _ => none
  | '?' :: 'P' :: '<' :: rest => p.named rest
  | '?' :: '<' :: rest => p.named rest
  | '?' :: rest =>
    match p.flags.read false false [] rest with
    | some (f, true, after) =>
      some ({ p with flags := f, group := p.group.push 0 false }, after)
    | some (f, false, after) => some (p.opened f, after)
    | none => none
  | text => some (p.opened p.flags, text)

/-- Reads what stands behind a backslash. -/
def escape (p : Progress) (text : List Char) : Option (Progress × List Char) :=
  match Escape.read p.flags text with
  | some (.character c byte, rest) => p.filledIf (p.flags.canMatch byte c) rest
  | some (.characters negated, rest) => p.filledIf (p.flags.canMatchLettered negated) rest
  | some (.place atWord, rest) =>
    some ({ p.filled 0 with wordEdges := p.wordEdges || (atWord && p.flags.unicode) }, rest)
  | none => none

/-- Reads the next part of a pattern, which begins with a character. -/
def next (p : Progress) (c : Char) (rest : List Char) : Option (Progress × List Char) :=
  match c with
  | '(' => p.parenthesis rest
  | ')' =>
    match p.outer with
    | [] => none
    | (around, f) :: outer =>
      some ({ p with flags := f, group := around.push (p.group.depth + 1) true, outer }, rest)
  | '|' => some ({ p with group := p.group.divided }, rest)
  | '?' | '*' | '+' =>
    p.group.sequence.repeated?.map fun sequence =>
      ({ p with group := { p.group with sequence } }, match rest with
        | '?' :: rest => rest
        | rest => rest)
  | '{' => none
  | '[' => (Bracket.read p.flags rest).map fun (depth, after) => (p.filled depth, after)
  | '\\' => p.escape rest
  | '.' => p.filledIf p.flags.canMatchOthers rest
  | '^' | '$' => some (p.filled 0, rest)
  | c => p.filledIf (p.flags.canMatch false c) rest

/-- What is wrong with a pattern whose reading has come to its end. -/
def problem? (p : Progress) : Option Problem :=
  if !p.outer.isEmpty || decide (depthLimit < p.group.depth) then some .unreadable
  else if p.wordEdges then some .wordEdges
  else none

/-- Reads the rest of a pattern and tells what is wrong with the whole. Every round takes
at least one character, so as many rounds as there are characters are enough. -/
def judge : Nat → Progress → List Char → Option Problem
  | 0, p, text => if (p.flags.skip text).isEmpty then p.problem? else some .unreadable
  | rounds + 1, p, text =>
    match p.flags.skip text with
    | [] => p.problem?
    | c :: rest =>
      match p.next c rest with
      | none => some .unreadable
      | some (p, rest) => judge rounds p rest

end Progress

/-- What is wrong with a pattern, if anything is. -/
def problem? (text : List Char) : Option Problem :=
  Progress.judge text.length {} text

/-- Whether a text is a number. Numbers are compared as such, and need not be
patterns. -/
def isNumber (text : List Char) : Bool :=
  let unsigned := match text with
    | '+' :: rest | '-' :: rest => rest
    | rest => rest
  let word := String.ofList (unsigned.map Char.toLower)
  if word == "inf" || word == "infinity" || word == "nan" then true
  else
    let whole := unsigned.takeWhile Char.isDigit
    let after := unsigned.drop whole.length
    let (fraction, after) := match after with
      | '.' :: rest => (rest.takeWhile Char.isDigit, rest.dropWhile Char.isDigit)
      | rest => ([], rest)
    let exponent (text : List Char) : Bool :=
      let digits := match text with
        | '+' :: rest | '-' :: rest => rest
        | rest => rest
      !digits.isEmpty && digits.all Char.isDigit
    !(whole.isEmpty && fraction.isEmpty) && match after with
      | [] => true
      | 'e' :: rest | 'E' :: rest => exponent rest
      | _ => false

/-- What is wrong with the value in a directive, if anything is. -/
def valueProblem? (text : List Char) : Option Problem :=
  if isNumber text then none else problem? text

end CommandChains.Log.Pattern
