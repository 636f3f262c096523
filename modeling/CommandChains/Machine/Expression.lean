import CommandChains.Machine.CharacterClass

/-!
# Expressions that lines match

The expressions by which tools look for parts of lines. There are two ways to write
them: in the basic way a backslash gives some characters their meaning, in the
extended one it takes it from them. Of all matches the first one in the line counts,
and of those that begin there the longest.
-/

namespace CommandChains.Machine

inductive Expression where
  | empty
  | character (accepted : Octets)
  | lineStart
  | lineEnd
  | textStart
  | textEnd
  | wordStart
  | wordEnd
  /-- A place where a word begins or ends, or where none does. -/
  | wordEdge (isOne : Bool)
  | both (first second : Expression)
  | either (first second : Expression)
  | repeated (e : Expression) (least : Nat) (most : Option Nat)
  | group (number : Nat) (e : Expression)
  | again (number : Nat)
  deriving Repr

namespace Expression

/-! ## Matching -/

/-- A part of a line that has been matched so far. -/
structure Match where
  start : Nat
  stop : Nat
  /-- What the groups have matched: number, start and end, the latest first. -/
  groups : List (Nat × Nat × Nat) := []
  deriving DecidableEq, Repr

namespace Match

def group? (m : Match) (number : Nat) : Option (Nat × Nat) :=
  if number = 0 then some (m.start, m.stop) else m.groups.lookup number

def textOf (m : Match) (line : Octets) (number : Nat) : Octets :=
  match m.group? number with
  | some (start, stop) => (line.drop start).take (stop - start)
  | none => []

end Match

structure Manner where
  ignoreCase : Bool := false
  severalLines : Bool := false
  deriving DecidableEq, Repr

def isWordCharacter (c : Char) : Bool := c.isAlphanum || c == '_'

/-- Whether a character is among some, where capital and small letters may be the same. -/
def Manner.accepts (how : Manner) (accepted : Octets) (c : Char) : Bool :=
  accepted.contains c ||
    (how.ignoreCase && (accepted.contains c.toLower || accepted.contains c.toUpper))

def around (line : Array Char) (place : Nat) : Bool × Bool :=
  (place != 0 && ((line)[place - 1]?).any isWordCharacter, ((line)[place]?).any isWordCharacter)

/-- Whether an expression that takes no character holds at a place. -/
def holdsAt (how : Manner) (line : Array Char) (place : Nat) : Expression → Bool
  | lineStart => place == 0 || (how.severalLines && (line)[place - 1]? == some '\n')
  | lineEnd => place == line.size || (how.severalLines && (line)[place]? == some '\n')
  | textStart => place == 0
  | textEnd => place == line.size
  | wordStart => around line place == (false, true)
  | wordEnd => around line place == (true, false)
  | wordEdge isOne => ((around line place).1 != (around line place).2) == isOne
  | _ => true

/-- Where a part of a line stands again, if it does. -/
def again? (how : Manner) (line : Array Char) (start stop place : Nat) : Option Nat :=
  let same (a b : Char) : Bool := a == b || (how.ignoreCase && a.toLower == b.toLower)
  let fits := (List.range (stop - start)).all fun n =>
    match (line)[start + n]?, (line)[place + n]? with
    | some a, some b => same a b
    | _, _ => false
  if fits then some (place + (stop - start)) else none

/-- Goes on with a step again and again, preferably often, until what follows succeeds. A step
that moves nothing is not repeated. -/
def attemptAgain (step : Match → (Match → Option Match) → Option Match) :
    Nat → Nat → Option Nat → Match → (Match → Option Match) → Option Match
  | 0, _, _, m, go => go m
  | rounds + 1, least, most, m, go =>
    let more := if most = some 0 then none
      else step m fun next =>
        if next.stop = m.stop ∧ least = 0 then none
        else attemptAgain step rounds (least - 1) (most.map (· - 1)) next go
    match more with
    | some found => some found
    | none => if least = 0 then go m else none

/-- The preferred way in which a match can go on so that what follows succeeds. -/
def attempt (how : Manner) (line : Array Char) :
    Expression → Match → (Match → Option Match) → Option Match
  | empty, m, go => go m
  | character accepted, m, go =>
    match (line)[m.stop]? with
    | some c => if how.accepts accepted c then go { m with stop := m.stop + 1 } else none
    | none => none
  | both first second, m, go =>
    first.attempt how line m fun next => second.attempt how line next go
  | either first second, m, go =>
    match first.attempt how line m go with
    | some found => some found
    | none => second.attempt how line m go
  | repeated e least most, m, go =>
    attemptAgain (e.attempt how line) (least + line.size + 1) least most m go
  | group number e, m, go =>
    e.attempt how line m fun next =>
      go { next with groups := (number, m.stop, next.stop) :: next.groups }
  | again number, m, go =>
    match m.groups.lookup number with
    | none => none
    | some (start, stop) =>
      match again? how line start stop m.stop with
      | some stop => go { m with stop }
      | none => none
  | place, m, go => if holdsAt how line m.stop place then go m else none

/-! ### Ends

Without what groups have matched, only the places matter where a match can end. There are not
more of them than places in the line, however many ways lead there. -/

/-- Places of two rows in order, each once. -/
def union (a b : List Nat) : List Nat :=
  if a.isEmpty then b
  else if b.isEmpty then a
  else (a.merge b fun m n => decide (m ≤ n)).eraseReps

/-- The place where a stretch of characters out of some ends, at most so many behind a place. -/
def stretchEnd (how : Manner) (line : Array Char) (accepted : Octets) : Nat → Nat → Nat
  | 0, place => place
  | most + 1, place =>
    match (line)[place]? with
    | some c => if how.accepts accepted c then stretchEnd how line accepted most (place + 1) else place
    | none => place

/-- The places behind stretches of characters out of some that begin at some places, in order:
`next` is the least place that has not been listed, `known` the end of the last stretch. -/
def stretches (how : Manner) (line : Array Char) (accepted : Octets) (least : Nat)
    (most : Option Nat) (next known : Nat) : List Nat → List Nat
  | [] => []
  | place :: rest =>
    let stop :=
      if most.isNone && decide (place < known) then known
      else stretchEnd how line accepted (most.getD line.size) place
    let first := max next (place + least)
    (List.range (stop + 1 - first)).map (· + first) ++
      stretches how line accepted least most (max next (stop + 1)) stop rest

/-- The places that repeated steps lead to: `seen` are those that count already. -/
def endsAgain (step : List Nat → List Nat) :
    Nat → Nat → Option Nat → List Nat → List Nat → List Nat
  | 0, _, _, places, seen => union seen places
  | rounds + 1, least, most, places, seen =>
    if places.isEmpty then seen
    else if 0 < least then endsAgain step rounds (least - 1) (most.map (· - 1)) (step places) seen
    else
      let seen := union seen places
      if most = some 0 then seen
      else
        endsAgain step rounds 0 (most.map (· - 1))
          ((step places).filter fun place => !seen.contains place) seen

/-- The places, in order, where matches can end that begin at some places in order. What groups
have matched is not looked at. -/
def ends (how : Manner) (line : Array Char) : Expression → List Nat → List Nat
  | empty, places => places
  | character accepted, places =>
    (places.filter fun place => ((line)[place]?).any (how.accepts accepted)).map (· + 1)
  | both first second, places => second.ends how line (first.ends how line places)
  | either first second, places =>
    union (first.ends how line places) (second.ends how line places)
  | repeated (character accepted) least most, places =>
    stretches how line accepted least most 0 0 places
  | repeated e least most, places =>
    endsAgain (e.ends how line) (least + line.size + 1) least most places []
  | group _ e, places => e.ends how line places
  | again _, places => places
  | place, places => places.filter fun at_ => holdsAt how line at_ place

/-- Whether an expression asks for what a group has matched. -/
def refers : Expression → Bool
  | again _ => true
  | both a b | either a b => a.refers || b.refers
  | repeated e _ _ | group _ e => e.refers
  | _ => false

def between? (how : Manner) (e : Expression) (line : Array Char) (start stop : Nat) :
    Option Match :=
  e.attempt how line { start, stop := start } fun m => if m.stop = stop then some m else none

/-- The places where matches end that begin at a place, the last one first. -/
def stopsAt (how : Manner) (e : Expression) (line : Array Char) (start : Nat) : List Nat :=
  if e.refers then
    ((List.range (line.size + 1 - start)).map (· + start)).reverse.filter fun stop =>
      (e.between? how line start stop).isSome
  else (e.ends how line [start]).reverse

/-- The places from some place on where matches can begin. -/
def startsFrom (how : Manner) (e : Expression) (line : Array Char) (start : Nat) : List Nat :=
  let places := (List.range (line.size + 1 - start)).map (· + start)
  if !e.refers && (e.ends how line places).isEmpty then [] else places

def longestAt (how : Manner) (e : Expression) (line : Array Char) (start : Nat) : Option Match :=
  (e.stopsAt how line start).findSome? (e.between? how line start)

/-- The longest match in a line that begins at a place. -/
def matchAt (how : Manner) (e : Expression) (line : Octets) (start : Nat) : Option Match :=
  e.longestAt how line.toArray start

/-- The first match in a line from some place on. -/
def matchFrom (how : Manner) (e : Expression) (line : Octets) (start : Nat) : Option Match :=
  (e.startsFrom how line.toArray start).findSome? (e.longestAt how line.toArray)

def groupCount : Expression → Nat
  | group number e => max number e.groupCount
  | both a b | either a b => max a.groupCount b.groupCount
  | repeated e _ _ => e.groupCount
  | _ => 0

/-! ## Reading -/

structure Form where
  extended : Bool := false
  /-- Whether a backslash gives a meaning only to the characters of the standard. -/
  strict : Bool := false
  /-- Whether lines are apart: a newline is none of the characters that a point or a bracket that
  is negated stands for. -/
  linesApart : Bool := false
  /-- Whether a closing parenthesis of the extended form needs an opening one. -/
  paired : Bool := false
  /-- Whether a sign of repetition may have nothing in front of it or another one, and braces of
  the extended form without numbers stand for themselves. -/
  forgiving : Bool := false
  /-- Whether a range may end before it begins; then there is nothing in it. -/
  emptyRanges : Bool := false
  /-- Whether the name of a class has to stand in brackets of its own. -/
  doubleBrackets : Bool := false
  deriving DecidableEq, Repr

inductive Mistake where
  | emptyBracket
  | openBracket
  | openGroup
  | closedGroup
  | openBrace
  | braceContent
  | backslash
  | reference
  | preceding
  | className
  | rangeEnd
  | collation
  | tooManyTimes
  /-- The name of a class without brackets of its own. -/
  | singleBracket
  deriving DecidableEq, Repr

def Mistake.message : Mistake → String
  | emptyBracket => "Invalid regular expression"
  | openBracket => "Unmatched [, [^, [:, [., or [="
  | openGroup => "Unmatched ( or \\("
  | closedGroup => "Unmatched ) or \\)"
  | openBrace => "Unmatched \\\x7b"
  | braceContent => "Invalid content of \\\x7b\\\x7d"
  | backslash => "Trailing backslash"
  | reference => "Invalid back reference"
  | preceding => "Invalid preceding regular expression"
  | className => "Invalid character class name"
  | rangeEnd => "Invalid range end"
  | collation => "Invalid collation character"
  | tooManyTimes => "Regular expression too big"
  | singleBracket => "character class syntax is [[:space:]], not [:space:]"

/-- The control character that a letter behind a backslash names. -/
def controlNamed? (letter : Char) : Option Char :=
  [('a', '\x07'), ('f', '\x0c'), ('n', '\n'), ('r', '\r'), ('t', '\t'), ('v', '\x0b')].lookup letter

/-- A character that stands between signs in brackets of its own, behind the first of them, and
what is behind it. -/
def readElement (mark : Char) (text : Octets) : Except Mistake (Char × Octets) :=
  match text with
  | [] => .error .openBracket
  | c :: inner =>
    let name := c :: inner.takeWhile (· != mark)
    match name, text.drop name.length with
    | [c], _ :: ']' :: rest => .ok (c, rest)
    | _, _ :: ']' :: _ => .error .collation
    | _, _ => .error .openBracket

/-- The character at one end of a range or alone in a bracket, and what is behind it. -/
def readEnd (c : Char) (rest : Octets) : Except Mistake (Char × Octets) :=
  match c, rest with
  | '[', '.' :: rest => readElement '.' rest
  | c, rest => .ok (c, rest)

/-- Reads the items of a bracket, through its end. Every round takes at least one
character, so as many rounds as there are characters are enough. -/
def readItems (form : Form) (first : Bool) :
    Nat → Octets → Except Mistake (Octets × Octets)
  | 0, _ => .error .openBracket
  | _, [] => .error .openBracket
  | rounds + 1, c :: rest =>
    let more (cs rest : Octets) : Except Mistake (Octets × Octets) :=
      match readItems form false rounds rest with
      | .ok (others, rest) => .ok (cs ++ others, rest)
      | .error e => .error e
    if c = ']' && !first then .ok ([], rest)
    else match c, rest with
      | '[', ':' :: inner =>
        let name := inner.takeWhile (· != ':')
        match inner.drop name.length with
        | ':' :: ']' :: rest =>
          match classNamed? name with
          | some member => more (allCharacters.filter member) rest
          | none => .error .className
        | _ => .error .openBracket
      | '[', '=' :: inner =>
        match readElement '=' inner with
        | .ok (c, rest) => more [c] rest
        | .error e => .error e
      | c, rest =>
        match readEnd c rest with
        | .error e => .error e
        | .ok (c, rest) =>
          match rest with
          | '-' :: d :: left =>
            if d = ']' then more [c] rest
            else if d = '[' && left.head? = some '=' then .error .rangeEnd
            else
              match readEnd d left with
              | .error e => .error e
              | .ok (d, left) =>
                if d < c && !form.emptyRanges then .error .rangeEnd
                else
                  more ((List.range (d.toNat + 1 - c.toNat)).map fun n => Char.ofNat (c.toNat + n))
                    left
          | rest => more [c] rest

/-- Whether what stands in brackets looks like the name of a class. -/
def looksLikeClass (inner : Octets) : Bool :=
  inner.head? == some ':' && inner.getLast? == some ':' && inner.any (· != ':') &&
    !inner.contains '[' && !((inner.drop 1).dropLast).contains '-'

def Form.anyCharacter (form : Form) : Octets :=
  if form.linesApart then allCharacters.filter (· != '\n') else allCharacters

def readBracket (form : Form) (text : Octets) : Except Mistake (Expression × Octets) :=
  let (negated, inner) := match text with
    | '^' :: inner => (true, inner)
    | inner => (false, inner)
  match readItems form true (inner.length + 1) inner with
  | .error e => .error (if inner.isEmpty then .emptyBracket else e)
  | .ok (accepted, rest) =>
    if form.doubleBrackets && looksLikeClass (inner.take (inner.length - rest.length - 1)) then
      .error .singleBracket
    else
      .ok (.character (if negated then form.anyCharacter.filter (!accepted.contains ·)
        else accepted), rest)

structure Times where
  least : Nat
  most : Option Nat
  deriving DecidableEq, Repr

def timesLimit : Nat := 32767

/-- What is behind the closing brace that stands in front. -/
def behindBrace? (form : Form) (text : Octets) : Option Octets :=
  match form.extended, text with
  | true, '\x7d' :: rest => some rest
  | false, '\\' :: '\x7d' :: rest => some rest
  | _, _ => none

/-- What stands in front of a comma or a closing brace. -/
def beforeComma (form : Form) : Octets → Octets
  | [] => []
  | c :: rest =>
    if c = ',' || (behindBrace? form (c :: rest)).isSome then [] else c :: beforeComma form rest

/-- Reads a number of times between braces, behind the first one. Nothing is read if the braces
stand for themselves. -/
def readTimes (form : Form) (text : Octets) : Except Mistake (Option (Times × Octets)) :=
  let first := beforeComma form text
  let rest := text.drop first.length
  let noNumber (rest : Octets) : Except Mistake (Option (Times × Octets)) :=
    if form.forgiving && form.extended then .ok none
    else if rest.isEmpty then .error .openBrace
    else .error .braceContent
  let counted (least : Nat) (most : Option Nat) (rest : Octets) :
      Except Mistake (Option (Times × Octets)) :=
    if most.any (decide <| · < least) then .error .braceContent
    else if timesLimit < most.getD least then .error .tooManyTimes
    else .ok (some (⟨least, most⟩, rest))
  if rest.isEmpty || first.any (!·.isDigit) then noNumber rest
  else
    match behindBrace? form rest with
    | some behind =>
      if first.isEmpty then .error .braceContent
      else counted (Octets.decimal first) (some (Octets.decimal first)) behind
    | none =>
      let last := beforeComma form (rest.drop 1)
      let rest := (rest.drop 1).drop last.length
      if rest.isEmpty || last.any (!·.isDigit) then noNumber rest
      else
        match behindBrace? form rest with
        | some behind => counted (Octets.decimal first) (Octets.decimal? last) behind
        | none => .error .braceContent

/-- Reads a sign of repetition, if one stands in front. -/
def readRepetition (form : Form) (text : Octets) : Except Mistake (Option (Times × Octets)) :=
  match form.extended, text with
  | _, '*' :: rest => .ok (some (⟨0, none⟩, rest))
  | true, '+' :: rest => .ok (some (⟨1, none⟩, rest))
  | true, '?' :: rest => .ok (some (⟨0, some 1⟩, rest))
  | true, '\x7b' :: rest => readTimes form rest
  | false, '\\' :: '+' :: rest => .ok (if form.strict then none else some (⟨1, none⟩, rest))
  | false, '\\' :: '?' :: rest => .ok (if form.strict then none else some (⟨0, some 1⟩, rest))
  | false, '\\' :: '\x7b' :: rest => readTimes form rest
  | _, _ => .ok none

def withRepetitions (form : Form) : Nat → Expression → Octets →
    Except Mistake (Expression × Octets)
  | 0, e, text => .ok (e, text)
  | rounds + 1, e, text =>
    match readRepetition form text with
    | .error mistake => .error mistake
    | .ok none => .ok (e, text)
    | .ok (some (times, rest)) =>
      let another := rest.head? == some '*' || rest.take 2 == ['\\', '\x7b']
      if !form.forgiving && !form.extended && another then .error .preceding
      else withRepetitions form rounds (.repeated e times.least times.most) rest

/-- What a backslash and a character stand for, if it is no sign of structure. -/
def escape (form : Form) (c : Char) : Expression :=
  match (if form.strict then '\\' else c) with
  | 'w' => .character (allCharacters.filter isWordCharacter)
  | 'W' => .character (allCharacters.filter (!isWordCharacter ·))
  | 's' => .character (allCharacters.filter Octets.isSpace)
  | 'S' => .character (allCharacters.filter (!Octets.isSpace ·))
  | 'b' => .wordEdge true
  | 'B' => .wordEdge false
  | '<' => .wordStart
  | '>' => .wordEnd
  | '\x60' => .textStart
  | '\x27' => .textEnd
  | _ => .character [c]

def endsHere (form : Form) (text : Octets) : Bool :=
  match form.extended, text with
  | _, [] => true
  | true, c :: _ => c == '|' || c == ')'
  | false, '\\' :: c :: _ => (c == '|' && !form.strict) || c == ')'
  | false, _ => false

structure Progress where
  sofar : Option Expression := none
  others : Option Expression := none
  /-- The groups around: what was read before them, and their numbers. -/
  outer : List (Option Expression × Option Expression × Nat) := []
  groups : Nat := 0

namespace Progress

def push (p : Progress) (e : Expression) : Progress :=
  { p with sofar := some (match p.sofar with
    | none => e
    | some first => .both first e) }

def whole (p : Progress) : Expression :=
  let last := p.sofar.getD .empty
  match p.others with
  | none => last
  | some first => .either first last

/-- Reads the rest of an expression. Every round takes at least one character, so as many
rounds as there are characters are enough. A sign of repetition that is found here has nothing in
front of it. -/
def read (form : Form) : Nat → Progress → Octets → Except Mistake Expression
  | _, p, [] => if p.outer.isEmpty then .ok p.whole else .error .openGroup
  | 0, _, _ => .error .backslash
  | rounds + 1, p, c :: rest =>
    let opened (rest : Octets) : Except Mistake Expression :=
      read form rounds { outer := (p.sofar, p.others, p.groups + 1) :: p.outer
                         groups := p.groups + 1 } rest
    let part (e : Expression) (rest : Octets) : Except Mistake Expression :=
      match withRepetitions form rounds e rest with
      | .error mistake => .error mistake
      | .ok (e, rest) => read form rounds (p.push e) rest
    let place (e : Expression) (rest : Octets) : Except Mistake Expression :=
      if form.forgiving && form.extended then
        match withRepetitions form rounds e rest with
        | .error mistake => .error mistake
        | .ok (e, behind) =>
          let open_ := !p.outer.isEmpty && behind.head? == some ')'
          if open_ && behind.length < rest.length then .error .openGroup
          else read form rounds (p.push e) behind
      else read form rounds (p.push e) rest
    let closed (rest : Octets) : Except Mistake Expression :=
      match p.outer with
      | [] =>
        if form.extended && !form.paired then part (.character [')']) rest
        else .error .closedGroup
      | (sofar, others, number) :: outer =>
        match withRepetitions form rounds (.group number p.whole) rest with
        | .error mistake => .error mistake
        | .ok (e, rest) =>
          read form rounds (push { sofar, others, outer, groups := p.groups } e) rest
    let divided (rest : Octets) : Except Mistake Expression :=
      read form rounds { p with sofar := none, others := some p.whole } rest
    let repeatsNothing (rest : Octets) : Except Mistake Expression :=
      if !form.forgiving then .error .preceding
      else if !p.outer.isEmpty && rest.head? = some ')' then .error .openGroup
      else read form rounds p rest
    if c = '\\' then
      match rest with
      | [] => .error .backslash
      | d :: rest =>
        if d.isDigit && d != '0' then
          let number := d.toNat - '0'.toNat
          if p.groups < number then .error .reference else part (.again number) rest
        else if !form.extended && d = '(' then opened rest
        else if !form.extended && d = ')' then closed rest
        else if !form.extended && d = '|' && !form.strict then divided rest
        else if !form.extended && d = '\x7b' then
          if form.forgiving then part (.character [d]) rest else .error .preceding
        else
          match escape form d with
          | .character accepted => part (.character accepted) rest
          | edge => place edge rest
    else if form.extended && c = '(' then opened rest
    else if form.extended && c = ')' then closed rest
    else if form.extended && c = '|' then divided rest
    else if c = '[' then
      match readBracket form rest with
      | .error mistake => .error mistake
      | .ok (e, rest) => part e rest
    else if c = '.' then part (.character form.anyCharacter) rest
    else if c = '^' && (form.extended || p.sofar.isNone) then place .lineStart rest
    else if c = '$' && (form.extended || endsHere form rest) then place .lineEnd rest
    else if form.extended && (c = '*' || c = '+' || c = '?') then repeatsNothing rest
    else if form.extended && c = '\x7b' then
      match readTimes form rest with
      | .ok none => part (.character [c]) rest
      | .ok (some (_, rest)) => repeatsNothing rest
      | .error mistake => .error (if form.forgiving then mistake else .preceding)
    else part (.character [c]) rest

end Progress

def ofText (form : Form) (text : Octets) : Except Mistake Expression :=
  Progress.read form (2 * text.length + 1) {} text

/-- The basic form of an expression in which plus and question signs repeat without a backslash and
braces have no meaning. -/
def basicOf : Octets → Octets
  | '\\' :: '+' :: rest => "[+]".toList ++ basicOf rest
  | '\\' :: '?' :: rest => "[?]".toList ++ basicOf rest
  | '\\' :: '\x7b' :: rest => '\x7b' :: basicOf rest
  | '\\' :: c :: rest => '\\' :: c :: basicOf rest
  | '[' :: ']' :: rest => '[' :: ']' :: bracket rest
  | '[' :: '\x5e' :: ']' :: rest => '[' :: '\x5e' :: ']' :: bracket rest
  | '[' :: rest => '[' :: bracket rest
  | '+' :: rest => '\\' :: '+' :: basicOf rest
  | '?' :: rest => '\\' :: '?' :: basicOf rest
  | c :: rest => c :: basicOf rest
  | [] => []
where
  /-- The rest of a bracket, which stays, and of the expression. -/
  bracket : Octets → Octets
    | ']' :: rest => ']' :: basicOf rest
    | c :: rest => c :: bracket rest
    | [] => []

/-- The expression that a text matches which is taken as it stands. -/
def literal (text : Octets) : Expression :=
  text.foldr (fun c e => .both (.character [c]) e) .empty

end Expression

end CommandChains.Machine
