import CommandChains.Machine.Ordered.Pattern

/-!
# How patterns with an order are written

A backslash gives letters a meaning and takes it from signs; what begins with a question mark in
parentheses looks around, sets how the rest is read, or names a group. A pattern is read twice: the
first time to learn the names of its groups.
-/

namespace CommandChains.Machine.Ordered

inductive Mistake where
  | openGroup
  | closedGroup
  | openClass
  | nothingToRepeat
  | repeatedAgain
  | lastBackslash
  | unknownFlag
  | openName
  | nameWithDigit
  | noGroup
  | noName
  | timesOrder
  | timesSize
  | rangeOrder
  | rangeOfClass
  | unknownClass
  | collating
  | classOutside
  | sameName
  | codeSize
  | notOctal
  | noDigits
  | noBrace
  | badProperty
  | openCode
  | behindWidth
  | keepInLook
  | unknownVerb
  | openVerb
  | unknownProperty
  | lastControl
  | badControl
  | openComment
  | manyBranches
  | unsupported
  | unsupportedName
  | openReference
  | openNamed
  deriving DecidableEq, Repr

def Mistake.message : Mistake → String
  | openGroup => "missing closing parenthesis"
  | closedGroup => "unmatched closing parenthesis"
  | openClass => "missing terminating ] for character class"
  | nothingToRepeat | repeatedAgain => "quantifier does not follow a repeatable item"
  | lastBackslash => "\\ at end of pattern"
  | unknownFlag => "unrecognized character after (? or (?-"
  | openName => "syntax error in subpattern name (missing terminator?)"
  | nameWithDigit => "subpattern name must start with a non-digit"
  | noGroup | noName => "reference to non-existent subpattern"
  | timesOrder => "numbers out of order in \x7b\x7d quantifier"
  | timesSize => "number too big in \x7b\x7d quantifier"
  | rangeOrder => "range out of order in character class"
  | rangeOfClass => "invalid range in character class"
  | unknownClass => "unknown POSIX class name"
  | collating => "POSIX collating elements are not supported"
  | classOutside => "POSIX named classes are supported only within a class"
  | sameName => "two named subpatterns have the same name (PCRE2_DUPNAMES not set)"
  | codeSize => "character code point value in \\x\x7b\x7d or \\o\x7b\x7d is too large"
  | notOctal => "non-octal character in \\o\x7b\x7d (closing brace missing?)"
  | noDigits => "digits missing in \\x\x7b\x7d or \\o\x7b\x7d or \\N\x7bU+\x7d"
  | noBrace => "missing opening brace after \\o"
  | badProperty => "malformed \\P or \\p sequence"
  | openCode => "non-hex character in \\x\x7b\x7d (closing brace missing?)"
  | behindWidth => "lookbehind assertion is not fixed length"
  | keepInLook =>
    "\\K is not allowed in lookarounds (but see PCRE2_EXTRA_ALLOW_LOOKAROUND_BSK)"
  | unknownVerb | openVerb => "(*VERB) not recognized or malformed"
  | unknownProperty => "unknown property after \\P or \\p"
  | lastControl => "\\c at end of pattern"
  | badControl => "\\c must be followed by a printable ASCII character"
  | openComment => "missing ) after (?# comment"
  | manyBranches => "conditional subpattern contains more than two branches"
  | unsupported => "PCRE2 does not support \\F, \\L, \\l, \\N\x7bname\x7d, \\U, or \\u"
  | unsupportedName => "\\N\x7bU+dddd\x7d is supported only in Unicode (UTF) mode"
  | openReference =>
    "\\g is not followed by a braced, angle-bracketed, or quoted name/number or by a plain number"
  | openNamed => "\\k is not followed by a braced, angle-bracketed, or quoted name"

structure Flags where
  ignoreCase : Bool := false
  severalLines : Bool := false
  /-- Whether a point stands for a newline as well. -/
  dotAll : Bool := false
  spaced : Bool := false
  spacedClasses : Bool := false
  noGroups : Bool := false
  /-- Whether doubtful parts are read as the plain characters that they are written with. -/
  lenient : Bool := false
  deriving DecidableEq, Repr

structure Progress where
  rest : Octets
  flags : Flags
  groups : Nat := 0
  names : List (Octets × Nat) := []
  /-- The names of all groups, as far as they are known. -/
  known : List (Octets × Nat) := []
  total : Option Nat := none
  /-- The largest number of a group that is referred to. -/
  largest : Nat := 0

/-- A mistake, and how much of the pattern is left there. -/
structure Failure where
  mistake : Mistake
  left : Nat

abbrev Reader := ExceptT Failure (StateM Progress)

namespace Reader

def fail {α : Type} (m : Mistake) : Reader α := do throw ⟨m, (← get).rest.length⟩

def rest : Reader Octets := do pure (← get).rest

def goTo (text : Octets) : Reader Unit := modify fun p => { p with rest := text }

def take? (text : String) : Reader Bool := do
  let now ← rest
  if text.toList.isPrefixOf now then
    goTo (now.drop text.length)
    pure true
  else pure false

def sign (text : String) (m : Mistake) : Reader Unit := do
  if !(← take? text) then fail m

def flags : Reader Flags := do pure (← get).flags

/-! ## Characters -/

def inCase (ignoreCase : Bool) (accepted : Octets) : Octets :=
  if ignoreCase then
    let letters := accepted.filter Char.isAlpha
    accepted ++ letters.map Char.toUpper ++ letters.map Char.toLower
  else accepted

def characters (accepted : Octets) : Reader Pattern := do
  pure (.character (inCase (← flags).ignoreCase accepted))

def others (accepted : Octets) : Octets := allCharacters.filter (!accepted.contains ·)

/-- The characters that a letter behind a backslash stands for. -/
def classOf? (letter : Char) : Option Octets :=
  let digits := allCharacters.filter Char.isDigit
  let wordly := allCharacters.filter Setting.isWordCharacter
  let blank := allCharacters.filter Octets.isSpace
  let level : Octets := [' ', '\t', '\xa0']
  let upright : Octets := ['\n', '\x0b', '\x0c', '\r', '\x85']
  match letter with
  | 'd' => some digits
  | 'D' => some (others digits)
  | 'w' => some wordly
  | 'W' => some (others wordly)
  | 's' => some blank
  | 'S' => some (others blank)
  | 'h' => some level
  | 'H' => some (others level)
  | 'v' => some upright
  | 'V' => some (others upright)
  | _ => none

def property? (name : Octets) : Option Octets :=
  let some_ (member : Char → Bool) : Option Octets := some (allCharacters.filter member)
  let isPunctuation (c : Char) : Bool :=
    "!\"#%&'()*,-./:;?@[\\]_\x7b\x7d".contains c
  match String.ofList name with
  | "L" | "Letter" | "Alpha" | "Alphabetic" | "IsAlpha" | "XPosixAlpha" | "PosixAlpha" | "L&" =>
    some_ Char.isAlpha
  | "Lu" | "Upper" | "Uppercase" | "IsUpper" | "UppercaseLetter" | "PosixUpper" =>
    some_ Char.isUpper
  | "Ll" | "Lower" | "Lowercase" | "IsLower" | "LowercaseLetter" | "PosixLower" =>
    some_ Char.isLower
  | "N" | "Nd" | "Digit" | "Number" | "IsDigit" | "PosixDigit" => some_ Char.isDigit
  | "P" | "Punct" | "Punctuation" | "IsPunct" => some_ isPunctuation
  | "S" => some_ fun c => "$+<=>\x5e\x60|~".contains c
  | "Z" | "Zs" => some_ (· == ' ')
  | "Space" | "IsSpace" | "XPosixSpace" | "Xsp" | "Xps" => some_ Octets.isSpace
  | "Word" | "IsWord" | "Xwd" | "XPosixWord" => some_ Setting.isWordCharacter
  | "Alnum" | "IsAlnum" | "Xan" => some_ Char.isAlphanum
  | "C" | "Cc" | "Cntrl" => some_ fun c => c < ' ' || c == '\x7f'
  | "Any" => some allCharacters
  | _ => none

def property (negated : Bool) : Reader Octets := do
  match ← rest with
  | '\x7b' :: inner =>
    let name := inner.takeWhile (· != '\x7d')
    match inner.drop name.length with
    | _ :: behind =>
      let (negated, name) := match name with
        | '\x5e' :: name => (!negated, name)
        | name => (negated, name)
      match property? name with
      | some accepted =>
        goTo behind
        pure (if negated then others accepted else accepted)
      | none =>
        goTo behind
        fail .unknownProperty
    | [] => fail .badProperty
  | c :: behind =>
    goTo behind
    match property? [c] with
    | some accepted => pure (if negated then others accepted else accepted)
    | none => fail .unknownProperty
  | [] => fail .badProperty

def coded (base : Nat) (digits : List Nat) : Reader Char := do
  let n := Octets.valueOf base digits
  if 255 < n then fail .codeSize else pure (Char.ofNat n)

def braced (base : Nat) (m : Mistake) : Reader Char := do
  match ← rest with
  | '\x7b' :: inner =>
    let digits := Octets.digitsOf base inner.length inner
    match inner.drop digits.length with
    | '\x7d' :: behind =>
      goTo behind
      if digits.isEmpty then fail m else coded base digits
    | behind =>
      goTo behind
      if behind.isEmpty && digits.isEmpty then fail .noDigits else fail m
  | _ => fail .noBrace

/-- The character that a letter behind a backslash stands for, if it stands for one. -/
def control? (letter : Char) : Reader (Option Char) := do
  match letter with
  | 'a' => pure (some '\x07')
  | 'e' => pure (some '\x1b')
  | 'f' => pure (some '\x0c')
  | 'n' => pure (some '\n')
  | 'r' => pure (some '\r')
  | 't' => pure (some '\t')
  | 'x' =>
    let now ← rest
    if now.head? = some '\x7b' then do pure (some (← braced 16 .openCode))
    else
      let digits := Octets.digitsOf 16 2 now
      goTo (now.drop digits.length)
      pure (some (Char.ofNat (Octets.valueOf 16 digits)))
  | 'o' => do pure (some (← braced 8 .notOctal))
  | 'c' =>
    match ← rest with
    | [] => fail .lastControl
    | c :: behind =>
      if ' ' ≤ c && c ≤ '~' then
        goTo behind
        pure (some (Char.ofNat (Nat.xor c.toUpper.toNat 64)))
      else fail .badControl
  | '0' =>
    let digits := Octets.digitsOf 8 2 (← rest)
    goTo ((← rest).drop digits.length)
    pure (some (Char.ofNat (Octets.valueOf 8 digits)))
  | _ => pure none

/-! ## Classes -/

/-- A class by its name between colons, behind the bracket that opens it. -/
def named? : Reader (Option Octets) := do
  match ← rest with
  | ':' :: inner =>
    let (negated, inner) := match inner with
      | '\x5e' :: inner => (true, inner)
      | inner => (false, inner)
    let name := inner.takeWhile Char.isAlphanum
    match inner.drop name.length with
    | ':' :: ']' :: behind =>
      let member := if name = "word".toList then some Setting.isWordCharacter
        else if name = "ascii".toList then some fun c => c.toNat < 128
        else classNamed? name
      goTo behind
      match member with
      | none => fail .unknownClass
      | some member =>
        let accepted := allCharacters.filter member
        pure (some (if negated then others accepted else accepted))
    | _ => pure none
  | c :: inner =>
    if c = '.' || c = '=' then
      match inner.drop (inner.takeWhile (· != c)).length with
      | _ :: ']' :: behind =>
        goTo behind
        fail .collating
      | _ => pure none
    else pure none
  | [] => pure none

def item (c : Char) : Reader (Char ⊕ Octets) := do
  if c = '[' then
    match ← named? with
    | some accepted => pure (.inr accepted)
    | none => pure (.inl c)
  else if c = '\\' then
    match ← rest with
    | [] => fail .openClass
    | d :: behind =>
      goTo behind
      match classOf? d with
      | some accepted => pure (.inr accepted)
      | none =>
        if d = 'p' || d = 'P' then do pure (.inr (← property (d = 'P')))
        else if d = 'b' then pure (.inl '\x08')
        else if d = 'N' then do pure (.inr (others ['\n']))
        else
          match ← control? d with
          | some c => pure (.inl c)
          | none =>
            if d.isDigit then
              let digits := Octets.digitsOf 8 3 (d :: behind)
              if digits.isEmpty then pure (.inl d)
              else
                goTo ((d :: behind).drop digits.length)
                pure (.inl (Char.ofNat (Octets.valueOf 8 digits % 256)))
            else pure (.inl d)
  else pure (.inl c)

def items : Nat → Bool → Octets → Reader Octets
  | 0, _, _ => fail .openClass
  | rounds + 1, first, sofar => do
    match ← rest with
    | [] => fail .openClass
    | c :: behind =>
      goTo behind
      if c = ']' && !first then pure sofar
      else if (← flags).spacedClasses && (c = ' ' || c = '\t') then items rounds first sofar
      else if c = '\\' && behind.head? = some 'E' then
        goTo (behind.drop 1)
        items rounds first sofar
      else if c = '\\' && behind.head? = some 'Q' then
        let plain := quoted (behind.drop 1)
        goTo (behind.drop (1 + plain.length + 2))
        items rounds false (sofar ++ plain)
      else
        match ← item c with
        | .inr accepted =>
          match ← rest with
          | '-' :: d :: behind =>
            if d = ']' then items rounds false (sofar ++ accepted)
            else if (← flags).lenient then
              goTo (d :: behind)
              items rounds false ('-' :: sofar ++ accepted)
            else fail .rangeOfClass
          | _ => items rounds false (sofar ++ accepted)
        | .inl low =>
          match ← rest with
          | '-' :: d :: behind =>
            if d = ']' then items rounds false (low :: sofar)
            else
              goTo behind
              match ← item d with
              | .inr accepted =>
                if (← flags).lenient then items rounds false (low :: '-' :: sofar ++ accepted)
                else fail .rangeOfClass
              | .inl high =>
                if high < low then fail .rangeOrder
                else
                  let range := (List.range (high.toNat + 1 - low.toNat)).map fun n =>
                    Char.ofNat (low.toNat + n)
                  items rounds false (range ++ sofar)
          | _ => items rounds false (low :: sofar)
where
  quoted : Octets → Octets
    | '\\' :: 'E' :: _ => []
    | c :: rest => c :: quoted rest
    | [] => []

def class_ : Reader Pattern := do
  let now ← rest
  let isOutside : Bool :=
    match now with
    | ':' :: inner =>
      let name := inner.takeWhile fun c => c.isAlphanum || c == '\x5e'
      !name.isEmpty && (":]".toList).isPrefixOf (inner.drop name.length)
    | _ => false
  if isOutside && !(← flags).lenient then fail .classOutside
  else
    let negated ← take? "\x5e"
    let accepted ← items (now.length + 1) true []
    let accepted := inCase (← flags).ignoreCase accepted
    pure (.character (if negated then others accepted else accepted))

/-! ## References -/

def refer (number : Nat) : Reader Pattern := do
  modify fun p => { p with largest := max p.largest number }
  pure (.again number (← flags).ignoreCase)

def numberOf (name : Octets) : Reader Nat := do
  let p ← get
  match p.known.lookup name with
  | some n => pure n
  | none => if p.total.isSome then fail .noName else pure 0

def name (ending : Char) : Reader Octets := do
  let now ← rest
  match now with
  | c :: _ => if c.isDigit then fail .nameWithDigit
  | [] => pure ()
  let name := now.takeWhile Setting.isWordCharacter
  match now.drop name.length with
  | c :: behind =>
    if c = ending && !name.isEmpty then
      goTo behind
      pure name
    else
      goTo (c :: behind)
      fail .openName
  | [] =>
    goTo []
    fail .openName

/-- The group of a number that may count back from here. -/
def relative (text : Octets) : Reader Nat := do
  let p ← get
  match text with
  | '-' :: digits =>
    let n := Octets.decimal digits
    if n = 0 || p.groups < n then fail .noGroup else pure (p.groups + 1 - n)
  | '+' :: digits => pure (p.groups + Octets.decimal digits)
  | digits => pure (Octets.decimal digits)

/-- Whether a text is a number, perhaps with a sign. -/
def isNumber (text : Octets) : Bool :=
  let digits := match text with
    | '-' :: digits | '+' :: digits => digits
    | digits => digits
  !digits.isEmpty && digits.all Char.isDigit

def bracketed? : Reader (Option Octets) := do
  match ← rest with
  | c :: inner =>
    match [('\x7b', '\x7d'), ('<', '>'), ('\x27', '\x27')].lookup c with
    | none => pure none
    | some ending =>
      let text := inner.takeWhile (· != ending)
      match inner.drop text.length with
      | _ :: behind =>
        goTo behind
        pure (some text)
      | [] => pure none
  | [] => pure none

def escape : Reader Pattern := do
  match ← rest with
  | [] => fail .lastBackslash
  | c :: behind =>
    goTo behind
    match classOf? c with
    | some accepted => pure (.character accepted)
    | none =>
      match c with
      | 'p' => do characters (← property false)
      | 'P' => do pure (.character (← property true))
      | 'N' =>
        if ("\x7bU+".toList).isPrefixOf behind then fail .unsupportedName
        else pure (.character (others ['\n']))
      | 'R' =>
        pure (.atomic (.either (.both (.character ['\r']) (.character ['\n']))
          (.character ((classOf? 'v').getD []))))
      | 'X' => pure (.character allCharacters)
      | 'C' => pure (.character allCharacters)
      | 'b' => pure (.holds (.wordEdge true))
      | 'B' => pure (.holds (.wordEdge false))
      | 'A' => pure (.holds .textStart)
      | 'z' => pure (.holds .textEnd)
      | 'Z' => pure (.holds .lastLineEnd)
      | 'G' => pure (.holds .searchStart)
      | 'K' => pure .keep
      | 'E' => if (← flags).lenient then characters [c] else pure .empty
      | 'L' | 'l' | 'U' | 'u' | 'F' =>
        if (← flags).lenient then characters [c] else fail .unsupported
      | 'k' =>
        match ← bracketed? with
        | none => fail .openNamed
        | some text => do refer (← numberOf text)
      | 'g' =>
        match behind with
        | '<' :: _ | '\x27' :: _ =>
          match ← bracketed? with
          | none => fail .openReference
          | some text =>
            let n ← if isNumber text then relative text else numberOf text
            modify fun p => { p with largest := max p.largest n }
            pure (.call n)
        | '\x7b' :: _ =>
          match ← bracketed? with
          | none => fail .openReference
          | some text =>
            let n ← if isNumber text then relative text else numberOf text
            refer n
        | behind =>
          let sign := behind.takeWhile fun c => c == '-' || c == '+'
          let digits := (behind.drop sign.length).takeWhile Char.isDigit
          if digits.isEmpty then fail .openReference
          else
            goTo (behind.drop (sign.length + digits.length))
            refer (← relative (sign ++ digits))
      | c =>
        if c.isDigit && c != '0' then
          let digits := (c :: behind).takeWhile Char.isDigit
          let n := Octets.decimal digits
          let total := (← get).total.getD 0
          if n < 10 || n ≤ total then
            goTo ((c :: behind).drop digits.length)
            refer n
          else if '7' < c then
            goTo ((c :: behind).drop digits.length)
            refer n
          else
            let octal := Octets.digitsOf 8 3 (c :: behind)
            goTo ((c :: behind).drop octal.length)
            characters [Char.ofNat (Octets.valueOf 8 octal % 256)]
        else
          match ← control? c with
          | some d => characters [d]
          | none => characters [c]

/-! ## Repetitions -/

def timesLimit : Nat := 65535

/-- How often something is repeated, if a sign of repetition is in front. -/
def times? : Reader (Option (Nat × Option Nat)) := do
  match ← rest with
  | '*' :: behind =>
    goTo behind
    pure (some (0, none))
  | '+' :: behind =>
    goTo behind
    pure (some (1, none))
  | '?' :: behind =>
    goTo behind
    pure (some (0, some 1))
  | '\x7b' :: inner =>
    let inside := inner.takeWhile (· != '\x7d')
    let behind := inner.drop inside.length
    let isLenient := (← flags).lenient
    let bare (part : Octets) : Octets :=
      if isLenient then part.filter fun c => !(c == ' ' || c == '\t') else part
    let isNumber (part : Octets) : Bool := !part.isEmpty && part.all Char.isDigit
    let found : Option (Nat × Option Nat) :=
      if behind.isEmpty then none
      else
        match (Octets.splitAt ',' inside).map bare with
        | [times] =>
          if isNumber times then some (Octets.decimal times, some (Octets.decimal times)) else none
        | [low, high] =>
          if isNumber low && high.isEmpty then some (Octets.decimal low, none)
          else if isNumber high && (isNumber low || (isLenient && low.isEmpty)) then
            some (Octets.decimal low, some (Octets.decimal high))
          else none
        | _ => none
    match found with
    | none => pure none
    | some (least, most) =>
      if timesLimit < least || most.any (timesLimit < ·) then fail .timesSize
      else if most.any (· < least) && !(← flags).lenient then fail .timesOrder
      else
        goTo (behind.drop 1)
        pure (some (least, most))
  | _ => pure none

def isRepeatable : Pattern → Bool
  | .holds .lineStart | .holds .textStart | .holds (.wordEdge _) | .keep => false
  | _ => true

/-- Something with the sign of repetition behind it, if there is one. -/
def repeatedOf (e : Pattern) : Reader Pattern := do
  match ← times? with
  | none => pure e
  | some (least, most) =>
    if !isRepeatable e && !(← flags).lenient then fail .nothingToRepeat
    else do
      let how : Eagerness := match ← rest with
        | '?' :: _ => .reluctant
        | '+' :: _ => .possessive
        | _ => .greedy
      if how != .greedy then goTo ((← rest).drop 1)
      match e with
      | .ahead _ _ | .behind _ _ =>
        pure (.repeated e (min least 1) (some 1) how)
      | e => pure (if most.any (· < least) then .fails else .repeated e least most how)

def refuseTimes : Reader Unit := do
  let now ← rest
  if (← times?).isSome then
    goTo (now.drop 1)
    fail .repeatedAgain

def skip : Nat → Reader Unit
  | 0 => pure ()
  | rounds + 1 => do
    let now ← rest
    if ("(?#".toList).isPrefixOf now then
      match now.dropWhile (· != ')') with
      | _ :: behind =>
        goTo behind
        skip rounds
      | [] =>
        goTo []
        fail .openComment
    else if (← flags).spaced then
      match now with
      | '#' :: rest =>
        goTo (rest.dropWhile (· != '\n'))
        skip rounds
      | c :: rest =>
        if Octets.isSpace c then
          goTo rest
          skip rounds
      | [] => pure ()
    else pure ()

/-! ## Groups -/

/-- The flags that letters set or take away, through the sign behind them. -/
def setFlags : Nat → Bool → Reader Char
  | 0, _ => fail .openGroup
  | rounds + 1, on => do
    match ← rest with
    | [] => fail .openGroup
    | c :: behind =>
      goTo behind
      let set_ (change : Flags → Flags) : Reader Char := do
        modify fun p => { p with flags := change p.flags }
        setFlags rounds on
      match c with
      | ')' | ':' => pure c
      | '\x5e' =>
        set_ fun f =>
          { f with
            ignoreCase := false, severalLines := false, dotAll := false, spaced := false
            noGroups := false }
      | '-' => setFlags rounds false
      | 'i' => set_ fun f => { f with ignoreCase := on }
      | 'm' => set_ fun f => { f with severalLines := on }
      | 's' => set_ fun f => { f with dotAll := on }
      | 'x' =>
        set_ fun f =>
          { f with spaced := on, spacedClasses := on && behind.head? = some 'x' }
      | 'n' => set_ fun f => { f with noGroups := on }
      | 'a' | 'u' | 'l' | 'd' | 'p' | 'J' | 'U' => setFlags rounds on
      | _ =>
        goTo (c :: behind)
        fail .unknownFlag

def numbered (name : Option Octets) : Reader Nat := do
  let p ← get
  let number := p.groups + 1
  match name with
  | none => pure ()
  | some n => if (p.names.lookup n).isSome then fail .sameName
  modify fun p =>
    { p with
      groups := number
      names := match name with
        | none => p.names
        | some n => (n, number) :: p.names }
  pure number

mutual

/-- Alternatives, up to a parenthesis or the end. If groups have the same numbers in all of
them, they begin to count where they are. -/
def alternatives : Nat → Bool → Reader Pattern
  | 0, _ => fail .openGroup
  | f + 1, shares => do
    let before := (← get).groups
    let first ← sequence f .empty
    if ← take? "|" then
      let reached := (← get).groups
      if shares then modify fun p => { p with groups := before }
      let others ← alternatives f shares
      if shares then modify fun p => { p with groups := max reached p.groups }
      pure (.either first others)
    else pure first

def sequence : Nat → Pattern → Reader Pattern
  | 0, _ => fail .openGroup
  | f + 1, sofar => do
    skip (← rest).length
    match ← rest with
    | [] | '|' :: _ | ')' :: _ => pure sofar
    | _ =>
      let e ← part f
      skip (← rest).length
      let e ← repeatedOf e
      refuseTimes
      match sofar with
      | .empty => sequence f e
      | sofar => sequence f (.both sofar e)

def part : Nat → Reader Pattern
  | 0 => fail .openGroup
  | f + 1 => do
    let now ← rest
    let isPlain : Bool := (← flags).lenient && now.head? = some '\x7b'
    let times ← if isPlain then pure none else times?
    if times.isSome then fail .nothingToRepeat
    else
      match ← rest with
      | [] => pure .empty
      | c :: behind =>
        goTo behind
        match c with
        | '\\' =>
          match behind with
          | 'Q' :: inner =>
            if (← flags).lenient then escape
            else
              goTo inner
              quotation inner.length .empty
          | _ => escape
        | '.' =>
          pure (.character (if (← flags).dotAll then allCharacters else others ['\n']))
        | '\x5e' =>
          pure (.holds (if (← flags).severalLines then .lineStart else .textStart))
        | '$' =>
          pure (.holds (if (← flags).severalLines then .lineEnd else .lastLineEnd))
        | '[' => class_
        | '(' => parentheses f
        | c => characters [c]

def quotation : Nat → Pattern → Reader Pattern
  | 0, sofar => pure sofar
  | f + 1, sofar => do
    match ← rest with
    | '\\' :: 'E' :: behind =>
      goTo behind
      pure sofar
    | c :: behind =>
      goTo behind
      let e ← characters [c]
      if behind.isEmpty || (['\\', 'E'].isPrefixOf behind) then
        if ['\\', 'E'].isPrefixOf behind then goTo (behind.drop 2)
        let e ← repeatedOf e
        pure (.both sofar e)
      else quotation f (.both sofar e)
    | [] => pure sofar

/-- What stands in parentheses, behind the one that opens them. -/
def parentheses : Nat → Reader Pattern
  | 0 => fail .openGroup
  | f + 1 => do
    let before := (← get).flags
    let inner (shares : Bool) : Reader Pattern := do
      let e ← alternatives f shares
      sign ")" .openGroup
      modify fun p => { p with flags := before }
      pure e
    let group (name : Option Octets) : Reader Pattern := do
      let number ← numbered name
      pure (.group number (← inner false))
    let look (make : Pattern → Pattern) : Reader Pattern := do
      let e ← inner false
      if e.keeps then fail .keepInLook else pure (make e)
    let lookBehind (wanted : Bool) : Reader Pattern := do
      let e ← inner false
      if e.keeps then fail .keepInLook
      else if !e.hasWidths then fail .behindWidth
      else pure (.behind wanted e)
    let called (text : Octets) : Reader Pattern := do
      let n ← if isNumber text then relative text else numberOf text
      modify fun p => { p with largest := max p.largest n }
      pure (.call n)
    if ← take? "?" then
      if ← take? ":" then inner false
      else if ← take? "|" then inner true
      else if ← take? ">" then do pure (.atomic (← inner false))
      else if ← take? "=" then look (.ahead true)
      else if ← take? "!" then look (.ahead false)
      else if ← take? "<=" then lookBehind true
      else if ← take? "<!" then lookBehind false
      else if ← take? "P<" then do group (some (← name '>'))
      else if ← take? "<" then do group (some (← name '>'))
      else if ← take? "'" then do group (some (← name '\x27'))
      else if ← take? "P=" then do refer (← numberOf (← name ')'))
      else if ← take? "P>" then do called (← name ')')
      else if ← take? "&" then do called (← name ')')
      else if ← take? "C" then
        goTo (((← rest).dropWhile (· != ')')).drop 1)
        pure .empty
      else if ← take? "R)" then pure (.call 0)
      else if ← take? "(" then
        condition f inner
      else
        let now ← rest
        let sign_ := now.takeWhile fun c => c == '+' || c == '-'
        let digits := (now.drop sign_.length).takeWhile Char.isDigit
        if !digits.isEmpty then
          goTo (now.drop (sign_.length + digits.length))
          sign ")" .openGroup
          called (sign_ ++ digits)
        else if now = ['P'] then fail .openGroup
        else
          let ending ← setFlags (now.length + 1) true
          if ending = ':' then inner false else pure .empty
    else if ← take? "*" then
      let now ← rest
      let word := now.takeWhile (· != ')')
      goTo (now.drop (word.length + 1))
      if now.length = word.length then fail .openVerb
      match String.ofList word with
      | "FAIL" | "F" => pure .fails
      | "ACCEPT" | "COMMIT" | "PRUNE" | "SKIP" | "THEN" => pure .empty
      | _ => fail .unknownVerb
    else if before.noGroups then inner false
    else group none

/-- Two patterns of which a condition chooses one, behind the parenthesis that opens the
condition. -/
def condition : Nat → (Bool → Reader Pattern) → Reader Pattern
  | 0, _ => fail .openGroup
  | f + 1, inner => do
    let split (e : Pattern) : Reader (Pattern × Pattern) := do
      match e with
      | .either _ (.either _ _) => fail .manyBranches
      | .either yes no => pure (yes, no)
      | yes => pure (yes, .empty)
    let now ← rest
    if now.head? = some '?' then
      let look ← parentheses f
      let (yes, no) ← split (← inner false)
      pure (.ifLook look yes no)
    else
      let text := now.takeWhile (· != ')')
      goTo (now.drop (text.length + 1))
      let bare := text.filter fun c => !"<>'".contains c
      let number ← if isNumber bare then relative bare else numberOf bare
      modify fun p => { p with largest := max p.largest number }
      let (yes, no) ← split (← inner false)
      pure (.ifGroup number yes no)

end

/-- Words in front of a pattern that say how texts are read and lines end. -/
def leadingWords : List String :=
  ["(*UTF)", "(*UTF8)", "(*UCP)", "(*NO_AUTO_POSSESS)", "(*NO_START_OPT)", "(*NO_JIT)",
    "(*NO_DOTSTAR_ANCHOR)", "(*NOTEMPTY)", "(*NOTEMPTY_ATSTART)", "(*CR)", "(*LF)", "(*CRLF)",
    "(*ANY)", "(*ANYCRLF)", "(*NUL)", "(*BSR_ANYCRLF)", "(*BSR_UNICODE)"]

def skipWords : Nat → Reader Unit
  | 0 => pure ()
  | n + 1 => do
    let now ← rest
    match leadingWords.find? fun word => word.toList.isPrefixOf now with
    | some word =>
      goTo (now.drop word.length)
      skipWords n
    | none => pure ()

def whole : Reader Pattern := do
  skipWords (← rest).length
  let fuel := 3 * (← rest).length + 10
  let e ← alternatives fuel false
  if (← rest).isEmpty then
    let p ← get
    if p.total.any (· < p.largest) then fail .noGroup
    else pure e
  else fail .closedGroup

end Reader

/-- A pattern that has been read, with the names of its groups and their number. -/
structure Compiled where
  pattern : Pattern
  names : List (Octets × Nat) := []
  groups : Nat := 0

def Compiled.ofText (flags : Flags) (text : Octets) : Except Failure Compiled :=
  let read (known : List (Octets × Nat)) (total : Option Nat) : Except Failure Pattern × Progress :=
    Reader.whole.run.run { rest := text, flags, known, total }
  match read [] none with
  | (.error e, _) => .error e
  | (.ok _, p) =>
    match read p.names (some p.groups) with
    | (.error e, _) => .error e
    | (.ok pattern, p) => .ok { pattern, names := p.names.reverse, groups := p.groups }

end CommandChains.Machine.Ordered
