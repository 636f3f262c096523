import CommandChains.Machine.Shell.Token

/-!
# The grammar of scripts

Scripts are read a line at a time: what is in a line is run before the next line is
looked at. A line goes on in the next one while a command is open.
-/

namespace CommandChains.Machine.Shell

namespace Reader

/-! ## Changes of streams -/

/-- The text up to a line that ends it, how many lines it has, and the lines behind. Without
such a line it goes on to the end. -/
def documentText (ending : Octets) (stripped : Bool) :
    List Octets → Octets × Nat × List Octets × Bool
  | [] => ([], 0, [], false)
  | line :: rest =>
    let line := if stripped then line.dropWhile (· == '\t') else line
    if line = ending then ([], 1, rest, true)
    else if rest.isEmpty then (line, 0, [], false)
    else
      let (text, size, behind, ended) := documentText ending stripped rest
      (line ++ '\n' :: text, size + 1, behind, ended)

/-- The text that begins in the next line and ends with a line of its own. -/
def document (ending : Word) (stripped : Bool) : Reader Word := do
  let c ← get
  let sameLine := c.rest.takeWhile (· != '\n')
  let behind := c.rest.drop (sameLine.length + 1)
  let mark := ending.pieces.rawText
  let (text, size, rest, ended) := documentText mark stripped (Octets.splitAt '\n' behind)
  set { c with
    rest := sameLine ++ '\n' :: Octets.joined ['\n'] rest, ahead := c.ahead + size
    unended := if ended then c.unended else c.unended ++ [(c.line, mark)] }
  if ending.pieces.hasQuotes then pure (Word.ofText text)
  else
    match quotedPieces c.how text with
    | .ok pieces => pure ⟨pieces, text⟩
    | .error e => giveUpWord e

def redirection (stream : Option Nat) (holder : Option Octets) (sign : String) :
    Reader Redirection := do
  let dialect := (← get).how.dialect
  match ← token with
  | .word w =>
    let number := w.plain?.any fun text => text == ['-'] || text.all Char.isDigit
    let whole := dialect = .large && sign = ">&" && stream.isNone && !number &&
      w.pieces.all fun p => p.kind == .text
    let kind : RedirectionKind := match sign with
      | "<" => .reading
      | "<>" => .updating
      | "<&" => .sharing
      | ">&" => if whole then .writing else .sharing
      | ">|" => .overwriting
      | ">>" | "&>>" => .appending
      | "<<" | "<<-" | "<<<" => .text
      | _ => .writing
    let target : Word ←
      if sign = "<<" ∨ sign = "<<-" then document w (sign == "<<-")
      else if sign = "<<<" then pure ⟨w.pieces ++ Pieces.ofText ['\n'], w.source⟩
      else pure w
    let wrong := dialect = .small && kind == .sharing &&
      w.plain?.any fun text => !(text == ['-'] || (text.length == 1 && text.all Char.isDigit))
    if wrong then giveUp .badStream
    else
      pure { stream := stream.getD (if sign.toList.head? = some '<' then 0 else 1), kind, target
             holder, both := whole || sign.toList.head? = some '&' }
  | t => refuse t none

def redirections : Nat → Reader (List Redirection)
  | 0 => pure []
  | rounds + 1 => do
    match ← token Wanted.command with
    | .redirection stream holder sign => do
      let first ← redirection stream holder sign
      let rest ← redirections rounds
      pure (first :: rest)
    | _ => do
      pushBack
      pure []

/-! ## Settings of variables -/

/-- The beginning of a setting: a name, perhaps a key, whether the value is put behind the
one that is there, and what follows. -/
def settingFront? (dialect : Dialect) (text : Octets) :
    Option (Octets × Option Octets × Bool × Octets) :=
  let name := text.takeWhile inName
  if !isName name then none
  else
    let sign (key : Option Octets) (rest : Octets) :
        Option (Octets × Option Octets × Bool × Octets) :=
      match dialect, rest with
      | _, '=' :: rest => some (name, key, false, rest)
      | .large, '+' :: '=' :: rest => some (name, key, true, rest)
      | _, _ => none
    match dialect, text.drop name.length with
    | .large, '[' :: rest =>
      match enclosed false [']'] rest with
      | some (key, rest) => if key.isEmpty then none else sign (some key) rest
      | none => none
    | _, rest => sign none rest

/-- The elements of a row up to the parenthesis that closes it. -/
def elements : Nat → Reader (List (Option Octets × Word))
  | 0 => pure []
  | rounds + 1 => do
    match ← bareToken with
    | .newline => elements rounds
    | .operator ")" => pure []
    | .word w =>
      let (key, w) ← match w.source with
        | '[' :: text =>
          match enclosed false [']'] text with
          | some (key, '=' :: value) =>
            match readWord (← get).how (fun _ => false) (value.length + 1) value with
            | .ok (pieces, _) => pure (some key, Word.mk pieces value)
            | .error e => giveUpWord e
          | _ => pure (none, w)
        | _ => pure (none, w)
      let rest ← elements rounds
      pure ((key, w) :: rest)
    | .finish => refuse .finish (some "\")\"")
    | t => refuse t none

/-- A setting at the present place, if there is one. -/
def setting? : Reader (Option Setting) := do
  if (← get).pushed then pure none
  else
    modify fun c => { c with began := c.rest.length }
    moveTo (skipBlanks (← get).rest)
    let c ← get
    match settingFront? c.how.dialect c.rest with
    | none => pure none
    | some (name, key, appends, rest) =>
      moveTo rest
      match c.how.dialect, rest with
      | .large, '(' :: rest =>
        if key.isSome then pure none
        else
          moveTo rest
          let list ← elements (rest.length + 1)
          pure (some { name, key, appends, value := .elements list })
      | _, _ =>
        let value ← word
        pure (some { name, key, appends, value := .word value })

/-! ## Commands -/

/-- What has been read of a simple command, the last first. -/
structure Parts where
  settings : List Setting := []
  words : List Word := []
  redirections : List Redirection := []

/-- The commands of the small shell whose names no function can have. -/
def reservedNames : List String :=
  [".", ":", "break", "continue", "eval", "exec", "exit", "export", "local", "readonly", "return",
    "set", "shift", "times", "trap", "unset"]

/-- A command that is a word and parentheses, where `command` reads what it stands for. -/
def definition (command : Reader Action) (name : Word) : Reader Action := do
  expectOperator ")"
  let dialect := (← get).how.dialect
  match name.plain?, dialect with
  | some text, .small =>
    if !isName text || reservedNames.contains (String.ofList text) then
      giveUp (.badFunctionName name.source)
    else
      let _ ← peek Wanted.later
      let body ← command
      pure (.define text body)
  | none, .small => giveUp (.badFunctionName name.source)
  | _, .large =>
    let t ← peek Wanted.later
    match t with
    | .word _ | .redirection _ _ _ => refuse t none
    | _ =>
      let body ← command
      pure (.define name.source body)

/-- Whether a word sets a variable to a row, as an argument of a command that knows about
variables. -/
def beginsRow (words : List Word) (w : Word) : Bool :=
  let declares := words.getLast?.any fun name => name.plain?.any fun text =>
    ["declare", "typeset", "local", "export", "readonly"].contains (String.ofList text)
  declares && w.source.getLast? == some '=' &&
    ((settingFront? .large w.source).any fun (_, _, _, rest) => rest.isEmpty)

def simple (command : Reader Action) (line : Nat) : Nat → Parts → Reader Action
  | 0, _ => pure .nothing
  | rounds + 1, parts => do
    let c ← get
    let done : Reader Action := do
      pure (.simple line parts.settings.reverse parts.words.reverse parts.redirections.reverse)
    let found ← if parts.words.isEmpty then setting? else pure none
    match found with
    | some setting =>
      simple command line rounds { parts with settings := setting :: parts.settings }
    | none =>
      match ← token { aliases := parts.words.isEmpty } with
      | .word w =>
        let rest := (← get).rest
        if c.how.dialect = .large && rest.head? = some '(' && beginsRow parts.words w then
          match enclosed false [')'] (rest.drop 1) with
          | none => giveUp .openParenthesis
          | some (inner, after) =>
            moveTo after
            let text := w.source ++ '(' :: inner ++ [')']
            simple command line rounds { parts with words := Word.ofText text :: parts.words }
        else simple command line rounds { parts with words := w :: parts.words }
      | .redirection stream holder sign => do
        let r ← redirection stream holder sign
        simple command line rounds { parts with redirections := r :: parts.redirections }
      | t =>
        match t, parts with
        | .operator "(", ⟨[], [name], []⟩ => definition command name
        | _, ⟨[], [], []⟩ => refuse t none
        | _, _ => do
          pushBack
          done

/-- Words up to the end of a line or a semicolon. -/
def wordList : Nat → Reader (List Word)
  | 0 => pure []
  | rounds + 1 => do
    match ← token with
    | .word w => do
      let rest ← wordList rounds
      pure (w :: rest)
    | .operator ";" | .newline => pure []
    | t => refuse t none

/-- The patterns of an arm, up to the parenthesis behind them. -/
def patterns : Nat → Token → Reader (List Word)
  | 0, _ => pure []
  | rounds + 1, t => do
    let w : Word ← match t with
      | .word w => pure w
      | .keyword text => pure (Word.mk [⟨.text, text.toList, false⟩] text.toList)
      | t => refuse t (some "\")\"")
    match ← token with
    | .operator "|" => do
      let next ← token
      let rest ← patterns rounds next
      pure (w :: rest)
    | .operator ")" => pure [w]
    | t => refuse t (some "\")\"")

/-- The arms of a choice by patterns, where `list` reads commands. -/
def arms (list : Reader Action) : Nat → Reader Action
  | 0 => pure .nothing
  | rounds + 1 => do
    let t ← token Wanted.keyword
    if t = .keyword "esac" then pure .nothing
    else
      let first ← if t = .operator "(" then token else pure t
      let fitting ← patterns rounds first
      let body ← list
      match ← token Wanted.keyword with
      | .operator ";;" => do
        let rest ← arms list rounds
        pure (.arm fitting body .leaves rest)
      | .operator ";&" => do
        let rest ← arms list rounds
        pure (.arm fitting body .fallsThrough rest)
      | .operator ";;&" => do
        let rest ← arms list rounds
        pure (.arm fitting body .looksOn rest)
      | .keyword "esac" => pure (.arm fitting body .leaves .nothing)
      | t => refuse t (some "\";;\"")

/-- The rest of a choice behind its first word, where `list` reads commands. -/
def choice (list : Reader Action) : Nat → Reader Action
  | 0 => pure .nothing
  | rounds + 1 => do
    let condition ← list
    expectKeyword "then"
    let good ← list
    match ← token Wanted.command with
    | .keyword "elif" => do
      let bad ← choice list rounds
      pure (.choose condition good bad)
    | .keyword "else" => do
      let bad ← list
      expectKeyword "fi"
      pure (.choose condition good bad)
    | .keyword "fi" => pure (.choose condition good .nothing)
    | t => refuse t (some "\"fi\"")

def loopBody (list : Reader Action) (how : Wanted := Wanted.command) : Reader Action := do
  expectKeyword "do" how
  let body ← list
  expectKeyword "done"
  pure body

def betweenSemicolons (text : Octets) : List Octets := Octets.splitAt ';' text

/-- The rest of a loop over numbers behind the second parenthesis. -/
def countedLoop (list : Reader Action) (line : Nat) : Reader Action := do
  let rest := (← get).rest
  match enclosed false [')', ')'] rest with
  | none => giveUp .openParenthesis
  | some (inner, after) =>
    moveTo after
    match betweenSemicolons inner.dropLast with
    | [start, condition, step] =>
      let t ← token
      if t != .operator ";" then pushBack
      let body ← loopBody list Wanted.later
      pure (.counted line start condition step body)
    | _ => giveUp (.unexpected "((".toList "\"(\"" none)

/-- The rest of a loop over words behind its first word, where `make` makes the loop. -/
def loopOverWords (list : Reader Action)
    (make : Octets → Option (List Word) → Action → Action) : Reader Action := do
  match ← token with
  | .word w =>
    match w.plain? with
    | some name =>
      if !isName name then giveUp (.badLoopVariable w.source)
      else if (← token Wanted.later) = .keyword "in" then
        let words ← wordList (← rounds)
        let body ← loopBody list Wanted.later
        pure (make name (some words) body)
      else
        if (← get).last != .operator ";" then pushBack
        let body ← loopBody list Wanted.later
        pure (make name none body)
    | none => giveUp (.badLoopVariable w.source)
  | .operator "(" =>
    let c ← get
    if c.how.dialect = .large && c.rest.head? = some '(' then
      moveTo (c.rest.drop 1)
      countedLoop list c.line
    else giveUp (.badLoopVariable ['('])
  | .newline => giveUp (.badLoopVariable "newline".toList)
  | t => match t.outOfPlace none with
    | .unexpected text _ _ => giveUp (.badLoopVariable text)
    | problem => giveUp problem

/-! ## Conditions about words -/

/-- How much of a text is an expression: up to a blank that nothing encloses. -/
def expressionExtent : Nat → Nat → Octets → Nat
  | 0, _, _ => 0
  | _, _, [] => 0
  | rounds + 1, depth, c :: rest =>
    let skip (inner after : Octets) : Nat :=
      inner.length + 2 + expressionExtent rounds depth after
    if depth = 0 ∧ Octets.isSpace c then 0
    else if c = '\\' then 2 + expressionExtent rounds depth (rest.drop 1)
    else if c = '\x27' ∨ c = '"' then
      match enclosed false [c] rest with
      | some (inner, after) => skip inner after
      | none => 0
    else if c = '(' then 1 + expressionExtent rounds (depth + 1) rest
    else if c = ')' then
      if depth = 0 then 0 else 1 + expressionExtent rounds (depth - 1) rest
    else 1 + expressionExtent rounds depth rest

/-- An expression behind the sign that a word matches it. -/
def expressionWord : Reader Word := do
  moveTo (skipBlanks (← get).rest)
  let c ← get
  let text := c.rest.take (expressionExtent (c.rest.length + 1) 0 c.rest)
  moveTo (c.rest.drop text.length)
  match plainPieces c.how text with
  | .ok pieces => pure ⟨pieces, text⟩
  | .error e => giveUpWord e

/-- A pattern behind the sign that a word fits it. -/
def patternWord : Reader Word := do
  moveTo (skipBlanks (← get).rest)
  modify fun c => { c with how := { c.how with extended := true } }
  let w ← word
  modify fun c => { c with how := { c.how with extended := false } }
  pure w

def binarySigns : List String :=
  ["=", "==", "!=", "=~", "-eq", "-ne", "-lt", "-le", "-gt", "-ge", "-nt", "-ot", "-ef"]

def refuseCheck {α : Type} (t : Token) : Reader α :=
  match t.outOfPlace none with
  | .unexpected text _ _ => giveUp (.badCheck text)
  | problem => giveUp problem

/-- Reads a condition of a level: alternatives, conditions that hold together, or a single
one, in at most so many steps. -/
def check : Nat → Nat → Reader Check
  | 0, _ => giveUp (.badCheck [])
  | steps + 1, 0 => do
    let a ← check steps 1
    if (← token { newlines := true }) = .operator "||" then .either a <$> check steps 0
    else
      pushBack
      pure a
  | steps + 1, 1 => do
    let a ← check steps 2
    if (← token { newlines := true }) = .operator "&&" then .both a <$> check steps 1
    else
      pushBack
      pure a
  | steps + 1, _ => do
    match ← token { newlines := true, keywords := true } with
    | .keyword "!" => .not <$> check steps 2
    | .operator "(" => do
      let c ← check steps 0
      expectOperator ")" { newlines := true }
      pure c
    | .word w =>
      let letter := w.plain?.getD []
      let next ← token { keywords := true }
      let isUnary := match letter with
        | ['-', c] => c.isAlpha
        | _ => false
      match isUnary, next with
      | true, .word operand =>
        if operand.plain?.any fun text => binarySigns.contains (String.ofList text) then
          let right ← word
          pure (.binary (operand.plain?.getD []) w right)
        else pure (.unary letter operand)
      | _, .word sign =>
        let text := sign.plain?.getD []
        let name := String.ofList text
        if !binarySigns.contains name then refuseCheck next
        else if name = "=~" then .binary text w <$> expressionWord
        else if ["=", "==", "!="].contains name then .binary text w <$> patternWord
        else
          match ← token with
          | .word right => pure (.binary text w right)
          | t => refuseCheck t
      | _, .redirection none none sign =>
        if sign = "<" ∨ sign = ">" then
          match ← token with
          | .word right => pure (.binary sign.toList w right)
          | t => refuseCheck t
        else refuseCheck next
      | _, _ => do
        pushBack
        pure (.filled w)
    | t => refuseCheck t

/-! ## All commands -/

/-- Behind two parentheses a sum, if two others close it. -/
def sum? (line : Nat) : Reader (Option Action) := do
  let rest := (← get).rest
  match enclosed false [')', ')'] (rest.drop 1) with
  | some (inner, after) =>
    if inner.getLast? = some ')' then
      moveTo after
      pure (some (.sum line inner.dropLast))
    else pure none
  | none => pure none

/-- The names of commands that are no simple ones, by their first words. -/
def beginsCompound : Token → Bool
  | .operator "(" => true
  | .keyword text =>
    ["\x7b", "if", "while", "until", "for", "case", "select", "[[", "function"].contains text
  | _ => false

/-- A command that is not simple, where its first token has been read, if one begins with
it. `body` and `arm` read commands, and `command` a single one. -/
def compound? (body arm command : Reader Action) (line : Nat) (t : Token) :
    Reader (Option Action) := do
  let some_ (action : Reader Action) : Reader (Option Action) := do pure (some (← action))
  let large := (← get).how.dialect = .large
  match t with
  | .operator "(" =>
    let found ← if large && (← get).rest.head? = some '(' then sum? line else pure none
    match found with
    | some action => pure (some action)
    | none => some_ do
      let inner ← body
      expectOperator ")" Wanted.command
      pure (.subshell inner)
  | .keyword "\x7b" => some_ do
    let inner ← body
    expectKeyword "\x7d"
    pure (.grouped inner)
  | .keyword "if" => some_ (do choice body (← rounds))
  | .keyword "while" => some_ do
    let condition ← body
    let inner ← loopBody body
    pure (.repeated true condition inner)
  | .keyword "until" => some_ do
    let condition ← body
    let inner ← loopBody body
    pure (.repeated false condition inner)
  | .keyword "for" => some_ (loopOverWords body (.each line))
  | .keyword "select" => some_ (loopOverWords body (.selected line))
  | .keyword "case" => some_ do
    match ← token with
    | .word w => do
      expectKeyword "in" Wanted.later
      let found ← arms arm (← rounds)
      pure (.matched line w found)
    | t => refuse t (some "word")
  | .keyword "[[" => some_ do
    let condition ← check (← rounds) 0
    match ← token { newlines := true, keywords := true } with
    | .keyword "]]" => pure (.check line condition)
    | t => refuseCheck t
  | .keyword "function" => some_ do
    match ← token with
    | .word name => do
      if (← token Wanted.later) = .operator "(" then definition command name
      else
        pushBack
        let inner ← command
        pure (.define name.source inner)
    | t => refuse t none
  | .keyword "coproc" => some_ do
    let before ← get
    let first ← token Wanted.command
    let name ← match first with
      | .word w =>
        if beginsCompound (← token Wanted.command) then
          pushBack
          pure w.source
        else
          set before
          pure "COPROC".toList
      | _ => do
        pushBack
        pure "COPROC".toList
    let inner ← command
    pure (.together name inner)
  | .word _ | .redirection _ _ _ => pure none
  | t => refuse t none

/-- Goes on with pipelines that depend on what came before. -/
def conditions (pipeline : Reader Action) : Nat → Action → Reader Action
  | 0, first => pure first
  | rounds + 1, first => do
    match ← token with
    | .operator "&&" => do
      let _ ← peek Wanted.later
      let second ← pipeline
      conditions pipeline rounds (.ifGood first second)
    | .operator "||" => do
      let _ ← peek Wanted.later
      let second ← pipeline
      conditions pipeline rounds (.ifBad first second)
    | _ => do
      pushBack
      pure first

/-- Goes on with commands that read what the ones before them print. -/
def pipes (command : Reader Action) : Nat → Action → Reader Action
  | 0, first => pure first
  | rounds + 1, first => do
    match ← token with
    | .operator "|" => do
      let _ ← peek Wanted.later
      let second ← command
      .piped first <$> pipes command rounds second
    | .operator "|&" => do
      let _ ← peek Wanted.later
      let second ← command
      let errors : Redirection :=
        { stream := 2, kind := .sharing, target := Word.ofText ['1'] }
      .piped (.redirected first [errors]) <$> pipes command rounds second
    | _ => do
      pushBack
      pure first

inductive Level where
  | command
  | pipeline
  | conditional
  /-- Everything up to something that closes it, which may be nothing if the first says so
  and is not read here at first. -/
  | list (mayBeEmpty : Bool)
  | line

/-- Reads some of a script, in at most so many steps. -/
def action : Nat → Level → Reader Action
  | 0, _ => pure .nothing
  | steps + 1, .command => do
    let command := action steps .command
    let t ← token Wanted.command
    let line := (← get).line - if t = .newline then 1 else 0
    match ← compound? (action steps (.list false)) (action steps (.list true)) command line t with
    | some (.define name body) => pure (.define name body)
    | some body => do
      let changes ← redirections (← rounds)
      pure (body.withRedirections changes)
    | none => do
      -- What was read first is read again, for it may be a setting.
      match t with
      | .word w =>
        modify fun c => { c with rest := w.source ++ c.rest, pushed := false }
        modify fun c => { c with line := c.line - w.source.count '\n' }
        simple command ((← get).line) (← rounds) {}
      | _ =>
        pushBack
        simple command line (← rounds) {}
  | steps + 1, .pipeline => do
    match ← token Wanted.command with
    | .keyword "!" =>
      if (← get).how.dialect = .large then .negated <$> action steps .pipeline
      else
        let first ← action steps .command
        .negated <$> pipes (action steps .command) (← rounds) first
    | .keyword "time" => do
      let c ← get
      let portable := (← token) == .word ⟨[⟨.text, "-p".toList, false⟩], "-p".toList⟩
      if !portable then set c
      match ← peek Wanted.command with
      | .newline | .operator ";" | .finish => pure (.timed portable .nothing)
      | _ => .timed portable <$> action steps .pipeline
    | _ => do
      pushBack
      let first ← action steps .command
      pipes (action steps .command) (← rounds) first
  | steps + 1, .conditional => do
    let first ← action steps .pipeline
    conditions (action steps .pipeline) (← rounds) first
  | steps + 1, .list mayBeEmpty => do
    let t ← peek Wanted.later
    if t = .finish || (mayBeEmpty && t.closes) then pure .nothing
    else
      let first ← action steps .conditional
      match ← token with
      | .operator "&" => .followedBy (.meanwhile first) <$> action steps (.list true)
      | .operator ";" | .newline => first.followedBy <$> action steps (.list true)
      | _ => do
        pushBack
        pure first
  | steps + 1, .line => do
    match ← token Wanted.command with
    | .newline => pure .nothing
    | .finish => do
      pushBack
      pure .nothing
    | _ => do
      pushBack
      let first ← action steps .conditional
      match ← token with
      | .operator "&" => .followedBy (.meanwhile first) <$> action steps .line
      | .operator ";" => first.followedBy <$> action steps .line
      | .newline => pure first
      | .finish => do
        pushBack
        pure first
      | t => refuse t none

def stepsFor (text : Octets) : Nat := 8 * text.length + 10000

end Reader

/-- Finds the end of a script in parentheses, where scripts are at most so deep in one
another. -/
def scriptEndWithin (how : WordManner) (aliases : List (Octets × Octets)) :
    Nat → Octets → Except ScriptError Octets
  | 0, rest => how.scriptEnd rest
  | depth + 1, rest =>
    let inner : Cursor :=
      { rest, aliases, how := { how with scriptEnd := scriptEndWithin how aliases depth } }
    let whole : Reader Unit := do
      let _ ← Reader.action (Reader.stepsFor rest) (.list true)
      Reader.expectOperator ")"
    match whole inner with
    | .ok ((), c) => .ok c.rest
    | .error e => .error ⟨e.problem, e.rest⟩

def Cursor.ofText (dialect : Dialect) (text : Octets) : Cursor := { rest := text, how := { dialect } }

/-- A place in a script with what is known now about words that stand for other texts. -/
def Cursor.withAliases (c : Cursor) (aliases : List (Octets × Octets)) (extended : Bool) : Cursor :=
  let how : WordManner := { dialect := c.how.dialect, extended }
  let depth := c.rest.count '(' + 1
  { c with
    aliases, inUse := [], unended := []
    how := { how with scriptEnd := scriptEndWithin how aliases depth } }

/-- The commands of the first line of a script, and the place behind it. At the end there
are none. -/
def readLine (c : Cursor) : Except LineError (Option (Action × Cursor)) :=
  if isBlankScript (c.rest.length + 1) c.rest then .ok none
  else
    match Reader.action (Reader.stepsFor c.rest) .line { c with pushed := false } with
    | .ok (action, after) => .ok (some (action, { after with pushed := false }))
    | .error e => .error e

end CommandChains.Machine.Shell
