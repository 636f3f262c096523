import CommandChains.Machine.Edit.Script
import CommandChains.Machine.Tool.Basic
import CommandChains.Machine.Tool.Comparison

/-!
# How scripts are read

A script comes in parts, which are arguments or files. Each part is read for itself; only the
text of a command can go on in the next one. Files that commands write to are opened at once.
-/

namespace CommandChains.Machine.Edit

structure Dialect where
  extended : Bool := false
  strict : Bool := false
  /-- Whether other files and commands are out of reach. -/
  guarded : Bool := false

inductive Origin where
  | argument (before : Nat)
  | file (name : Octets)

structure Draft where
  origin : Origin := .argument 0
  isFirst : Bool := true
  part : Octets := []
  left : Octets := []
  commands : List Command := []
  /-- Where the blocks begin that are open, the innermost first. -/
  blocks : List Octets := []
  /-- What has been read of a text that may go on in the next part. -/
  pending : Option Octets := none
  /-- Whether the script says that lines are not printed as usual. -/
  quiet : Bool := false
  files : Files
  outlets : List (Octets × Destination) := []

/-- The place that is named with a mistake, where so much of the part has been read. -/
def Draft.place (d : Draft) (read : Octets) : Octets :=
  match d.origin with
  | .argument before =>
    "-e expression #".toList ++ Octets.ofNat (before + 1) ++ ", char ".toList ++
      Octets.ofNat read.length ++ ": ".toList
  | .file name =>
    "file ".toList ++ name ++ " line ".toList ++ Octets.ofNat (read.count '\n' + 1) ++
      ": ".toList

def Draft.taken (d : Draft) : Octets := d.part.take (d.part.length - d.left.length)

/-- The place that is named when a part has been read. -/
def Draft.placeBehind (d : Draft) : Octets :=
  match d.origin with
  | .argument _ => d.place []
  | .file _ => d.place d.taken

structure Refusal where
  message : Octets
  status : Nat := 1

abbrev Reading := ExceptT Refusal (StateM Draft)

namespace Reading

variable {α : Type}

/-! ## Characters -/

def refuse (reason : String) : Reading α := do
  let d ← get
  throw { message := d.place d.taken ++ reason.toList }

def left : Reading Octets := do pure (← get).left

def goTo (rest : Octets) : Reading Unit := modify fun d => { d with left := rest }

def peek : Reading (Option Char) := do pure (← left).head?

def take : Reading (Option Char) := do
  let rest ← left
  goTo (rest.drop 1)
  pure rest.head?

/-- Takes characters as long as they are of some kind. -/
def takeWhile (kind : Char → Bool) : Reading Octets := do
  let rest ← left
  let taken := rest.takeWhile kind
  goTo (rest.drop taken.length)
  pure taken

def skipBlanks : Reading Unit := do
  let _ ← takeWhile fun c => c == ' ' || c == '\t'

def number : Reading Nat := do pure (Octets.decimal (← takeWhile Char.isDigit))

def number? : Reading (Option Nat) := do pure (Octets.decimal? (← takeWhile Char.isDigit))

def takeIf (c : Char) : Reading Bool := do
  if (← peek) == some c then
    let _ ← take
    pure true
  else pure false

/-! ## Parts of commands -/

def delimited (delimiter : Option Char) (expression : Bool) (complaint : String) :
    Reading Octets := do
  match delimiter with
  | none => refuse complaint
  | some delimiter =>
    match readDelimited delimiter expression .plain (← left) with
    | .ok (inner, rest) =>
      goTo rest
      pure inner
    | .error rest =>
      goTo rest
      refuse complaint

def decode (use : Use) (d : Dialect) (text : Octets) : Reading Octets := do
  let spares := d.strict && use = .pattern
  match decoded use spares (text.length + 1) .plain text with
  | some text => pure text
  | none => refuse "recursive escaping after \\c not allowed"

/-- The expression that a text is. None means the one that was used last. -/
def pattern (d : Dialect) (how : Expression.Manner) (text : Octets) :
    Reading (Option Pattern) := do
  if text.isEmpty then
    if how.ignoreCase || how.severalLines then
      refuse "cannot specify modifiers on empty regexp"
    else pure none
  else
    let written ← decode .pattern d text
    let form : Expression.Form :=
      { extended := d.extended, paired := !d.strict, doubleBrackets := true, strict := d.strict,
        linesApart := how.severalLines }
    match Expression.ofText form written with
    | .ok meant => pure (some { written, how, meant })
    | .error .singleBracket =>
      throw { message := Expression.Mistake.singleBracket.message.toList, status := 4 }
    | .error m => refuse m.message

/-- Takes the letters behind an expression. Each round takes one. -/
def manner (d : Dialect) : Nat → Expression.Manner → Reading Expression.Manner
  | 0, how => pure how
  | rounds + 1, how => do
    skipBlanks
    match d.strict, ← peek with
    | false, some 'I' => do
      let _ ← take
      manner d rounds { how with ignoreCase := true }
    | false, some 'M' => do
      let _ ← take
      manner d rounds { how with severalLines := true }
    | _, _ => pure how

/-- Takes lines that a command is for, or the end of a range of them, if some stand here. -/
def lines? (d : Dialect) : Reading (Option Until) := do
  let expression (delimiter : Option Char) : Reading (Option Until) := do
    let inner ← delimited delimiter true "unterminated address regex"
    let how ← manner d (← left).length {}
    let p ← pattern d how inner
    pure (some (.address (.matching p)))
  let counted (make : Nat → Until) : Reading (Option Until) := do
    let _ ← take
    skipBlanks
    let n ← number
    pure (some (if n = 0 then .address .always else make n))
  match ← peek with
  | none => pure none
  | some '$' => do
    let _ ← take
    pure (some (.address .last))
  | some '/' => do expression (← take)
  | some '\\' => do
    let _ ← take
    expression (← take)
  | some '+' => if d.strict then pure none else counted .more
  | some '~' => if d.strict then pure none else counted .multiple
  | some c =>
    if c.isDigit then do
      let n ← number
      skipBlanks
      if !d.strict && (← peek) == some '~' then
        let _ ← take
        skipBlanks
        let step ← number
        pure (some (.address (if step = 0 then .number n else .every n step)))
      else pure (some (.address (.number n)))
    else pure none

def labelName : Reading Octets := do
  skipBlanks
  takeWhile fun c => !Octets.isSpace c && c != ';' && c != '\x7d' && c != '#'

/-- Takes the name of a file, which goes on to the end of the line. -/
def fileName (d : Dialect) : Reading Octets := do
  if d.guarded then refuse "e/r/w commands disabled in sandbox mode"
  skipBlanks
  let name ← takeWhile (· != '\n')
  let _ ← take
  if name.isEmpty then refuse "missing filename in r/R/w/W commands" else pure name

/-- Takes the name of a file and opens it to be written. -/
def outletName (d : Dialect) : Reading Octets := do
  let name ← fileName d
  let s ← get
  if s.outlets.any fun outlet => outlet.1 == name then pure name
  else
    match openPath s.files {} name with
    | .error e =>
      throw
        { message := "couldn't open file ".toList ++ name ++ ": ".toList ++ reasonOf e, status := 4 }
    | .ok (target, files) =>
      set { s with files, outlets := (name, target) :: s.outlets }
      pure name

/-- A text through the end of its line, whether it may go on in the next part, and what is
behind it. A backslash keeps the character behind it in the text. -/
def lineOf : Octets → Octets × Bool × Octets
  | [] => (['\n'], false, [])
  | ['\\'] => (['\n'], true, [])
  | '\\' :: c :: rest =>
    let (text, open_, rest) := lineOf rest
    ('\\' :: c :: text, open_, rest)
  | '\n' :: rest => (['\n'], false, rest)
  | c :: rest =>
    let (text, open_, rest) := lineOf rest
    (c :: text, open_, rest)

def shownText (text : Octets) : Octets :=
  (decoded .shown false (text.length + 1) .plain text).getD []

def text (d : Dialect) : Reading Octets := do
  let expected : String := "expected \\ after \x60a', \x60c' or \x60i'"
  let line : Reading Octets := do
    let (text, open_, rest) := lineOf (← left)
    goTo rest
    if open_ then modify fun s => { s with pending := some text }
    pure (shownText text)
  skipBlanks
  match ← peek with
  | none => refuse expected
  | some '\\' => do
    let _ ← take
    match ← peek with
    | none => do
      modify fun s => { s with pending := some [] }
      pure []
    | some '\n' => do
      let _ ← take
      line
    | some _ => line
  | some _ =>
    if d.strict then do
      let _ ← take
      refuse expected
    else line

/-- Takes the flags of a replacement. Each round takes at least one character. -/
def flags (d : Dialect) : Nat → Replacement → Expression.Manner →
    Reading (Replacement × Expression.Manner)
  | 0, r, how => pure (r, how)
  | rounds + 1, r, how => do
    let unknown : Reading (Replacement × Expression.Manner) := refuse "unknown option to \x60s'"
    match ← peek with
    | none => pure (r, how)
    | some '\x7d' | some '#' => pure (r, how)
    | some c =>
      if c.isDigit then
        let n ← number
        if r.first.isSome then refuse "multiple number options to \x60s' command"
        else if n = 0 then refuse "number option to \x60s' command may not be zero"
        else flags d rounds { r with first := some n } how
      else
        let _ ← take
        match c with
        | '\n' | ';' => pure (r, how)
        | ' ' | '\t' => flags d rounds r how
        | '\r' => do
          match ← take with
          | some '\n' => pure (r, how)
          | _ => unknown
        | 'g' =>
          if r.all then refuse "multiple \x60g' options to \x60s' command"
          else flags d rounds { r with all := true } how
        | 'p' =>
          if r.prints || r.printsBefore then refuse "multiple \x60p' options to \x60s' command"
          else if r.runs then flags d rounds { r with prints := true } how
          else flags d rounds { r with printsBefore := true } how
        | 'w' => do
          let name ← outletName d
          pure ({ r with file := some name }, how)
        | 'i' | 'I' =>
          if d.strict then unknown else flags d rounds r { how with ignoreCase := true }
        | 'm' | 'M' =>
          if d.strict then unknown else flags d rounds r { how with severalLines := true }
        | 'e' => if d.strict then unknown else flags d rounds { r with runs := true } how
        | _ => unknown

def replacement (d : Dialect) : Reading Action := do
  let complaint : String := "unterminated \x60s' command"
  let delimiter ← take
  let old ← delimited delimiter true complaint
  let new ← decode .replacement d (← delimited delimiter false complaint)
  let pieces := pieces d.strict .given none [] new
  let (r, how) ← flags d ((← left).length + 1) { pattern := none, pieces } {}
  let pattern ← pattern d how old
  let most := pieces.foldl (fun n piece => max n (piece.group.getD 0)) 0
  match pattern with
  | some p =>
    if p.meant.groupCount < most then
      refuse ("invalid reference \\" ++ toString most ++ " on \x60s' command's RHS")
  | none => pure ()
  if d.guarded && r.runs then refuse "e/r/w commands disabled in sandbox mode"
  pure (.replace { r with pattern })

def ending : Reading Unit := do
  skipBlanks
  match ← peek with
  | none | some '\x7d' | some '#' => pure ()
  | some c => do
    let _ ← take
    if c != '\n' && c != ';' then refuse "extra characters after command"

def translation (d : Dialect) : Reading Action := do
  let complaint : String := "unterminated \x60y' command"
  let delimiter ← take
  let old ← decode .translation d (← delimited delimiter false complaint)
  let new ← decode .translation d (← delimited delimiter false complaint)
  let old := bare old
  let new := bare new
  if old.length = new.length then
    ending
    pure (.translate (old.zip new).reverse)
  else refuse "strings for \x60y' command are different lengths"

/-! ## Commands -/

def extensions : String := "eFvzLQTRW"

/-- Commands that are for one line only, by the standard. -/
def singles : String := "ail=r"

/-- What a letter does for which nothing else is needed. -/
def simple? (letter : Char) : Option Action :=
  match letter with
  | '=' => some .number
  | 'd' => some (.delete false)
  | 'D' => some (.delete true)
  | 'F' => some .source
  | 'g' => some (.get false)
  | 'G' => some (.get true)
  | 'h' => some (.hold false)
  | 'H' => some (.hold true)
  | 'n' => some (.next false)
  | 'N' => some (.next true)
  | 'p' => some (.print false)
  | 'P' => some (.print true)
  | 'x' => some .exchange
  | 'z' => some .clear
  | _ => none

/-- Takes what a command does, behind its letter. A command that does nothing is none. -/
def action (d : Dialect) (first : Bool) (second : Bool) (letter : Char) :
    Reading (Option Action) := do
  let counted (make : Option Nat → Action) : Reading (Option Action) := do
    skipBlanks
    let n ← if d.strict then pure none else number?
    ending
    pure (some (make n))
  match letter with
  | '\x7b' => do
    modify fun s => { s with blocks := (match s.origin with
      | .argument _ => s.place []
      | .file _ => s.place s.taken) :: s.blocks }
    pure (some .opens)
  | '\x7d' => do
    match (← get).blocks with
    | [] => refuse "unexpected \x60\x7d'"
    | _ :: outer => do
      if first then refuse "\x60\x7d' doesn't want any addresses"
      ending
      modify fun s => { s with blocks := outer }
      pure (some .closes)
  | 'a' => do pure (some (.append (← text d)))
  | 'i' => do pure (some (.insert (← text d)))
  | 'c' => do pure (some (.change (← text d)))
  | 'e' => do
    if d.guarded then refuse "e/r/w commands disabled in sandbox mode"
    skipBlanks
    match ← peek with
    | none => pure (some .runLine)
    | some '\n' => do
      let _ ← take
      pure (some .runLine)
    | some _ => do
      let command ← text d
      pure (some (if command.isEmpty then .runLine else .run command))
  | ':' => do
    if first then refuse ": doesn't want any addresses"
    let name ← labelName
    if name.isEmpty then refuse "\":\" lacks a label"
    pure (some (.label name))
  | 'b' => do pure (some (.jump (← labelName)))
  | 't' => do pure (some (.jumpIf true (← labelName)))
  | 'T' => do pure (some (.jumpIf false (← labelName)))
  | 'q' | 'Q' =>
    if second then refuse "command only uses one address"
    else counted fun status => .quit status (letter = 'Q')
  | 'l' => counted .list
  | 'L' => counted fun _ => .lost 'L'
  | 'r' => do pure (some (.read (← fileName d) false))
  | 'R' => do pure (some (.read (← fileName d) true))
  | 'w' => do pure (some (.write (← outletName d) false))
  | 'W' => do pure (some (.write (← outletName d) true))
  | 's' => do pure (some (← replacement d))
  | 'y' => do pure (some (← translation d))
  | 'v' => do
    let version ← labelName
    if (Tool.orderOfVersions (version.length + 4) version "4.9".toList) = .gt then
      refuse "expected newer version of sed"
    pure none
  | _ =>
    match simple? letter with
    | some action => do
      ending
      pure (some action)
    | none => refuse ("unknown command: \x60" ++ String.ofList [letter] ++ "'")

/-- Takes the second half of a range of lines, if a comma stands here. -/
def rangeEnd? (d : Dialect) : Reading (Option Until) := do
  if ← takeIf ',' then
    skipBlanks
    match ← lines? d with
    | some end_ => do
      skipBlanks
      pure (some end_)
    | none => do
      let _ ← take
      refuse "unexpected \x60,'"
  else pure none

/-- Whether lines that begin with line zero are meant without need. -/
def isVainZero (d : Dialect) (first : Address) (second : Option Until) (letter : Option Char) :
    Bool :=
  match first, second with
  | .number 0, some (.address (.matching _)) => d.strict
  | .number 0, none => letter != some 'r' || d.strict
  | .number 0, _ => true
  | _, _ => false

def addresses (d : Dialect) : Reading (Option Address × Option Until) := do
  match ← lines? d with
  | none => pure (none, none)
  | some (.address first) => do
    skipBlanks
    let second ← rangeEnd? d
    if isVainZero d first second (← peek) then
      let _ ← take
      refuse "invalid usage of line address 0"
    pure (some first, second)
  | some _ => refuse "invalid usage of +N or ~N as first address"

/-- A file that is read at line zero is printed before the first line. -/
def atBeginning (c : Command) : Command :=
  match c.first, c.second, c.action with
  | some (.number 0), none, .read path false =>
    { c with first := some (.number 1), action := .readBefore path }
  | _, _, _ => c

/-- Takes a comment. The first line of a script can say that nothing is printed as usual. -/
def comment : Reading Unit := do
  let s ← get
  let text ← takeWhile (· != '\n')
  let _ ← take
  if s.isFirst && s.taken == ['#'] && text.head? == some 'n' then
    modify fun s => { s with quiet := true }

/-- Takes the commands of a part. Each round takes at least one character. -/
def commands (d : Dialect) : Nat → Reading Unit
  | 0 => pure ()
  | rounds + 1 => do
    let _ ← takeWhile fun c => Octets.isSpace c || c == ';'
    if (← left).isEmpty then pure ()
    else
      let (first, second) ← addresses d
      let negated ← takeIf '!'
      if negated then
        skipBlanks
        if ← takeIf '!' then refuse "multiple \x60!'s"
      match ← take with
      | none => refuse "missing command"
      | some '#' => do
        if first.isSome then refuse "comments don't accept any addresses"
        comment
        commands d rounds
      | some letter => do
        if d.strict && extensions.contains letter then
          refuse ("unknown command: \x60" ++ String.ofList [letter] ++ "'")
        if d.strict && singles.contains letter && second.isSome then
          refuse "command only uses one address"
        match ← action d first.isSome second.isSome letter with
        | none => pure ()
        | some action =>
          let command := atBeginning { first, second, negated, action }
          modify fun s => { s with commands := command :: s.commands }
        commands d rounds

/-! ## Whole scripts -/

def withText (text : Octets) (c : Command) : Command :=
  match c.action with
  | .append _ => { c with action := .append text }
  | .insert _ => { c with action := .insert text }
  | .change _ => { c with action := .change text }
  | .run _ | .runLine => { c with action := .run text }
  | _ => c

/-- Goes on with a text that was not at its end. -/
def resume : Reading Unit := do
  match (← get).pending with
  | none => pure ()
  | some begun => do
    let (text, open_, rest) := lineOf (← left)
    goTo rest
    let whole := begun ++ text
    modify fun s =>
      { s with
        pending := if open_ then some whole else none
        commands := match s.commands with
          | [] => []
          | last :: others => withText (shownText whole) last :: others }

def part (d : Dialect) (origin : Origin) (text : Octets) : Reading Unit := do
  modify fun s => { s with origin, part := text, left := text }
  resume
  commands d (text.length + 1)
  modify fun s => { s with isFirst := false }

/-- Sees to it that everything that was begun has an end. -/
def finish : Reading Unit := do
  let s ← get
  match s.blocks with
  | place :: _ => throw { message := place ++ "unmatched \x60\x7b'".toList }
  | [] =>
    match strayLabel? s.commands.reverse.toArray with
    | some name =>
      throw { message := "can't find label for jump to \x60".toList ++ name ++ "'".toList, status := 4 }
    | none => pure ()

end Reading

end CommandChains.Machine.Edit
