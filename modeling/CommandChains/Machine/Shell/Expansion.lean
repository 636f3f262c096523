import CommandChains.Machine.Shell.Parameter
import CommandChains.Machine.Shell.Sum

/-!
# What words stand for

Before a command is run its words are replaced: parameters by their values, scripts by
their output, sums by their results. What was put in the place of something outside of
quotes is then cut into words between the separators, and words that are patterns are
replaced by the paths that they fit.
-/

namespace CommandChains.Machine.Shell

/-- Runs a script that stands in a word, and gives its output. -/
abbrev Substitute := Octets → State → Octets × State

/-- Why a word cannot be replaced, and what becomes of the script. -/
structure Abort where
  message : Octets
  status : Nat
  flow : Flow

/-- Something that is found out about words while the shell changes. -/
abbrev Expanding (α : Type) := ExceptT Abort (StateM State) α

/-- A shell after a word could not be replaced. -/
def State.aborted (s : State) (a : Abort) : State :=
  let told := if a.message.isEmpty then s.withStatus a.status
    else s.commandFailing a.message a.status
  { told with flow := a.flow }

/-- Finds something out in a shell and goes on with it, unless that fails. -/
def Expanding.andThen {α : Type} (x : Expanding α) (next : α → State → State) (s : State) : State :=
  match x.run s with
  | (.ok a, s) => next a s
  | (.error e, s) => s.aborted e

namespace Expanding

def fail {α : Type} (message : Octets) : Expanding α := do
  match (← get).dialect with
  | .small => throw { message, status := 2, flow := .discarding }
  | .large => throw { message, status := 1, flow := .discarding }

def failForGood {α : Type} (message : Octets) : Expanding α := do
  let s ← get
  match s.dialect with
  | .small => throw { message, status := 2, flow := .discarding }
  | .large => throw { message, status := if s.isArgument then 127 else 1, flow := .exiting }

def failWith {α : Type} (text : Octets) : Expanding α := do
  match (← get).dialect with
  | .small => fail "Bad substitution".toList
  | .large => fail ("$\x7b".toList ++ text ++ "\x7d: bad substitution".toList)

def ofRead {α : Type} (read : Except ScriptError α) : Expanding α := do
  match read with
  | .ok a => pure a
  | .error e =>
    match (← get).dialect with
    | .small => fail ("Syntax error: ".toList ++ e.problem.message)
    | .large => fail e.problem.longMessage

def manner : Expanding WordManner := do pure { dialect := (← get).dialect }

def style : Expanding PatternPart.Style := do
  let s ← get
  pure { dialect := s.dialect, grouped := s.settings.contains "extglob"
         ignoreCase := s.settings.contains "nocasematch" }

abbrev Replace := Piece → Expanding (List Fragment)

def replaceAll (one : Replace) : Pieces → Expanding (List Fragment)
  | [] => pure []
  | p :: rest => do
    let first ← one p
    let more ← replaceAll one rest
    pure (first ++ more)

/-- Replaces what stands in a text as between double quotes. -/
def textWithin (one : Replace) (text : Octets) : Expanding Octets := do
  let pieces ← ofRead (quotedPieces (← manner) text)
  pure (textOf (← replaceAll one pieces))

/-- Replaces what stands in a text as between no quotes. -/
def plainWithin (one : Replace) (text : Octets) : Expanding (List Fragment) := do
  replaceAll one (← ofRead (plainPieces (← manner) text))

/-! ## Sums -/

def sum (text : Octets) : Expanding Int := do
  let s ← get
  let found := match s.dialect with
    | .small => Sum.Small.evaluate text s
    | .large => Sum.Large.evaluate text s
  match found with
  | .ok (n, s) => do
    set s
    pure n
  | .error e => fail e.message

/-- The value of a sum that stands in a script. -/
def sumWithin (one : Replace) (text : Octets) : Expanding Int := do
  let replaced ← textWithin one text
  let isLarge := (← get).isLarge
  sum (if isLarge then replaced.filter (· != '"') else replaced)

/-! ## Settings -/

def placeOf (one : Replace) (name key : Octets) (elements : List (Nat × Octets)) :
    Expanding Nat := do
  let n ← sumWithin one key
  let last : Nat := (elements.getLast?.map (·.1 + 1)).getD 0
  if 0 ≤ n then pure n.toNat
  else if 0 ≤ n + last then pure (n + last).toNat
  else fail (name ++ ['['] ++ key ++ "]: bad array subscript".toList)

def keyOf (one : Replace) (key : Octets) : Expanding Octets := do
  pure (textOf (← plainWithin one key))

def failFixed {α : Type} (name : Octets) : Expanding α := do
  match (← get).dialect with
  | .small => fail (name ++ ": is read only".toList)
  | .large => fail (name ++ ": readonly variable".toList)

def keptText (v : Variable) (old text : Octets) (appends : Bool) : Expanding Octets := do
  if v.numeric then
    let n ← sum text
    if appends then
      let m ← sum old
      pure (Octets.ofInt (wrapNumber (m + n)))
    else pure (Octets.ofInt n)
  else
    let whole := if appends then old ++ text else text
    pure (match v.letterCase with
      | some true => whole.map Char.toUpper
      | some false => whole.map Char.toLower
      | none => whole)

/-- Sets a variable, or an element of one, to a text. -/
def assign (one : Replace) (name : Octets) (key : Option Octets) (appends : Bool)
    (text : Octets) : Expanding Unit := do
  let s ← get
  let v := (s.kept? name).getD {}
  if v.fixed then failFixed (s.resolve name)
  else if v.refers && (v.value.bind Value.whole?).isNone then
    set (s.alterVariable name fun v => { v with value := some (.text text) })
  else
    match key, v.value with
    | none, value =>
      let text ← keptText v ((value.bind Value.whole?).getD []) text appends
      modify fun s => s.set name text
    | some key, some (.table entries) =>
      let key ← keyOf one key
      let text ← keptText v ((entries.lookup key).getD []) text appends
      modify fun s => s.setValue name (.table (Environment.set entries key text))
    | some key, value =>
      let elements := (value.map Value.asRow).getD []
      let place ← placeOf one name key elements
      let text ← keptText v ((elements.lookup place).getD []) text appends
      modify fun s => s.setValue name (.row (Value.setAt elements place text))

/-! ## What references hold -/

def heldBy (one : Replace) (r : Reference) : Expanding Held := do
  let s ← get
  match r.key with
  | none => do
    if r.name = "RANDOM".toList ∨ r.name = "SRANDOM".toList then
      set { s with seed := State.nextSeed s.seed }
    pure (s.held r.name)
  | some key =>
    let value := s.knownOr? r.name
    if key = ['@'] ∨ key = ['*'] then
      pure (.many (key == ['*']) ((value.map Value.texts).getD []))
    else
      match value with
      | some (.table entries) => do
        let key ← keyOf one key
        pure (.ofOption (entries.lookup key))
      | value => do
        let elements := (value.map Value.asRow).getD []
        let place ← placeOf one r.name key elements
        pure (.ofOption (elements.lookup place))

def marksOf (v : Variable) : Octets :=
  (match v.value with
    | some (.row _) => ['a']
    | some (.table _) => ['A']
    | _ => []) ++
  (if v.numeric then ['i'] else []) ++ (if v.refers then ['n'] else []) ++
  (if v.fixed then ['r'] else []) ++ (if v.exported then ['x'] else []) ++
  (match v.letterCase with
    | some false => ['l']
    | some true => ['u']
    | none => [])

/-- A row or a table as the large shell declares it. -/
def declaredElements (value : Value) : Octets :=
  let shown (key text : Octets) : Octets := '[' :: key ++ "]=".toList ++ Quoting.declared text
  match value with
  | .text text => Quoting.declared text
  | .row elements =>
    '(' :: Octets.joined [' '] (elements.map fun e => shown (Octets.ofNat e.1) e.2) ++ [')']
  | .table entries =>
    '(' :: (Value.listed entries).flatMap (fun e =>
      shown (if Quoting.hasMeaning e.1 then Quoting.declared e.1 else e.1) e.2 ++ [' ']) ++ [')']

/-- A reference changed as a letter behind an at sign says. -/
def transformed (r : Reference) (held : Held) (letter : Char) : Expanding Held := do
  let s ← get
  let v := (s.kept? r.name).getD {}
  match letter with
  | 'Q' => pure (held.map Quoting.reusable)
  | 'E' => pure (held.map fun t => unescaped t.length t)
  | 'P' => pure held
  | 'U' => pure (held.map (·.map Char.toUpper))
  | 'L' => pure (held.map (·.map Char.toLower))
  | 'u' => pure (held.map (changeCase '^' false fun _ => true))
  | 'a' => pure (held.map fun _ => marksOf v)
  | 'A' =>
    let marks := marksOf v
    let front := if marks.isEmpty then [] else "declare -".toList ++ marks ++ [' ']
    match v.value, held with
    | some (.text _), .one text => pure (.one (front ++ r.name ++ '=' :: Quoting.reusable text))
    | some value, .many _ _ => pure (.one (front ++ r.name ++ '=' :: declaredElements value))
    | some _, .one text => pure (.one (front ++ r.name ++ '=' :: Quoting.reusable text))
    | _, held => pure held
  | 'K' | 'k' =>
    match v.value, held with
    | some value, .many starred _ =>
      pure (.many starred ((value.keys.zip value.texts).map fun (k, t) =>
        k ++ ' ' :: Quoting.declared t))
    | _, held => pure (held.map Quoting.reusable)
  | _ => failWith (r.name ++ r.change)

/-- The parts of a text at the first sign that nothing encloses. -/
def atSign (sign : Char) : Nat → Octets → Octets × Option Octets
  | 0, text => (text, none)
  | rounds + 1, text =>
    let skip (front : Octets) (closing : List Char) (rest : Octets) : Octets × Option Octets :=
      match enclosed false closing rest with
      | some (_, after) =>
        let (more, found) := atSign sign rounds after
        (front ++ upTo rest after ++ more, found)
      | none => (text, none)
    match text with
    | [] => ([], none)
    | '\\' :: c :: rest =>
      let (more, found) := atSign sign rounds rest
      ('\\' :: c :: more, found)
    | '\x27' :: rest => skip ['\x27'] ['\x27'] rest
    | '"' :: rest => skip ['"'] ['"'] rest
    | '$' :: '\x7b' :: rest => skip ['$', '\x7b'] ['\x7d'] rest
    | '$' :: '(' :: rest => skip ['$', '('] [')'] rest
    | c :: rest =>
      if c = sign then ([], some rest)
      else
        let (more, found) := atSign sign rounds rest
        (c :: more, found)

/-- A part of something held, from a place on and perhaps so long. -/
def partOf (s : State) (r : Reference) (held : Held) (offset : Int) (length : Option Int) :
    Option Held :=
  let cut (size : Nat) (start : Int) : Option (Nat × Nat) :=
    let start := if start < 0 then start + size else start
    if start < 0 ∨ (size : Int) < start then some (size, 0)
    else
      match length with
      | none => some (start.toNat, size)
      | some n =>
        if 0 ≤ n then some (start.toNat, n.toNat)
        else if size + n < start then none
        else some (start.toNat, (size + n - start).toNat)
  match held with
  | .nothing => some .nothing
  | .one text => (cut text.length offset).map fun (n, m) => .one ((text.drop n).take m)
  | .many starred texts =>
    let isArguments := r.key.isNone
    let all := if isArguments then s.name :: texts else texts
    match s.knownOr? r.name, isArguments with
    | some (.row elements), false =>
      let last : Nat := (elements.getLast?.map (·.1 + 1)).getD 0
      let start := if offset < 0 then offset + last else offset
      let rest := (elements.filter fun e => decide (start ≤ (e.1 : Int))).map (·.2)
      some (.many starred (match length with
        | none => rest
        | some n => rest.take n.toNat))
    | _, _ => (cut all.length offset).map fun (n, m) => .many starred ((all.drop n).take m)

def failUnset {α : Type} (r : Reference) : Expanding α := do
  match (← get).dialect with
  | .small => fail (r.name ++ ": parameter not set".toList)
  | .large =>
    let mark := if r.name.all Char.isDigit then ['$'] else []
    let key := match r.key with
      | some key => '[' :: key ++ [']']
      | none => []
    failForGood (mark ++ r.name ++ key ++ ": unbound variable".toList)

/-- Whether a parameter has to be set if the shell is strict about that. -/
def mustBeSet (r : Reference) : Bool :=
  r.name != ['@'] && r.name != ['*'] && r.key != some ['@'] && r.key != some ['*']

def operandOf (one : Replace) (isQuoted : Bool) (text : Octets) : Expanding (List Fragment) := do
  let how ← manner
  if isQuoted then replaceAll one (← ofRead (quotedPieces how text .vanishes))
  else
    let pieces := withHomes (← get) false (← ofRead (plainPieces how text))
    pure ((← replaceAll one pieces).map Fragment.cut)

def patternOf (one : Replace) (text : Octets) : Expanding (List Marked) := do
  pure ((← plainWithin one text).flatMap Fragment.marked)

/-- The text that is put in the place of what a pattern fits, with a backslash in front of
ampersands that stand for themselves. -/
def replacementOf (one : Replace) (text : Octets) : Expanding Octets := do
  let fragments ← plainWithin one text
  pure (fragments.flatMap fun f =>
    match f with
    | .quoted t => t.flatMap fun c => if c = '&' then ['\\', '&'] else [c]
    | f => f.text)

/-- Does with what the large shell alone knows about. -/
def largeChange (one : Replace) (r : Reference) (held : Held) : Expanding Held := do
  let s ← get
  let how ← style
  match r.change with
  | ':' :: text =>
    let (first, second) := atSign ':' (text.length + 1) text
    let offset ← sumWithin one first
    let length ← match second with
      | none => pure none
      | some text => some <$> sumWithin one text
    match partOf s r held offset length with
    | some held => pure held
    | none => fail ((second.getD []) ++ ": substring expression < 0".toList)
  | '/' :: text =>
    let (all, text) := match text with
      | '/' :: rest => (true, rest)
      | text => (false, text)
    let (pattern, new) := atSign '/' (text.length + 1) text
    let new ← replacementOf one (new.getD [])
    let place := fun (c : Char) => !all && pattern.head? == some c
    if place '#' then
      let p ← patternOf one (pattern.drop 1)
      pure (held.map fun t =>
        match longestFit how p t with
        | some n => withMatch new (t.take n) ++ t.drop n
        | none => t)
    else if place '%' then
      let p ← patternOf one (pattern.drop 1)
      pure (held.map fun t =>
        let left := withoutEnd how p true t
        let fitsEnd := left.length < t.length || fits how p []
        if fitsEnd then left ++ withMatch new (t.drop left.length) else t)
    else
      let p ← patternOf one pattern
      if p.isEmpty then pure held
      else pure (held.map fun t => replaceFits (longestFit how p) all (withMatch new) t.length t)
  | '@' :: letter :: [] => transformed r held letter
  | sign :: text =>
    if "^,~".contains sign then
      let (all, text) := match text with
        | c :: rest => if c = sign then (true, rest) else (false, text)
        | [] => (false, [])
      let p ← patternOf one text
      let wanted (c : Char) : Bool := p.isEmpty || fits how p [c]
      pure (held.map (changeCase sign all wanted))
    else failWith (r.name ++ r.change)
  | [] => pure held

def changed (one : Replace) (isQuoted : Bool) (source : Octets) (r : Reference) (held : Held) :
    Expanding (List Fragment) := do
  let s ← get
  let own : Expanding (List Fragment) := do pure ((← get).fragmentsOf isQuoted held)
  let strict := s.has 'u' && mustBeSet r
  if r.size then
    if held == .nothing && strict then failUnset r
    else
      let length := match held, s.dialect with
        | .many _ texts, .large => texts.length
        | held, _ => (held.text s.joiner).length
      pure [Fragment.of isQuoted (Octets.ofNat length)]
  else
    let (orEmpty, change) := match r.change with
      | ':' :: rest =>
        if rest.head?.any fun c => "-+=?".contains c then (true, rest) else (false, r.change)
      | rest => (false, rest)
    let missing := if orEmpty then held.isBlank else held.isUnset
    let trimmed (most : Bool) (work : List Marked → Bool → Octets → Octets) (text : Octets) :
        Expanding (List Fragment) := do
      if held == .nothing && strict then failUnset r
      else
        let p ← patternOf one text
        pure ((← get).fragmentsOf isQuoted (held.map (work p most)))
    let how ← style
    match change with
    | [] => if held == .nothing && strict then failUnset r else own
    | '-' :: text => if missing then operandOf one isQuoted text else own
    | '+' :: text =>
      if missing then pure (if isQuoted then [.quoted []] else []) else operandOf one isQuoted text
    | '=' :: text =>
      if !missing then own
      else if !isName r.name then
        match s.dialect with
        | .small => fail (r.name ++ ": bad variable name".toList)
        | .large => fail ('$' :: r.name ++ ": cannot assign in this way".toList)
      else
        let value := textOf (← operandOf one isQuoted text)
        assign one r.name r.key false value
        pure [Fragment.of isQuoted value]
    | '?' :: text =>
      if !missing then own
      else
        let message := textOf (← operandOf one true text)
        let usual := match s.dialect with
          | .small => "parameter not set".toList ++ if orEmpty then " or null".toList else []
          | .large => "parameter ".toList ++
            if orEmpty then "null or not set".toList else "not set".toList
        failForGood (r.name ++ ": ".toList ++ if text.isEmpty then usual else message)
    | '#' :: '#' :: text => trimmed true (withoutBeginning how) text
    | '#' :: text => trimmed false (withoutBeginning how) text
    | '%' :: '%' :: text => trimmed true (withoutEnd how) text
    | '%' :: text => trimmed false (withoutEnd how) text
    | _ =>
      match s.dialect with
      | .small => failWith source
      | .large =>
        if held == .nothing && strict then failUnset r
        else
          let held ← largeChange one r held
          pure ((← get).fragmentsOf isQuoted held)

def namesWith (s : State) (front : Octets) : List Octets :=
  ((s.bindings.filter fun entry => front.isPrefixOf entry.1 && entry.2.value.isSome).map
    (·.1)).mergeSort Octets.atMost

def reference (one : Replace) (isQuoted : Bool) (source : Octets) (r : Reference) :
    Expanding (List Fragment) := do
  let s ← get
  if !r.indirect then changed one isQuoted source r (← heldBy one r)
  else
    match r.change, r.key with
    | ['@'], none | ['*'], none =>
      pure (s.fragmentsOf isQuoted (.many (r.change == ['*']) (namesWith s r.name)))
    | _, some ['@'] | _, some ['*'] =>
      let keys := ((s.knownOr? r.name).map Value.keys).getD []
      pure (s.fragmentsOf isQuoted (.many (r.key == some ['*']) keys))
    | _, _ =>
      if (s.bindings.lookup r.name).any Variable.refers then
        pure [Fragment.of isQuoted (s.resolve r.name)]
      else
        let target := (← heldBy one { r with change := [] }).text [' ']
        match Reference.plain? s.dialect target with
        | some other =>
          if other.change.isEmpty then
            let other := { other with change := r.change }
            changed one isQuoted source other (← heldBy one other)
          else fail (target ++ ": invalid variable name".toList)
        | none =>
          if target.isEmpty then fail (r.name ++ ": invalid indirect expansion".toList)
          else fail (target ++ ": invalid variable name".toList)

/-! ## Pieces and words -/

def withoutNewlines (text : Octets) : Octets :=
  (text.reverse.dropWhile (· == '\n')).reverse

/-- The number of a stream that nobody uses, from a great one down. -/
def freeStream (s : State) : Nat :=
  ((List.range 50).map fun k => 63 - k).find? (fun n => (s.streams.lookup n).isNone) |>.getD 63

/-- Opens a stream to a channel, and gives its path. -/
def openedPath (c : Channel) : Expanding Octets := do
  let s ← get
  let n := freeStream s
  set (s.open_ n c)
  pure ("/dev/fd/".toList ++ Octets.ofNat n)

/-- Replaces a piece, where words are at most so deep in one another. -/
def piece (substitute : Substitute) : Nat → Replace
  | 0, _ => pure []
  | depth + 1, p => do
    let one := piece substitute depth
    match p.kind with
    | .text => pure [if p.quoted then .quoted p.text else .loose p.text]
    | .command => do
      let (output, s) := substitute p.text (← get)
      set s
      if s.goes then pure [Fragment.of p.quoted (withoutNewlines (output.filter (· != '\x00')))]
      else throw { message := [], status := s.status, flow := s.flow }
    | .arithmetic => do
      pure [Fragment.of p.quoted (Octets.ofInt (← sumWithin one p.text))]
    | .source => do
      let (output, s) := substitute p.text (← get)
      set s
      pure [.loose (← openedPath (.text output s.clock))]
    | .sink => do
      let s ← get
      let n := s.nextNumber
      let path ← openedPath (.told n)
      modify fun s => { s with
        nextNumber := n + 1, companions := (n, ⟨fun _ => [], [], 0⟩) :: s.companions
        sinks := s.sinks ++ [(n, p.text)] }
      pure [.loose path]
    | .parameter => do
      match Reference.ofText? (← get).dialect p.text with
      | none => failWith p.text
      | some r => reference one p.quoted p.text r

/-- Replaces the pieces of a word. Every word inside another is a part of its text, so
words are not deeper in one another than the word is long. -/
def replaced (substitute : Substitute) (pieces : Pieces) : Expanding (List Fragment) :=
  replaceAll (piece substitute (pieces.rawText.length + 1)) pieces

/-- The paths that a word stands for, or itself if it is no pattern or no path fits it. -/
def pathsOf (word : List Marked) : Expanding (List Octets) := do
  let s ← get
  let how ← style
  let itself := Marked.text word
  if s.has 'f' || !isPathPattern how word then pure [itself]
  else
    match pathsThatFit how (s.settings.contains "dotglob") s.files word with
    | [] =>
      if s.settings.contains "failglob" then fail ("no match: ".toList ++ itself)
      else pure (if s.settings.contains "nullglob" then [] else [itself])
    | paths => pure paths

def wordsOf (substitute : Substitute) (w : Word) : Expanding (List Octets) := do
  let s ← get
  let each ← (bracesOf s.dialect w.pieces).mapM fun pieces => do
    let fragments ← replaced substitute (withHomes s false pieces)
    let words := cutWords (← get).separators fragments
    let found ← words.mapM pathsOf
    pure found.flatten
  pure each.flatten

/-- The words of a command after everything has been put in its place. -/
def allWords (substitute : Substitute) (words : List Word) : Expanding (List Octets) := do
  pure (← words.mapM (wordsOf substitute)).flatten

def wholeText (substitute : Substitute) (w : Word) (inValue : Bool := false) :
    Expanding Octets := do
  let pieces := withHomes (← get) inValue w.pieces
  pure (textOf (← replaced substitute pieces))

def wholePattern (substitute : Substitute) (w : Word) : Expanding (List Marked) := do
  let pieces := withHomes (← get) false w.pieces
  pure ((← replaced substitute pieces).flatMap Fragment.marked)

end Expanding

end CommandChains.Machine.Shell
