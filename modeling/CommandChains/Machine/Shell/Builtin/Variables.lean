import CommandChains.Machine.Shell.Grammar
import CommandChains.Machine.Shell.Expansion
import CommandChains.Machine.Shell.Syntax
import CommandChains.Machine.Shell.Builtin.Control

/-!
# Settings of variables

A setting gives a variable a text, or in the large shell a row or a table of texts. What is
set is known only after everything in the words has been put in its place.
-/

namespace CommandChains.Machine.Shell

namespace Expanding

/-- The elements that some words make, each perhaps with its key. -/
def elementsOf (substitute : Substitute) (isTable : Bool) :
    List (Option Octets × Word) → Expanding (List (Option Octets × Octets))
  | [] => pure []
  | (some key, w) :: rest => do
    let text ← wholeText substitute w
    let more ← elementsOf substitute isTable rest
    pure ((some key, text) :: more)
  | (none, w) :: rest => do
    let texts ← if isTable then pure [← wholeText substitute w] else wordsOf substitute w
    let more ← elementsOf substitute isTable rest
    pure (texts.map (fun text => (none, text)) ++ more)

/-- The entries that some elements make, where keys and values may stand in turn. -/
def entriesOf (one : Replace) :
    List (Option Octets × Octets) → Expanding (List (Octets × Octets))
  | [] => pure []
  | (some key, text) :: rest => do
    let key ← keyOf one key
    let more ← entriesOf one rest
    pure ((key, text) :: more)
  | (none, key) :: (_, text) :: rest => do
    let more ← entriesOf one rest
    pure ((key, text) :: more)
  | [(none, key)] => pure [(key, [])]

/-- A row with some elements put into it, from a place on. -/
def rowWith (one : Replace) (name : Octets) (v : Variable) :
    List (Option Octets × Octets) → Nat → List (Nat × Octets) → Expanding (List (Nat × Octets))
  | [], _, row => pure row
  | (key, text) :: rest, next, row => do
    let place ← match key with
      | some key => placeOf one name key row
      | none => pure next
    let text ← keptText v [] text false
    rowWith one name v rest (place + 1) (Value.setAt row place text)

def assignElements (substitute : Substitute) (name : Octets) (appends : Bool)
    (list : List (Option Octets × Word)) : Expanding Unit := do
  let isTable := match ((← get).kept? name).bind Variable.value with
    | some (.table _) => true
    | _ => false
  let elements ← elementsOf substitute isTable list
  let s ← get
  let v := (s.kept? name).getD {}
  let one := piece substitute 1000
  if v.fixed then failFixed (s.resolve name)
  else
    match v.value with
    | some (.table entries) =>
      let found ← entriesOf one elements
      let kept := if appends then entries else []
      modify fun s => s.setValue name
        (.table (found.foldl (fun entries e => Environment.set entries e.1 e.2) kept))
    | value =>
      let kept := if appends then (value.map Value.asRow).getD [] else []
      let next : Nat := (kept.getLast?.map (·.1 + 1)).getD 0
      let row ← rowWith one name v elements next kept
      modify fun s => s.setValue name (.row row)

def elementsIn (text : Octets) : Expanding (List (Option Octets × Word)) := do
  let cursor := (Cursor.ofText (← get).dialect (text.drop 1)).withAliases [] false
  match (Reader.elements (text.length + 1)).run cursor with
  | .ok (list, _) => pure list
  | .error e => fail e.problem.longMessage

/-- Makes a setting, and gives it as it is told. -/
def setting (substitute : Substitute) (t : Setting) : Expanding Octets := do
  let key := match t.key with
    | some key => '[' :: key ++ [']']
    | none => []
  let front := t.name ++ key ++ if t.appends then ['+', '='] else ['=']
  match t.value with
  | .word w =>
    let text ← wholeText substitute w true
    let depth := (t.key.getD []).length + text.length + 10
    assign (piece substitute depth) t.name t.key t.appends text
    pure (front ++ if (← get).isLarge && !text.isEmpty then Quoting.sparing text else text)
  | .elements list =>
    assignElements substitute t.name t.appends list
    let shown := list.map fun (key, w) =>
      match key with
      | some key => '[' :: key ++ "]=".toList ++ w.source
      | none => w.source
    pure (front ++ '(' :: Octets.joined [' '] shown ++ [')'])

def settings (substitute : Substitute) : List Setting → Expanding (List Octets)
  | [] => pure []
  | t :: rest => do
    let first ← setting substitute t
    let more ← settings substitute rest
    pure (first :: more)

end Expanding

/-!
## Commands as they are shown

The large shell shows functions with their commands in lines of their own. The words are as
they were written; blanks, newlines and remarks between them are not kept.
-/

def shownWords (words : List Word) : Octets := Octets.joined [' '] (words.map Word.source)

def Setting.shown (t : Setting) : Octets :=
  let key := match t.key with
    | some key => '[' :: key ++ [']']
    | none => []
  let front := t.name ++ key ++ if t.appends then ['+', '='] else ['=']
  match t.value with
  | .word w => front ++ w.source
  | .elements list =>
    let shown := list.map fun (key, w) =>
      match key with
      | some key => '[' :: key ++ "]=".toList ++ w.source
      | none => w.source
    front ++ '(' :: Octets.joined [' '] shown ++ [')']

def Redirection.shown (r : Redirection) : Octets :=
  let number (usual : Nat) : Octets :=
    match r.holder with
    | some name => '\x7b' :: name ++ ['\x7d']
    | none => if r.stream = usual then [] else Octets.ofNat r.stream
  let target := r.target.source
  match r.kind with
  | .reading => number 0 ++ "< ".toList ++ target
  | .updating => number 1000 ++ "<> ".toList ++ target
  | .text => number 0 ++ "<<< ".toList ++ target
  | .sharing =>
    number 1000 ++ (if r.stream = 0 ∨ 2 < r.stream && target != ['-'] then "<&" else ">&").toList ++
      target
  | .writing => (if r.both then "&> ".toList else number 1 ++ "> ".toList) ++ target
  | .overwriting => number 1 ++ ">| ".toList ++ target
  | .appending => (if r.both then "&>> ".toList else number 1 ++ ">> ".toList) ++ target

def shownRedirections (list : List Redirection) : Octets :=
  list.flatMap fun r => ' ' :: r.shown

def Check.shown : Check → Octets
  | filled w => "-n ".toList ++ w.source
  | unary letter w => letter ++ ' ' :: w.source
  | binary operator left right => left.source ++ ' ' :: operator ++ ' ' :: right.source
  | not c => "! ".toList ++ c.shown
  | both a b => a.shown ++ " && ".toList ++ b.shown
  | either a b => a.shown ++ " || ".toList ++ b.shown

namespace Action

def newLine (indent : Nat) : Octets := '\n' :: List.replicate indent ' '

/-- A text with a semicolon behind it, unless it ends with something that separates
commands anyway. -/
def closed (text : Octets) : Octets :=
  match text.getLast? with
  | some '&' | some '\n' | none => text
  | _ => text ++ [';']

/-- A command as it is shown in a line that begins with so many blanks. -/
def shown : Nat → Action → Octets
  | _, nothing => []
  | _, simple _ settings words redirections =>
    let parts := settings.map Setting.shown ++ words.map Word.source
    let all := Octets.joined [' '] parts ++ shownRedirections redirections
    if parts.isEmpty then all.drop 1 else all
  | n, redirected body redirections => shown n body ++ shownRedirections redirections
  | n, subshell body => "( ".toList ++ shown n body ++ " )".toList
  | n, grouped body =>
    "\x7b ".toList ++ newLine (n + 4) ++ shown (n + 4) body ++ newLine n ++ "\x7d".toList
  | n, both (meanwhile first) second =>
    shown n first ++ " & ".toList ++ shown n second
  | n, both first second => closed (shown n first) ++ newLine n ++ shown n second
  | n, meanwhile body => shown n body ++ " &".toList
  | n, ifGood first second => shown n first ++ " && ".toList ++ shown n second
  | n, ifBad first second => shown n first ++ " || ".toList ++ shown n second
  | n, negated body => "! ".toList ++ shown n body
  | n, piped first second => shown n first ++ " | ".toList ++ shown n second
  | n, timed portable body =>
    (if portable then "time -p " else "time ").toList ++ shown n body
  | n, choose condition good bad =>
    let inner (body : Octets) : Octets := newLine (n + 4) ++ closed body
    let otherwise := match bad with
      | nothing => []
      | bad => newLine n ++ "else".toList ++ inner (shown (n + 4) bad)
    "if ".toList ++ closed (shown n condition) ++ " then".toList ++ inner (shown (n + 4) good) ++
      otherwise ++ newLine n ++ "fi".toList
  | n, repeated wanted condition body =>
    (if wanted then "while " else "until ").toList ++ closed (shown n condition) ++
      " do".toList ++ newLine (n + 4) ++ closed (shown (n + 4) body) ++ newLine n ++
      "done".toList
  | n, each _ name words body => loop n "for " name words (shown (n + 4) body)
  | n, selected _ name words body => loop n "select " name words (shown (n + 4) body)
  | n, counted _ start condition step body =>
    "for ((".toList ++ start ++ "; ".toList ++ condition ++ "; ".toList ++ step ++
      "))".toList ++ newLine n ++ "do".toList ++ newLine (n + 4) ++
      closed (shown (n + 4) body) ++ newLine n ++ "done".toList
  | n, matched _ w arms => "case ".toList ++ w.source ++ " in ".toList ++ shown n arms ++
      newLine n ++ "esac".toList
  | n, arm patterns body ending rest =>
    let sign := match ending with
      | .leaves => ";;"
      | .fallsThrough => ";&"
      | .looksOn => ";;&"
    let inner := match body with
      | nothing => ['\n']
      | body => newLine (n + 8) ++ shown (n + 8) body
    newLine (n + 4) ++ Octets.joined " | ".toList (patterns.map Word.source) ++ [')'] ++ inner ++
      newLine (n + 4) ++ sign.toList ++ shown n rest
  | n, define name (grouped body) => "function ".toList ++ called n name (shown (n + 4) body) []
  | n, define name (redirected (grouped body) list) =>
    "function ".toList ++ called n name (shown (n + 4) body) (shownRedirections list)
  | n, define name body => "function ".toList ++ called n name (shown (n + 4) body) []
  | _, check _ condition => "[[ ".toList ++ condition.shown ++ " ]]".toList
  | _, sum _ text => "((".toList ++ text ++ "))".toList
  | n, together name body => "coproc ".toList ++ name ++ ' ' :: shown n body
where
  loop (n : Nat) (kind : String) (name : Octets) (words : Option (List Word))
      (body : Octets) : Octets :=
    let list := match words with
      | some words => shownWords words
      | none => "\"$@\"".toList
    kind.toList ++ name ++ " in ".toList ++ list ++ [';'] ++ newLine n ++ "do".toList ++
      newLine (n + 4) ++ closed body ++ newLine n ++ "done".toList
  /-- A function with a name, the text between its braces and what is behind them. -/
  called (n : Nat) (name text behind : Octets) : Octets :=
    name ++ " () ".toList ++ newLine n ++ "\x7b ".toList ++ newLine (n + 4) ++ text ++ newLine n ++
      '\x7d' :: behind

def shownFunction (name : Octets) (body : Action) : Octets :=
  (shown 0 (.define name body)).drop "function ".length ++ ['\n']

end Action

/-!
## Commands about variables

The commands of the shell that mark variables, list them, forget them, and let them belong
to a function.
-/

namespace Builtin

/-! ## Belonging to a function -/

/-- Keeps what a variable is outside of the function that is run, unless that is kept
already. -/
def keepOutside (name : Octets) (v : Option Variable) : List Frame → List Frame
  | [] => []
  | f :: rest =>
    if f.isFile then f :: keepOutside name v rest
    else if f.outside.any fun entry => entry.1 == name then f :: rest
    else { f with outside := f.outside ++ [(name, v)] } :: rest

/-- Whether a variable belongs to the function that is run. -/
def isLocal (s : State) (name : Octets) : Bool :=
  match s.frames.find? fun f => !f.isFile with
  | some f => f.outside.any fun entry => entry.1 == name
  | none => false

/-- Lets a variable belong to the function that is run. -/
def localize (name : Octets) (s : State) : State :=
  { s with frames := keepOutside name (s.bindings.lookup name) s.frames }

/-- A shell where a variable has become another one, whatever it stands for. -/
def withVariable (name : Octets) (v : Variable) (s : State) : State :=
  { s with bindings := s.bindings.alter name fun _ => some v }

/-! ## The small shell -/

/-- Complains in the small shell about a word that is no name. -/
def badName (name : Octets) (s : State) : State :=
  smallMistake (name ++ ": bad variable name".toList) s

/-- The variables that are marked in some way, each in a line with a command in front. -/
def markedSmall (command : String) (isMarked : Variable → Bool) (s : State) : Octets :=
  (s.bindings.inOrder.filter fun entry => isMarked entry.2).flatMap fun (name, v) =>
    let value := match v.value.bind Value.whole? with
      | some text => '=' :: Quoting.small text
      | none => []
    command.toList ++ ' ' :: name ++ value ++ ['\n']

/-- Marks variables and sets them, or lists those that are marked. -/
def markSmall (command : String) (isMarked : Variable → Bool) (change : Variable → Variable) :
    Builtin := fun _ =>
  withOptions "p" "" fun found s =>
    if hasOption 'p' found || found.2.isEmpty then prints (markedSmall command isMarked s) s
    else
      found.2.foldl (fun s word =>
        let name := word.takeWhile (· != '=')
        if !s.goes then s
        else if !isName name then badName name s
        else if name.length < word.length then
          if s.isFixed name then failsFixed name s
          else (s.set name (word.drop (name.length + 1))).alterVariable name change
        else s.alterVariable name change) (s.withStatus 0)

def localSmall : Builtin := fun _ arguments s =>
  if !s.inFunction then smallMistake "not in a function".toList s
  else
    arguments.foldl (fun s word =>
      let name := word.takeWhile (· != '=')
      if !s.goes || word == ['-'] then s
      else if !isName name then badName name s
      else
        let s := localize name s
        if name.length < word.length then
          if s.isFixed name then failsFixed name s else s.set name (word.drop (name.length + 1))
        else s) (s.withStatus 0)

def unsetSmall : Builtin := fun _ =>
  withOptions "vf" "" fun found s =>
    let functions := (found.1.getLast?.map (·.1)) == some 'f'
    found.2.foldl (fun s name =>
      if !s.goes then s
      else if functions then
        { s with functions := s.functions.filter fun entry => entry.1 != name }
      else if !isName name then badName name s
      else if s.isFixed name then failsFixed name s
      else
        let s := s.unset name
        if name = "OPTIND".toList then { s with optionPlace := 1, optionOffset := 0 } else s)
      (s.withStatus 0)

/-! ## Marks of the large shell -/

structure Declaration where
  exported : Option Bool := none
  fixed : Bool := false
  numeric : Option Bool := none
  letterCase : Option (Option Bool) := none
  refers : Option Bool := none
  row : Bool := false
  table : Bool := false
  isLocal : Bool := false

namespace Declaration

def ofLetters (on : Bool) (letters : Octets) (d : Declaration) : Declaration :=
  letters.foldl (fun d letter =>
    match letter with
    | 'x' => { d with exported := some on }
    | 'r' => { d with fixed := on || d.fixed }
    | 'i' => { d with numeric := some on }
    | 'l' => { d with letterCase := some (if on then some false else none) }
    | 'u' => { d with letterCase := some (if on then some true else none) }
    | 'n' => { d with refers := some on }
    | 'a' => { d with row := on }
    | 'A' => { d with table := on }
    | _ => d) d

/-- A variable with the marks that matter for its values. -/
def mark (d : Declaration) (v : Variable) : Variable :=
  let value : Option Value :=
    match v.value with
    | some (.text text) =>
      if d.row then some (.row [(0, text)])
      else if d.table then some (.table [(['0'], text)])
      else some (.text text)
    | none => if d.table then some (.table []) else if d.row then some (.row []) else none
    | value => value
  { v with
    value, numeric := d.numeric.getD v.numeric, letterCase := d.letterCase.getD v.letterCase
    exported := d.exported.getD v.exported }

end Declaration

def isRowText (text : Octets) : Bool := text.head? == some '(' && text.getLast? == some ')'

/-- Declares a variable by a word, which may set it. -/
def declare (c : Context) (d : Declaration) (word : Octets) (s : State) : State :=
  let (name, key, appends, value) : Octets × Option Octets × Bool × Option Octets :=
    match Reader.settingFront? .large word with
    | some (name, key, appends, rest) => (name, key, appends, some rest)
    | none =>
      match Reference.plain? .large word with
      | some r => if r.change.isEmpty then (r.name, r.key, false, none) else (word, none, false, none)
      | none => (word, none, false, none)
  if !isName name then badIdentifier word s
  else
    let alreadyLocal := isLocal s name
    let fixed := (s.bindings.lookup name).any Variable.fixed
    if fixed && (value.isSome || (d.isLocal && !alreadyLocal)) then
      s.commandFailing (name ++ ": readonly variable".toList) 1
    else
      let s : State :=
        if d.isLocal && !alreadyLocal then
          let old := s.bindings.lookup name
          withVariable name { exported := old.any Variable.exported } (localize name s)
        else s
      let own := d.refers.isSome
      let bare := (s.bindings.lookup name).getD {}
      let s : State :=
        if own then withVariable name { bare with refers := d.refers.getD false } s
        else s.alterVariable name (Declaration.mark { d with row := d.row || key.isSome })
      let work : Expanding Unit := match value with
        | none => pure ()
        | some text =>
          if own then do
            let held : Variable :=
              { bare with refers := d.refers.getD false, value := some (.text text) }
            modify (withVariable name held)
          else if isRowText text && key.isNone then do
            let list ← Expanding.elementsIn text
            Expanding.assignElements c.substitute name appends list
          else Expanding.assign (Expanding.piece c.substitute (word.length + 10)) name key appends text
      match work.run s with
      | (.error e, s) => { s.commandFailing e.message 1 with flow := e.flow }
      | (.ok (), s) => if d.fixed then s.alterVariable name fun v => { v with fixed := true } else s

def declared (name : Octets) (v : Variable) : Octets :=
  let marks := Expanding.marksOf v
  let shown := match v.value with
    | some value => '=' :: Expanding.declaredElements value
    | none => []
  "declare -".toList ++ (if marks.isEmpty then ['-'] else marks) ++ ' ' :: name ++ shown ++ ['\n']

/-- The variables that are marked in some way, as they are declared. -/
def declaredAll (isWanted : Variable → Bool) (s : State) : Octets :=
  (s.bindings.inOrder.filter fun entry => isWanted entry.2).flatMap fun (name, v) =>
    declared name v

/-- Declares variables by words, one after the other, and perhaps tells about those that
are set. The worst status stays. -/
def declareEach (c : Context) (d : Declaration) (tells : Bool) (words : List Octets)
    (s : State) : State :=
  let shown (word : Octets) : Octets :=
    let (name, value) := Environment.setting word
    name ++ '=' :: if value.isEmpty then [] else Quoting.sparing value
  let work (found : State × Nat) (word : Octets) : State × Nat :=
    if !found.1.goes then found
    else
      let s := found.1.withStatus 0
      let s := if tells && word.contains '=' then s.told c.substitute (shown word) else s
      let s := declare c d word s
      (s, max found.2 s.status)
  let (s, status) := words.foldl work (s.withStatus 0, 0)
  if s.goes then s.withStatus status else s

/-- The variable of a name, or one for what the shell knows by the name. -/
def shownOr? (s : State) (name : Octets) : Option Variable :=
  match s.bindings.lookup name with
  | some v => some v
  | none => (s.knownOr? name).map fun value => { value := some value }

/-! ## The large shell -/

def shownFunctions (s : State) : Octets :=
  (s.functions.mergeSort fun a b => Octets.atMost a.1 b.1).flatMap fun (name, body) =>
    Action.shownFunction name body

/-- Marks variables and sets them, or lists those that are marked. -/
def markLarge (isMarked : Variable → Bool) (on off : Declaration) : Builtin := fun c =>
  withOptions "pfnaA" "" fun found s =>
    if hasOption 'f' found then
      found.2.foldl (fun s name =>
        if (s.functions.lookup name).isSome then s
        else s.commandFailing (name ++ ": not a function".toList) 1) (s.withStatus 0)
    else if hasOption 'p' found || found.2.isEmpty then prints (declaredAll isMarked s) s
    else
      let d := if hasOption 'n' found then off else on
      let d := Declaration.ofLetters true (found.1.map (·.1) |>.filter fun l => l != 'n') d
      declareEach c d true found.2 s

def export_ : Builtin :=
  byDialect (markSmall "export" Variable.exported fun v => { v with exported := true })
    (markLarge Variable.exported { exported := some true } { exported := some false })

def readonly : Builtin :=
  byDialect (markSmall "readonly" Variable.fixed fun v => { v with fixed := true })
    (markLarge Variable.fixed { fixed := true } {})

/-- Options with a sign in front, as letters that are set and letters that are taken back,
and the other arguments. -/
def signedOptions (known : String) : List Octets → Except Octets (Octets × Octets × List Octets)
  | [] => .ok ([], [], [])
  | ['-', '-'] :: rest => .ok ([], [], rest)
  | (sign :: c :: letters) :: rest =>
    let letters := c :: letters
    if sign = '-' ∨ sign = '+' then
      match letters.find? fun c => !known.contains c with
      | some c => .error [sign, c]
      | none =>
        (signedOptions known rest).map fun (on, off, words) =>
          if sign = '-' then (letters ++ on, off, words) else (on, letters ++ off, words)
    else .ok ([], [], (sign :: letters) :: rest)
  | words => .ok ([], [], words)

def showFunctions (namesOnly : Bool) (words : List Octets) (s : State) : State :=
  if words.isEmpty then
    let names := (s.functions.map (·.1)).mergeSort Octets.atMost
    prints (if namesOnly then names.flatMap fun n => "declare -f ".toList ++ n ++ ['\n']
      else shownFunctions s) s
  else
    words.foldl (fun s name =>
      match s.functions.lookup name with
      | some body =>
        s.say 1 (if namesOnly then name ++ ['\n'] else Action.shownFunction name body)
      | none => s.withStatus 1) (s.withStatus 0)

def showVariables (words : List Octets) (s : State) : State :=
  words.foldl (fun s name =>
    match shownOr? s name with
    | some v => s.say 1 (declared name v)
    | none => s.commandFailing (name ++ ": not found".toList) 1) (s.withStatus 0)

def hasMarks (letters : Octets) (v : Variable) : Bool :=
  letters.all (Expanding.marksOf v).contains

def declareLarge (always : Bool) : Builtin := fun c arguments s =>
  match signedOptions "aAfFgiIlnrtuxp" arguments with
  | .error option => refuses (s.commandFailing (option ++ ": invalid option".toList) 2)
  | .ok (on, off, words) =>
    let marks := on.filter fun l => l != 'p' && l != 'g' && l != 'I'
    if always && !s.inFunction then
      s.commandFailing "can only be used in a function".toList 1
    else if on.contains 'f' || on.contains 'F' then showFunctions (on.contains 'F') words s
    else if words.isEmpty then
      if on.contains 'p' || !marks.isEmpty then prints (declaredAll (hasMarks marks) s) s
      else if always then s.withStatus 0
      else prints (listedVariables s ++ shownFunctions s) s
    else if on.contains 'p' then showVariables words s
    else
      let fixedOff := off.contains 'r'
      let d := Declaration.ofLetters true marks (Declaration.ofLetters false off {})
      let d := { d with isLocal := always || (s.inFunction && !on.contains 'g') }
      if fixedOff && words.any s.isFixed then
        words.foldl (fun s name =>
          if s.isFixed name then s.commandFailing (name ++ ": readonly variable".toList) 1 else s) s
      else declareEach c d false words s

def local_ : Builtin := byDialect localSmall (declareLarge true)

/-- Forgets one variable, an element of one, or a function. -/
def unsetOneLarge (c : Context) (found : Options) (s : State) (word : Octets) : State :=
  let forget (name : Octets) (s : State) : State :=
    { s with functions := s.functions.filter fun entry => entry.1 != name }
  if hasOption 'f' found then forget word s
  else if hasOption 'n' found then
    { s with bindings := s.bindings.alter word fun _ => none }
  else
    match Reference.plain? .large word with
    | none => badIdentifier word s
    | some r =>
      if !isName r.name || !r.change.isEmpty then
        if hasOption 'v' found then badIdentifier word s
        else if (s.functions.lookup word).isSome then forget word s
        else badIdentifier word s
      else if s.isFixed r.name then
        s.commandFailing (r.name ++ ": cannot unset: readonly variable".toList) 1
      else
        match r.key, s.value? r.name with
        | none, _ =>
          if (s.kept? r.name).isSome || hasOption 'v' found then
            let s := s.unset r.name
            if r.name = "OPTIND".toList then { s with optionPlace := 1, optionOffset := 0 } else s
          else forget word s
        | some key, some (.table entries) =>
          if key = ['@'] || key = ['*'] then s.unset r.name
          else s.setValue r.name (.table (Environment.erase entries key))
        | some key, some value =>
          if key = ['@'] || key = ['*'] then s.unset r.name
          else
            let one := Expanding.piece c.substitute (word.length + 10)
            match (Expanding.placeOf one r.name key value.asRow).run s with
            | (.ok place, s) =>
              s.setValue r.name (.row (value.asRow.filter fun e => e.1 != place))
            | (.error e, s) => s.commandFailing e.message 1
        | some _, none => s

def unsetLarge : Builtin := fun c =>
  withOptions "fvn" "" fun found s =>
    if hasOption 'f' found && hasOption 'v' found then
      s.commandFailing "cannot simultaneously unset a function and a variable".toList 1
    else found.2.foldl (unsetOneLarge c found) (s.withStatus 0)

def unset : Builtin := byDialect unsetSmall unsetLarge

end Builtin

end CommandChains.Machine.Shell
