import CommandChains.Machine.Records.State
import CommandChains.Machine.Records.Value
import CommandChains.Machine.Records.Token

/-!
# How programs about records are read

The tokens of a program become rules and functions. After a token that should not be where it
is, reading goes on behind the statement, so that more mistakes can be told at once.
-/

namespace CommandChains.Machine.Records

inductive Failure where
  | mistake
  | abort
  deriving DecidableEq

inductive Scope where
  | opening
  | rule
  | function
  deriving DecidableEq

structure Progress where
  rest : List Lexeme
  messages : List Octets := []
  kinds : List (String × Bool) := []
  parameters : List String := []
  scope : Scope := .rule
  loops : Nat := 0
  /-- Whether a greater sign stands for a file to be printed to. -/
  printing : Bool := false
  forgiven : Nat := 0
  functions : List (String × Function) := []
  called : List String := []

abbrev Reader := ExceptT Failure (StateM Progress)

namespace Reader

def front : Reader Lexeme := do
  match (← get).rest with
  | lexeme :: _ => pure lexeme
  | [] => pure { token := .ending, line := 1 }

def peek : Reader Token := do pure (← front).token

def peekSecond : Reader Token := do
  match (← get).rest with
  | _ :: lexeme :: _ => pure lexeme.token
  | _ => pure .ending

def advance : Reader Unit :=
  modify fun p =>
    match p.rest with
    | _ :: (next :: rest) =>
      { p with rest := next :: rest, messages := p.messages ++ next.complaints }
    | _ => p

def complainAt (line : Nat) (message : Octets) : Reader Unit :=
  modify fun p =>
    { p with messages := p.messages ++
        ["line ".toList ++ Octets.ofNat line ++ ": ".toList ++ message] }

def complain (message : Octets) : Reader Unit := do complainAt (← front).line message

def fail {α : Type} : Reader α := do
  let l ← front
  let p ← get
  let near := l.token.shown
  match l.token with
  | .broken message =>
    set { p with messages := p.messages ++ [message] }
    throw .abort
  | .unexpected c =>
    set { p with messages := p.messages ++
      [Octets.ofNat l.line ++ ": unexpected character '".toList ++ [c, '\x27']] }
    throw .mistake
  | token =>
    let open_ := decide (p.forgiven < l.parentheses) &&
      (match token with
        | .ending | .newline | .semicolon | .implied => true
        | token => token.isSign "\x7d")
    let unclosed := 0 < l.braces &&
      (match token with
        | .ending => true
        | token => token.isWord "BEGIN" || token.isWord "END")
    if open_ then
      set { p with forgiven := l.parentheses }
      complainAt l.line ("missing ) near ".toList ++ near)
    else if unclosed then complainAt l.line ("missing \x7d near ".toList ++ near)
    else complainAt l.line ("syntax error at or near ".toList ++ near)
    throw .mistake

def sign (text : String) : Reader Unit := do
  if (← peek).isSign text then advance else fail

def sign? (text : String) : Reader Bool := do
  if (← peek).isSign text then
    advance
    pure true
  else pure false

def name : Reader String := do
  match ← peek with
  | .name n =>
    advance
    pure n
  | _ => fail

def newlines : Nat → Reader Unit
  | 0 => pure ()
  | rounds + 1 => do
    match ← peek with
    | .newline =>
      advance
      newlines rounds
    | _ => pure ()

def separator : Reader Unit := do
  if (← peek).endsStatement then advance else fail

/-- Notes that a name is that of an array or of a single value. -/
def note (n : String) (isArray : Bool) : Reader Unit := do
  let p ← get
  if p.parameters.contains n then pure ()
  else
    match p.kinds.lookup n with
    | some kind =>
      if kind = isArray then pure ()
      else
        let what := if kind then "illegal reference to array " else "illegal reference to variable "
        complain (what.toList ++ n.toList)
    | none => set { p with kinds := (n, isArray) :: p.kinds }

def within {α : Type} (change : Progress → Progress) (restore : Progress → Progress → Progress)
    (work : Reader α) : Reader α := do
  let before ← get
  modify change
  let done ← tryCatch work fun e => do
    modify (restore before)
    throw e
  modify (restore before)
  pure done

/-- Reads something between signs, where a greater sign compares. -/
def enclosed {α : Type} (work : Reader α) : Reader α :=
  within (fun p => { p with printing := false })
    (fun before p => { p with printing := before.printing }) work

/-- Several operands with signs between them, of which the left ones come first. -/
def chain (operand : Reader Expr) (op? : Token → Option (Expr → Expr → Expr)) :
    Nat → Expr → Reader Expr
  | 0, e => pure e
  | rounds + 1, e => do
    match op? (← peek) with
    | some op =>
      advance
      let other ← operand
      chain operand op? rounds (op e other)
    | none => pure e

def assignment? : Token → Option (Option Operation)
  | .sign "=" => some none
  | .sign "+=" => some (some .add)
  | .sign "-=" => some (some .subtract)
  | .sign "*=" => some (some .multiply)
  | .sign "/=" => some (some .divide)
  | .sign "%=" => some (some .modulo)
  | .sign "\x5e=" => some (some .power)
  | _ => none

def isTarget : Expr → Bool
  | .variable _ | .element _ _ | .field _ => true
  | .group (.field _) => true
  | _ => false

def bare : Expr → Expr
  | .group e => e
  | e => e

/-- How many arguments a function takes, at least and at most. -/
def argumentCounts (n : String) : Nat × Nat :=
  match n with
  | "index" | "atan2" => (2, 2)
  | "substr" => (2, 3)
  | "sprintf" => (1, 255)
  | "rand" | "systime" => (0, 0)
  | "srand" | "fflush" => (0, 1)
  | "strftime" => (0, 3)
  | _ => (1, 1)

/-- Whether a value can begin with a token where one stands before it. -/
def beginsValue : Token → Bool
  | .number _ _ | .text _ | .regex _ | .name _ | .function _ | .builtin _ => true
  | .sign s => ["(", "!", "$", "++", "--", "-", "+"].contains s
  | .word s => ["getline", "length", "split", "match", "sub", "gsub"].contains s
  | _ => false

/-- Something that is to be matched. A text that is known has to be an expression. -/
def checked (e : Expr) : Reader Expr := do
  match e with
  | .text source =>
    match Regex.ofText source with
    | .ok _ => pure e
    | .error m =>
      complain (Regex.complaint source m)
      throw .abort
  | e => pure e

def comparison? (printing : Bool) : Token → Option Comparison
  | .sign "<" => some .less
  | .sign "<=" => some .lessEqual
  | .sign "==" => some .equal
  | .sign "!=" => some .notEqual
  | .sign ">" => if printing then none else some .greater
  | .sign ">=" => some .greaterEqual
  | _ => none

def named (list : Reader (List Expr)) (n : String) : Reader Expr := do
  if ← sign? "[" then
    note n true
    let subscripts ← enclosed list
    sign "]"
    pure (.element n subscripts)
  else
    note n false
    pure (.variable n)

def target? (list : Reader (List Expr)) (place : Reader Expr) : Reader (Option Expr) := do
  match ← peek with
  | .name n =>
    advance
    pure (some (← named list n))
  | .sign "$" =>
    advance
    pure (some (.field (← place)))
  | _ => pure none

mutual

def expr : Nat → Reader Expr
  | 0 => fail
  | f + 1 => do
    let condition ← logical f
    if ← sign? "?" then
      let yes ← expr f
      sign ":"
      let no ← expr f
      pure (.choice condition yes no)
    else pure condition

def logical : Nat → Reader Expr
  | 0 => fail
  | f + 1 => do
    let both : Reader Expr := do
      chain (membership f) (fun t => if t.isSign "&&" then some .and else none) f (← membership f)
    chain both (fun t => if t.isSign "||" then some .or else none) f (← both)

/-- Something that may be looked for in an array, or for an expression. -/
def membership : Nat → Reader Expr
  | 0 => fail
  | f + 1 => do
    let matched : Reader Expr := do
      chain (do checked (← compared f)) (fun t =>
        if t.isSign "~" then some (.matching false)
        else if t.isSign "!~" then some (.matching true)
        else none) f (← compared f)
    arrays f (← matched)

def arrays : Nat → Expr → Reader Expr
  | 0, e => pure e
  | f + 1, e => do
    if (← peek).isWord "in" then
      advance
      let n ← name
      note n true
      arrays f (.contains n (match e with
        | .several list => list
        | e => [e]))
    else pure e

def compared : Nat → Reader Expr
  | 0 => fail
  | f + 1 => do
    let first ← joined f
    let printing := (← get).printing
    chain (joined f) (fun t => (comparison? printing t).map Expr.compare) f first

/-- Values one behind the other, or something that is assigned. -/
def joined : Nat → Reader Expr
  | 0 => fail
  | f + 1 => do
    let first ← sum f
    match isTarget first, assignment? (← peek) with
    | true, some op =>
      advance
      pure (.assign op (bare first) (← expr f))
    | _, _ => more f first

def more : Nat → Expr → Reader Expr
  | 0, e => pure e
  | f + 1, e => do
    if beginsValue (← peek) then more f (.join e (← sum f)) else pure e

def sum : Nat → Reader Expr
  | 0 => fail
  | f + 1 => do
    let product : Reader Expr := do
      chain (signed f) (fun t =>
        if t.isSign "*" then some (.compute .multiply)
        else if t.isSign "/" then some (.compute .divide)
        else if t.isSign "%" then some (.compute .modulo)
        else none) f (← signed f)
    chain product (fun t =>
      if t.isSign "+" then some (.compute .add)
      else if t.isSign "-" then some (.compute .subtract)
      else none) f (← product)

def signed : Nat → Reader Expr
  | 0 => fail
  | f + 1 => do
    if ← sign? "!" then pure (.not (← signed f))
    else if ← sign? "-" then pure (.negative (← signed f))
    else if ← sign? "+" then pure (.positive (← signed f))
    else piped f (← power f)

/-- A value that may be a command from which a line is read. -/
def piped : Nat → Expr → Reader Expr
  | 0, e => pure e
  | f + 1, e => do
    let ahead := (← peekSecond).isWord "getline"
    if (← peek).isSign "|" && ahead then
      advance
      advance
      let target ← target? (list f) (place f)
      piped f (.getline .command e target)
    else pure e

def power : Nat → Reader Expr
  | 0 => fail
  | f + 1 => do
    let base ← stepped f
    if ← sign? "\x5e" then pure (.compute .power base (← signed f)) else pure base

def stepped : Nat → Reader Expr
  | 0 => fail
  | f + 1 => do
    let e ← primary f
    if isTarget e then
      if ← sign? "++" then pure (.step true false (bare e))
      else if ← sign? "--" then pure (.step false false (bare e))
      else pure e
    else pure e

def place : Nat → Reader Expr
  | 0 => fail
  | f + 1 => do
    match ← peek with
    | .sign "-" | .sign "+" | .sign "!" => signed f
    | _ => primary f

def list : Nat → Reader (List Expr)
  | 0 => fail
  | f + 1 => do
    let first ← expr f
    if ← sign? "," then pure (first :: (← list f)) else pure [first]

/-- The arguments of a function, through the parenthesis. A name alone may be an array. -/
def arguments : Nat → Reader (List Expr)
  | 0 => fail
  | f + 1 => do
    let one : Reader Expr := do
      match ← peek, ← peekSecond with
      | .name n, .sign s =>
        if s == "," || s == ")" then
          advance
          pure (.variable n)
        else expr f
      | _, _ => expr f
    let first ← one
    if ← sign? "," then pure (first :: (← arguments f))
    else
      sign ")"
      pure [first]

def primary : Nat → Reader Expr
  | 0 => fail
  | f + 1 => do
    match ← peek with
    | .number x _ =>
      advance
      pure (.number x)
    | .text s =>
      advance
      pure (.text s)
    | .regex source =>
      match Regex.ofText source with
      | .ok _ =>
        advance
        pure (.regex source)
      | .error m =>
        complain (Regex.complaint source m)
        throw .abort
    | .name n =>
      advance
      named (list f) n
    | .function n =>
      advance
      sign "("
      let given ← enclosed (if ← sign? ")" then pure [] else arguments f)
      match (← get).functions.lookup n with
      | some g =>
        if g.parameters.length < given.length then
          complain ("too many arguments in call to ".toList ++ n.toList)
      | none => pure ()
      modify fun p => { p with called := p.called ++ [n] }
      pure (.call n given)
    | .builtin n =>
      advance
      sign "("
      let given ← enclosed (if ← sign? ")" then pure [] else arguments f)
      let (least, most) := argumentCounts n
      if given.length < least || most < given.length then
        complain ("wrong number of arguments in call to ".toList ++ n.toList)
      pure (.builtin n given)
    | .word "length" =>
      advance
      if (← peek).isSign "(" then
        advance
        enclosed do
          if ← sign? ")" then pure (.builtin "length" [])
          else
            match ← peek, ← peekSecond with
            | .name n, .sign ")" =>
              advance
              advance
              pure (.builtin "length" [.variable n])
            | _, _ =>
              let e ← expr f
              sign ")"
              pure (.builtin "length" [e])
      else pure (.builtin "length" [])
    | .word "split" =>
      advance
      sign "("
      enclosed do
        let text ← expr f
        sign ","
        let n ← name
        note n true
        if ← sign? ")" then pure (.builtin "split" [text, .variable n])
        else
          sign ","
          let by_ ← match ← expr f with
            | .text [c] => pure (.text [c])
            | e => checked e
          sign ")"
          pure (.builtin "split" [text, .variable n, by_])
    | .word "match" =>
      advance
      sign "("
      enclosed do
        let text ← expr f
        sign ","
        let pattern ← checked (← expr f)
        sign ")"
        pure (.builtin "match" [text, pattern])
    | .word "sub" => substitution f "sub"
    | .word "gsub" => substitution f "gsub"
    | .word "getline" =>
      advance
      let target ← target? (list f) (place f)
      if ← sign? "<" then pure (.getline .file (← power f) target)
      else pure (.getline .input (.text []) target)
    | .sign "(" =>
      advance
      let inner ← enclosed (list f)
      sign ")"
      match inner with
      | [e] => pure (.group e)
      | several =>
        let next ← peek
        let printing := (← get).printing
        if next.isWord "in" then pure (.several several)
        else if printing && (next.endsStatement || next.isSign ">" || next.isSign ">>" ||
            next.isSign "|") then pure (.several several)
        else fail
    | .sign "$" =>
      advance
      pure (.field (← place f))
    | .sign "++" =>
      advance
      pure (.step true true (← stepTarget f))
    | .sign "--" =>
      advance
      pure (.step false true (← stepTarget f))
    | .sign "-" | .sign "+" | .sign "!" => signed f
    | _ => fail

/-- What becomes one more or less before it is used. -/
def stepTarget : Nat → Reader Expr
  | 0 => fail
  | f + 1 => do
    let e ← primary f
    if isTarget e then pure (bare e) else fail

def substitution : Nat → String → Reader Expr
  | 0, _ => fail
  | f + 1, n => do
    advance
    sign "("
    enclosed do
      let pattern ← checked (← expr f)
      sign ","
      let new ← expr f
      if ← sign? ")" then pure (.builtin n [pattern, new, .field (.number 0)])
      else
        sign ","
        let e ← primary f
        if !isTarget e then fail
        sign ")"
        pure (.builtin n [pattern, new, bare e])

end

/-! ## Statements -/

/-- Skips what is left of a statement with a mistake. -/
def recover : Nat → Reader Unit
  | 0 => throw .abort
  | rounds + 1 => do
    match ← peek with
    | .ending => throw .abort
    | .broken _ => fail
    | t =>
      advance
      if t.endsStatement then pure () else recover rounds

def looped {α : Type} (work : Reader α) : Reader α :=
  within (fun p => { p with loops := p.loops + 1 })
    (fun before p => { p with loops := before.loops }) work

mutual

def stmt : Nat → Reader Stmt
  | 0 => fail
  | f + 1 =>
    tryCatch (soundStmt f) fun e => do
      if e = .abort then throw e
      modify fun p => { p with printing := false }
      recover (← get).rest.length
      pure .nothing

def soundStmt : Nat → Reader Stmt
  | 0 => fail
  | f + 1 => do
    let rounds := (← get).rest.length
    let fuel := 20 * rounds + 100
    let optional : Reader (Option Expr) := do
      if (← peek).endsStatement then pure none else pure (some (← expr fuel))
    let inLoop (what : String) : Reader Unit := do
      if (← get).loops = 0 then complain (what.toList ++ " statement outside of loop".toList)
    match ← peek with
    | .sign "\x7b" => block f
    | .newline | .semicolon | .implied =>
      advance
      pure .nothing
    | .word "if" =>
      advance
      sign "("
      let condition ← expr fuel
      sign ")"
      newlines rounds
      let yes ← stmt f
      if (← peek).isWord "else" then
        advance
        newlines rounds
        pure (.ifElse condition yes (← stmt f))
      else pure (.ifElse condition yes .nothing)
    | .word "while" =>
      advance
      sign "("
      let condition ← expr fuel
      sign ")"
      newlines rounds
      pure (.whileLoop condition (← looped (stmt f)))
    | .word "do" =>
      advance
      newlines rounds
      let body ← looped (stmt f)
      if (← peek).isWord "while" then advance else fail
      sign "("
      let condition ← expr fuel
      sign ")"
      separator
      pure (.doLoop body condition)
    | .word "for" =>
      advance
      sign "("
      match ((← get).rest.take 4).map Lexeme.token with
      | [.name n, .word "in", .name array, .sign ")"] =>
        advance
        advance
        advance
        advance
        note n false
        note array true
        newlines rounds
        pure (.forEach n array (← looped (stmt f)))
      | _ =>
        let part (ending : Token → Bool) : Reader (Option Expr) := do
          if ending (← peek) then
            advance
            pure none
          else
            let e ← expr fuel
            if ending (← peek) then advance else fail
            pure (some e)
        let isSemicolon (t : Token) : Bool := t matches .semicolon
        let first ← part isSemicolon
        let condition ← part isSemicolon
        let next ← part fun t => t.isSign ")"
        newlines rounds
        pure (.forLoop first condition next (← looped (stmt f)))
    | .word "break" =>
      advance
      inLoop "break"
      separator
      pure .break_
    | .word "continue" =>
      advance
      inLoop "continue"
      separator
      pure .continue_
    | .word "next" =>
      advance
      if (← get).scope ≠ .rule then complain "improper use of next".toList
      separator
      pure .next
    | .word "nextfile" =>
      advance
      if (← get).scope ≠ .rule then complain "improper use of nextfile".toList
      separator
      pure .nextFile
    | .word "exit" =>
      advance
      let status ← optional
      separator
      pure (.exit status)
    | .word "return" =>
      advance
      if (← get).scope ≠ .function then complain "return outside function body".toList
      let value ← optional
      separator
      pure (.return_ value)
    | .word "delete" =>
      advance
      let n ← name
      note n true
      if ← sign? "[" then
        let subscripts ← list fuel
        sign "]"
        separator
        pure (.delete n subscripts)
      else
        separator
        pure (.deleteAll n)
    | .word "print" =>
      advance
      output false fuel
    | .word "printf" =>
      advance
      output true fuel
    | _ =>
      let e ← expr fuel
      separator
      pure (.value e)
where
  output (formatted : Bool) (fuel : Nat) : Reader Stmt := do
    let ends : Reader Bool := do
      let t ← peek
      pure (t.endsStatement || t.isSign ">" || t.isSign ">>" || t.isSign "|")
    let given ← within (fun p => { p with printing := true })
      (fun before p => { p with printing := before.printing })
      (do if ← ends then pure [] else list fuel)
    let given := match given with
      | [.several several] => several
      | given => given
    if formatted && given.isEmpty then complain "no arguments in call to printf".toList
    let t ← peek
    let outlet : Outlet := if t.isSign ">" then .file else if t.isSign ">>" then .addition
      else if t.isSign "|" then .command else .output
    let target ← match outlet with
      | .output => pure (.text [])
      | _ =>
        advance
        expr fuel
    separator
    pure (.print formatted given outlet target)

def block : Nat → Reader Stmt
  | 0 => fail
  | f + 1 => do
    sign "\x7b"
    let list ← statements f
    pure (.block list)

def statements : Nat → Reader (List Stmt)
  | 0 => fail
  | f + 1 => do
    if ← sign? "\x7d" then pure []
    else
      let first ← stmt f
      pure (first :: (← statements f))

end

/-! ## Programs -/

def parameterNames : Nat → List String → Reader (List String)
  | 0, _ => fail
  | rounds + 1, sofar => do
    let n ← name
    if sofar.contains n then
      complain (n.toList ++ " is duplicated in argument list".toList)
    if ← sign? "," then parameterNames rounds (sofar ++ [n])
    else
      sign ")"
      pure (sofar ++ [n])

def item (f : Nat) (p : Program) : Reader Program := do
  let fuel := 20 * (← get).rest.length + 100
  let inScope {α : Type} (scope : Scope) (parameters : List String) (work : Reader α) : Reader α :=
    within (fun p => { p with scope, parameters, loops := 0 })
      (fun before p => { p with
        scope := before.scope, parameters := before.parameters, loops := before.loops }) work
  match ← peek with
  | .sign "\x7b" =>
    let body ← inScope .rule [] (block f)
    pure { p with rules := p.rules ++ [(.always, body)] }
  | .word "BEGIN" =>
    advance
    let body ← inScope .opening [] (block f)
    pure { p with begins := p.begins ++ [body] }
  | .word "END" =>
    advance
    let body ← inScope .opening [] (block f)
    pure { p with ends := p.ends ++ [body] }
  | .word "function" =>
    advance
    let n ← match ← peek with
      | .function n => do
        advance
        pure n
      | _ => fail
    sign "("
    let parameters ← if ← sign? ")" then pure [] else parameterNames fuel []
    if parameters.contains n then complain "function parameter cannot be the function".toList
    newlines fuel
    modify fun p => { p with functions := (n, ⟨parameters, .nothing⟩) :: p.functions }
    let body ← inScope .function parameters (block f)
    pure { p with functions := p.functions ++ [(n, ⟨parameters, body⟩)] }
  | _ =>
    let first ← expr fuel
    let pattern ← if ← sign? "," then do pure (Pattern.between first (← expr fuel))
      else pure (Pattern.when first)
    match ← peek with
    | .sign "\x7b" =>
      let body ← inScope .rule [] (block f)
      pure { p with rules := p.rules ++ [(pattern, body)] }
    | t =>
      if t.endsStatement then
        advance
        pure { p with rules := p.rules ++ [(pattern, .print false [] .output (.text []))] }
      else fail

def recoverOutside : Nat → Reader Unit
  | 0 => throw .abort
  | rounds + 1 => do
    match ← peek with
    | .ending => throw .abort
    | .broken _ => fail
    | t =>
      if t.isSign "\x7b" then pure ()
      else
        advance
        recoverOutside rounds

def items : Nat → Program → Reader Program
  | 0, p => pure p
  | f + 1, p => do
    match ← peek with
    | .ending => pure p
    | _ =>
      let next ← tryCatch (item f p) fun e => do
        if e = .abort then throw e
        recoverOutside (← get).rest.length
        let _ ← block f
        pure p
      items f next

def mistakeLimit : Nat := 5

def program (text : Octets) : Except (List Octets) Program :=
  let lexemes := Lexeme.ofText text
  let fuel := 20 * lexemes.length + 100
  let start : Progress :=
    { rest := lexemes, messages := (lexemes.head?.map Lexeme.complaints).getD [] }
  match ((items fuel {}).run.run start : Except Failure Program × Progress) with
  | (done, p) =>
    let lastLine := (lexemes.getLast?.map Lexeme.line).getD 1
    let undefined := match done with
      | .ok program =>
        (p.called.eraseDups.filter fun n => (program.functions.lookup n).isNone).map fun n =>
          "line ".toList ++ Octets.ofNat lastLine ++ ": function ".toList ++ n.toList ++
            " never defined".toList
      | .error _ => []
    match done, p.messages ++ undefined with
    | .ok program, [] => .ok program
    | _, messages => .error (messages.take mistakeLimit)

end Reader

end CommandChains.Machine.Records
