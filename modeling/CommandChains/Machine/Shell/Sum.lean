import CommandChains.Machine.Shell.State

/-!
# Sums of scripts

Scripts compute with whole numbers of 64 bits. Operators bind as they do in algebra,
comparisons and combinations of truths more loosely, and settings of variables most
loosely of all. What does not matter for the value is read but not worked out.
-/

namespace CommandChains.Machine.Shell

def wrapNumber (n : Int) : Int := Int.bmod n 18446744073709551616

def greatestNumber : Int := 9223372036854775807

inductive SumToken where
  | number (n : Int)
  | named (name : Octets) (key : Option Octets)
  | operator (text : String)
  /-- Something that cannot be read, and what is said about it. -/
  | wrong (message : String)
  deriving DecidableEq

structure SumError where
  message : Octets
  deriving DecidableEq

namespace Sum

def ofBool (b : Bool) : Int := if b then 1 else 0

def bits (n : Int) : Nat := (n % 18446744073709551616).toNat

def ofBits (n : Nat) : Int := wrapNumber n

/-- A number times itself so often, for an exponent of so many bits at most. -/
def power : Nat → Int → Nat → Int
  | 0, _, _ => 1
  | rounds + 1, base, n =>
    if n = 0 then 1
    else
      let half := power rounds (wrapNumber (base * base)) (n / 2)
      if n % 2 = 0 then half else wrapNumber (half * base)

/-- The value of two numbers joined by an operator, unless it has none. -/
def join (operator : String) (a b : Int) : Except String Int :=
  match operator with
  | "|" => .ok (ofBits (Nat.lor (bits a) (bits b)))
  | "^" => .ok (ofBits (Nat.xor (bits a) (bits b)))
  | "&" => .ok (ofBits (Nat.land (bits a) (bits b)))
  | "==" => .ok (ofBool (a == b))
  | "!=" => .ok (ofBool (a != b))
  | "<" => .ok (ofBool (decide (a < b)))
  | "<=" => .ok (ofBool (decide (a ≤ b)))
  | ">" => .ok (ofBool (decide (b < a)))
  | ">=" => .ok (ofBool (decide (b ≤ a)))
  | "<<" => .ok (wrapNumber (a * (Nat.pow 2 (bits b % 64) : Int)))
  | ">>" => .ok (a / (Nat.pow 2 (bits b % 64) : Int))
  | "+" => .ok (wrapNumber (a + b))
  | "-" => .ok (wrapNumber (a - b))
  | "*" => .ok (wrapNumber (a * b))
  | "**" => if b < 0 then .error "exponent less than 0" else .ok (power 64 a b.toNat)
  | "/" => if b = 0 then .error "division by zero" else .ok (wrapNumber (Int.tdiv a b))
  | "%" => if b = 0 then .error "division by zero" else .ok (Int.tmod a b)
  | _ => .ok b

/-- The operators between two values of a level, the loosest first. -/
def operatorsAt : Nat → List String
  | 0 => ["|"]
  | 1 => ["^"]
  | 2 => ["&"]
  | 3 => ["==", "!="]
  | 4 => ["<", "<=", ">", ">="]
  | 5 => ["<<", ">>"]
  | 6 => ["+", "-"]
  | 7 => ["*", "/", "%"]
  | _ => []

/-- The operator that joins a variable with its new value, where there is a setting. -/
def settingOperator? (text : String) : Option String :=
  if ["=", "+=", "-=", "*=", "/=", "%=", "&=", "|=", "^=", "<<=", ">>="].contains text then
    some (String.ofList text.toList.dropLast)
  else none

/-- The operators that only stand between two values or in front of one, the longer ones
first. -/
def operators : List String :=
  ["<<=", ">>=", "&&", "||", "==", "!=", "<=", ">=", "<<", ">>", "+=", "-=", "*=", "/=", "%=", "&=",
    "|=", "^=", "+", "-", "*", "/", "%", "<", ">", "=", "!", "~", "&", "|", "^", "?", ":", "(", ")"]

structure Reading where
  shell : State
  /-- The tokens that are left, each with the text from it on. -/
  tokens : List (SumToken × Octets)
  recent : Octets := []

abbrev Reader (α : Type) := StateT Reading (Except SumError) α

def giveUp {α : Type} (message : Octets) : Reader α := fun _ => .error ⟨message⟩

/-- The token at the present place, if there is one. -/
def next : Reader (Option SumToken) := do pure ((← get).tokens.head?.map (·.1))

def pass : Reader Unit := modify fun r =>
  { r with tokens := r.tokens.tail, recent := (r.tokens.head?.map (·.2)).getD r.recent }

end Sum

/-!
## Sums of the small shell

The small shell knows no sign that changes a variable by one: two plus signs are two plus
signs. A sum that makes no sense ends the script.
-/

namespace Sum.Small

/-- The number at the beginning of a text, and what is behind it. -/
def leadingNumber (text : Octets) : Int × Octets :=
  let read (base : Nat) (digits : Octets) : Int × Octets :=
    let found := Octets.digitsOf base digits.length digits
    (min greatestNumber (Octets.valueOf base found), digits.drop found.length)
  let hexadecimal (x : Char) (digits : Octets) : Int × Octets :=
    if (Octets.digitsOf 16 1 digits).isEmpty then (0, x :: digits) else read 16 digits
  match text with
  | '0' :: 'x' :: digits => hexadecimal 'x' digits
  | '0' :: 'X' :: digits => hexadecimal 'X' digits
  | '0' :: digits => read 8 ('0' :: digits)
  | digits => read 10 digits

/-- Takes a sum apart. Every round takes at least one character, so as many rounds as
there are characters are enough. -/
def tokens : Nat → Octets → List (SumToken × Octets)
  | 0, _ => []
  | _, [] => []
  | rounds + 1, c :: rest =>
    let text := c :: rest
    if c = ' ' ∨ c = '\t' ∨ c = '\n' then tokens rounds rest
    else if c.isDigit then
      let (n, behind) := leadingNumber text
      (.number n, text) :: tokens rounds behind
    else if beginsName c then
      let name := text.takeWhile inName
      (.named name none, text) :: tokens rounds (text.drop name.length)
    else
      match operators.find? fun sign => sign.toList.isPrefixOf text with
      | some sign => (.operator sign, text) :: tokens rounds (text.drop sign.length)
      | none => [(.wrong "", text)]

def numberOf? (text : Octets) : Option Int :=
  let trimmed := text.dropWhile Octets.isSpace
  let (negative, digits) := match trimmed with
    | '-' :: digits => (true, digits)
    | '+' :: digits => (false, digits)
    | digits => (false, digits)
  if trimmed.isEmpty then some 0
  else if !(digits.head?.any Char.isDigit) then none
  else
    let (n, behind) := leadingNumber digits
    if behind.all Octets.isSpace then some (if negative then -n else n) else none

/-- The number that a variable holds. One that is not set counts as nought. -/
def valueOf (name : Octets) : Reader Int := do
  let text := (((← get).shell.value? name).bind Value.whole?).getD []
  match numberOf? text with
  | some n => pure n
  | none => giveUp ("Illegal number: ".toList ++ text)

def setTo (name : Octets) (n : Int) : Reader Unit := do
  let r ← get
  if r.shell.isFixed name then giveUp (name ++ ": is read only".toList)
  else set { r with shell := r.shell.set name (Octets.ofInt n) }

def refuse {α : Type} (text : Octets) (what : String) : Reader α :=
  giveUp (("arithmetic expression: " ++ what ++ ": \"").toList ++ text ++ ['"'])

def joined (text : Octets) (operator : String) (a b : Int) : Reader Int :=
  match join operator a b with
  | .ok n => pure n
  | .error what => refuse text what

/-- Goes on with the operators of a level, where `operand` reads what they join. -/
def more (text : Octets) (idle : Bool) (operand : Reader Int) (level : Nat) :
    Nat → Int → Reader Int
  | 0, a => pure a
  | rounds + 1, a => do
    match ← next with
    | some (.operator sign) =>
      if (operatorsAt level).contains sign then
        pass
        let b ← operand
        let n ← if idle then pure b else joined text sign a b
        more text idle operand level rounds n
      else pure a
    | _ => pure a

inductive Level where
  | whole
  | chosen
  | either
  | both
  | joined (level : Nat)
  | single

/-- Reads a value in at most so many steps. If `idle`, it is not worked out. -/
def read (text : Octets) : Nat → Level → Bool → Reader Int
  | 0, _, _ => refuse text "expecting primary"
  | steps + 1, .whole, idle => do
    match (← get).tokens with
    | (.named name _, _) :: (.operator sign, _) :: _ =>
      match settingOperator? sign with
      | some operator =>
        pass
        pass
        let n ← read text steps .whole idle
        if idle then pure n
        else
          let n ← if operator.isEmpty then pure n
            else joined text operator (← valueOf name) n
          setTo name n
          pure n
      | none => read text steps .chosen idle
    | _ => read text steps .chosen idle
  | steps + 1, .chosen, idle => do
    let a ← read text steps .either idle
    if (← next) = some (.operator "?") then
      pass
      let b ← read text steps .whole (idle || a == 0)
      if (← next) = some (.operator ":") then
        pass
        let c ← read text steps .chosen (idle || a != 0)
        pure (if a != 0 then b else c)
      else refuse text "expecting ':'"
    else pure a
  | steps + 1, .either, idle => do
    let a ← read text steps .both idle
    if (← next) = some (.operator "||") then
      pass
      let b ← read text steps .either (idle || a != 0)
      pure (ofBool (a != 0 || b != 0))
    else pure a
  | steps + 1, .both, idle => do
    let a ← read text steps (.joined 0) idle
    if (← next) = some (.operator "&&") then
      pass
      let b ← read text steps .both (idle || a == 0)
      pure (ofBool (a != 0 && b != 0))
    else pure a
  | steps + 1, .joined level, idle => do
    let operand := if level < 7 then read text steps (.joined (level + 1)) idle
      else read text steps .single idle
    let a ← operand
    more text idle operand level text.length a
  | steps + 1, .single, idle => do
    match ← next with
    | some (.number n) => do
      pass
      pure n
    | some (.named name _) => do
      pass
      if idle then pure 0 else valueOf name
    | some (.operator sign) =>
      let within (change : Int → Int) : Reader Int := do
        pass
        pure (wrapNumber (change (← read text steps .single idle)))
      match sign with
      | "+" => within id
      | "-" => within fun n => -n
      | "!" => within fun n => ofBool (n == 0)
      | "~" => within fun n => -n - 1
      | "(" => do
        pass
        let n ← read text steps .whole idle
        if (← next) = some (.operator ")") then
          pass
          pure n
        else refuse text "expecting ')'"
      | _ => refuse text "expecting primary"
    | _ => refuse text "expecting primary"

/-- The value of a sum, and the shell after it. -/
def evaluate (text : Octets) (s : State) : Except SumError (Int × State) :=
  let found := tokens (text.length + 1) text
  let whole : Reader Int := do
    let n ← read text (16 * found.length + 16) .whole false
    if (← next).isSome then refuse text "expecting EOF" else pure n
  (whole { shell := s, tokens := found }).map fun (n, r) => (n, r.shell)

end Sum.Small

/-!
## Sums of the large shell

The large shell knows elements of rows and tables, numbers of other bases, and signs that
change a variable by one. The value of a variable is a sum itself.
-/

namespace Sum.Large

def digit? (base : Nat) (c : Char) : Option Nat :=
  if c.isDigit then some (c.toNat - '0'.toNat)
  else if decide ('a' ≤ c) && decide (c ≤ 'z') then some (c.toNat - 'a'.toNat + 10)
  else if decide ('A' ≤ c) && decide (c ≤ 'Z') then
    some (c.toNat - 'A'.toNat + if base ≤ 36 then 10 else 36)
  else if c = '@' then some 62
  else if c = '_' then some 63
  else none

def digitsValue (base : Nat) (digits : Octets) : SumToken :=
  let values := digits.map (digit? base)
  if values.all fun d => d.any fun n => decide (n < base) then
    .number (wrapNumber (Octets.valueOf base (values.filterMap id)))
  else .wrong "value too great for base"

def numberOf (text : Octets) : SumToken :=
  match text with
  | '0' :: 'x' :: digits | '0' :: 'X' :: digits => digitsValue 16 digits
  | _ =>
    let front := text.takeWhile (· != '#')
    match text.drop front.length with
    | '#' :: digits =>
      match Octets.decimal? front with
      | some base =>
        if base < 2 ∨ 64 < base then .wrong "invalid arithmetic base"
        else if digits.isEmpty then .wrong "invalid integer constant"
        else digitsValue base digits
      | none => .wrong "invalid number"
    | _ =>
      match text with
      | '0' :: digits => digitsValue 8 digits
      | digits => digitsValue 10 digits

def inNumber (c : Char) : Bool := c.isAlphanum || c == '#' || c == '@' || c == '_'

/-- Takes a sum apart, where `behindName` says whether a variable stands in front. Every
round takes at least one character, so as many rounds as there are characters are
enough. -/
def tokens : Nat → Bool → Octets → List (SumToken × Octets)
  | 0, _, _ => []
  | _, _, [] => []
  | rounds + 1, behindName, c :: rest =>
    let text := c :: rest
    if Octets.isSpace c then tokens rounds behindName rest
    else if c.isDigit then
      let digits := text.takeWhile inNumber
      (numberOf digits, text) :: tokens rounds false (text.drop digits.length)
    else if beginsName c then
      let name := text.takeWhile inName
      let behind := text.drop name.length
      match behind with
      | '[' :: inner =>
        match (inner.takeWhile (· != ']')), inner.dropWhile (· != ']') with
        | _, [] => [(.wrong "bad array subscript", text)]
        | key, _ :: after => (.named name (some key), text) :: tokens rounds true after
      | _ => (.named name none, text) :: tokens rounds true behind
    else
      let step (sign : String) : Option (List (SumToken × Octets)) :=
        if !sign.toList.isPrefixOf text then none
        else
          let after := rest.drop 1
          let named := (after.dropWhile Octets.isSpace).head?.any beginsName
          if behindName || named then
            some ((.operator sign, text) :: tokens rounds behindName after)
          else none
      match (step "++").or (step "--") with
      | some found => found
      | none =>
        match ("**" :: "," :: operators).find? fun sign => sign.toList.isPrefixOf text with
        | some sign =>
          (.operator sign, text) :: tokens rounds (behindName && sign == ")")
            (text.drop sign.length)
        | none => [(.wrong "", text)]

def shown (text : Octets) : Octets := text.dropWhile Octets.isSpace

def refuse {α : Type} (text : Octets) (what : String) : Reader α := do
  let recent := (← get).recent
  giveUp (shown text ++ (": " ++ what ++ " (error token is \"").toList ++ recent ++ "\")".toList)

def refuseHere {α : Type} (text : Octets) (what : String) : Reader α := do
  pass
  refuse text what

def refuseValue {α : Type} (text : Octets) : Reader α := do
  match ← next with
  | some (.wrong message) =>
    refuseHere text (if message.isEmpty then "syntax error: operand expected" else message)
  | _ => refuseHere text "syntax error: operand expected"

/-- The value of two numbers joined by an operator, where a text stands behind it. -/
def joined (text recent : Octets) (operator : String) (a b : Int) : Reader Int :=
  match join operator a b with
  | .ok n => pure n
  | .error what => do
    modify fun r => { r with recent }
    refuse text (if what = "division by zero" then "division by 0" else what)

/-- The value of a text that is a sum by itself, in the shell of another sum. -/
abbrev Nested := Octets → Reader Int

/-- The text that a variable or an element of one holds. -/
def textOf (nested : Nested) (name : Octets) (key : Option Octets) : Reader Octets := do
  let value := (← get).shell.value? name
  match key, value with
  | none, _ => pure ((value.bind Value.whole?).getD [])
  | some key, some (.table entries) => pure ((entries.lookup key).getD [])
  | some key, _ =>
    let n ← nested key
    let elements := (value.map Value.asRow).getD []
    let last := (elements.getLast?.map (·.1)).getD 0
    let place := if n < 0 then n + last + 1 else n
    pure ((elements.lookup place.toNat).getD [])

/-- The number that a variable or an element of one holds. -/
def valueOf (nested : Nested) (name : Octets) (key : Option Octets) : Reader Int := do
  let s := (← get).shell
  let text ← textOf nested name key
  if key.isNone && s.has 'u' && (s.value? name).isNone then
    giveUp (name ++ ": unbound variable".toList)
  else if text.all Octets.isSpace then pure 0
  else nested text

/-- Sets a variable or an element of one to a number. -/
def setTo (nested : Nested) (name : Octets) (key : Option Octets) (n : Int) : Reader Unit := do
  let s := (← get).shell
  let keep (value : Value) : Reader Unit :=
    modify fun r => { r with shell := r.shell.setValue name value }
  if s.isFixed name then giveUp (name ++ ": readonly variable".toList)
  else
    match key, s.value? name with
    | none, _ => modify fun r => { r with shell := r.shell.set name (Octets.ofInt n) }
    | some key, some (.table entries) =>
      keep (.table (Environment.set entries key (Octets.ofInt n)))
    | some key, value => do
      let place ← nested key
      keep (.row (Value.setAt ((value.map Value.asRow).getD []) place.toNat (Octets.ofInt n)))

/-- Goes on with the operators of a level, where `operand` reads what they join. -/
def more (text : Octets) (idle : Bool) (operand : Reader Int) (level : Nat) :
    Nat → Int → Reader Int
  | 0, a => pure a
  | rounds + 1, a => do
    match ← next with
    | some (.operator sign) =>
      if (operatorsAt level).contains sign then
        pass
        let behind := ((← get).tokens.head?.map (·.2)).getD []
        let b ← operand
        let n ← if idle then pure b else joined text behind sign a b
        more text idle operand level rounds n
      else pure a
    | _ => pure a

inductive Level where
  | row
  | whole
  | chosen
  | either
  | both
  | joined (level : Nat)
  | power
  | single

/-- Reads a value in at most so many steps. If `idle`, it is not worked out. -/
def read (nested : Nested) (text : Octets) : Nat → Level → Bool → Reader Int
  | 0, _, _ => refuse text "syntax error: operand expected"
  | steps + 1, .row, idle => do
    let a ← read nested text steps .whole idle
    if (← next) = some (.operator ",") then
      pass
      read nested text steps .row idle
    else pure a
  | steps + 1, .whole, idle => do
    match (← get).tokens with
    | (.named name key, _) :: (.operator sign, _) :: _ =>
      match settingOperator? sign with
      | some operator =>
        pass
        pass
        let behind := ((← get).tokens.head?.map (·.2)).getD []
        let n ← read nested text steps .whole idle
        if idle then pure n
        else
          let n ← if operator.isEmpty then pure n
            else joined text behind operator (← valueOf nested name key) n
          setTo nested name key n
          pure n
      | none => read nested text steps .chosen idle
    | _ =>
      let n ← read nested text steps .chosen idle
      match ← next with
      | some (.operator sign) =>
        if (settingOperator? sign).isSome then
          refuseHere text "attempted assignment to non-variable"
        else pure n
      | _ => pure n
  | steps + 1, .chosen, idle => do
    let a ← read nested text steps .either idle
    if (← next) = some (.operator "?") then
      pass
      if (← next).isNone || (← next) == some (.operator ":") then refuse text "expression expected"
      else
        let b ← read nested text steps .row (idle || a == 0)
        if (← next) = some (.operator ":") then
          pass
          if (← next).isNone then refuse text "expression expected"
          else
            let c ← read nested text steps .chosen (idle || a != 0)
            pure (if a != 0 then b else c)
        else refuse text "\x60:' expected for conditional expression"
    else pure a
  | steps + 1, .either, idle => do
    let a ← read nested text steps .both idle
    if (← next) = some (.operator "||") then
      pass
      let b ← read nested text steps .either (idle || a != 0)
      pure (ofBool (a != 0 || b != 0))
    else pure a
  | steps + 1, .both, idle => do
    let a ← read nested text steps (.joined 0) idle
    if (← next) = some (.operator "&&") then
      pass
      let b ← read nested text steps .both (idle || a == 0)
      pure (ofBool (a != 0 && b != 0))
    else pure a
  | steps + 1, .joined level, idle => do
    let operand := if level < 7 then read nested text steps (.joined (level + 1)) idle
      else read nested text steps .power idle
    let a ← operand
    more text idle operand level text.length a
  | steps + 1, .power, idle => do
    let a ← read nested text steps .single idle
    if (← next) = some (.operator "**") then
      pass
      let b ← read nested text steps .power idle
      let recent := (← get).recent
      if idle then pure b else joined text recent "**" a b
    else pure a
  | steps + 1, .single, idle => do
    let stepped (by_ : Int) : Reader Int := do
      pass
      match ← next with
      | some (.named name key) => do
        pass
        if idle then pure 0
        else
          let n := wrapNumber ((← valueOf nested name key) + by_)
          setTo nested name key n
          pure n
      | _ => refuseValue text
    match ← next with
    | some (.number n) => do
      pass
      pure n
    | some (.named name key) => do
      pass
      let n ← if idle then pure 0 else valueOf nested name key
      let changed (by_ : Int) : Reader Int := do
        pass
        if !idle then setTo nested name key (wrapNumber (n + by_))
        pure n
      match ← next with
      | some (.operator "++") => changed 1
      | some (.operator "--") => changed (-1)
      | _ => pure n
    | some (.operator sign) =>
      let within (change : Int → Int) : Reader Int := do
        pass
        pure (wrapNumber (change (← read nested text steps .single idle)))
      match sign with
      | "+" => within id
      | "-" => within fun n => -n
      | "!" => within fun n => ofBool (n == 0)
      | "~" => within fun n => -n - 1
      | "++" => stepped 1
      | "--" => stepped (-1)
      | "(" => do
        pass
        let n ← read nested text steps .row idle
        if (← next) = some (.operator ")") then
          pass
          pure n
        else refuseHere text "missing \x60)'"
      | _ => refuseValue text
    | _ => refuseValue text

/-- The value of a sum in the shell of another one, where sums are at most so deep in one
another. -/
def nestedWithin : Nat → Nested
  | 0, text => refuse text "expression recursion level exceeded"
  | depth + 1, text => do
    let found := tokens (text.length + 1) false text
    if found.isEmpty then pure 0
    else
      let outer ← get
      set { outer with tokens := found, recent := [] }
      let n ← read (nestedWithin depth) text (16 * found.length + 16) .row false
      match ← next with
      | none => pure ()
      | some (.wrong message) =>
        refuseHere text
          (if message.isEmpty then "syntax error: invalid arithmetic operator" else message)
      | some _ => refuseHere text "syntax error in expression"
      let inner ← get
      set { outer with shell := inner.shell }
      pure n

/-- The value of a sum, and the shell after it. -/
def evaluate (text : Octets) (s : State) : Except SumError (Int × State) :=
  (nestedWithin 30 text { shell := s, tokens := [] }).map fun (n, r) => (n, r.shell)

end Sum.Large

end CommandChains.Machine.Shell
