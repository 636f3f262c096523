import CommandChains.Machine.Scripting.Value

/-!
# What scripts are made of

A script is a row of statements. Names stand for single values, for arrays, for hashes, for code
or for files, as the sign in front of them says; a name is either one's own, known only where it
was declared, or shared with everybody.
-/

namespace CommandChains.Machine.Scripting

inductive Variable where
  /-- Something with a number, known only where it was declared. -/
  | own (number : Nat) (name : String)
  | shared (name : String)
  /-- Something that is found out when it is asked for. -/
  | special (name : String)
  deriving Inhabited, BEq

def Variable.name : Variable → String
  | own _ n | special n => n
  | shared n => if n.startsWith "main::" then String.ofList (n.toList.drop 6) else n

inductive Declarator where
  | own
  | lasting
  | shared
  deriving DecidableEq

inductive Operation where
  | add | sub | mul | div | mod | pow
  | join
  | left | right | bitAnd | bitOr | bitXor
  | less | greater | atMost | atLeast | equal | unequal | order
  | before | after | notAfter | notBefore | same | different | textOrder
  deriving DecidableEq

def Operation.title : Operation → String
  | add => "addition (+)"
  | sub => "subtraction (-)"
  | mul => "multiplication (*)"
  | div => "division (/)"
  | mod => "modulus (%)"
  | pow => "exponentiation (**)"
  | join => "concatenation (.) or string"
  | left => "left bitshift (<<)"
  | right => "right bitshift (>>)"
  | bitAnd => "bitwise and (&)"
  | bitOr => "bitwise or (|)"
  | bitXor => "bitwise xor (\x5e)"
  | less => "numeric lt (<)"
  | greater => "numeric gt (>)"
  | atMost => "numeric le (<=)"
  | atLeast => "numeric ge (>=)"
  | equal => "numeric eq (==)"
  | unequal => "numeric ne (!=)"
  | order => "numeric comparison (<=>)"
  | before => "string lt"
  | after => "string gt"
  | notAfter => "string le"
  | notBefore => "string ge"
  | same => "string eq"
  | different => "string ne"
  | textOrder => "string comparison (cmp)"

/-- What decides whether a second value is looked at. -/
inductive Connective where
  | both
  | either
  | present
  deriving DecidableEq

inductive Leaving where
  | next
  | last
  | again
  deriving DecidableEq

structure Site where
  line : Nat := 0
  file : Octets := []
  package : String := "main"
  warns : Bool := false
  deriving Inhabited

structure Exchange where
  wanted : Octets
  new : Octets
  complement : Bool := false
  deletes : Bool := false
  squeezes : Bool := false
  copies : Bool := false
  deriving Inhabited

/-- What is known where a text is read as a part of a script. -/
structure Scope where
  names : List (String × Variable) := []
  package : String := "main"
  strictNames : Bool := false
  strictLinks : Bool := false
  strictWords : Bool := false
  warns : Bool := false
  modern : Bool := false
  signatures : Bool := false
  /-- Whether texts are written in characters of several bytes. -/
  wide : Bool := false
  wholes : Bool := false
  deriving Inhabited

mutual

inductive Expr where
  | constant (v : Value)
  | joined (parts : List Expr)
  | spaced (e : Expr)
  | named (sigil : Sigil) (v : Variable)
  | follow (sigil : Sigil) (strict : Bool) (e : Expr)
  | item (array index : Expr)
  | entry (hash key : Expr)
  | items (array places : Expr)
  | entries (hash keys : Expr)
  | pairs (ofHash : Bool) (container keys : Expr)
  | chosen (list places : Expr)
  | lastPlace (array : Expr)
  | declare (how : Declarator) (names : List (Option (Sigil × Variable))) (several : Bool)
  | localized (e : Expr)
  | assign (target value : Expr)
  | assignAll (target value : Expr)
  | update (op : Operation) (target value : Expr)
  | updateIf (op : Connective) (target value : Expr)
  | updateRepeated (target count : Expr)
  | compute (op : Operation) (a b : Expr)
  | connect (op : Connective) (a b : Expr)
  | exclusive (a b : Expr)
  | opposite (e : Expr)
  | negative (e : Expr)
  | complement (e : Expr)
  | choice (condition yes no : Expr)
  | range (number : Nat) (patient : Bool) (a b : Expr)
  | repeated (asList : Bool) (e count : Expr)
  | step (up first : Bool) (target : Expr)
  | several (list : List Expr)
  | find (target : Option Expr) (pattern : Expr) (flags : Octets)
  | replace (target : Option Expr) (pattern new : Expr) (flags : Octets)
  | exchange (target : Option Expr) (x : Exchange)
  | rule (pattern : Expr) (flags : Octets)
  | builtin (name : String) (given : List Expr)
  | call (code : Expr) (given : Option (List Expr))
  | method (object : Expr) (name : String) (given : List Expr)
  | methodBy (object name : Expr) (given : List Expr)
  | print (kind : String) (handle : Option Expr) (given : List Expr)
  | arrange (how : Option Expr) (isBlock : Bool) (given : List Expr)
  | through (filters : Bool) (body : Expr) (given : List Expr)
  | readLine (handle : Expr)
  | paths (pattern : Expr)
  | output (command : Expr)
  | newArray (given : List Expr)
  | newHash (given : List Expr)
  | newCode (name package : String) (body : List Stmt)
  | reference (e : Expr)
  | block (body : List Stmt)
  | attempt (body : List Stmt)
  | evaluate (e : Expr) (scope : Scope)
  | test (letter : Char) (e : Expr)
  | leave (how : Leaving) (label : Option String)
  | giveBack (e : Option Expr)
  /-- What keys of a module are set to be in a package. -/
  | define (package : String) (given : List Expr)

inductive Stmt where
  | plain (site : Site) (e : Expr)
  | choose (site : Site) (condition : Expr) (yes no : List Stmt)
  | loop (site : Site) (label : Option String) (condition : Option Expr) (wanted : Bool)
      (body continuing : List Stmt)
  | counted (site : Site) (label : Option String) (first condition next : Option Expr)
      (body : List Stmt)
  | each (site : Site) (label : Option String) (target : Option Expr) (list : Expr)
      (body continuing : List Stmt)
  | bare (site : Site) (label : Option String) (body continuing : List Stmt)
  | nothing

end

instance : Inhabited Expr := ⟨.several []⟩

instance : Inhabited Stmt := ⟨.nothing⟩

namespace Expr

def ofText (s : Octets) : Expr := constant (.text s)

def ofString (s : String) : Expr := constant (.ofString s)

def topic : Expr := named .scalar (.shared "main::_")

def givenValues : Expr := named .array (.shared "main::_")

def ofList : List Expr → Expr
  | [e] => e
  | list => several list

/-- Whether something stands for several values where it is set. -/
def isPlural : Expr → Bool
  | named .array _ | named .hash _ | follow .array _ _ | follow .hash _ _ | several _
  | items _ _ | entries _ _ | pairs _ _ _ => true
  | declare _ names plural =>
    plural || names.any fun n => n.any fun (sigil, _) => sigil != .scalar
  | localized e => e.isPlural
  | _ => false

end Expr

structure Script where
  body : List Stmt := []
  functions : List (String × String × List Stmt) := []
  imports : List (String × String) := []
  starts : List (List Stmt) := []
  /-- What is done when everything else has been done. -/
  finals : List (List Stmt) := []
  data : Option Octets := none
  /-- The first number for an own name that is not used. -/
  count : Nat := 0
  warnings : Octets := []
  deriving Inhabited

end CommandChains.Machine.Scripting
