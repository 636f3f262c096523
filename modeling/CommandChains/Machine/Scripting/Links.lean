import CommandChains.Machine.Scripting.Channels
import CommandChains.Machine.Scripting.Scanner
import CommandChains.Machine.Scripting.Searching

/-!
# Names and links

What names stand for and links lead to, what can be set, and where the functions of a class are.
-/

namespace CommandChains.Machine.Scripting

inductive Target where
  | place (n : Nat)
  | special (name : String)
  | lastPlace (array : Nat)
  | part (place start length : Nat)
  | position (place : Nat)
  | glob (name : String)

def Sigil.title : Sigil → String
  | scalar => "a SCALAR"
  | array => "an ARRAY"
  | hash => "a HASH"
  | code => "a subroutine"
  | glob => "a symbol"

namespace Act

/-! ## Names that are found out -/

/-- What the last match has found between two places. -/
def foundPart (part : Found → Option (Nat × Nat)) : Act Value := do
  match (← get).found with
  | none => pure .unset
  | some m =>
    match part m with
    | some (start, stop) => pure (.text ((m.text.extract start stop).toList))
    | none => pure .unset

def lastGroup (m : Found) : Option Nat := m.groups.foldl (fun n (number, _, _) => max n number) none

def processNumber : Nat := 4242

/-- The value of a name that is found out when it is asked for. -/
def specialValue (name : String) : Act Value := do
  match name with
  | "&" => foundPart fun m => some (m.start, m.stop)
  | "\x60" => foundPart fun m => some (0, m.start)
  | "\x27" => foundPart fun m => some (m.stop, m.text.size)
  | "+" => foundPart fun m => (lastGroup m).bind fun n => m.groups.lookup n
  | "\x5eN" => foundPart fun m => (lastGroup m).bind fun n => m.groups.lookup n
  | "!" => errorValue
  | "$" => pure (.ofNat processNumber)
  | "." => do
    let s ← get
    pure (((s.channels[s.readLast]?).map fun c => Value.ofNat c.lines).getD .unset)
  | "|" => do
    let s ← get
    pure (.ofInt (if (s.channels[s.selected]?).any (·.eager) then 1 else 0))
  | "]" => pure (.number (.real 5.036))
  | "<" | ">" => pure (.ofNat 0)
  | "(" | ")" => pure (.ofString "0 0")
  | "\x5eT" => pure (.ofNat 1767225600)
  | "\x5eW" => do pure (.ofInt (if (← get).watchful then 1 else 0))
  | "\x5eX" => pure (.ofString "/usr/bin/perl")
  | "\x5eO" => pure (.ofString "linux")
  | "\x5eV" => pure (.ofString "v5.36.0")
  | name => foundPart fun m => m.groups.lookup (Octets.decimal name.toList)

/-- Sets a name that is found out when it is asked for. -/
def setSpecial (name : String) (v : Value) : Act Unit := do
  match name with
  | "!" => modify fun s => { s with error := v.amount.truncated }
  | "." => do
    let read := (← get).readLast
    alterChannel read fun c => { c with lines := v.amount.truncated.toNat }
  | "|" => do
    let selected := (← get).selected
    alterChannel selected fun c => { c with eager := v.holds }
    if v.holds then flush selected
  | "\x5eW" => modify fun s => { s with watchful := v.holds }
  | "$" | "<" | ">" | "(" | ")" | "\x5eT" | "\x5eO" | "\x5eX" => pure ()
  | _ => die "Modification of a read-only value attempted".toList

/-- The places where the parts of the last match begin or end. -/
def specialArray (name : String) : Act (List Value) := do
  match (← get).found with
  | none => pure []
  | some m =>
    let most := if name == "+" then m.count else (lastGroup m).getD 0
    let place (pair : Nat × Nat) : Nat := if name == "+" then pair.2 else pair.1
    pure (.ofNat (place (m.start, m.stop)) :: (List.range most).map fun n =>
      match m.groups.lookup (n + 1) with
      | some pair => .ofNat (place pair)
      | none => .unset)

def specialPairs (name : String) : Act (List Value) := do
  match (← get).found with
  | none => pure []
  | some m =>
    if name == "!" then pure []
    else
      pure (m.names.reverse.flatMap fun (key, number) =>
        match m.groups.lookup number with
        | some (start, stop) => [.text key, .text ((m.text.extract start stop).toList)]
        | none => [])

/-! ## Arrays and hashes -/

/-- Sets a hash to keys and values, one behind the other. -/
def setPairs (place : Nat) (values : List Value) : Act Unit := do
  let rec go : List Value → Act Unit
    | [] => pure ()
    | [key] => do
      let cell ← entry place (← textOf key)
      setScalar cell .unset
    | key :: v :: rest => do
      let k ← textOf key
      let cell ← newScalar v
      modify fun s => { s with tables := s.tables.modify place fun t => t.set k cell }
      go rest
  setTable place {}
  if values.length % 2 = 1 then
    match values with
    | [.link kind _] =>
      if kind == .array || kind == .hash then
        doubt "Reference found where even-sized list expected"
      else doubt "Odd number of elements in hash assignment"
    | _ => doubt "Odd number of elements in hash assignment"
  go values

/-- The places of an array, where each gets a value. -/
def filledArray (array : Nat) : Act (Array Nat) := do
  let places ← arrayAt array
  if places.contains 0 then
    let full ← places.mapM fun p => if p = 0 then newScalar .unset else pure p
    setArray array full
    pure full
  else pure places

/-- The place of a value of an array, which is made if it is not there. -/
def item (array : Nat) (index : Int) : Act Nat := do
  let size := (← arrayAt array).size
  let n := if index < 0 then index + size else index
  if n < 0 then
    die ("Modification of non-creatable array value attempted, subscript ".toList ++
      Octets.ofInt index)
  else
    match ← item? array n with
    | some place => pure place
    | none =>
      let place ← newScalar .unset
      modify fun s =>
        { s with
          arrays := s.arrays.modify array fun places =>
            let places := if n.toNat < places.size then places
              else places ++ Array.replicate (n.toNat + 1 - places.size) 0
            places.setIfInBounds n.toNat place }
      pure place

def resize (array size : Nat) : Act Unit :=
  modify fun s =>
    { s with
      arrays := s.arrays.modify array fun places =>
        if size ≤ places.size then places.extract 0 size
        else places ++ Array.replicate (size - places.size) 0 }

def append (array : Nat) (values : List Value) : Act Unit :=
  modify fun s =>
    let first := s.scalars.size
    { s with
      scalars := s.scalars.appendList values
      arrays := s.arrays.modify array fun places =>
        places.appendList ((List.range values.length).map fun n => first + n) }

/-! ## Links -/

def shownText (s : Octets) : Octets :=
  '"' :: s.take 32 ++ '"' :: (if 32 < s.length then "...".toList else [])

def nameOf (s : Octets) : Act String := do
  let s := match s with
    | '*' :: rest => rest
    | s => s
  pure (Reading.qualified (← get).site.package (String.ofList s))

/-- The place that a link leads to. Texts are links to what they name, unless that is
forbidden. -/
def linked (sigil : Sigil) (strict : Bool) (v : Value) : Act Nat := do
  match v with
  | .link kind place =>
    if kind == sigil then pure place
    else
      let title := if sigil == .code then "a CODE" else sigil.title
      die ("Not ".toList ++ title.toList ++ " reference".toList)
  | .rule _ _ =>
    if sigil == .scalar then newScalar v
    else do
      let title := if sigil == .code then "a CODE" else sigil.title
      die ("Not ".toList ++ title.toList ++ " reference".toList)
  | .glob name | .handle name => sharedPlace sigil name
  | .unset =>
    if strict || sigil == .code then
      die ("Can't use an undefined value as ".toList ++ sigil.title.toList ++ " reference".toList)
    else sharedPlace sigil "main::"
  | v =>
    let s ← textOf v
    if strict then
      die ("Can't use string (".toList ++ shownText s ++ ") as ".toList ++ sigil.title.toList ++
        " ref while \"strict refs\" in use".toList)
    else do sharedPlace sigil (← nameOf s)

/-- The place that the link at a place leads to. It is made if there is nothing. -/
def linkedFrom (sigil : Sigil) (strict : Bool) (cell : Nat) : Act Nat := do
  match ← scalarAt cell with
  | .unset =>
    if sigil == .code then linked sigil strict .unset
    else do
      let place ← make sigil
      setScalar cell (.link sigil place)
      pure place
  | v => linked sigil strict v

def channelOf (v : Value) : Act String := do
  match v with
  | .glob name | .handle name => pure name
  | .unset => die "Can't use an undefined value as filehandle reference".toList
  | .link .scalar place =>
    match ← scalarAt place with
    | .glob name => pure name
    | _ => die "Not a GLOB reference".toList
  | .link _ _ => die "Not a GLOB reference".toList
  | v => nameOf (← textOf v)

/-! ## Targets -/

def valueAt : Target → Act Value
  | .place n => scalarAt n
  | .special name => specialValue name
  | .lastPlace array => do pure (.ofInt ((← arrayAt array).size - 1))
  | .part place start length => do
    pure (.text (((← textOf (← scalarAt place)).drop start).take length))
  | .position place => do
    pure ((((← get).positions[place]?).map fun n => Value.ofNat (n / 2)).getD .unset)
  | .glob name => pure (.glob name)

/-- Gives a name of a kind the meaning of another one. -/
def nameFor (sigil : Sigil) (name : String) (place : Nat) : Act Unit :=
  modify fun s =>
    { s with shared := s.shared.insert (String.singleton sigil.sign ++ name) place }

def setAt (target : Target) (v : Value) : Act Unit := do
  match target with
  | .place n => setScalar n v
  | .special name => setSpecial name v
  | .lastPlace array => resize array (v.amount.truncated + 1).toNat
  | .part place start length =>
    let text ← textOf (← scalarAt place)
    setScalar place (.text (text.take start ++ (← textOf v) ++ text.drop (start + length)))
  | .position place =>
    match v with
    | .unset => modify fun s => { s with positions := s.positions.erase place }
    | v => modify fun s => { s with positions := s.positions.insert place (2 * v.amount.truncated.toNat) }
  | .glob name =>
    match v with
    | .link kind place => nameFor kind name place
    | .glob other | .handle other => do
      for sigil in ([.scalar, .array, .hash, .code] : List Sigil) do
        nameFor sigil name (← sharedPlace sigil other)
      match (← get).channels[other]? with
      | some c => do
        flush other
        modify fun s => { s with channels := s.channels.insert name { c with printed := [], size := 0 } }
      | none => pure ()
    | v => do
      let other ← nameOf (← textOf v)
      for sigil in ([.scalar, .array, .hash, .code] : List Sigil) do
        nameFor sigil name (← sharedPlace sigil other)

/-- The place of something that can be set, or of its value. -/
def cellOf : Target → Act Nat
  | .place n => pure n
  | t => do newScalar (← valueAt t)

/-! ## Changes for a while -/

def localizeName (sigil : Sigil) (v : Variable) : Act Unit := do
  match v with
  | .shared name => do
    let key := String.singleton sigil.sign ++ name
    remember (.name key (← get).shared[key]?)
    let place ← make sigil
    modify fun s => { s with shared := s.shared.insert key place }
  | .special name => do remember (.special name (← specialValue name))
  | .own _ _ => pure ()

/-- Gives an entry of a hash a new value for a while. -/
def localizeEntry (table : Nat) (key : Octets) : Act Unit := do
  remember (.entry table key (← entry? table key))
  let place ← newScalar .unset
  modify fun s => { s with tables := s.tables.modify table fun t => t.set key place }

/-- Gives an item of an array a new value for a while. -/
def localizeItem (array : Nat) (index : Int) : Act Unit := do
  let old ← item array index
  let size := (← arrayAt array).size
  let n := (if index < 0 then index + size else index).toNat
  remember (.item array n old)
  let place ← newScalar .unset
  modify fun s =>
    { s with arrays := s.arrays.modify array fun places => places.setIfInBounds n place }

/-! ## Functions and classes -/

def function? (name : String) : Act (Option Nat) := do
  let s ← get
  match s.shared["&" ++ name]? with
  | none => pure none
  | some place =>
    match s.routines[place]? with
    | some (.library "") | none => pure none
    | some _ => pure (some place)

def parentsOf (name : String) : Act (List String) := do
  match (← get).shared["@" ++ name ++ "::ISA"]? with
  | none => pure []
  | some place => do pure ((← valuesOf place).map fun v => String.ofList v.plainText)

/-- A class and all classes that it builds upon, in the order in which functions are looked for. -/
def lineage : Nat → String → Act (List String)
  | 0, name => pure [name]
  | depth + 1, name => do
    let parents ← parentsOf name
    let others ← parents.mapM (lineage depth)
    pure (name :: others.flatten)

def methodOf? (name : String) : List String → Act (Option Nat)
  | [] => pure none
  | c :: rest => do
    match ← function? (c ++ "::" ++ name) with
    | some place => pure (some place)
    | none => methodOf? name rest

def isPackage (name : String) : Act Bool := do
  let front := name ++ "::"
  pure ((← get).shared.toList.any fun (key, _) => front.isPrefixOf (String.ofList (key.toList.drop 1)))

/-! ## Doubtful values -/

/-- What an expression is called in complaints, with a blank in front. -/
def exprTitle : Expr → Octets
  | .named .scalar v => " $".toList ++ v.name.toList
  | .declare _ [some (.scalar, v)] false => " $".toList ++ v.name.toList
  | .item (.named .array v) (.constant n) =>
    " $".toList ++ v.name.toList ++ '[' :: n.plainText ++ [']']
  | .entry (.named .hash v) (.constant k) =>
    " $".toList ++ v.name.toList ++ "\x7b\"".toList ++ k.plainText ++ "\"\x7d".toList
  | .item (.follow .array _ (.named .scalar v)) (.constant n) =>
    " $".toList ++ v.name.toList ++ "->[".toList ++ n.plainText ++ [']']
  | .entry (.follow .hash _ (.named .scalar v)) (.constant k) =>
    " $".toList ++ v.name.toList ++ "->\x7b\"".toList ++ k.plainText ++ "\"\x7d".toList
  | .several [e] => exprTitle e
  | _ => []

/-- Tells that a value is not there, if that is wanted. -/
def doubtUnset (e : Expr) (title : String) : Act Unit := do
  if ← isWatchful then
    tell ("Use of uninitialized value".toList ++ exprTitle e ++ " in ".toList ++ title.toList)

/-- The number that a value counts as in an operation. -/
def numberOf (e : Expr) (title : String) (v : Value) : Act Number := do
  match v with
  | .number n => pure n
  | .unset => do
    doubtUnset e title
    pure (.whole 0)
  | .text s =>
    if !Number.isText s then
      if ← isWatchful then
        tell ("Argument \"".toList ++ s ++ "\" isn't numeric in ".toList ++ title.toList)
    pure v.amount
  | v => pure v.amount

def textFor (e : Expr) (title : String) (v : Value) : Act Octets := do
  match v with
  | .text s => pure s
  | .unset => do
    doubtUnset e title
    pure []
  | v => textOf v

end Act

end CommandChains.Machine.Scripting
