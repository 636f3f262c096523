import CommandChains.Machine.Delegate.Surroundings
import CommandChains.Machine.Ordered.Reader
import CommandChains.Machine.Scripting.Syntax
import Std.Data.HashMap

/-!
# What a running script knows

Single values, arrays, hashes and functions are kept at places, and names and links lead to the
places. An array is a row of places of single values, so that a loop can change what is in it. What
is changed for a while is put back at the end of the block that changed it.
-/

namespace CommandChains.Machine.Scripting

/-! ## What is kept -/

instance : Hashable Octets :=
  @instHashableList Char instHashableChar

/-- A hash: the places of values by their keys, which stay in the order in which they came. -/
structure Table where
  entries : Std.HashMap Octets Nat := {}
  keys : Array Octets := #[]
  told : Nat := 0
  deriving Inhabited

namespace Table

def get? (t : Table) (key : Octets) : Option Nat := t.entries[key]?

def set (t : Table) (key : Octets) (place : Nat) : Table :=
  if t.entries.contains key then { t with entries := t.entries.insert key place }
  else { t with entries := t.entries.insert key place, keys := t.keys.push key }

def erase (t : Table) (key : Octets) : Table :=
  if t.entries.contains key then
    { t with entries := t.entries.erase key, keys := t.keys.filter (· != key) }
  else t

def size (t : Table) : Nat := t.keys.size

end Table

inductive Routine where
  /-- What a script says, where own names lead to places. -/
  | script (name package : String) (body : List Stmt) (own : List (Nat × Nat))
  | library (name : String)
  | constant (values : List Value)
  deriving Inhabited

inductive Want where
  | none
  | one
  | all
  deriving DecidableEq

structure Frame where
  name : String
  want : Want
  site : Site
  routine : Nat
  /-- Whether it is a text or block that may fail. -/
  isTrial : Bool := false

/-- What is put back at the end of a block. -/
inductive Restore where
  | name (key : String) (place : Option Nat)
  | entry (table : Nat) (key : Octets) (place : Option Nat)
  | item (array index place : Nat)
  | special (name : String) (v : Value)

structure Found where
  text : Array Char := #[]
  start : Nat := 0
  stop : Nat := 0
  groups : List (Nat × Nat × Nat) := []
  names : List (Octets × Nat) := []
  count : Nat := 0
  deriving Inhabited

structure Channel where
  isOpen : Bool := true
  reads : Bool := false
  text : Octets := []
  live : Bool := false
  lines : Nat := 0
  ended : Bool := false
  taken : Nat := 0
  writes : Option Destination := none
  /-- What is printed and still kept, the latest first, and how much that is. -/
  printed : List Octets := []
  size : Nat := 0
  eager : Bool := false
  command : Option Octets := none
  status : Option Nat := none
  scalar : Option Nat := none
  /-- The names in a directory that have not been told, and those that have. -/
  names : List Octets := []
  namesTold : List Octets := []
  isDirectory : Bool := false
  wide : Bool := false
  path : Octets := []
  number : Nat := 0
  deriving Inhabited

inductive Stop where
  | failure (v : Value)
  | exit
  | leave (how : Leaving) (label : Option String)
  | giveBack (values : List Value)
  | endless

structure State where
  task : Task
  start : Start
  scalars : Array Value := #[.unset]
  arrays : Array (Array Nat) := #[]
  tables : Array Table := #[]
  routines : Array Routine := #[]
  classes : Std.HashMap Nat String := {}
  shared : Std.HashMap String Nat := {}
  own : List (Nat × Nat) := []
  firsts : Std.HashMap Nat Nat := {}
  /-- The own names whose first places are in use. -/
  begun : Std.HashMap Nat Unit := {}
  restores : List Restore := []
  found : Option Found := none
  frames : List Frame := []
  site : Site := {}
  channels : Std.HashMap String Channel := {}
  selected : String := "main::STDOUT"
  readLast : String := ""
  error : Int := 0
  positions : Std.HashMap Nat Nat := {}
  rules : Std.HashMap (Octets × Octets) Ordered.Compiled := {}
  lastRule : Option Ordered.Compiled := none
  ranges : List (Nat × Nat) := []
  alarm : Option Nat := none
  seed : Nat := 0
  isSeeded : Bool := false
  sequel : Delegate.Sequel
  status : Nat := 0
  signal : Option Signal := none
  texts : Nat := 0
  /-- A number for an own name that is not used. -/
  count : Nat := 0
  channelCount : Nat := 3
  watchful : Bool := false
  warnings : List Octets := []
  begunFiles : Bool := false
  /-- Functions of packages that are known where texts are run. -/
  known : List String := []
  finals : List (List Stmt) := []
  /-- Whether files that are opened hold characters in several bytes: those that are read, and
  those that are written. -/
  decodes : Bool := false
  encodes : Bool := false
  /-- How files are changed in place, and what their old names are made with. -/
  editing : Option Octets := none

/-- What a script does. It can stop in the middle of it. -/
abbrev Act := ExceptT Stop (StateM State)

namespace Act

variable {α : Type}

/-! ## Places -/

def newScalar (v : Value) : Act Nat :=
  modifyGet fun s => (s.scalars.size, { s with scalars := s.scalars.push v })

def newArray (places : Array Nat) : Act Nat :=
  modifyGet fun s => (s.arrays.size, { s with arrays := s.arrays.push places })

def newTable (t : Table) : Act Nat :=
  modifyGet fun s => (s.tables.size, { s with tables := s.tables.push t })

def newRoutine (r : Routine) : Act Nat :=
  modifyGet fun s => (s.routines.size, { s with routines := s.routines.push r })

def make : Sigil → Act Nat
  | .array => newArray #[]
  | .hash => newTable {}
  | .code => newRoutine (.library "")
  | _ => newScalar .unset

def scalarAt (place : Nat) : Act Value := do pure (((← get).scalars[place]?).getD .unset)

/-- Sets the value at a place. A search begins anew there. -/
def setScalar (place : Nat) (v : Value) : Act Unit :=
  modify fun s =>
    { s with
      scalars := s.scalars.setIfInBounds place v
      positions := if s.positions.isEmpty then s.positions else s.positions.erase place }

def arrayAt (place : Nat) : Act (Array Nat) := do pure (((← get).arrays[place]?).getD #[])

def setArray (place : Nat) (places : Array Nat) : Act Unit :=
  modify fun s => { s with arrays := s.arrays.setIfInBounds place places }

def tableAt (place : Nat) : Act Table := do pure (((← get).tables[place]?).getD {})

def setTable (place : Nat) (t : Table) : Act Unit :=
  modify fun s => { s with tables := s.tables.setIfInBounds place t }

def valuesOf (place : Nat) : Act (List Value) := do
  let places ← arrayAt place
  let s ← get
  pure (places.toList.map fun p => (s.scalars[p]?).getD .unset)

def setValues (place : Nat) (values : List Value) : Act Unit :=
  modify fun s =>
    let first := s.scalars.size
    { s with
      scalars := s.scalars.appendList values
      arrays := s.arrays.setIfInBounds place
        ((List.range values.length).map fun n => first + n).toArray }

/-- The keys and values of a hash, one behind the other. -/
def pairsOf (place : Nat) : Act (List Value) := do
  let t ← tableAt place
  let s ← get
  pure (t.keys.toList.flatMap fun key =>
    [.text key, (((t.get? key).bind fun p => s.scalars[p]?).getD .unset)])

/-! ## Names -/

def sharedPlace (sigil : Sigil) (name : String) : Act Nat := do
  let key := String.singleton sigil.sign ++ name
  match (← get).shared[key]? with
  | some place => pure place
  | none =>
    let place ← make sigil
    modify fun s => { s with shared := s.shared.insert key place }
    pure place

def ownPlace (sigil : Sigil) (number : Nat) : Act Nat := do
  match (← get).own.lookup number with
  | some place => pure place
  | none =>
    match (← get).firsts[number]? with
    | some place => pure place
    | none =>
      let place ← make sigil
      modify fun s => { s with firsts := s.firsts.insert number place }
      pure place

/-- Gives an own name something new. The first time that may be known already to functions. -/
def beginOwn (sigil : Sigil) (number : Nat) : Act Nat := do
  let isBegun := (← get).begun.contains number
  let place ← if isBegun then make sigil
    else do
      modify fun s => { s with begun := s.begun.insert number () }
      match (← get).firsts[number]? with
      | some place => pure place
      | none =>
        let place ← make sigil
        modify fun s => { s with firsts := s.firsts.insert number place }
        pure place
  modify fun s => { s with own := (number, place) :: s.own }
  pure place

def placeOf (sigil : Sigil) : Variable → Act Nat
  | .own number _ => ownPlace sigil number
  | .shared name => sharedPlace sigil name
  | .special name => sharedPlace sigil ("main::" ++ name)

/-- The single value of a shared name of the first package. -/
def common (name : String) : Act Value := do
  match (← get).shared["$main::" ++ name]? with
  | some place => scalarAt place
  | none => pure .unset

/-- Sets the single value of a shared name of the first package. -/
def setCommon (name : String) (v : Value) : Act Unit := do
  setScalar (← sharedPlace .scalar ("main::" ++ name)) v

/-- The place of a value of a hash, if there is one. -/
def entry? (table : Nat) (key : Octets) : Act (Option Nat) := do
  pure ((← tableAt table).get? key)

def entry (table : Nat) (key : Octets) : Act Nat := do
  match ← entry? table key with
  | some place => pure place
  | none =>
    let place ← newScalar .unset
    modify fun s => { s with tables := s.tables.modify table fun t => t.set key place }
    pure place

/-- The place of a value of an array, if there is one. -/
def item? (array : Nat) (index : Int) : Act (Option Nat) := do
  let places ← arrayAt array
  let n := if index < 0 then index + places.size else index
  if n < 0 then pure none
  else
    match places[n.toNat]? with
    | some 0 | none => pure none
    | some place => pure (some place)

/-! ## Going back -/

def putBack : Restore → Act Unit
  | .name key place =>
    modify fun s =>
      { s with
        shared := match place with
          | some place => s.shared.insert key place
          | none => s.shared.erase key }
  | .entry table key place => do
    let t ← tableAt table
    setTable table (match place with
      | some place => t.set key place
      | none => t.erase key)
  | .item array index place =>
    modify fun s =>
      { s with arrays := s.arrays.modify array fun places => places.setIfInBounds index place }
  | .special name v =>
    match name with
    | "|" =>
      modify fun s =>
        let change (c : Channel) : Channel := { c with eager := v.holds }
        { s with channels := s.channels.alter s.selected (Option.map change) }
    | "\x5eW" => modify fun s => { s with watchful := v.holds }
    | "!" => modify fun s => { s with error := v.amount.truncated }
    | _ => pure ()

/-- Puts back what has been changed since there were so many things to put back. -/
def putBackTo (count : Nat) : Act Unit := do
  let restores := (← get).restores
  let changed := restores.take (restores.length - count)
  modify fun s => { s with restores := restores.drop changed.length }
  changed.forM putBack

/-- Does something, and then puts back what was changed for a while. Own names that are declared
there are not known behind it. -/
def inBlock (work : Act α) : Act α := do
  let count := (← get).restores.length
  let own := (← get).own
  let found := (← get).found
  let result ← tryCatch (do pure (Except.ok (← work))) fun stop => pure (Except.error stop)
  putBackTo count
  modify fun s => { s with own, found }
  match result with
  | .ok a => pure a
  | .error stop => throw stop

def remember (r : Restore) : Act Unit := modify fun s => { s with restores := r :: s.restores }

/-! ## What is told -/

def placeText : Act Octets := do
  let s ← get
  let here : Octets := if s.site.line = 0 then []
    else " at ".toList ++ s.site.file ++ " line ".toList ++ Octets.ofNat s.site.line
  let read : Octets :=
    match s.channels[s.readLast]? with
    | some c =>
      if c.lines = 0 then []
      else
        let short := ((s.readLast.toList.reverse.takeWhile (· != ':')).reverse)
        let short := if short.head? = some '$' then short.takeWhile (· != '#') else short
        let unit : Octets := if s.site.line = 0 then [] else ", <".toList
        if unit.isEmpty then []
        else
          ", <".toList ++ (if s.readLast == "main::ARGV" then [] else short) ++ "> ".toList ++
            "line ".toList ++ Octets.ofNat c.lines
    | none => []
  pure (here ++ read ++ ".\n".toList)

/-- A message with the place, unless it ends with a line. -/
def withPlace (message : Octets) : Act Octets := do
  if message.getLast? = some '\n' then pure message else do pure (message ++ (← placeText))

def die (message : Octets) : Act α := do
  throw (.failure (.text (message ++ (← placeText))))

def alterSequel (change : Delegate.Sequel → Delegate.Sequel) : Act Unit :=
  modify fun s => { s with sequel := change s.sequel }

def hasListener (name : String) : Act Bool := do
  match (← get).shared["%main::SIG"]? with
  | none => pure false
  | some table =>
    match ← entry? table name.toList with
    | some place => do
      match ← scalarAt place with
      | .link .code _ => pure true
      | v => pure (v.plainText.length != 0 && v.plainText != "DEFAULT".toList)
    | none => pure false

def tell (message : Octets) : Act Unit := do
  let text ← withPlace message
  if ← hasListener "__WARN__" then modify fun s => { s with warnings := text :: s.warnings }
  else alterSequel fun q => q.prints .errors text

def isWatchful : Act Bool := do
  let s ← get
  pure (s.site.warns || s.watchful)

def doubt (message : String) : Act Unit := do
  if ← isWatchful then tell message.toList

/-! ## Values as texts and numbers -/

def classKey (kind : Sigil) (place : Nat) : Nat := Value.address kind place

def classOf? (v : Value) : Act (Option String) := do
  match v with
  | .link kind place => do pure (← get).classes[classKey kind place]?
  | .rule _ _ => pure (some "Regexp")
  | .handle name => do pure (← get).classes[Value.addressOfName name]?
  | _ => pure none

def kindOf (v : Value) : Act String := do
  match v with
  | .link .scalar place => do
    match ← scalarAt place with
    | .link _ _ | .handle _ => pure "REF"
    | _ => pure "SCALAR"
  | .link kind _ => pure kind.kind
  | .rule _ _ => pure "REGEXP"
  | .handle _ => pure "GLOB"
  | _ => pure ""

def textOf (v : Value) : Act Octets := do
  match v with
  | .link kind place =>
    let shown := Value.linkText (← kindOf v) (Value.address kind place)
    match ← classOf? v with
    | some name => pure (name.toList ++ '=' :: shown)
    | none => pure shown
  | v => pure v.plainText

/-! ## Files -/

def alterChannel (name : String) (change : Channel → Channel) : Act Unit :=
  modify fun s => { s with channels := s.channels.alter name (Option.map change) }

end Act

end CommandChains.Machine.Scripting
