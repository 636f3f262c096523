import CommandChains.Log.Pattern
import CommandChains.Log.Record
import CommandChains.Text.Utf8

/-!
# Log filters

A filter says which records are shown. It is a list of directives separated by
commas. A directive is a level, which is for every module, or a module with or
without a level. In brackets behind the module it may name a span, and in braces
a field.

A directive with a field is about the records that have a field of this name. A
directive that names a span, or gives a value for a field, is about what happens
in spans; no record lies in a span, so it shows and hides nothing.

Of the directives that are about a record, the most specific one decides: the one
with the longest module, then one with a field, then the one whose field comes
last by its name, and of two for the same the later one. A module is also meant by
the beginning of its name, so a directive for a module is one for all modules
below it.
-/

namespace CommandChains.Log

inductive DirectiveError where
  | malformed
  | unknownLevel
  /-- The value of its field is a pattern that cannot be used. -/
  | badPattern (problem : Pattern.Problem)
  deriving DecidableEq, Repr

def DirectiveError.message : DirectiveError → String
  | malformed => "invalid filter directive"
  | unknownLevel =>
    "error parsing level filter: expected one of \"off\", \"error\", \"warn\", \"info\", " ++
      "\"debug\", \"trace\", or a number 0-5"
  | badPattern problem => "invalid field filter: " ++ problem.message

structure FieldTest where
  name : String
  /-- The pattern that the value has to match, if there is one. -/
  value : Option String := none
  deriving DecidableEq, Repr

/-- What a directive is about, and the highest rank of a level that it shows. -/
structure Directive where
  target : Option String := none
  span : Option String := none
  field : Option FieldTest := none
  rank : Nat := Level.trace.rank
  deriving DecidableEq, Repr

/-- The rank up to which a name shows levels. Names may be in any case. -/
def rankOfName? (name : String) : Option Nat :=
  match String.ofList (name.toList.map Char.toLower) with
  | "off" => some 0
  | "error" => some 1
  | "warn" => some 2
  | "info" => some 3
  | "debug" => some 4
  | "trace" => some 5
  | _ => none

/-- The number that some decimal digits write, after a plus sign if there is one. -/
def numberOf? (text : List Char) : Option Nat :=
  let digits := match text with
    | '+' :: rest => rest
    | rest => rest
  if digits.isEmpty || !digits.all Char.isDigit then none
  else some (digits.foldl (fun n c => n * 10 + (c.toNat - '0'.toNat)) 0)

/-- The rank up to which a text shows levels: a name or a number. -/
def rankOf? (text : List Char) : Option Nat :=
  match numberOf? text with
  | some n => if n ≤ Level.trace.rank then some n else none
  | none => rankOfName? (String.ofList text)

namespace Directive

def startsWith (c : Char) : Bool :=
  c == '-' || c == ':' || c == '_' || Text.isAlphanumeric c

/-- Where the reading of a directive stands. A number is the place where the part
begins that is being read. -/
inductive Place where
  | start
  | name (since : Nat)
  | span (since : Nat)
  | field (since : Nat)
  | fieldEnd
  | bracketEnd
  | level (since : Nat)
  deriving DecidableEq, Repr

/-- Reads a field: a name, and after an equals sign a value. -/
def fieldOf (text : List Char) : Except DirectiveError FieldTest :=
  if text.isEmpty then .error .malformed
  else
    let name := text.takeWhile (· != '=')
    match text.drop name.length with
    | [] => .ok ⟨String.ofList name, none⟩
    | _ :: rest =>
      let value := rest.takeWhile (· != '=')
      match Pattern.valueProblem? value with
      | none => .ok ⟨String.ofList name, some (String.ofList value)⟩
      | some problem => .error (.badPattern problem)

/-- A directive read up to a character of it. -/
structure Progress where
  text : List Char
  place : Place := .start
  offset : Nat := 0
  directive : Directive := {}

namespace Progress

/-- The text from a place to the next character. -/
def since (p : Progress) (place : Nat) : String :=
  String.ofList (Text.takeBytes (p.offset - place) (Text.dropBytes place p.text))

def next (p : Progress) (c : Char) : Except DirectiveError Progress :=
  let after := p.offset + c.utf8Size
  let go (place : Place) (d : Directive) : Except DirectiveError Progress :=
    .ok { p with place, offset := after, directive := d }
  let d := p.directive
  match p.place with
  | .start =>
    if c = '[' then go (.span after) d
    else if startsWith c then go (.name p.offset) d
    else .error .malformed
  | .name place =>
    if c = '=' then go (.level after) { d with target := some (p.since place) }
    else if c = '[' then go (.span after) { d with target := some (p.since place) }
    else go p.place d
  | .span place =>
    let name := p.since place
    if c = ']' then go .bracketEnd { d with span := some name }
    else if c = '{' then
      go (.field after) { d with span := if name.isEmpty then none else some name }
    else go p.place d
  | .field place =>
    if c = '}' then do
      let field ← fieldOf (p.since place).toList
      go .fieldEnd { d with field := some field }
    else go p.place d
  | .fieldEnd => if c = ']' then go .bracketEnd d else .error .malformed
  | .bracketEnd => if c = '=' then go (.level after) d else .error .malformed
  | .level _ => go p.place d

/-- The directive, once all characters have been read. -/
def finish (p : Progress) : Except DirectiveError Directive :=
  match p.place with
  | .name place =>
    let text := Text.dropBytes place p.text
    match rankOf? text with
    | some rank => .ok { p.directive with rank }
    | none => .ok { p.directive with target := some (String.ofList text) }
  | .level place =>
    let text := Text.dropBytes place p.text
    if text.isEmpty then .ok p.directive
    else match rankOf? text with
      | some rank => .ok { p.directive with rank }
      | none => .error .unknownLevel
  | .bracketEnd => .ok p.directive
  | .start | .span _ | .field _ | .fieldEnd => .error .malformed

end Progress

/-- Reads a directive. White space around it does not count when the places of its
parts are found, but the parts are cut out of the text with the white space. -/
def ofText (text : List Char) : Except DirectiveError Directive := do
  let inner := (text.dropWhile Text.isWhiteSpace).reverse.dropWhile Text.isWhiteSpace
  let read ← inner.reverse.foldlM Progress.next { text }
  read.finish

/-- Whether a directive is about what happens in spans only. -/
def isAboutSpans (d : Directive) : Bool :=
  d.span.isSome || (d.field.bind (·.value)).isSome

def isAbout (d : Directive) (r : Record) : Bool :=
  !d.isAboutSpans &&
    (match d.target with
      | none => true
      | some target => target.toList.isPrefixOf r.module.toList) &&
    (match d.field with
      | none => true
      | some field => r.fieldNames.contains field.name)

def targetWeight (d : Directive) : Nat :=
  match d.target with
  | none => 0
  | some target => target.utf8ByteSize + 1

/-- Whether a directive goes before one that stands earlier in the filter, if both are
about the same record. -/
def overrides (d earlier : Directive) : Bool :=
  if d.targetWeight = earlier.targetWeight then
    match d.field, earlier.field with
    | none, none => true
    | none, some _ => false
    | some _, none => true
    | some a, some b => decide (b.name ≤ a.name)
  else decide (earlier.targetWeight < d.targetWeight)

end Directive

structure Filter where
  directives : List Directive
  deriving DecidableEq, Repr

namespace Filter

def texts (text : String) : List (List Char) :=
  let parts := text.toList.foldr (fun c parts =>
    if c = ',' then [] :: parts
    else match parts with
      | [] => [[c]]
      | part :: rest => (c :: part) :: rest) [[]]
  parts.filter fun part => !part.isEmpty

def ofDirectives (directives : List Directive) : Filter :=
  if directives.isEmpty then ⟨[{ rank := Level.error.rank }]⟩ else ⟨directives⟩

/-- Reads a filter; all of its directives have to be good. -/
def ofText? (text : String) : Option Filter :=
  match (texts text).mapM Directive.ofText with
  | .ok directives => some (ofDirectives directives)
  | .error _ => none

/-- Reads a filter without the directives that cannot be read, and gives a complaint
for each of those. -/
def ofTextLossy (text : String) : Filter × List String :=
  let read := (texts text).map fun part => (part, Directive.ofText part)
  let good := read.filterMap fun entry => entry.2.toOption
  let complaints := read.filterMap fun (part, result) =>
    match result with
    | .ok _ => none
    | .error e => some ("ignoring `" ++ String.ofList part ++ "`: " ++ e.message)
  (ofDirectives good, complaints)

/-- The directive that decides about a record, if there is one. -/
def deciding? (f : Filter) (r : Record) : Option Directive :=
  (f.directives.filter (·.isAbout r)).foldl (fun best d =>
    match best with
    | none => some d
    | some b => if d.overrides b then some d else best) none

def shows (f : Filter) (r : Record) : Bool :=
  match f.deciding? r with
  | some d => decide (r.level.rank ≤ d.rank)
  | none => false

end Filter

end CommandChains.Log
