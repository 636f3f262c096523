import CommandChains.Machine.Shell.Pattern
import CommandChains.Machine.Shell.State
import CommandChains.Machine.Shell.Quoting
import CommandChains.Machine.Shell.Words

/-!
# Words in the making

When everything in a word has been replaced it consists of fragments, some of which are
still to be cut into words between the separators. Before that, braces and names of home
directories are replaced.
-/

namespace CommandChains.Machine.Shell

/-- A part of a word after everything has been put in its place. -/
inductive Fragment where
  | quoted (text : Octets)
  /-- Text of the script that may be part of a pattern. -/
  | loose (text : Octets)
  /-- A value that is still to be cut into words. -/
  | value (text : Octets)
  /-- The border between two arguments, and the text for it if they are not cut. -/
  | border (between : Octets)
  deriving DecidableEq

namespace Fragment

/-- The characters of a fragment, and which of them may be part of a pattern. -/
def marked : Fragment → List Marked
  | quoted text | border text => Marked.still text
  | loose text | value text => Marked.active text

def text : Fragment → Octets
  | quoted text | loose text | value text | border text => text

def cut : Fragment → Fragment
  | loose text => value text
  | f => f

/-- A text that is cut into words unless it is quoted. -/
def of (isQuoted : Bool) (text : Octets) : Fragment :=
  if isQuoted then quoted text else value text

def row (isQuoted : Bool) (between : Octets) (texts : List Octets) : List Fragment :=
  (texts.map fun text => [of isQuoted text]).intersperse [border between] |>.flatten

end Fragment

/-! ## Cutting into words -/

structure Cut where
  done : List (List Marked) := []
  /-- The present word from its end, if it has begun. -/
  now : Option (List Marked) := none
  /-- Whether the last word was ended by a blank. -/
  spaced : Bool := false

namespace Cut

def close (c : Cut) : Cut :=
  match c.now with
  | some word => { c with done := word.reverse :: c.done, now := none }
  | none => c

def keep (c : Cut) (text : List Marked) : Cut :=
  { c with now := some (text.reverse ++ c.now.getD []), spaced := false }

def push (separators : Octets) (c : Cut) (d : Char) : Cut :=
  if !separators.contains d then c.keep [(d, true)]
  else if d = ' ' ∨ d = '\t' ∨ d = '\n' then
    if c.now.isSome then { c.close with spaced := true } else c
  else if c.now.isSome then { c.close with spaced := false }
  else if c.spaced then { c with spaced := false }
  else { c with done := [] :: c.done }

def add (separators : Octets) (c : Cut) (f : Fragment) : Cut :=
  match f with
  | .quoted _ => c.keep f.marked
  | .loose text => if text.isEmpty then c else c.keep f.marked
  | .value text => text.foldl (push separators) c
  | .border _ => { c.close with spaced := false }

end Cut

def cutWords (separators : Octets) (fragments : List Fragment) : List (List Marked) :=
  (fragments.foldl (Cut.add separators) {}).close.done.reverse

def textOf (fragments : List Fragment) : Octets := fragments.flatMap Fragment.text

/-! ## Home directories -/

def homes : List (String × String) :=
  [("root", "/root"), ("daemon", "/usr/sbin"), ("bin", "/bin"), ("sys", "/dev"), ("sync", "/bin"),
    ("games", "/usr/games"), ("man", "/var/cache/man"), ("lp", "/var/spool/lpd"),
    ("mail", "/var/mail"), ("news", "/var/spool/news"), ("uucp", "/var/spool/uucp"),
    ("proxy", "/bin"), ("www-data", "/var/www"), ("backup", "/var/backups"),
    ("list", "/var/list"), ("irc", "/run/ircd"), ("_apt", "/nonexistent"),
    ("nobody", "/nonexistent")]

def homeOf? (s : State) (name : Octets) : Option Octets :=
  match String.ofList name, s.dialect with
  | "", .small => s.text? "HOME"
  | "", .large => some ((s.text? "HOME").getD "/root".toList)
  | "+", .large => s.text? "PWD"
  | "-", .large => s.text? "OLDPWD"
  | user, _ => (homes.lookup user).map String.toList

/-- A text where a tilde at the beginning has been replaced. The name behind it ends at one
of some characters; `whole` says whether it may end with the text. -/
def withHome (s : State) (ends : Octets) (whole : Bool) (text : Octets) : Pieces :=
  match text with
  | '~' :: rest =>
    let name := rest.takeWhile fun c => !ends.contains c
    let behind := rest.drop name.length
    match if behind.isEmpty && !whole then none else homeOf? s name with
    | some home => [⟨.text, home, true⟩, ⟨.text, behind, false⟩]
    | none => [⟨.text, text, false⟩]
  | text => [⟨.text, text, false⟩]

/-- Pieces where a tilde at the beginning has been replaced, and in the value of a variable
those behind colons, too. -/
def withHomes (s : State) (inValue : Bool) (pieces : Pieces) : Pieces :=
  let rec go (first : Bool) : Pieces → Pieces
    | [] => []
    | p :: rest =>
      if p.kind != .text || p.quoted then p :: go false rest
      else
        let whole := rest.isEmpty
        let replaced :=
          if inValue then
            let parts := Octets.splitAt ':' p.text
            let last := parts.length - 1
            parts.zipIdx.flatMap fun (part, n) =>
              let colon : Pieces := if n = last then [] else [⟨.text, [':'], false⟩]
              (if n = 0 && !first then [⟨.text, part, false⟩]
                else withHome s ['/'] (whole || n != last) part) ++ colon
          else if first then withHome s ['/'] whole p.text
          else [p]
        replaced ++ go false rest
  go true pieces

/-! ## Braces -/

/-- A character of a word that may mean something between braces, or a piece. -/
abbrev Atom := Sum Char Piece

namespace Atom

def ofPieces (pieces : Pieces) : List Atom :=
  pieces.flatMap fun p =>
    if p.kind = .text ∧ p.quoted = false then p.text.map Sum.inl else [Sum.inr p]

def toPieces (atoms : List Atom) : Pieces :=
  atoms.foldr (fun atom pieces =>
    match atom with
    | .inl c => Pieces.cons ⟨.text, [c], false⟩ pieces
    | .inr p => p :: pieces) []

def is (c : Char) : Atom → Bool
  | .inl d => d == c
  | .inr _ => false

/-- The atoms up to the brace that closes those in front of them, and the ones behind. -/
def upToClose : Nat → List Atom → Option (List Atom × List Atom)
  | _, [] => none
  | depth, a :: rest =>
    if is '\x7d' a then
      if depth = 0 then some ([], rest)
      else (upToClose (depth - 1) rest).map fun (inner, behind) => (a :: inner, behind)
    else
      (upToClose (if is '\x7b' a then depth + 1 else depth) rest).map
        fun (inner, behind) => (a :: inner, behind)

/-- The atoms between the commas that stand in no braces. -/
def atCommas : Nat → List Atom → List (List Atom)
  | _, [] => [[]]
  | depth, a :: rest =>
    if is ',' a && depth == 0 then [] :: atCommas depth rest
    else
      let depth := if is '\x7b' a then depth + 1 else if is '\x7d' a then depth - 1 else depth
      match atCommas depth rest with
      | [] => [[a]]
      | part :: others => (a :: part) :: others

end Atom

def atDots : Octets → List Octets
  | '.' :: '.' :: rest => [] :: atDots rest
  | c :: rest =>
    match atDots rest with
    | [] => [[c]]
    | part :: others => (c :: part) :: others
  | [] => [[]]

/-- How wide the numbers of a range have to be at least. -/
def rangeWidth (first last : Octets) : Nat :=
  let padded (text : Octets) : Bool :=
    match text.dropWhile (· == '-') with
    | '0' :: _ :: _ => true
    | _ => false
  if padded first || padded last then max first.length last.length else 0

def zeroPadded (width : Nat) (n : Int) : Octets :=
  let digits := Octets.ofNat n.natAbs
  let sign := if n < 0 then ['-'] else []
  sign ++ Octets.padded (width - sign.length) digits '0'

def stepsBetween (first last step : Int) : List Int :=
  let size := if step = 0 then 1 else step.natAbs
  let count := (last - first).natAbs / size + 1
  (List.range (min count 100000)).map fun (k : Nat) =>
    if first ≤ last then first + ((k * size : Nat) : Int) else first - ((k * size : Nat) : Int)

def rangeOf (text : Octets) : Option (List Octets) :=
  let between (first last : Octets) (step : Int) : Option (List Octets) :=
    match Octets.integer? first, Octets.integer? last, first, last with
    | some m, some n, _, _ =>
      some ((stepsBetween m n step).map (zeroPadded (rangeWidth first last)))
    | _, _, [c], [d] =>
      if c.isAlpha && d.isAlpha then
        some ((stepsBetween c.toNat d.toNat step).map fun n => [Char.ofNat n.toNat])
      else none
    | _, _, _, _ => none
  match atDots text with
  | [first, last] => between first last 1
  | [first, last, step] => (Octets.integer? step).bind (between first last)
  | _ => none

/-- What the atoms between two braces stand for, if they stand for anything. -/
def choicesBetween (inner : List Atom) : Option (List (List Atom) × Bool) :=
  let plain : Option Octets := inner.mapM fun a =>
    match a with
    | .inl c => some c
    | .inr _ => none
  match Atom.atCommas 0 inner with
  | [_] => (plain.bind rangeOf).map fun texts => (texts.map (·.map Sum.inl), false)
  | choices => some (choices, true)

def withBraces : Nat → List Atom → List (List Atom)
  | 0, atoms => [atoms]
  | rounds + 1, atoms =>
    let front := atoms.takeWhile fun a => !Atom.is '\x7b' a
    match atoms.drop front.length with
    | [] => [atoms]
    | open_ :: rest =>
      let literal : List (List Atom) :=
        (withBraces rounds rest).map fun others => front ++ open_ :: others
      match Atom.upToClose 0 rest with
      | none => literal
      | some (inner, behind) =>
        match choicesBetween inner with
        | none => literal
        | some (choices, deep) =>
          let choices := if deep then choices.flatMap (withBraces rounds) else choices
          let ends := withBraces rounds behind
          choices.flatMap fun choice => ends.map fun others => front ++ choice ++ others

def bracesOf (dialect : Dialect) (pieces : Pieces) : List Pieces :=
  match dialect with
  | .small => [pieces]
  | .large =>
    let atoms := Atom.ofPieces pieces
    if atoms.any (Atom.is '\x7b') then
      (withBraces (atoms.length + 1) atoms).map Atom.toPieces
    else [pieces]

/-!
## Parameters

What a dollar sign refers to: a variable, an element of one, an argument, or something
that the shell knows about itself, and what is to be done with the value.
-/

structure Reference where
  name : Octets
  /-- The key of an element, or a sign for all of them. -/
  key : Option Octets := none
  size : Bool := false
  /-- Whether the parameter is meant whose name is the value. -/
  indirect : Bool := false
  change : Octets := []
  deriving DecidableEq

def parameterName (text : Octets) : Octets :=
  match text with
  | c :: rest =>
    if beginsName c then c :: rest.takeWhile inName
    else if c.isDigit then c :: rest.takeWhile Char.isDigit
    else if "@*#?-$!".contains c then [c]
    else []
  | [] => []

def keyBehind (dialect : Dialect) (name rest : Octets) : Option Octets × Octets :=
  match dialect, rest with
  | .large, '[' :: inner =>
    if !isName name then (none, rest)
    else
      match enclosed false [']'] inner with
      | some (key, after) => (some key, after)
      | none => (none, rest)
  | _, _ => (none, rest)

namespace Reference

/-- The reference that a text is, where nothing special stands in front. -/
def plain? (dialect : Dialect) (text : Octets) : Option Reference :=
  let name := parameterName text
  if name.isEmpty then none
  else
    let (key, change) := keyBehind dialect name (text.drop name.length)
    some { name, key, change }

def ofText? (dialect : Dialect) (text : Octets) : Option Reference :=
  match text with
  | '#' :: c :: rest =>
    let whole := plain? dialect (c :: rest)
    let isSize := match whole with
      | some r => r.change.isEmpty
      | none => false
    if isSize then whole.map fun r => { r with size := true }
    else if beginsName c || (c.isDigit && dialect == .small) then none
    else some { name := ['#'], change := c :: rest }
  | '!' :: c :: rest =>
    match dialect, plain? dialect (c :: rest) with
    | .large, some r =>
      if beginsName c || c.isDigit || (c == '#' && rest.isEmpty) || c == '@' || c == '*' then
        some { r with indirect := true }
      else plain? dialect text
    | _, _ => plain? dialect text
  | text => plain? dialect text

end Reference

inductive Held where
  | nothing
  | one (text : Octets)
  /-- Several texts; `starred` says whether an asterisk asks for them. -/
  | many (starred : Bool) (texts : List Octets)
  deriving DecidableEq

namespace Held

def ofOption : Option Octets → Held
  | some text => one text
  | none => nothing

def isUnset : Held → Bool
  | nothing | many _ [] => true
  | _ => false

def isBlank : Held → Bool
  | nothing | many _ [] | one [] | many _ [[]] => true
  | _ => false

def text (between : Octets) : Held → Octets
  | nothing => []
  | one text => text
  | many _ texts => Octets.joined between texts

def map (f : Octets → Octets) : Held → Held
  | nothing => nothing
  | one text => one (f text)
  | many starred texts => many starred (texts.map f)

end Held

namespace State

/-- What stands between the parameters if they are one text. -/
def joiner (s : State) : Octets :=
  match s.text? "IFS" with
  | none => [' ']
  | some separators => separators.take 1

/-- The letters of the options of the small shell, in the order in which it lists them. -/
def optionOrder : Octets := "pubaCEVvxsnmiIfe".toList

def optionLetters (s : State) : Octets :=
  match s.dialect with
  | .small => optionOrder.filter s.has
  | .large =>
    let letters := "abefhkmnptuvxBCEHPT".toList.filter s.has
    letters ++ (if s.isArgument then ['c'] else if s.has 's' then ['s'] else [])

/-- The number after a number that nobody can foretell. -/
def nextSeed (seed : Nat) : Nat := (seed * 1103515245 + 12345) % 2147483648

/-- What the large shell knows about itself by a name, besides its variables. -/
def knownValue? (s : State) (name : String) : Option Value :=
  let number (n : Nat) : Option Value := some (.text (Octets.ofNat n))
  let row (texts : List Octets) : Option Value :=
    some (.row (texts.zipIdx.map fun (t, n) => (n, t)))
  match name with
  | "LINENO" => number s.line
  | "SECONDS" => number (s.clock / Duration.second)
  | "EPOCHSECONDS" => number (1700000000 + s.clock / Duration.second)
  | "BASHPID" => number s.number
  | "BASH_SUBSHELL" => number s.depth
  | "PPID" => number 999
  | "UID" | "EUID" => number 0
  | "RANDOM" => number (nextSeed s.seed / 65536 % 32768)
  | "SRANDOM" => number (nextSeed s.seed)
  | "PIPESTATUS" => row (s.pipeStatus.map Octets.ofNat)
  | "FUNCNAME" =>
    if s.frames.isEmpty then none else row (s.frames.map Frame.name)
  | "BASH_LINENO" => row (s.frames.map fun f => Octets.ofNat f.line)
  | "BASH_REMATCH" => if s.matches_.isEmpty then none else row s.matches_
  | "DIRSTACK" => row [s.files.herePath]
  | "GROUPS" => row [['0']]
  | "_" => some (.text s.lastWord)
  | _ => none

/-- The names by which the large shell knows something about itself. -/
def knownNames : List String :=
  ["LINENO", "SECONDS", "EPOCHSECONDS", "BASHPID", "BASH_SUBSHELL", "PPID", "UID", "EUID", "RANDOM",
    "SRANDOM", "PIPESTATUS", "FUNCNAME", "BASH_LINENO", "BASH_REMATCH", "DIRSTACK", "GROUPS", "_"]

/-- The value of a variable, or of what the shell knows about itself by the name. -/
def knownOr? (s : State) (name : Octets) : Option Value :=
  let text := String.ofList name
  match s.dialect with
  | .small => s.value? name
  | .large =>
    if knownNames.contains text then
      match s.value? name with
      | some v => if text = "_" then s.knownValue? text else some v
      | none => s.knownValue? text
    else s.value? name

def held (s : State) (name : Octets) : Held :=
  match name with
  | ['?'] => .one (Octets.ofNat s.status)
  | ['$'] => .one (Octets.ofNat ownNumber)
  | ['!'] => .ofOption (s.lastNumber.map Octets.ofNat)
  | ['#'] => .one (Octets.ofNat s.arguments.length)
  | ['-'] => .one s.optionLetters
  | ['0'] => .one s.name
  | ['@'] => .many false s.arguments
  | ['*'] => .many true s.arguments
  | name =>
    match Octets.decimal? name with
    | some 0 => .one s.name
    | some n => .ofOption s.arguments[n - 1]?
    | none => .ofOption ((s.knownOr? name).bind Value.whole?)

def fragmentsOf (s : State) (isQuoted : Bool) : Held → List Fragment
  | .nothing => if isQuoted then [.quoted []] else []
  | .one text => [Fragment.of isQuoted text]
  | .many starred texts =>
    if starred && isQuoted then [.quoted (Octets.joined s.joiner texts)]
    else
      let between := if starred || s.dialect == .small then s.joiner else [' ']
      Fragment.row isQuoted between texts

end State

/-! ## Changes of values -/

/-- A text whose capital and small letters have been changed: those that a pattern fits,
the first or all of them, where a sign says how. -/
def changeCase (sign : Char) (all : Bool) (wanted : Char → Bool) (text : Octets) : Octets :=
  let one (c : Char) : Char :=
    if !wanted c then c
    else if sign = '^' then c.toUpper
    else if sign = ',' then c.toLower
    else if c.isUpper then c.toLower else c.toUpper
  if all then text.map one
  else
    match text with
    | c :: rest => one c :: rest
    | [] => []

/-- A text where what a pattern matches is replaced, at a place or everywhere. Every round
passes a character, so as many rounds as there are characters are enough. -/
def replaceFits (longest : Octets → Option Nat) (all : Bool) (new : Octets → Octets) :
    Nat → Octets → Octets
  | 0, text => text
  | _, [] => []
  | rounds + 1, c :: rest =>
    let text := c :: rest
    match longest text with
    | some (n + 1) =>
      let behind := text.drop (n + 1)
      new (text.take (n + 1)) ++
        (if all then replaceFits longest all new rounds behind else behind)
    | _ => c :: replaceFits longest all new rounds rest

def withMatch : Octets → Octets → Octets
  | [], _ => []
  | '\\' :: '&' :: rest, found => '&' :: withMatch rest found
  | '&' :: rest, found => found ++ withMatch rest found
  | c :: rest, found => c :: withMatch rest found

end CommandChains.Machine.Shell
