import CommandChains.Machine.Octets

/-!
# What scripts consist of

A script is a tree of commands. Words are kept in pieces, for what a piece stands for
is known only when the command is run. What is to be put in the place of a piece is
kept as text.
-/

namespace CommandChains.Machine.Shell

/-- The languages that scripts are written in. They differ little. -/
inductive Dialect where
  | small
  | large
  deriving DecidableEq, Inhabited

inductive PieceKind where
  | text
  | parameter
  | command
  | arithmetic
  /-- A path where the output of a script can be read. -/
  | source
  /-- A path where the input of a script can be written. -/
  | sink
  deriving DecidableEq

structure Piece where
  kind : PieceKind
  text : Octets
  quoted : Bool
  deriving DecidableEq

abbrev Pieces := List Piece

namespace Pieces

def ofText (text : Octets) : Pieces := [⟨.text, text, true⟩]

/-- The text of pieces without quotes and without anything to be put in its place. -/
def plain? (w : Pieces) : Option Octets :=
  if w.all fun p => p.kind = .text ∧ !p.quoted then some (w.flatMap Piece.text) else none

/-- The text of some pieces, where nothing is put in the place of anything. -/
def rawText (w : Pieces) : Octets := w.flatMap Piece.text

def hasQuotes (w : Pieces) : Bool := w.any fun p => p.quoted && p.kind == .text

/-- A piece in front of others. Plain texts beside one another become one. -/
def cons (p : Piece) (w : Pieces) : Pieces :=
  match w with
  | q :: rest =>
    if p.kind = .text ∧ q.kind = .text ∧ p.quoted = q.quoted then
      { q with text := p.text ++ q.text } :: rest
    else p :: w
  | [] => [p]

end Pieces

/-- A word of a script, in pieces and as it is written. -/
structure Word where
  pieces : Pieces
  source : Octets := []
  deriving DecidableEq, Inhabited

/-- The word that a text is that stands for itself. -/
def Word.ofText (text : Octets) : Word := ⟨Pieces.ofText text, text⟩

/-- The text of a word without quotes and without anything to be put in its place. -/
def Word.plain? (w : Word) : Option Octets := w.pieces.plain?

def beginsName (c : Char) : Bool := c.isAlpha || c == '_'

def inName (c : Char) : Bool := c.isAlphanum || c == '_'

def isName (text : Octets) : Bool :=
  text.head?.any beginsName && text.all inName

inductive SettingValue where
  | word (w : Word)
  | elements (list : List (Option Octets × Word))

structure Setting where
  name : Octets
  /-- The key of the element that is set, if not all of the variable is meant. -/
  key : Option Octets := none
  /-- Whether the value is put behind the one that is there. -/
  appends : Bool := false
  value : SettingValue

inductive RedirectionKind where
  | reading
  | writing
  | overwriting
  | appending
  | updating
  | sharing
  | text
  deriving DecidableEq

structure Redirection where
  stream : Nat
  kind : RedirectionKind
  target : Word
  both : Bool := false
  holder : Option Octets := none

inductive Check where
  | filled (w : Word)
  | unary (letter : Octets) (w : Word)
  | binary (operator : Octets) (left right : Word)
  | not (c : Check)
  | both (a b : Check)
  | either (a b : Check)

/-- What comes behind an arm that has been carried out. -/
inductive ArmEnding where
  | leaves
  | fallsThrough
  | looksOn
  deriving DecidableEq

inductive Action where
  | nothing
  | simple (line : Nat) (settings : List Setting) (words : List Word)
      (redirections : List Redirection)
  | redirected (body : Action) (redirections : List Redirection)
  | subshell (body : Action)
  | grouped (body : Action)
  | both (first second : Action)
  | meanwhile (body : Action)
  | ifGood (first second : Action)
  | ifBad (first second : Action)
  | negated (body : Action)
  /-- The output of the first command is the input of the second one. -/
  | piped (first second : Action)
  | timed (portable : Bool) (body : Action)
  | choose (condition good bad : Action)
  /-- A command again and again while a condition succeeds, or while it fails. -/
  | repeated (wanted : Bool) (condition body : Action)
  | each (line : Nat) (name : Octets) (words : Option (List Word)) (body : Action)
  | selected (line : Nat) (name : Octets) (words : Option (List Word)) (body : Action)
  /-- A command while a sum is not nought, with one before and one after every round. -/
  | counted (line : Nat) (start condition step : Octets) (body : Action)
  | matched (line : Nat) (word : Word) (arms : Action)
  | arm (patterns : List Word) (body : Action) (ending : ArmEnding) (rest : Action)
  | define (name : Octets) (body : Action)
  | check (line : Nat) (condition : Check)
  | sum (line : Nat) (text : Octets)
  /-- A command that runs beside the shell and can be talked to. -/
  | together (name : Octets) (body : Action)
  deriving Inhabited

/-- One command after the other, where there may be none. -/
def Action.followedBy : Action → Action → Action
  | nothing, second => second
  | first, nothing => first
  | first, second => both first second

/-- A command with changes of streams, if there are any. -/
def Action.withRedirections (body : Action) (redirections : List Redirection) : Action :=
  if redirections.isEmpty then body else redirected body redirections

end CommandChains.Machine.Shell
