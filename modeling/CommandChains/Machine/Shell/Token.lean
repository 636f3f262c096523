import CommandChains.Machine.Shell.Words

/-!
# Tokens of scripts

A script is read as a row of words and signs. Which words have a meaning of their own
depends on where they stand, and so does whether a word stands for another text.
-/

namespace CommandChains.Machine.Shell

inductive Token where
  | word (w : Word)
  | keyword (text : String)
  | operator (text : String)
  /-- A change of a stream, perhaps with the number of the stream or a variable for it. -/
  | redirection (stream : Option Nat) (holder : Option Octets) (text : String)
  | newline
  | finish
  deriving DecidableEq, Inhabited

namespace Token

/-- The words that can have a meaning of their own. -/
def keywords : Dialect → List String
  | .small =>
    ["!", "case", "do", "done", "elif", "else", "esac", "fi", "for", "if", "in", "then", "until",
      "while", "\x7b", "\x7d"]
  | .large =>
    ["!", "[[", "]]", "case", "coproc", "do", "done", "elif", "else", "esac", "fi", "for",
      "function", "if", "in", "select", "then", "time", "until", "while", "\x7b", "\x7d"]

/-- The problem that a token cannot stand where it does. -/
def outOfPlace (t : Token) (wanted : Option String) : Problem :=
  let quoted (text : String) : String := "\"" ++ text ++ "\""
  match t with
  | operator text => .unexpected text.toList (quoted text) wanted
  | keyword text => .unexpected text.toList (quoted text) wanted
  | redirection _ _ text => .unexpected text.toList "redirection" wanted
  | newline => .unexpected "newline".toList "newline" wanted
  | finish => .unfinished wanted
  | word w => .unexpected w.source "word" wanted

/-- Whether a token can only stand behind the commands of a list. -/
def closes : Token → Bool
  | operator text => [")", ";;", ";&", ";;&"].contains text
  | keyword text => ["then", "do", "done", "fi", "else", "elif", "esac", "\x7d"].contains text
  | finish => true
  | _ => false

end Token

structure Cursor where
  rest : Octets
  line : Nat := 1
  how : WordManner := {}
  aliases : List (Octets × Octets) := []
  /-- Words that do not stand for another text now, until so much is left. -/
  inUse : List (Octets × Nat) := []
  last : Token := .newline
  pushed : Bool := false
  /-- How much was left where the last token was looked for. -/
  began : Nat := 0
  /-- The lines behind the present one that have been read already. -/
  ahead : Nat := 0
  /-- Texts that begin in a line and should have ended with a line of their own. -/
  unended : List (Nat × Octets) := []

structure LineError where
  line : Nat
  problem : Problem
  rest : Octets
  deriving DecidableEq

abbrev Reader (α : Type) := StateT Cursor (Except LineError) α

structure Wanted where
  newlines : Bool := false
  keywords : Bool := false
  aliases : Bool := false

namespace Wanted

def command : Wanted := { keywords := true, aliases := true }

/-- The beginning of a command, perhaps in a later line. -/
def later : Wanted := { newlines := true, keywords := true, aliases := true }

/-- A word that may have a meaning of its own. -/
def keyword : Wanted := { newlines := true, keywords := true }

end Wanted

def operators : Dialect → List String
  | .small => ["&&", "||", ";;", "&", "|", ";", "(", ")"]
  | .large => ["&&", "||", ";;&", ";;", ";&", "|&", "&", "|", ";", "(", ")"]

def redirectionSigns : Dialect → List String
  | .small => ["<<-", "<<", "<&", "<>", "<", ">>", ">&", ">|", ">"]
  | .large => ["<<-", "<<<", "<<", "<&", "<>", "<", ">>", ">&", ">|", ">", "&>>", "&>"]

/-- The first of some texts that stands at the beginning. -/
def firstOf (texts : List String) (rest : Octets) : Option String :=
  texts.find? fun text => text.toList.isPrefixOf rest

def skipBlanks : Octets → Octets
  | '\\' :: '\n' :: rest => skipBlanks rest
  | c :: rest =>
    if c = ' ' ∨ c = '\t' then skipBlanks rest
    else if c = '#' then rest.dropWhile (· != '\n')
    else c :: rest
  | [] => []

/-- Whether a text holds nothing but blanks, newlines and remarks. -/
def isBlankScript : Nat → Octets → Bool
  | 0, _ => false
  | rounds + 1, text =>
    match skipBlanks text with
    | [] => true
    | '\n' :: rest => isBlankScript rounds rest
    | _ => false

namespace Reader

def giveUp {α : Type} (problem : Problem) : Reader α := fun c =>
  .error ⟨c.line, problem, c.rest⟩

def moveTo (rest : Octets) : Reader Unit := fun c =>
  .ok ((), { c with rest, line := c.line + (upTo c.rest rest).count '\n' })

/-- Gives up because of a word. The small shell only notices at the end that something is
not closed. -/
def giveUpWord {α : Type} (e : ScriptError) : Reader α := fun c =>
  if c.how.dialect = .small ∧ e.problem.isOpen then
    .error ⟨c.line + c.ahead + c.rest.count '\n', e.problem, []⟩
  else .error ⟨c.line + (upTo c.rest e.rest).count '\n', e.problem, e.rest⟩

/-- A word at the present place, up to a character that ends it. -/
def wordUpTo (ends : Char → Bool) : Reader Word := do
  let c ← get
  match readWord c.how ends (c.rest.length + 1) c.rest with
  | .error e => giveUpWord e
  | .ok (pieces, rest) =>
    moveTo rest
    pure ⟨pieces, upTo c.rest rest⟩

def word : Reader Word := wordUpTo endsWord

/-- The number of a stream, or a variable for one, in front of a change of it. -/
def streamBefore (dialect : Dialect) (rest : Octets) : Option Nat × Option Octets × Octets :=
  let digits := rest.takeWhile Char.isDigit
  match dialect, rest with
  | .small, digit :: behind =>
    if digit.isDigit then (Octets.decimal? [digit], none, behind) else (none, none, rest)
  | .large, '\x7b' :: named =>
    let name := named.takeWhile inName
    match named.drop name.length with
    | '\x7d' :: behind => if isName name then (none, some name, behind) else (none, none, rest)
    | _ => (none, none, rest)
  | _, _ => (Octets.decimal? digits, none, rest.drop digits.length)

def bareToken : Reader Token := do
  modify fun c => { c with began := c.rest.length }
  let c ← get
  moveTo (skipBlanks c.rest)
  let rest := (← get).rest
  let dialect := c.how.dialect
  let (stream, holder, behind) := streamBefore dialect rest
  let isGroup := dialect = .large && (firstOf ["<(", ">("] rest).isSome
  match rest with
  | [] => pure .finish
  | '\n' :: rest =>
    moveTo rest
    modify fun c => { c with line := c.line + c.ahead, ahead := 0 }
    pure .newline
  | _ =>
    match firstOf (redirectionSigns dialect) behind, firstOf (operators dialect) rest with
    | some sign, _ =>
      if isGroup then .word <$> word
      else
        moveTo (behind.drop sign.length)
        pure (.redirection stream holder sign)
    | none, some text =>
      moveTo (rest.drop text.length)
      pure (.operator text)
    | none, none => .word <$> word

/-- The next token that is no newline, starting from one. -/
def passNewlines : Nat → Token → Reader Token
  | 0, t => pure t
  | rounds + 1, t => do
    if t = .newline then passNewlines rounds (← bareToken) else pure t

def rounds : Reader Nat := do pure (2 * (← get).rest.length + 100)

/-- The text that a word stands for, if it does now. -/
def aliasOf? (c : Cursor) (name : Octets) : Option Octets :=
  if c.inUse.any fun entry => entry.1 == name && decide (entry.2 < c.rest.length + name.length)
  then none
  else c.aliases.lookup name

/-- The next token, where words can stand for other texts at most so often. -/
def tokenWithin : Nat → Wanted → Reader Token
  | 0, _ => pure .finish
  | tries + 1, wanted => do
    let c ← get
    let t ← if c.pushed then pure c.last else bareToken
    modify fun c => { c with pushed := false }
    let t ← if wanted.newlines then passNewlines (← rounds) t else pure t
    let c ← get
    let done (t : Token) : Reader Token := do
      modify fun c => { c with last := t }
      pure t
    match t with
    | .word w =>
      match w.plain? with
      | none => done t
      | some name =>
        let text := String.ofList name
        if wanted.keywords && (Token.keywords c.how.dialect).contains text then
          done (.keyword text)
        else
          let behindAlias := c.inUse.any fun entry =>
            decide (entry.2 ≤ c.began) && decide (c.rest.length + name.length ≤ entry.2) &&
              ((c.aliases.lookup entry.1).bind List.getLast?).any fun d => d == ' ' || d == '\t'
          match if wanted.aliases || behindAlias then aliasOf? c name else none with
          | some value =>
            set { c with
              rest := value ++ c.rest
              inUse := (name, c.rest.length) ::
                c.inUse.filter fun entry => decide (entry.2 < c.rest.length) }
            tokenWithin tries wanted
          | none => done t
    | t => done t

def token (wanted : Wanted := {}) : Reader Token := tokenWithin 1000 wanted

def pushBack : Reader Unit := modify fun c => { c with pushed := true }

def peek (wanted : Wanted := {}) : Reader Token := do
  let t ← token wanted
  pushBack
  pure t

def refuse {α : Type} (t : Token) (wanted : Option String) : Reader α :=
  giveUp (t.outOfPlace wanted)

def expect (wanted : Token) (text : String) (how : Wanted := Wanted.command) : Reader Unit := do
  let t ← token how
  if t = wanted then pure () else refuse t (some ("\"" ++ text ++ "\""))

/-- Passes a word with a meaning of its own that has to come. -/
def expectKeyword (text : String) (how : Wanted := Wanted.command) : Reader Unit :=
  expect (.keyword text) text how

def expectOperator (text : String) (how : Wanted := {}) : Reader Unit :=
  expect (.operator text) text how

end Reader

end CommandChains.Machine.Shell
