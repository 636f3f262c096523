import CommandChains.Chain.Basic
import CommandChains.Text.Quoted

/-!
# The printed form of a chain

The form in which a chain appears in the log. Every part of the chain has its
name in front, words are quoted, and lists stand between brackets, so the form
can be read back.
-/

namespace CommandChains

/-- Items between brackets, a comma and a blank between two of them. -/
def bracketed (items : List (List Char)) : List Char :=
  '[' :: [',', ' '].intercalate items ++ [']']

/-- The printed form of what closes a command. -/
def Delimiter.printed : Option Delimiter → List Char
  | none => "None".toList
  | some sequential => "Sequential".toList
  | some concurrent => "Concurrent".toList

namespace Command

def printedWords (argv : List String) : List Char :=
  bracketed (argv.map fun word => Text.quoteChars word.toList)

def printed (c : Command) : List Char :=
  "ParsedCommand \x7b argv: ".toList ++ printedWords c.argv ++
    ", delimiter_after: ".toList ++ Delimiter.printed c.closedBy ++ " \x7d".toList

end Command

namespace Chain

def printedChars (chain : Chain) : List Char :=
  "Chain \x7b commands: ".toList ++ bracketed (chain.commands.map Command.printed) ++
    " \x7d".toList

def printed (chain : Chain) : String :=
  String.ofList chain.printedChars

end Chain

end CommandChains
