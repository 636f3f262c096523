import CommandChains.Text.Utf8

/-!
# Lines of a text

A line ends with a newline. Whatever newlines and carriage returns stand at its
end are not part of what it says.
-/

namespace CommandChains.Text

def newlineByte : UInt8 := 0x0A

/-- Whether a character belongs to the end of a line. -/
def isLineEnd (c : Char) : Bool :=
  c == '\n' || c == '\r'

/-- A text without the newlines and carriage returns at its end. -/
def trimLineEnd (text : List Char) : List Char :=
  (text.reverse.dropWhile isLineEnd).reverse

/-- A text without one newline at its end and one carriage return before it. -/
def dropLineEnd (text : List Char) : List Char :=
  match text.reverse with
  | '\n' :: '\r' :: rest => rest.reverse
  | '\n' :: rest => rest.reverse
  | _ => text

def lineOf (bytes : Bytes) : String :=
  String.ofList (trimLineEnd (Utf8.decodeChars bytes))

/-- A text cut after every newline; a newline at the very end starts no further
line. -/
def cutLines : List Char → List (List Char)
  | [] => []
  | c :: rest =>
    if c = '\n' then [c] :: cutLines rest
    else match cutLines rest with
      | [] => [[c]]
      | line :: others => (c :: line) :: others

end CommandChains.Text
