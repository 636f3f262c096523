import CommandChains.Text.CodeRanges

/-!
# The words of a line

A word is a longest run of characters that are not white space. There is no
quoting and no escaping: every character of a word stands for itself.

White space are the characters with the Unicode property White_Space. Words of a
line are separated by them and by nothing else: the separators U+001C to U+001F,
the zero width space, the byte order mark and the Mongolian vowel separator are
ordinary characters of a word.
-/

namespace CommandChains.Text

/-- The code points with the Unicode property White_Space. -/
def whiteSpace : CodeRanges :=
  [(0x09, 0x0D), (0x20, 0x20), (0x85, 0x85), (0xA0, 0xA0), (0x1680, 0x1680),
    (0x2000, 0x200A), (0x2028, 0x2029), (0x202F, 0x202F), (0x205F, 0x205F), (0x3000, 0x3000)]

/-- Whether a character separates words. -/
def isWhiteSpace (c : Char) : Bool :=
  whiteSpace.contains c

/-- Cuts a text at every white space character. Neighbouring white space, and
white space at an end, leaves empty pieces. -/
def pieces : List Char → List (List Char)
  | [] => [[]]
  | c :: rest =>
    if isWhiteSpace c then [] :: pieces rest
    else match pieces rest with
      | [] => [[c]]
      | piece :: others => (c :: piece) :: others

def words (text : List Char) : List (List Char) :=
  (pieces text).filter fun piece => !piece.isEmpty

def wordsOf (line : String) : List String :=
  (words line.toList).map String.ofList

theorem pieces_ne_nil (text : List Char) : pieces text ≠ [] := by
  cases text with
  | nil => simp [pieces]
  | cons c rest =>
    simp only [pieces]
    split
    · simp
    · split <;> simp

@[simp] theorem words_nil : words [] = [] := rfl

theorem words_cons_space {c : Char} (rest : List Char) (h : isWhiteSpace c = true) :
    words (c :: rest) = words rest := by
  simp [words, pieces, h]

end CommandChains.Text
