import CommandChains.Machine.CharacterClass
import CommandChains.Machine.Tool.Basic

/-!
# Translation of characters

A tool that replaces characters of one set by those at the same places of another, the
last of which goes on for ever, leaves out the characters of a set, or squeezes
characters that repeat. Sets are written as characters, escapes, ranges, and classes
by name.
-/

namespace CommandChains.Machine.Tool

/-! ## Sets -/

structure SetLetter where
  code : Char
  /-- Whether it stands behind a backslash and so for nothing but itself. -/
  literal : Bool := false
  deriving DecidableEq, Repr

/-- The character that a letter behind a backslash stands for. -/
def setEscape (letter : Char) : Char :=
  ([('a', '\x07'), ('b', '\x08'), ('f', '\x0c'), ('n', '\n'), ('r', '\r'), ('t', '\t'),
    ('v', '\x0b')].lookup letter).getD letter

/-- What is said of three digits that write more than a byte holds. -/
def ambiguousDigits (digits : Octets) : Octets :=
  "warning: the ambiguous octal escape \\".toList ++ digits ++
    " is being\n\tinterpreted as the 2-byte sequence \\0".toList ++ digits.take 2 ++
    ", ".toList ++ digits.drop 2

/-- The characters in the text of a set, and what is said about them. Every round takes at
least one character, so as many rounds as there are characters are enough. -/
def setLetters : Nat → Octets → List SetLetter × List Octets
  | 0, _ => ([], [])
  | _, [] => ([], [])
  | _, ['\\'] =>
    ([⟨'\\', false⟩],
      ["warning: an unescaped backslash at end of string is not portable".toList])
  | rounds + 1, '\\' :: c :: rest =>
    let digits := Octets.digitsOf 8 3 (c :: rest)
    let taken := if 255 < Octets.valueOf 8 digits then digits.take 2 else digits
    let (letter, left) :=
      if digits.isEmpty then (setEscape c, rest)
      else (Char.ofNat (Octets.valueOf 8 taken), (c :: rest).drop taken.length)
    let remarks :=
      if taken.length < digits.length then [ambiguousDigits ((c :: rest).take 3)] else []
    let (letters, more) := setLetters rounds left
    (⟨letter, true⟩ :: letters, remarks ++ more)
  | rounds + 1, c :: rest =>
    let (letters, remarks) := setLetters rounds rest
    (⟨c, false⟩ :: letters, remarks)

inductive SetPart where
  | one (c : Char)
  | range (first last : Char)
  | named (name : Octets) (members : Octets)
  | same (c : Char)
  | times (c : Char) (count : Nat)
  /-- A character that is repeated as often as the other set is long. -/
  | filling (c : Char)
  deriving DecidableEq, Repr

namespace SetPart

def characters : SetPart → Octets
  | one c | same c => [c]
  | range first last =>
    (List.range (last.toNat + 1 - first.toNat)).map fun n => Char.ofNat (first.toNat + n)
  | named _ members => members
  | times c count => List.replicate count c
  | filling _ => []

/-- The letters that a class is made of, if it is made of all small or all capital ones. -/
def case? : SetPart → Option Bool
  | named name _ =>
    if name = "lower".toList then some false
    else if name = "upper".toList then some true
    else none
  | _ => none

def isNamed : SetPart → Bool
  | named _ _ => true
  | _ => false

/-- Whether a part is as long as the other set asks for. -/
def isFilling : SetPart → Bool
  | filling _ => true
  | _ => false

end SetPart

def shownLetter (c : Char) : Octets :=
  if Octets.isSeen c then [c]
  else '\\' :: Octets.padded 3 (Nat.toDigits 8 c.toNat) '0'

/-- Some letters up to a mark before a bracket, and what is behind that bracket. -/
def upToMark (mark : Char) : List SetLetter → Option (Octets × List SetLetter)
  | a :: b :: rest =>
    if a = ⟨mark, false⟩ ∧ b = ⟨']', false⟩ then some ([], rest)
    else (upToMark mark (b :: rest)).map fun (text, rest) => (a.code :: text, rest)
  | _ => none

/-- Whether letters go on with a star, digits and a bracket. -/
def isCount : List SetLetter → Bool
  | ⟨'*', false⟩ :: rest =>
    (rest.dropWhile fun letter => letter.code.isDigit).head? == some ⟨']', false⟩
  | _ => false

/-- Reads a character that is repeated, behind the bracket, if there is one. -/
def readTimesOf (letters : List SetLetter) : Except Octets (Option (SetPart × List SetLetter)) :=
  match letters with
  | c :: ⟨'*', false⟩ :: rest =>
    let inner := rest.takeWhile fun letter => !letter.literal && letter.code != ']'
    match rest.drop inner.length with
    | ⟨']', false⟩ :: left =>
      let text := inner.map (·.code)
      let base := if text.head? == some '0' then 8 else 10
      let digits := Octets.digitsOf base text.length text
      if digits.length = text.length then
        let count := Octets.valueOf base digits
        .ok (some (if count = 0 then .filling c.code else .times c.code count, left))
      else
        .error ("invalid repeat count ".toList ++ Octets.quoted (text.flatMap shownLetter) ++
          " in [c*n] construct".toList)
    | _ => .ok none
  | _ => .ok none

/-- Reads a class or a character that others are the same as, behind the bracket and the
mark, if there is one. -/
def readMarked (mark : Char) (letters : List SetLetter) :
    Except Octets (Option (SetPart × List SetLetter)) :=
  match upToMark mark letters with
  | none => .ok none
  | some ([], _) =>
    .error (if mark = ':' then "missing character class name '[::]'".toList
      else "missing equivalence class character '[==]'".toList)
  | some (text, rest) =>
    let shown := text.flatMap shownLetter
    match mark, classNamed? text, text with
    | ':', some member, _ => .ok (some (.named text (allCharacters.filter member), rest))
    | ':', none, _ =>
      if isCount letters then .ok none
      else .error ("invalid character class ".toList ++ Octets.quoted shown)
    | _, _, [c] => .ok (some (.same c, rest))
    | _, _, _ =>
      if isCount letters then .ok none
      else .error (shown ++ ": equivalence class operand must be a single character".toList)

/-- Reads something in brackets, behind the first one, if there is something. -/
def readBracketed (letters : List SetLetter) :
    Except Octets (Option (SetPart × List SetLetter)) :=
  let marked : Except Octets (Option (SetPart × List SetLetter)) :=
    match letters with
    | ⟨':', false⟩ :: rest => readMarked ':' rest
    | ⟨'=', false⟩ :: rest => readMarked '=' rest
    | _ => .ok none
  match marked with
  | .ok none => readTimesOf letters
  | found => found

/-- The parts of a set. Every round takes at least one character, so as many rounds as
there are characters are enough. -/
def setParts : Nat → List SetLetter → Except Octets (List SetPart)
  | 0, _ => .ok []
  | _, [] => .ok []
  | rounds + 1, c :: rest =>
    let bracketed : Except Octets (Option (SetPart × List SetLetter)) :=
      if c = ⟨'[', false⟩ ∧ 2 ≤ rest.length then readBracketed rest else .ok none
    match bracketed, rest with
    | .error message, _ => .error message
    | .ok (some (part, rest)), _ => (setParts rounds rest).map (part :: ·)
    | .ok none, ⟨'-', false⟩ :: d :: left =>
      if d.code < c.code then
        .error ("range-endpoints of '".toList ++ shownLetter c.code ++ '-' ::
          shownLetter d.code ++ "' are in reverse collating sequence order".toList)
      else (setParts rounds left).map (.range c.code d.code :: ·)
    | .ok none, rest => (setParts rounds rest).map (.one c.code :: ·)

/-- A set as it is written, and what is said about it. -/
def readSet (text : Octets) : Except Octets (List SetPart) × List Octets :=
  let (letters, remarks) := setLetters text.length text
  (setParts letters.length letters, remarks)

/-! ## One set for another -/

def charactersOf (parts : List SetPart) : Octets :=
  parts.flatMap SetPart.characters

/-- Parts without the one that fills up, which makes them as long as asked for. -/
def filledTo (size : Nat) (parts : List SetPart) : List SetPart :=
  let fixed := (charactersOf parts).length
  parts.map fun part =>
    match part with
    | .filling c => .times c (size - fixed)
    | part => part

structure SetItem where
  character : Char
  /-- Whether the class around it is one of capital letters, if it is one of letters. -/
  case? : Option Bool := none
  first : Bool := true
  deriving DecidableEq, Repr

def itemsOf (parts : List SetPart) : List SetItem :=
  parts.flatMap fun part =>
    part.characters.zipIdx.map fun (c, place) => ⟨c, part.case?, place == 0⟩

/-- The small letters with the capital ones, or the other way round. -/
def casePairs (toUpper : Bool) : List (Char × Char) :=
  let lower := allCharacters.filter Char.isLower
  if toUpper then lower.map fun c => (c, c.toUpper) else lower.map fun c => (c.toUpper, c)

/-- What characters are replaced by. A class of letters in the second set has to stand
against one in the first. -/
def replacements : Nat → List SetItem → List SetItem → Except Octets (List (Char × Char))
  | 0, _, _ => .ok []
  | _, _, [] => .ok []
  | rounds + 1, old, new :: news =>
    match new.case?, old with
    | none, [] => .ok []
    | none, c :: olds =>
      (replacements rounds olds news).map ((c.character, new.character) :: ·)
    | some upper, ⟨_, some fromUpper, true⟩ :: olds =>
      let rest := replacements rounds (olds.drop 25) (news.drop 25)
      if upper = fromUpper then rest else rest.map (casePairs upper ++ ·)
    | some _, _ => .error "misaligned [:upper:] and/or [:lower:] construct".toList

structure TranslationManner where
  /-- Whether all characters are meant that do not belong to the first set. -/
  complement : Bool
  delete : Bool
  squeeze : Bool
  /-- Whether the first set ends where the second does. -/
  truncate : Bool

/-- What is said about a second set that is too short and ends with a class. -/
def endsWithClass : Octets :=
  "when translating with string1 longer than string2,\n".toList ++
    "the latter string must not end with a character class".toList

/-- What is said about a second set with a class that has no counterpart. -/
def otherClass : Octets :=
  "when translating, the only character classes that may appear in\n".toList ++
    "string2 are 'upper' and 'lower'".toList

/-- What is said about too many characters for a complement. -/
def severalForComplement : Octets :=
  "when translating with complemented character classes,\n".toList ++
    "string2 must map all characters in the domain to one".toList

/-- What is replaced by what, in order: what comes later counts. -/
def translation (how : TranslationManner) (old new : List SetPart) :
    Except Octets (List (Char × Char)) :=
  let given := charactersOf old
  let domain := if how.complement then allCharacters.filter (!given.contains ·) else given
  let new := filledTo domain.length new
  let fixed := charactersOf new
  let missing := if how.truncate then 0 else domain.length - fixed.length
  let longer := new ++ ((fixed.getLast?.map fun c => SetPart.times c missing).toList)
  let chosen := charactersOf longer
  let pairs :=
    if how.complement then .ok (domain.zip chosen)
    else replacements (given.length + chosen.length) (itemsOf old) (itemsOf longer)
  if new.any fun part => part matches .same _ then
    .error "[=c=] expressions may not appear in string2 when translating".toList
  else if new.any fun part => part.isNamed && part.case?.isNone then .error otherClass
  else
    match pairs with
    | .error message => .error message
    | .ok pairs =>
      if missing != 0 && fixed.isEmpty then
        .error "when not truncating set1, string2 must be non-empty".toList
      else if missing != 0 && (new.getLast?.any SetPart.isNamed) then .error endsWithClass
      else if how.complement && old.any SetPart.isNamed &&
          !(chosen.length == domain.length && chosen.all (some · == chosen.head?)) then
        .error severalForComplement
      else .ok pairs

/-- What is wrong with the number of parts of some sets that fill up. -/
def fillingMistake? (translates : Bool) (old new : List SetPart) : Option Octets :=
  if old.any SetPart.isFilling then
    some "the [c*] repeat construct may not appear in string1".toList
  else if 1 < (new.filter SetPart.isFilling).length then
    some "only one [c*] repeat construct may appear in string2".toList
  else if !translates && new.any SetPart.isFilling then
    some "the [c*] construct may appear in string2 only when translating".toList
  else none

/-! ## The tool -/

/-- A text in which characters of a set that repeat stand only once. -/
def squeeze (member : Char → Bool) : Octets → Octets
  | a :: b :: rest =>
    if a = b && member a then squeeze member (b :: rest) else a :: squeeze member (b :: rest)
  | text => text

def translateText (how : TranslationManner) (old : List SetPart) (new : Option (List SetPart))
    (text : Octets) : Except Octets Octets :=
  let given := charactersOf old
  let isMember (c : Char) : Bool := given.contains c != how.complement
  match new with
  | none =>
    .ok (if how.delete then text.filter (!isMember ·) else squeeze isMember text)
  | some new =>
    if how.delete then
      .ok (squeeze (charactersOf new).contains (text.filter (!isMember ·)))
    else
      match translation how old new with
      | .error message => .error message
      | .ok pairs =>
        let latest := pairs.reverse
        let text := text.map fun c => (latest.lookup c).getD c
        let size := (if how.complement then allCharacters.filter (!given.contains ·)
          else given).length
        .ok (if how.squeeze then squeeze (charactersOf (filledTo size new)).contains text
          else text)

/-- Works on a text with one set or two as they are written. Gives what is said about
them, too. -/
def translateAll (how : TranslationManner) (sets : List Octets) (text : Octets) :
    List Octets × Except Octets Octets :=
  let (first, remarks) := readSet (sets.headD [])
  match first, sets.tail.head?.map readSet with
  | .error message, _ => (remarks, .error message)
  | .ok _, some (.error message, more) => (remarks ++ more, .error message)
  | .ok old, some (.ok new, more) =>
    (remarks ++ more,
      match fillingMistake? (!how.delete) old new with
      | some message => .error message
      | none => translateText how old (some new) text)
  | .ok old, none =>
    (remarks,
      match fillingMistake? false old [] with
      | some message => .error message
      | none => translateText how old none text)

def translate : Tool := fun t =>
  t.withArguments
      { plain := "AcCdst", untilOperand := true
        words := [("complement", 'c'), ("delete", 'd'), ("squeeze-repeats", 's'),
          ("truncate-set1", 't')] } 1 fun a =>
    let how : TranslationManner :=
      { complement := a.has 'c' || a.has 'C', delete := a.has 'd', squeeze := a.has 's'
        truncate := a.has 't' }
    let most := if how.delete && !how.squeeze then 1 else 2
    let least := if how.delete = how.squeeze then 2 else 1
    let last := Octets.quoted (a.operands.getLast?.getD [])
    if a.operands.isEmpty then t.refuses "missing operand".toList 1
    else if a.operands.length < least then
      t.refuses ("missing operand after ".toList ++ last ++
        (if how.squeeze then
          "\nTwo strings must be given when both deleting and squeezing repeats."
          else "\nTwo strings must be given when translating.").toList) 1
    else if most < a.operands.length then
      t.refuses ("extra operand ".toList ++ Octets.quoted (a.operands.getD most []) ++
        (if most = 1 ∧ a.operands.length = 2 then
          "\nOnly one string may be given when deleting without squeezing repeats."
          else "").toList) 1
    else
      let (remarks, outcome) := translateAll how a.operands t.input
      let errors := remarks.flatMap t.complaint
      match outcome with
      | .ok output => { output, errors }
      | .error message =>
        { errors := errors ++ t.complaint message, left := some t.input, status := 1 }

end CommandChains.Machine.Tool
