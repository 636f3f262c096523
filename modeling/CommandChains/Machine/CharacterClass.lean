import CommandChains.Machine.Octets

/-!
# Classes of characters

Classes of characters that tools know by their names. All of them are about ASCII; the
other bytes belong to none.
-/

namespace CommandChains.Machine

def allCharacters : Octets :=
  (List.range 256).map Char.ofNat

def classNamed? (name : Octets) : Option (Char → Bool) :=
  let graph (c : Char) : Bool := decide (32 < c.toNat) && decide (c.toNat < 127)
  match String.ofList name with
  | "alnum" => some Char.isAlphanum
  | "alpha" => some Char.isAlpha
  | "blank" => some fun c => c == ' ' || c == '\t'
  | "cntrl" => some fun c => decide (c.toNat < 32) || c.toNat == 127
  | "digit" => some Char.isDigit
  | "graph" => some graph
  | "lower" => some Char.isLower
  | "print" => some fun c => c == ' ' || graph c
  | "punct" => some fun c => graph c && !c.isAlphanum
  | "space" => some Octets.isSpace
  | "upper" => some Char.isUpper
  | "xdigit" => some fun c => (Octets.digit? c).isSome
  | _ => none

/-!
## Codes of characters

Two families of codes are in use for letters, digits and signs. The tables say what the
characters of one become in the other: two digits of base 16 for each character, in order.
-/

namespace CharacterCode

/-- The characters that the digits of a table stand for. -/
def entries : Octets → List Char
  | a :: b :: rest =>
    Char.ofNat (16 * (Octets.digit? a).getD 0 + (Octets.digit? b).getD 0) :: entries rest
  | _ => []

def cardsToLetters : String := String.join
  ["000102039c09867f978d8e0b0c0d0e0f101112139d8508871819928f1c1d1e1f",
    "80818283840a171b88898a8b8c050607909116939495960498999a9b14159e1a",
    "20a0a1a2a3a4a5a6a7a8d52e3c282b7c26a9aaabacadaeafb0b121242a293b7e",
    "2d2fb2b3b4b5b6b7b8b9cb2c255f3e3fbabbbcbdbebfc0c1c2603a2340273d22",
    "c3616263646566676869c4c5c6c7c8c9ca6a6b6c6d6e6f7071725ecccdcecfd0",
    "d1e5737475767778797ad2d3d45bd6d7d8d9dadbdcdddedfe0e1e2e3e45de6e7",
    "7b414243444546474849e8e9eaebeced7d4a4b4c4d4e4f505152eeeff0f1f2f3",
    "5c9f535455565758595af4f5f6f7f8f930313233343536373839fafbfcfdfeff"]

/-- What becomes of characters in the code of punched cards. -/
def lettersToCards : String := String.join
  ["00010203372d2e2f1605250b0c0d0e0f101112133c3d322618193f271c1d1e1f",
    "405a7f7b5b6c507d4d5d5c4e6b604b61f0f1f2f3f4f5f6f7f8f97a5e4c7e6e6f",
    "7cc1c2c3c4c5c6c7c8c9d1d2d3d4d5d6d7d8d9e2e3e4e5e6e7e8e9ade0bd9a6d",
    "79818283848586878889919293949596979899a2a3a4a5a6a7a8a9c04fd05f07",
    "202122232415061728292a2b2c090a1b30311a333435360838393a3b04143ee1",
    "4142434445464748495152535455565758596263646566676869707172737475",
    "767778808a8b8c8d8e8f906a9b9c9d9e9fa0aaabac4aaeafb0b1b2b3b4b5b6b7",
    "b8b9babbbca1bebfcacbcccdcecfdadbdcdddedfeaebecedeeeffafbfcfdfeff"]

def lettersToPrinter : String := String.join
  ["00010203372d2e2f1605250b0c0d0e0f101112133c3d322618193f271c1d1e1f",
    "405a7f7b5b6c507d4d5d5c4e6b604b61f0f1f2f3f4f5f6f7f8f97a5e4c7e6e6f",
    "7cc1c2c3c4c5c6c7c8c9d1d2d3d4d5d6d7d8d9e2e3e4e5e6e7e8e9ade0bd5f6d",
    "79818283848586878889919293949596979899a2a3a4a5a6a7a8a9c04fd0a107",
    "202122232415061728292a2b2c090a1b30311a333435360838393a3b04143ee1",
    "4142434445464748495152535455565758596263646566676869707172737475",
    "767778808a8b8c8d8e8f909a9b9c9d9e9fa0aaabacadaeafb0b1b2b3b4b5b6b7",
    "b8b9babbbcbdbebfcacbcccdcecfdadbdcdddedfeaebecedeeeffafbfcfdfeff"]

def changed (table : String) (text : Octets) : Octets :=
  let codes := (entries table.toList).toArray
  text.map fun c => (codes[c.toNat]?).getD c

end CharacterCode

end CommandChains.Machine
