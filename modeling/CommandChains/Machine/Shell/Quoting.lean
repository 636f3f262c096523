import CommandChains.Machine.Quotation
import CommandChains.Machine.Shell.Syntax

/-!
# Values as words

How shells show values so that they can be read as words again. The small shell puts
them between single quotes. The large shell has several ways: single quotes, double
quotes, backslashes, and quotes behind a dollar sign where something cannot be seen.
-/

namespace CommandChains.Machine.Shell.Quoting

def small : Octets → Octets := fun text =>
  let rec go : Nat → Octets → Octets
    | 0, _ => []
    | rounds + 1, text =>
      let plain := text.takeWhile (· != '\x27')
      let rest := text.drop plain.length
      let quotes := rest.takeWhile (· == '\x27')
      let front := '\x27' :: plain ++ ['\x27']
      let middle := if quotes.isEmpty then [] else '"' :: quotes ++ ['"']
      let behind := rest.drop quotes.length
      front ++ middle ++ if behind.isEmpty then [] else go rounds behind
  go (text.length + 1) text

/-- A value between single quotes, as the large shell shows it. -/
def single (text : Octets) : Octets :=
  '\x27' :: text.flatMap (fun c => if c = '\x27' then "'\\''".toList else [c]) ++ ['\x27']

def isHidden (text : Octets) : Bool := text.any fun c => !Octets.isSeen c

/-- A value with escapes between quotes behind a dollar sign. -/
def escaped (text : Octets) : Octets :=
  let one (c : Char) : Octets :=
    if c = '\\' ∨ c = '\x27' then ['\\', c]
    else if c = '\x1b' then ['\\', 'E']
    else if Octets.isSeen c then [c]
    else '\\' :: Octets.escaped c
  '$' :: '\x27' :: text.flatMap one ++ ['\x27']

def double (text : Octets) : Octets :=
  '"' :: text.flatMap (fun c => if "\"\\$\x60".contains c then ['\\', c] else [c]) ++ ['"']

def isMeant (c : Char) : Bool := " \t\n'\"\\|&;()<>!\x7b\x7d*[?]^$\x60".contains c

def hasMeaning (text : Octets) : Bool :=
  text.any isMeant || text.head? == some '#' || text.head? == some '~' ||
    Octets.occursIn ['=', '~'] text || Octets.occursIn [':', '~'] text

def reusable (text : Octets) : Octets := if isHidden text then escaped text else single text

/-- A value that can be read again, with quotes only where they are needed. -/
def sparing (text : Octets) : Octets :=
  if text.isEmpty then "''".toList
  else if isHidden text then escaped text
  else if hasMeaning text then single text
  else text

/-- A value with a backslash in front of everything that means something. -/
def backslashed (text : Octets) : Octets :=
  if text.isEmpty then "''".toList
  else if isHidden text then escaped text
  else
    let rec go (before : Char) : Octets → Octets
      | [] => []
      | c :: rest =>
        let first := before = '\x00'
        let tilde := c = '~' && (first || before = '=' || before = ':')
        (if isMeant c || c = ',' || (first && c == '#') || tilde then ['\\', c] else [c]) ++
          go c rest
    go '\x00' text

def declared (text : Octets) : Octets := if isHidden text then escaped text else double text

end CommandChains.Machine.Shell.Quoting
