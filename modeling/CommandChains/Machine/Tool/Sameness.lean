import CommandChains.Machine.Tool.Fields
import CommandChains.Machine.Tool.Basic

/-!
# Whether two files are the same

A tool that compares two files byte by byte and tells where they differ first, or all places
where they differ.
-/

namespace CommandChains.Machine.Sameness

structure Manner where
  silent : Bool := false
  all : Bool := false
  shows : Bool := false
  most : Option Nat := none
  deriving DecidableEq, Repr

/-- A character as it is shown for a byte that differs. -/
def visible (c : Char) : Octets :=
  let low (n : Nat) : Octets :=
    if n < 32 then ['^', Char.ofNat (n + 64)]
    else if n = 127 then ['^', '?'] else [Char.ofNat n]
  if c.toNat < 128 then low c.toNat else "M-".toList ++ low (c.toNat - 128)

def octal (c : Char) : Octets := Octets.padded 3 (Nat.toDigits 8 c.toNat)

/-- The places where two texts differ, with the bytes, and the bytes and lines before the end
of the shorter one. Bytes are counted from one. -/
def differences : Nat → Octets → Octets → List (Nat × Char × Char)
  | n, c :: a, d :: b =>
    if c = d then differences (n + 1) a b else (n, c, d) :: differences (n + 1) a b
  | _, _, _ => []

def endMessage (t : Task) (name text : Octets) (count : Nat) (all : Bool) : Octets :=
  let lines := (text.take count).filter (· == '\n') |>.length
  let front := t.name ++ ": EOF on ".toList ++ name
  if count = 0 then front ++ " which is empty\n".toList
  else
    let behind := if all then []
      else if (text.take count).getLast? = some '\n' then
        ", line ".toList ++ Octets.ofNat lines
      else ", in line ".toList ++ Octets.ofNat (lines + 1)
    front ++ " after byte ".toList ++ Octets.ofNat count ++ behind ++ ['\n']

/-- The number of digits that the place of any byte needs. -/
def placeWidth (n : Nat) : Nat := (Octets.ofNat n).length

def compare (t : Task) (m : Manner) (a b : Octets × Octets) (left : Option Octets) : Report :=
  let cut (text : Octets) : Octets := match m.most with
    | some n => text.take n
    | none => text
  let x := cut a.2
  let y := cut b.2
  let found := differences 1 x y
  let count := min x.length y.length
  let shorter := if x.length < y.length then some (a.1, x)
    else if y.length < x.length then some (b.1, y) else none
  let status := if found.isEmpty && shorter.isNone then 0 else 1
  if m.silent then { left, status }
  else if m.all then
    let width := placeWidth (match m.most with
      | some n => min n (max a.2.length b.2.length)
      | none => max a.2.length b.2.length)
    let width := if t.isInput a.1 && t.isInput b.1 then 19 else width
    let line (d : Nat × Char × Char) : Octets :=
      Octets.padded width (Octets.ofNat d.1) ++ ' ' :: octal d.2.1 ++
        (if m.shows then ' ' :: Octets.filled 4 (visible d.2.1) ++ ' ' :: octal d.2.2 ++
          ' ' :: visible d.2.2
        else ' ' :: octal d.2.2) ++ ['\n']
    { output := found.flatMap line
      errors := (shorter.map fun (name, text) => endMessage t name text count true).getD []
      left, status }
  else
    match found with
    | (n, c, d) :: _ =>
      let line := ((x.take (n - 1)).filter (· == '\n')).length + 1
      let unit := if m.shows then "byte" else "char"
      { output := a.1 ++ ' ' :: b.1 ++ (" differ: " ++ unit ++ " ").toList ++ Octets.ofNat n ++
          ", line ".toList ++ Octets.ofNat line ++
          (if m.shows then " is ".toList ++ octal c ++ ' ' :: visible c ++ ' ' :: octal d ++ ' ' :: visible d
            else []) ++ ['\n']
        left, status }
    | [] =>
      { errors := (shorter.map fun (name, text) => endMessage t name text count false).getD []
        left, status }

def refusal (t : Task) (message : Octets) : Report :=
  { errors := t.complaint message ++ t.complaint (t.hint.dropLast), left := some t.input, status := 2 }

/-- How many bytes are skipped, or what is wrong with a text. -/
def readSkip (text : Octets) : Option Nat :=
  (Amount.read text).toOption

def compareFiles : Tool := fun t =>
  t.withArgumentsOr
      { plain := "bcls", valued := "in"
        words := [("print-bytes", 'b'), ("print-chars", 'c'), ("ignore-initial", 'i'),
          ("verbose", 'l'), ("bytes", 'n'), ("silent", 's'), ("quiet", 's')] } (refusal t) fun a =>
    let skips := (a.value? 'i').map fun text =>
      let first := text.takeWhile (· != ':')
      let second := (text.drop first.length).drop 1
      (text, readSkip first, if text.contains ':' then readSkip second else readSkip first)
    let most := (a.value? 'n').map fun text => (text, readSkip text)
    match skips, most with
    | some (text, none, _), _ | some (text, _, none), _ =>
      refusal t ("invalid --ignore-initial value '".toList ++ text ++ ['\x27'])
    | _, some (text, none) => refusal t ("invalid --bytes value '".toList ++ text ++ ['\x27'])
    | skips, most =>
      if a.has 'l' && a.has 's' then
        refusal t "options -l and -s are incompatible".toList
      else
        match a.operands with
        | [] => refusal t ("missing operand after '".toList ++ t.arguments.getLastD t.name ++ ['\x27'])
        | first :: rest =>
          let second := rest.headD ['-']
          let extra := rest.drop 1
          let bad := (extra.take 2).find? fun text => (readSkip text).isNone
          match bad, extra.drop 2 with
          | some text, _ =>
            refusal t ("invalid --ignore-initial value '".toList ++ text ++ ['\x27'])
          | none, word :: _ => refusal t ("extra operand '".toList ++ word ++ ['\x27'])
          | none, [] =>
            let skip (n : Nat) (own : Option Nat) : Nat :=
              max (own.getD 0) (((extra[n]?).bind readSkip).getD 0)
            let skipFirst := skip 0 (skips.bind (·.2.1))
            let skipSecond := skip 1 (skips.bind (·.2.2))
            let (sources, left) := t.sources [first, second]
            if t.isInput first && t.isInput second then { left, status := 0 }
            else
              match sources with
              | [x, y] =>
                match x.contents, y.contents with
                | .ok p, .ok q =>
                  compare t { silent := a.has 's', all := a.has 'l', shows := a.has 'b' || a.has 'c'
                              most := most.bind (·.2) }
                    (first, p.drop skipFirst) (second, q.drop skipSecond) left
                | .error e, _ =>
                  { errors := if a.has 's' && e = FileTree.notFound then []
                      else t.complaint (first ++ ": ".toList ++ reasonOf e), left, status := 2 }
                | _, .error e =>
                  { errors := if a.has 's' && e = FileTree.notFound then []
                      else t.complaint (second ++ ": ".toList ++ reasonOf e), left, status := 2 }
              | _ => { left, status := 2 }

end CommandChains.Machine.Sameness
