import CommandChains.Machine.Quotation
import CommandChains.Machine.Tool.Listing

/-!
# Facts about files

A tool that prints what is known about files, as a format says.
-/

namespace CommandChains.Machine.Facts

open FileTree Listing

structure Subject where
  name : Octets
  place : Place

def kindOf (f : Files) (node : Node) : String :=
  match Entry.letter node with
  | 'd' => "directory"
  | 'l' => "symbolic link"
  | 'p' => "fifo"
  | 'c' => "character special file"
  | _ => if (f.textOf node).isEmpty && !(match node with | .program _ => true | _ => false) then
      "regular empty file" else "regular file"

def kindBits (node : Node) : Nat :=
  match Entry.letter node with
  | 'd' => 16384
  | 'l' => 40960
  | 'p' => 4096
  | 'c' => 8192
  | _ => 32768

/-- What a letter of a format means: a number or a text. -/
def fact (f : Files) (clock : Calendar.Clock) (s : Subject) (letter : Char) :
    Option (Octets × Bool) :=
  let node := s.place.node
  let number (n : Nat) : Option (Octets × Bool) := some (Octets.ofNat n, true)
  let text (t : Octets) : Option (Octets × Bool) := some (t, false)
  let m := Calendar.momentOfStamp (f.stampOf node)
  match letter with
  | 'n' => text s.name
  | 'N' =>
    text (Octets.shellQuoted s.name ++
      match node with
      | .link path => " -> ".toList ++ Octets.shellQuoted path.toList
      | _ => [])
  | 's' => number (f.sizeOf node)
  | 'F' => text (kindOf f node).toList
  | 'a' => some (Nat.toDigits 8 (f.modeOf node), true)
  | 'A' => text (Entry.letter node :: Permission.letters (f.modeOf node))
  | 'U' | 'G' => text "root".toList
  | 'u' | 'g' => number 0
  | 'f' => some (Nat.toDigits 16 (kindBits node + f.modeOf node), true)
  | 'h' => number (namesOf f node)
  | 'b' => number (2 * blocksOf f node)
  | 'B' => number 512
  | 'o' => number 4096
  | 'd' | 'D' | 'i' | 'w' => number 1
  | 'C' => text ['?']
  | 'm' => text ['/']
  | 't' | 'r' | 'R' =>
    match node with
    | .device name => some (Nat.toDigits 16 (deviceNumbers name).1, true)
    | _ => number 0
  | 'T' =>
    match node with
    | .device name => some (Nat.toDigits 16 (deviceNumbers name).2, true)
    | _ => number 0
  | 'x' | 'y' | 'z' =>
    text (Calendar.shown "%Y-%m-%d %H:%M:%S.%N %z".toList m (clock.zoneAt m.seconds))
  | 'X' | 'Y' | 'Z' | 'W' => some (Octets.ofInt m.seconds, true)
  | _ => none

/-- A text brought to the width that flags and digits ask for. -/
def fitted (flags text : Octets) (isNumber : Bool) : Octets :=
  let marks := flags.takeWhile fun c => "-+ 0#'".contains c
  let digits := (flags.drop marks.length).takeWhile Char.isDigit
  let limit := flags.drop (marks.length + digits.length)
  let width := Octets.decimal digits
  let text := match limit with
    | '.' :: n => if isNumber then text else text.take (Octets.decimal n)
    | _ => text
  if marks.contains '-' then Octets.filled width text
  else Octets.padded width text (if marks.contains '0' && isNumber then '0' else ' ')

/-- What a format shows of a file. Escapes count if that is asked for. Gives what is shown
and warnings. -/
def formatted (f : Files) (clock : Calendar.Clock) (escapes : Bool) (s : Subject) :
    Nat → Octets → Octets × List Octets
  | 0, _ => ([], [])
  | _, [] => ([], [])
  | rounds + 1, c :: rest =>
    let more (text : Octets) (rest : Octets) : Octets × List Octets :=
      let (shown, warned) := formatted f clock escapes s rounds rest
      (text ++ shown, warned)
    if c = '%' then
      let flags := rest.takeWhile fun c => c.isDigit || "-+ #.'".contains c
      match rest.drop flags.length with
      | [] => ('%' :: flags, [])
      | '%' :: rest => more ['%'] rest
      | letter :: rest =>
        let (letter, rest) := match letter, rest with
          | 'H', d :: rest => (if d = 'd' || d = 'r' then d else letter, rest)
          | 'L', d :: rest => (if d = 'd' || d = 'r' then d else letter, rest)
          | letter, rest => (letter, rest)
        match fact f clock s letter with
        | some (text, isNumber) => more (fitted flags text isNumber) rest
        | none => more ['?'] rest
    else if c = '\\' && escapes then
      match rest with
      | [] => (['\\'], ["warning: backslash at end of format".toList])
      | d :: left =>
        match Escapes.letter? d, Octets.digitsOf 8 3 rest with
        | _, n :: digits => more [Escapes.byteOf 8 (n :: digits)] (rest.drop (digits.length + 1))
        | some shown, [] => more [shown] left
        | none, [] =>
          if d = 'x' && !(Octets.digitsOf 16 2 left).isEmpty then
            let digits := Octets.digitsOf 16 2 left
            more [Escapes.byteOf 16 digits] (left.drop digits.length)
          else if d = '"' then more ['"'] left
          else
            let (shown, warned) := formatted f clock escapes s rounds left
            (d :: shown, ("warning: unrecognized escape '\\".toList ++ d :: ['\x27']) :: warned)
    else more [c] rest

def usualFormat : Octets :=
  ("  File: %N\n  Size: %-10s\tBlocks: %-10b IO Block: %-6o %F\nDevice: 0,1\tInode: 1" ++
    "           Links: %h\nAccess: (%04a/%10.10A)  Uid: (%5u/%8U)   Gid: (%5g/%8G)\n" ++
    "Access: %x\nModify: %y\nChange: %z\n Birth: %y\n").toList

def status : Tool := fun t =>
  t.withArguments
      { plain := "Lft", valued := "cPX", hidden := "PX"
        words := [("dereference", 'L'), ("file-system", 'f'), ("format", 'c'), ("printf", 'P'),
          ("terse", 't'), ("cached", 'X')] } 1 fun a =>
    if a.operands.isEmpty then t.refuses "missing operand".toList 1
    else
      let clock := Calendar.clockOf t.environment
      let (format, escapes) := match a.last? "cP" with
        | some 'c' => ((a.value? 'c').getD [], false)
        | some _ => ((a.value? 'P').getD [], true)
        | none => if a.has 't' then
            ("%n %s %b %f %u %g 1 1 %h %t %T %X %Y %Z %W %o\n".toList, false) else (usualFormat, false)
      let found := a.operands.map fun name =>
        (name, if name = ['-'] then .ok ⟨.device "null", []⟩
          else if a.has 'L' || a.has 'f' then t.files.place name else t.files.placeOfLink name)
      let shown := found.map fun (name, place) =>
        match place with
        | .ok place =>
          let (text, warned) := formatted t.files clock escapes ⟨name, place⟩ (format.length + 1) format
          (if a.last? "cP" = some 'c' then text ++ ['\n'] else text, warned.flatMap t.complaint, true)
        | .error e =>
          ([], t.complaint ((if a.has 'f' then "cannot read file system information for "
            else "cannot statx ").toList ++ Octets.shellQuoted name ++ ": ".toList ++ reasonOf e), false)
      { output := shown.flatMap (·.1), errors := shown.flatMap (·.2.1), left := some t.input
        status := if shown.all (·.2.2) then 0 else 1 }

end CommandChains.Machine.Facts
