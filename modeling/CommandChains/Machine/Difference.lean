/-!
# Differences between two rows

Which entries of one row are missing in another one, and which are new there, so that as much
as possible is left in common. Entries are numbers; equal numbers stand for equal entries.

The rows are searched from both ends at once for a place where a best way through both of
them passes, and both parts in front of it and behind it are searched in the same way.
Entries that are missing in the other row are left out before, and so are entries that are
frequent there and stand among such ones. In the end each change is moved as far down as
equal entries allow, and then back to a change in the other row if it has met one.
-/

namespace CommandChains.Machine

/-- A change: entries of one row from a place on are replaced by entries of another row. -/
structure Change where
  left : Nat
  deleted : Nat
  right : Nat
  inserted : Nat
  deriving DecidableEq, Repr

namespace Difference

/-! ## The search -/

structure Part where
  left : Nat
  leftEnd : Nat
  right : Nat
  rightEnd : Nat

def entry (row : Array Nat) (place : Nat) : Nat := (row[place]?).getD 0

/-- The value for a diagonal, where `shift` makes its number a place. -/
def diagonal (values : Array Int) (shift d : Int) : Int :=
  (values[(d + shift).toNat]?).getD 0

/-- A place where a best way through a part passes. -/
def middle (a b : Array Nat) (p : Part) : Nat × Nat := Id.run do
  let xoff : Int := p.left
  let xlim : Int := p.leftEnd
  let yoff : Int := p.right
  let ylim : Int := p.rightEnd
  let shift : Int := ylim + 1 - xoff
  let size := (xlim - yoff + shift).toNat + 2
  let least := xoff - ylim
  let most := xlim - yoff
  let far : Int := xlim + ylim + 2
  let odd := (xoff - yoff - (xlim - ylim)) % 2 != 0
  let mut down : Array Int := Array.replicate size 0
  let mut up : Array Int := Array.replicate size 0
  down := down.setIfInBounds (xoff - yoff + shift).toNat xoff
  up := up.setIfInBounds (xlim - ylim + shift).toNat xlim
  let mut lowDown := xoff - yoff
  let mut highDown := xoff - yoff
  let mut lowUp := xlim - ylim
  let mut highUp := xlim - ylim
  for _ in [0:size + 1] do
    if lowDown > least then
      lowDown := lowDown - 1
      down := down.setIfInBounds (lowDown - 1 + shift).toNat (-1)
    else lowDown := lowDown + 1
    if highDown < most then
      highDown := highDown + 1
      down := down.setIfInBounds (highDown + 1 + shift).toNat (-1)
    else highDown := highDown - 1
    for k in [0:((highDown - lowDown) / 2 + 1).toNat] do
      let d := highDown - 2 * k
      let low := diagonal down shift (d - 1)
      let high := diagonal down shift (d + 1)
      let mut x := if low < high then high else low + 1
      for _ in [0:(xlim - x).toNat] do
        if x < xlim && x - d < ylim && entry a x.toNat == entry b (x - d).toNat then x := x + 1
        else break
      down := down.setIfInBounds (d + shift).toNat x
      if odd && lowUp ≤ d && d ≤ highUp && diagonal up shift d ≤ x then
        return (x.toNat, (x - d).toNat)
    if lowUp > least then
      lowUp := lowUp - 1
      up := up.setIfInBounds (lowUp - 1 + shift).toNat far
    else lowUp := lowUp + 1
    if highUp < most then
      highUp := highUp + 1
      up := up.setIfInBounds (highUp + 1 + shift).toNat far
    else highUp := highUp - 1
    for k in [0:((highUp - lowUp) / 2 + 1).toNat] do
      let d := highUp - 2 * k
      let low := diagonal up shift (d - 1)
      let high := diagonal up shift (d + 1)
      let mut x := if low < high then low else high - 1
      for _ in [0:(x - xoff).toNat] do
        if xoff < x && yoff < x - d && entry a (x - 1).toNat == entry b (x - d - 1).toNat then
          x := x - 1
        else break
      up := up.setIfInBounds (d + shift).toNat x
      if !odd && lowDown ≤ d && d ≤ highDown && x ≤ diagonal down shift d then
        return (x.toNat, (x - d).toNat)
  return (p.left, p.right)

/-- A part without the entries that both rows begin with, at most so many. -/
def dropFront (a b : Array Nat) : Nat → Part → Part
  | 0, p => p
  | most + 1, p =>
    if p.left < p.leftEnd && p.right < p.rightEnd && entry a p.left == entry b p.right then
      dropFront a b most { p with left := p.left + 1, right := p.right + 1 }
    else p

/-- A part without the entries that both rows end with, at most so many. -/
def dropBack (a b : Array Nat) : Nat → Part → Part
  | 0, p => p
  | most + 1, p =>
    if p.left < p.leftEnd && p.right < p.rightEnd &&
        entry a (p.leftEnd - 1) == entry b (p.rightEnd - 1) then
      dropBack a b most { p with leftEnd := p.leftEnd - 1, rightEnd := p.rightEnd - 1 }
    else p

/-- The places in a part that are changed in each of the rows, in at most so many steps. -/
def search (a b : Array Nat) : Nat → Part → List Nat × List Nat
  | 0, _ => ([], [])
  | steps + 1, p =>
    let p := dropBack a b (p.leftEnd - p.left) (dropFront a b (p.leftEnd - p.left) p)
    if p.left = p.leftEnd then ([], (List.range (p.rightEnd - p.right)).map (p.right + ·))
    else if p.right = p.rightEnd then ((List.range (p.leftEnd - p.left)).map (p.left + ·), [])
    else
      let (x, y) := middle a b p
      let (one, two) := search a b steps { p with leftEnd := x, rightEnd := y }
      let (three, four) := search a b steps { p with left := x, right := y }
      (one ++ three, two ++ four)

/-! ## Entries that are left out -/

/-- How much speaks for leaving an entry out: nothing, something, or all. -/
inductive Doubt where
  | kept
  | frequent
  | alone
  deriving DecidableEq, Repr, Inhabited

/-- The doubts about the entries of a row beside another one. -/
def doubts (row other : Array Nat) : Array Doubt :=
  let rec many : Nat → Nat → Nat → Nat
    | 0, _, many => many
    | steps + 1, size, n => if size / 4 = 0 then n else many steps (size / 4) (n * 2)
  let limit := many 40 (row.size / 64) 5
  row.map fun x =>
    let count := other.foldl (fun n y => if x = y then n + 1 else n) 0
    if count = 0 then .alone else if limit < count then .frequent else .kept

/-- Doubts where frequent entries at one end of a run are kept, until so many entries follow
one another that are alone. -/
def trimmed : Nat → Nat → List Doubt → List Doubt
  | _, _, [] => []
  | place, run, d :: rest =>
    if 8 ≤ place && d = .alone then d :: rest
    else
      match d with
      | .frequent => .kept :: trimmed (place + 1) 0 rest
      | .kept => d :: trimmed (place + 1) 0 rest
      | .alone => if run + 1 = 3 then d :: rest else d :: trimmed (place + 1) (run + 1) rest

/-- Doubts where runs of so many frequent entries are kept. -/
def withoutLong (least : Nat) : Nat → List Doubt → List Doubt
  | 0, run => run
  | _, [] => []
  | most + 1, d :: rest =>
    let run := (d :: rest).takeWhile (· == .frequent)
    if run.isEmpty then d :: withoutLong least most rest
    else
      let shown := if least ≤ run.length then run.map fun _ => Doubt.kept else run
      shown ++ withoutLong least most ((d :: rest).drop run.length)

/-- A run of doubts that begins and ends with entries that are alone, after it is settled which
of the frequent ones are kept. -/
def settledRun (run : List Doubt) : List Doubt :=
  let frequent := run.countP (· == .frequent)
  if run.length < frequent * 4 then run.map fun d => if d = .frequent then .kept else d
  else
    let rec root : Nat → Nat → Nat → Nat
      | 0, _, n => n
      | steps + 1, size, n => if size / 4 = 0 then n else root steps (size / 4) (n * 2)
    let least := root 40 (run.length / 4) 1 + 1
    let run := withoutLong least run.length run
    let run := trimmed 0 0 run
    (trimmed 0 0 run.reverse).reverse

/-- All doubts after it is settled which frequent entries are kept, at most so many runs. -/
def settled : Nat → List Doubt → List Doubt
  | 0, doubts => doubts
  | _, [] => []
  | most + 1, .alone :: rest =>
    let run := (Doubt.alone :: rest).takeWhile (· != .kept)
    let ends := run.reverse.takeWhile (· == .frequent)
    let inner := run.take (run.length - ends.length)
    settledRun inner ++ (ends.map fun _ => Doubt.kept) ++
      settled most ((Doubt.alone :: rest).drop run.length)
  | most + 1, _ :: rest => .kept :: settled most rest

/-- Whether entries of a row are left out beside another one. -/
def leftOut (row other : Array Nat) : Array Bool :=
  ((settled row.size (doubts row other).toList).map (· != .kept)).toArray

/-! ## Moving changes -/

/-- Which entries of a row are changed. Beyond its ends nothing is. -/
structure Marks where
  marks : Array Bool

namespace Marks

def get (m : Marks) (place : Int) : Bool :=
  if place < 0 then false else (m.marks[place.toNat]?).getD false

def set (m : Marks) (place : Int) (changed : Bool) : Marks :=
  if place < 0 then m else ⟨m.marks.setIfInBounds place.toNat changed⟩

/-- The next place from one on that is not changed. -/
def skip (m : Marks) (place : Int) : Int := Id.run do
  let mut place := place
  for _ in [0:m.marks.size + 1] do
    if m.get place then place := place + 1 else break
  return place

def skipBack (m : Marks) (place : Int) : Int := Id.run do
  let mut place := place - 1
  for _ in [0:m.marks.size + 1] do
    if m.get place then place := place - 1 else break
  return place

end Marks

/-- The changes of a row, moved where it fits those of another row. -/
def moved (row : Array Nat) (own other : Marks) : Marks := Id.run do
  let size : Int := row.size
  let same (i j : Int) : Bool := entry row i.toNat == entry row j.toNat
  let mut own := own
  let mut i : Int := 0
  let mut j : Int := 0
  for _ in [0:row.size + 1] do
    -- The next change, and where it would be in the other row.
    for _ in [0:row.size + 1] do
      if i < size && !own.get i then
        j := other.skip j + 1
        i := i + 1
      else break
    if i ≥ size then break
    let mut start := i
    i := own.skip i
    j := other.skip j
    let mut corresponding := size
    for _ in [0:2 * row.size + 2] do
      let length := i - start
      for _ in [0:row.size + 1] do
        if 0 < start && same (start - 1) (i - 1) then
          start := start - 1
          own := own.set start true
          i := i - 1
          own := own.set i false
          for _ in [0:row.size + 1] do
            if own.get (start - 1) then start := start - 1 else break
          j := other.skipBack j
        else break
      corresponding := if other.get (j - 1) then i else size
      for _ in [0:row.size + 1] do
        if i != size && same start i then
          own := own.set start false
          start := start + 1
          own := own.set i true
          i := own.skip (i + 1)
          j := j + 1
          for _ in [0:other.marks.size + 1] do
            if other.get j then
              corresponding := i
              j := j + 1
            else break
        else break
      if length == i - start then break
    for _ in [0:row.size + 1] do
      if corresponding < i then
        start := start - 1
        own := own.set start true
        i := i - 1
        own := own.set i false
        j := other.skipBack j
      else break
  return own

/-! ## Changes -/

/-- The changes from places on, where it is known which entries are changed. -/
def changesFrom (left right : Nat) : Nat → List Bool → List Bool → List Change
  | 0, _, _ => []
  | steps + 1, a, b =>
    let deleted := (a.takeWhile id).length
    let inserted := (b.takeWhile id).length
    let rest (n m : Nat) : List Change :=
      changesFrom (left + n) (right + m) steps (a.drop n) (b.drop m)
    if deleted = 0 && inserted = 0 then
      if a.isEmpty && b.isEmpty then [] else rest 1 1
    else ⟨left, deleted, right, inserted⟩ :: rest deleted inserted

/-- The changes between two rows of which nothing in front and at the end is the same. -/
def changesWithin (minimal : Bool) (a b : Array Nat) : List Change :=
  let outA := if minimal then Array.replicate a.size false else leftOut a b
  let outB := if minimal then Array.replicate b.size false else leftOut b a
  let placesA := ((List.range a.size).filter fun k => !(outA[k]?).getD false).toArray
  let placesB := ((List.range b.size).filter fun k => !(outB[k]?).getD false).toArray
  let rowA := placesA.map (entry a)
  let rowB := placesB.map (entry b)
  let (changedA, changedB) :=
    search rowA rowB (rowA.size + rowB.size + 1) ⟨0, rowA.size, 0, rowB.size⟩
  let mark (out : Array Bool) (places : Array Nat) (changed : List Nat) : Marks :=
    ⟨changed.foldl (fun marks k => marks.setIfInBounds ((places[k]?).getD 0) true) out⟩
  let marksA := mark outA placesA changedA
  let marksB := mark outB placesB changedB
  let marksA := moved a marksA marksB
  let marksB := moved b marksB marksA
  changesFrom 0 0 (a.size + b.size + 1) marksA.marks.toList marksB.marks.toList

/-- How many entries two rows have in common at their beginnings. -/
def commonFront : List Nat → List Nat → Nat
  | x :: a, y :: b => if x = y then commonFront a b + 1 else 0
  | _, _ => 0

def changes (minimal : Bool) (a b : List Nat) : List Change :=
  let front := commonFront a b
  let a := a.drop front
  let b := b.drop front
  let back := commonFront a.reverse b.reverse
  let inner := changesWithin minimal (a.take (a.length - back)).toArray
    (b.take (b.length - back)).toArray
  inner.map fun c => { c with left := c.left + front, right := c.right + front }

end Difference

end CommandChains.Machine
