/-!
# Command language: edit scripts

How one list comes from another one by taking members away and putting others in, with as few of
them as possible.

* `EditScript.Marks`       which members of both lists are no common ones;
* `EditScript.middle`      a place in the middle of a shortest way;
* `EditScript.marks`       the members that a shortest way takes away and puts in;
* `EditScript.shifted`     changes moved along members that are the same;
* `EditScript.changes`     the stretches that differ.
-/

namespace CoroBridge
namespace Shell
namespace EditScript

structure Marks where
  first : Array Bool
  second : Array Bool

/-- a stretch that differs: where it begins in both lists, and how long it is in each -/
structure Change where
  first : Nat
  second : Nat
  taken : Nat
  put : Nat
  deriving DecidableEq, Repr

def at_ {α : Type} (usual : α) (a : Array α) (i : Int) : α :=
  if i < 0 then usual else a.getD i.toNat usual

/-- whether two lists have the same member at places -/
def same (x y : Array Nat) (i j : Int) : Bool :=
  0 ≤ i && 0 ≤ j && (match x[i.toNat]?, y[j.toNat]? with
    | some a, some b => a == b
    | _, _ => false)

/-- a place as far on as the members are the same -/
def slide (x y : Array Nat) (xlim ylim : Int) : Nat → Int → Int → Int × Int
  | 0, i, j => (i, j)
  | n + 1, i, j =>
    if i < xlim ∧ j < ylim ∧ same x y i j then slide x y xlim ylim n (i + 1) (j + 1) else (i, j)

/-- a place as far back as the members are the same -/
def slideBack (x y : Array Nat) (xoff yoff : Int) : Nat → Int → Int → Int × Int
  | 0, i, j => (i, j)
  | n + 1, i, j =>
    if xoff < i ∧ yoff < j ∧ same x y (i - 1) (j - 1) then slideBack x y xoff yoff n (i - 1) (j - 1)
    else (i, j)

/-- the part of both lists between two places -/
structure Part where
  xoff : Int
  xlim : Int
  yoff : Int
  ylim : Int

/-- how far ways have come on each diagonal, from the front and from the back, and the diagonals
that they have reached -/
structure Reach where
  ahead : Array Int
  back : Array Int
  fmin : Int
  fmax : Int
  bmin : Int
  bmax : Int

def diagonals (low high : Int) : List Int :=
  (List.range ((high - low) / 2 + 1).toNat).map fun (i : Nat) => high - 2 * i

def middle (x y : Array Nat) (p : Part) (offset : Int) : Nat → Reach → Int × Int
  | 0, _ => (p.xlim, p.yoff)
  | n + 1, r =>
    let size := x.size + y.size + 1
    let dmin := p.xoff - p.ylim
    let dmax := p.xlim - p.yoff
    let odd := ((p.xoff - p.yoff) - (p.xlim - p.ylim)) % 2 ≠ 0
    let get := fun (a : Array Int) (d : Int) => at_ 0 a (d + offset)
    let set := fun (a : Array Int) (d v : Int) => a.setIfInBounds (d + offset).toNat v
    let (fmin, ahead) := if r.fmin > dmin then (r.fmin - 1, set r.ahead (r.fmin - 2) (-1))
      else (r.fmin + 1, r.ahead)
    let (fmax, ahead) := if r.fmax < dmax then (r.fmax + 1, set ahead (r.fmax + 2) (-1))
      else (r.fmax - 1, ahead)
    let forward := (diagonals fmin fmax).foldl (fun (s : Array Int × Option (Int × Int)) d =>
      if s.2.isSome then s
      else
        let low := get s.1 (d - 1)
        let high := get s.1 (d + 1)
        let start := if low < high then high else low + 1
        let (i, j) := slide x y p.xlim p.ylim size start (start - d)
        let found := odd && r.bmin ≤ d && d ≤ r.bmax && get r.back d ≤ i
        (set s.1 d i, if found then some (i, j) else none)) (ahead, none)
    match forward.2 with
    | some spot => spot
    | none =>
      let ahead := forward.1
      let large : Int := 2 * size + 2
      let (bmin, back) := if r.bmin > dmin then (r.bmin - 1, set r.back (r.bmin - 2) large)
        else (r.bmin + 1, r.back)
      let (bmax, back) := if r.bmax < dmax then (r.bmax + 1, set back (r.bmax + 2) large)
        else (r.bmax - 1, back)
      let backward := (diagonals bmin bmax).foldl (fun (s : Array Int × Option (Int × Int)) d =>
        if s.2.isSome then s
        else
          let low := get s.1 (d - 1)
          let high := get s.1 (d + 1)
          let start := if low < high then low else high - 1
          let (i, j) := slideBack x y p.xoff p.yoff size start (start - d)
          let found := !odd && fmin ≤ d && d ≤ fmax && i ≤ get ahead d
          (set s.1 d i, if found then some (i, j) else none)) (back, none)
      match backward.2 with
      | some spot => spot
      | none => middle x y p offset n ⟨ahead, backward.1, fmin, fmax, bmin, bmax⟩

/-- the members of a part marked that a shortest way takes away and puts in -/
def markPart (x y : Array Nat) : Nat → Part → Marks → Marks
  | 0, _, m => m
  | n + 1, p, m =>
    let size := x.size + y.size + 1
    let (xoff, yoff) := slide x y p.xlim p.ylim size p.xoff p.yoff
    let (xlim, ylim) := slideBack x y xoff yoff size p.xlim p.ylim
    let range := fun (a b : Int) => (List.range (b - a).toNat).map fun (i : Nat) => a.toNat + i
    if xoff = xlim then
      { m with second := (range yoff ylim).foldl (fun a i => a.setIfInBounds i true) m.second }
    else if yoff = ylim then
      { m with first := (range xoff xlim).foldl (fun a i => a.setIfInBounds i true) m.first }
    else
      let offset : Int := y.size + 1
      let zeros := Array.replicate (x.size + y.size + 3) (0 : Int)
      let fmid := xoff - yoff
      let bmid := xlim - ylim
      let start : Reach :=
        ⟨zeros.setIfInBounds (fmid + offset).toNat xoff,
          zeros.setIfInBounds (bmid + offset).toNat xlim, fmid, fmid, bmid, bmid⟩
      let p : Part := ⟨xoff, xlim, yoff, ylim⟩
      let (i, j) := middle x y p offset (x.size + y.size + 2) start
      markPart x y n ⟨i, xlim, j, ylim⟩ (markPart x y n ⟨xoff, i, yoff, j⟩ m)

def marks (x y : Array Nat) : Marks :=
  let kept := fun (a b : Array Nat) => (a.toList.zipIdx.filter fun p => b.contains p.1)
  let kx := kept x y
  let ky := kept y x
  let inner : Marks := ⟨Array.replicate kx.length false, Array.replicate ky.length false⟩
  let m := markPart (kx.map Prod.fst).toArray (ky.map Prod.fst).toArray (kx.length + ky.length + 2)
    ⟨0, kx.length, 0, ky.length⟩ inner
  let spread := fun (size : Nat) (k : List (Nat × Nat)) (inner : Array Bool) =>
    (k.zipIdx).foldl (fun (a : Array Bool) (p : (Nat × Nat) × Nat) =>
      a.setIfInBounds p.1.2 (inner.getD p.2 false)) (Array.replicate size true)
  ⟨spread x.size kx m.first, spread y.size ky m.second⟩

/-! ## shifting -/

def skipMarked (a : Array Bool) : Nat → Int → Int
  | 0, i => i
  | n + 1, i => if at_ false a i then skipMarked a n (i + 1) else i

def skipBack (a : Array Bool) : Nat → Int → Int
  | 0, i => i
  | n + 1, i => if at_ false a i then skipBack a n (i - 1) else i

/-- a run of changes while it is moved: where it begins and ends, the place in the other list, and
the last end that has a counterpart there -/
structure Run where
  marked : Array Bool
  start : Int
  stop : Int
  other : Int
  matching : Int

/-- a run moved back as far as the members are the same -/
def moveBack (x : Array Nat) (other : Array Bool) : Nat → Run → Run
  | 0, r => r
  | n + 1, r =>
    if 0 < r.start ∧ same x x (r.start - 1) (r.stop - 1) then
      let marked := (r.marked.setIfInBounds (r.start - 1).toNat true).setIfInBounds
        (r.stop - 1).toNat false
      let start := skipBack marked (x.size + 1) (r.start - 2) + 1
      let j := skipBack other (other.size + 1) (r.other - 1)
      moveBack x other n { r with marked := marked, start := start, stop := r.stop - 1, other := j }
    else r

/-- a run moved on as far as the members are the same -/
def moveOn (x : Array Nat) (other : Array Bool) : Nat → Run → Run
  | 0, r => r
  | n + 1, r =>
    if r.stop < x.size ∧ same x x r.start r.stop then
      let marked := (r.marked.setIfInBounds r.start.toNat false).setIfInBounds r.stop.toNat true
      let stop := skipMarked marked (x.size + 1) (r.stop + 1)
      let j := skipMarked other (other.size + 1) (r.other + 1)
      let matching := if j > r.other + 1 then stop else r.matching
      moveOn x other n
        { marked := marked, start := r.start + 1, stop := stop, other := j, matching := matching }
    else r

/-- a run moved back and on until it grows no more -/
def settle (x : Array Nat) (other : Array Bool) : Nat → Run → Run
  | 0, r => r
  | n + 1, r =>
    let length := r.stop - r.start
    let r := moveBack x other (x.size + 1) r
    let r := { r with matching := if at_ false other (r.other - 1) then r.stop else x.size }
    let r := moveOn x other (x.size + 1) r
    if r.stop - r.start = length then r else settle x other n r

/-- a run moved back to where it has a counterpart -/
def align (other : Array Bool) : Nat → Run → Run
  | 0, r => r
  | n + 1, r =>
    if r.matching < r.stop then
      let marked := (r.marked.setIfInBounds (r.start - 1).toNat true).setIfInBounds
        (r.stop - 1).toNat false
      let j := skipBack other (other.size + 1) (r.other - 1)
      align other n { r with marked := marked, start := r.start - 1, stop := r.stop - 1, other := j }
    else r

/-- the next run of changes, and the place in the other list -/
def nextRun (marked other : Array Bool) (size : Int) : Nat → Int → Int → Int × Int
  | 0, i, j => (i, j)
  | n + 1, i, j =>
    if i < size ∧ !at_ false marked i then
      nextRun marked other size n (i + 1) (skipMarked other (other.size + 1) j + 1)
    else (i, j)

/-- all runs of changes in a list shifted, from a place on -/
def shiftFrom (x : Array Nat) (other : Array Bool) : Nat → Int → Int → Array Bool → Array Bool
  | 0, _, _, marked => marked
  | n + 1, i, j, marked =>
    let (i, j) := nextRun marked other x.size (x.size + 1) i j
    if (x.size : Int) ≤ i then marked
    else
      let stop := skipMarked marked (x.size + 1) i
      let j := skipMarked other (other.size + 1) j
      let r := settle x other (x.size + 2) ⟨marked, i, stop, j, x.size⟩
      let r := align other (x.size + 1) r
      shiftFrom x other n r.stop r.other r.marked

def shifted (x y : Array Nat) (m : Marks) : Marks :=
  let first := shiftFrom x m.second (x.size + 1) 0 0 m.first
  let second := shiftFrom y first (y.size + 1) 0 0 m.second
  ⟨first, second⟩

/-- the stretches that differ, from places in both lists on -/
def stretches (m : Marks) : Nat → Nat → Nat → List Change
  | 0, _, _ => []
  | n + 1, i, j =>
    if m.first.size ≤ i ∧ m.second.size ≤ j then []
    else
      let i' := (skipMarked m.first (m.first.size + 1) i).toNat
      let j' := (skipMarked m.second (m.second.size + 1) j).toNat
      if i' = i ∧ j' = j then stretches m n (i + 1) (j + 1)
      else ⟨i, j, i' - i, j' - j⟩ :: stretches m n i' j'

def changes (x y : Array Nat) : List Change :=
  stretches (shifted x y (marks x y)) (x.size + y.size + 2) 0 0

end EditScript
end Shell
end CoroBridge
