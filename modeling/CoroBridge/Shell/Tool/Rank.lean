import CoroBridge.Shell.Format

/-!
# Command language: ranks

The orders in which texts can be put, as the options of `sort` name them.

* `Numeral`           the number that a text begins with, exactly;
* `compareNumbers`    texts by the numbers that they begin with;
* `compareSizes`      by numbers with units;
* `compareFloats`     by floating-point numbers;
* `compareMonths`     by the names of months;
* `compareVersions`   by the numbers in them.
-/

namespace CoroBridge
namespace Shell

structure Numeral where
  negative : Bool
  whole : Text
  fraction : Text
  deriving DecidableEq, Repr

/-- the number that a text begins with, after blanks, and what follows -/
def Numeral.read (t : Text) : Numeral × Text :=
  let t := t.dropWhile isBlank
  let (negative, t) := match t with
    | '-' :: r => (true, r)
    | _ => (false, t)
  let whole := t.takeWhile Char.isDigit
  let r := t.drop whole.length
  match r with
  | '.' :: q =>
    let fraction := q.takeWhile Char.isDigit
    (⟨negative, whole, fraction⟩, q.drop fraction.length)
  | _ => (⟨negative, whole, []⟩, r)

def Numeral.scaled (n : Numeral) (places : Nat) : Int :=
  let d := digitsValue (n.whole ++ n.fraction) * Nat.pow 10 (places - n.fraction.length)
  if n.negative then -(d : Int) else d

def Numeral.compare (a b : Numeral) : Ordering :=
  let places := max a.fraction.length b.fraction.length
  Ord.compare (a.scaled places) (b.scaled places)

def compareNumbers (a b : Text) : Ordering := (Numeral.read a).1.compare (Numeral.read b).1

/-- the rank of the unit after a number: none for zero, and turned around below zero -/
def unitRank (t : Text) : Int :=
  let (n, rest) := Numeral.read t
  let rank : Int :=
    match rest with
    | c :: _ =>
      let units : Text := "KMGTPEZYRQ"
      let c := if c = 'k' then 'K' else c
      ((units.findIdx? (· == c)).map fun i => (i + 1 : Int)).getD 0
    | [] => 0
  if digitsValue (n.whole ++ n.fraction) = 0 then 0 else if n.negative then -rank else rank

def compareSizes (a b : Text) : Ordering :=
  (compare (unitRank a) (unitRank b)).then (compareNumbers a b)

def compareFloats (a b : Text) : Ordering :=
  let rank := fun (t : Text) =>
    let (x, n) := floating t
    if n = 0 then (0, x) else if x != x then (1, x) else (2, x)
  let (i, x) := rank a
  let (j, y) := rank b
  (compare i j).then
    (if i < 2 then .eq else if x < y then .lt else if y < x then .gt else .eq)

def months : List Text :=
  ["JAN", "FEB", "MAR", "APR", "MAY", "JUN", "JUL", "AUG", "SEP", "OCT", "NOV",
    "DEC"].map String.toList

def monthOf (t : Text) : Nat :=
  let name := ((t.dropWhile isBlank).take 3).map Char.toUpper
  ((months.findIdx? (· == name)).map (· + 1)).getD 0

def compareMonths (a b : Text) : Ordering := compare (monthOf a) (monthOf b)

/-! ## versions -/

/-- the rank of a character between numbers: letters come before other signs, and the end after a
tilde only -/
def versionRank : Text → Int
  | [] => -1
  | c :: _ =>
    if c.isDigit then 0
    else if c.isAlpha then c.toNat
    else if c = '~' then -2
    else c.toNat + 256

/-- the order of two texts by what is between numbers and by the numbers, in at most `n` steps -/
def compareParts : Nat → Text → Text → Ordering
  | 0, _, _ => .eq
  | _, [], [] => .eq
  | n + 1, a, b =>
    let digit := fun (t : Text) => t.head?.all Char.isDigit
    if digit a && digit b then
      let a := a.dropWhile (· == '0')
      let b := b.dropWhile (· == '0')
      let x := a.takeWhile Char.isDigit
      let y := b.takeWhile Char.isDigit
      let o := (compare x.length y.length).then (compareOfLessAndEq x y)
      if o = .eq then compareParts n (a.drop x.length) (b.drop y.length) else o
    else
      let o := compare (versionRank a) (versionRank b)
      if o = .eq then compareParts n (a.drop 1) (b.drop 1) else o

/-- whether a text is an ending of a file name: a point, a letter, and letters and digits -/
def isEnding : Text → Bool
  | '.' :: c :: r =>
    (c.isAlpha || c == '~') && r.all fun c => c.isAlphanum || c == '~'
  | _ => false

/-- a name without the endings after its first part -/
def withoutEndings : Nat → Text → Text
  | 0, t => t
  | n + 1, t =>
    let after := (t.reverse.takeWhile (· != '.')).reverse
    let front := t.take (t.length - after.length - 1)
    if after.length < t.length ∧ isEnding ('.' :: after) then
      withoutEndings n front
    else t

def compareVersions (a b : Text) : Ordering :=
  let special := fun (t : Text) =>
    if t = [] then 0
    else if t = ['.'] then 1
    else if t = ['.', '.'] then 2
    else if t.head? = some '.' then 3
    else 4
  let n := a.length + b.length + 2
  (compare (special a) (special b)).then
    ((compareParts n (withoutEndings n a) (withoutEndings n b)).then (compareParts n a b))

end Shell
end CoroBridge
