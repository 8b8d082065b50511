import CoroBridge.Shell.Program.Awk.Syntax
import CoroBridge.Shell.Program.Awk.Table

/-!
# Command language: the language of `awk`, values

Values as numbers and as texts.

* `Awk.Value.toFloat`, `Awk.Value.toText`   values as numbers and as texts;
* `Awk.Value.holds`                         whether a value counts as true;
* `Awk.compare`                             two values compared;
* `Awk.printed`                             a format with its values;
* `Awk.substring`                           a part of a text;
* `Awk.replacement`                         what a match is replaced with.
-/

namespace CoroBridge
namespace Shell
namespace Awk

/-! ## numbers and texts -/

def Value.toFloat : Value → Float
  | unset => 0
  | number x => x
  | text t => (leading t).1
  | given t => (leading t).1

/-- a number without what stands after its point; beyond 64 bits the greatest or the least one -/
def whole (x : Float) : Int :=
  if x != x then -(Int.pow 2 63)
  else
    let f := Fraction.ofFloat x
    let n : Int := f.num / f.den
    if x < 0 then max (-(Int.pow 2 63 - 1)) (-n) else min n (Int.pow 2 64 - 1)

def whole? (x : Float) : Option Int :=
  if x - x == 0 ∧ x.floor == x ∧ -9223372036854775808 ≤ x ∧ x ≤ 18446744073709551616 then
    let f := Fraction.ofFloat x
    let n : Int := f.num / f.den
    some (if x < 0 then -n else min n (Int.pow 2 64 - 1))
  else none

/-- the reasons why a format cannot be written -/
inductive FormatFault where
  | missing
  | improper (n : Nat)
  deriving DecidableEq, Repr

/-- the wording of a fault in a format that a function or a statement has -/
def FormatFault.message (who format : Text) : FormatFault → Text
  | missing => "not enough arguments passed to " ++ who ++ "(\"" ++ format ++ "\")"
  | improper n =>
    "improper conversion(number " ++ Text.ofNat n ++ ") in " ++ who ++ "(\"" ++ format ++ "\")"

/-- what is written for a directive and the length of its text; numbers become texts by `spell` -/
def directive (spell : Value → Text) (d : Directive) (v : Value) : Option Text :=
  match d.kind with
  | 'c' =>
    let byte := fun (x : Float) => d.pad false [] [Char.ofNat ((whole x) % 256).toNat]
    match v with
    | .unset => some (d.pad false [] ['\x00'])
    | .number x => some (byte x)
    | .text t => some (d.pad false [] [t.headD '\x00'])
    | .given t =>
      match numeric? t with
      | some x => some (byte x)
      | none => some (d.pad false [] [t.headD '\x00'])
  | 's' => some (d.text (spell v))
  | c =>
    if c ∈ ['d', 'i', 'o', 'x', 'X', 'u'] then
      some (d.whole (whole v.toFloat))
    else if c ∈ ['e', 'E', 'f', 'g', 'G'] then some (d.float v.toFloat)
    else none

/-- the width or the precision that a value stands for, where `text` begins with an asterisk, or the
digits there; what is left of the values and of the text -/
def measured (vs : List Value) (t : Text) : Option (Option Int × List Value × Text) :=
  match t with
  | '*' :: r =>
    match vs with
    | [] => none
    | v :: vs => some (some (whole v.toFloat), vs, r)
  | _ =>
    let digits := t.takeWhile Char.isDigit
    some ((number? digits).map Int.ofNat, vs, t.drop digits.length)

/-- the precision after a point, if there is one, and what is left of the values and of the text -/
def preciseness (vs : List Value) (t : Text) : Option (Option Int × List Value × Text) :=
  match t with
  | '.' :: r => (measured vs r).map fun m => (some (m.1.getD 0), m.2)
  | _ => some (none, vs, t)

def printed (spell : Value → Text) : Nat → Nat → List Value → Text → Text × Option FormatFault
  | 0, _, _, _ => ([], none)
  | n + 1, k, vs, t =>
    match t with
    | [] => ([], none)
    | '%' :: '%' :: r =>
      let p := printed spell n k vs r
      ('%' :: p.1, p.2)
    | '%' :: r =>
      let flags := r.takeWhile fun c => "-+ #0".toList.contains c
      match measured vs (r.drop flags.length) with
      | none => ([], some .missing)
      | some (width, vs, r) =>
        match preciseness vs r with
        | none => ([], some .missing)
        | some (precision, vs, r) =>
          let r := r.dropWhile fun c => c == 'h' || c == 'l'
          match vs with
          | [] => ([], some .missing)
          | v :: vs =>
            let width := width.getD 0
            let d : Directive :=
              ⟨if width < 0 then '-' :: flags else flags, width.natAbs,
                precision.bind fun p => if p < 0 then none else some p.toNat, r.headD '\x00'⟩
            match directive spell d v with
            | none => ([], some (.improper (k + 1)))
            | some u =>
              let p := printed spell n (k + 1) vs (r.drop 1)
              (u ++ p.1, p.2)
    | c :: r =>
      let p := printed spell n k vs r
      (c :: p.1, p.2)

def spelled (format : Text) (x : Float) : Text :=
  match whole? x with
  | some n => ofInt n
  | none =>
    if x != x then "-nan"
    else if x - x != 0 then (if x < 0 then "-inf" else "inf")
    else (printed (fun _ => []) (format.length + 1) 0 [.number x] format).1

def Value.toText (format : Text) : Value → Text
  | unset => []
  | number x => spelled format x
  | text t => t
  | given t => t

def Value.toKey (format : Text) : Value → Key
  | number x =>
    match whole? x with
    | some n => .whole n
    | none => .text (spelled format x)
  | v => .text (v.toText format)

/-! ## comparing -/

def Value.number? : Value → Option Float
  | unset => some 0
  | number x => some x
  | text _ => none
  | given t => numeric? t

def Value.holds : Value → Bool
  | unset => false
  | number x => x != 0
  | text t => t != []
  | given t => ((numeric? t).map (· != 0)).getD (t != [])

def Value.ofBool (b : Bool) : Value := .number (if b then 1 else 0)

def compare (format : Text) (r : Relation) (a b : Value) : Bool :=
  match a.number?, b.number? with
  | some x, some y =>
    match r with
    | .less => x < y
    | .notMore => x ≤ y
    | .equal => x == y
    | .unequal => x != y
    | .more => y < x
    | .notLess => y ≤ x
  | _, _ =>
    let o := Ord.compare (a.toText format) (b.toText format)
    match r with
    | .less => o == .lt
    | .notMore => o != .gt
    | .equal => o == .eq
    | .unequal => o != .eq
    | .more => o == .gt
    | .notLess => o != .lt

def Operation.apply (op : Operation) (x y : Float) : Float :=
  match op with
  | add => x + y
  | subtract => x - y
  | multiply => x * y
  | divide => x / y
  | remain => remainder x y
  | power => Float.pow x y
where
  /-- what is left of a number after it is divided toward zero -/
  remainder (x y : Float) : Float :=
    if x - x != 0 ∨ y == 0 ∨ y != y then 0 / 0 * -1
    else if y - y != 0 then x
    else
      let a := Fraction.ofFloat x
      let b := Fraction.ofFloat y
      let den := a.den * b.den
      let rest := (a.num * b.den) % (b.num * a.den)
      let r := Float.ofNat (rest / Nat.gcd rest den) / Float.ofNat (den / Nat.gcd rest den)
      if x < 0 then -r else r

/-! ## texts -/

/-- the part of a text of some length that begins at a place, counted from one; both are cut to whole
numbers, and a place before the text makes the part longer -/
def substring (t : Text) (first : Float) (length : Option Float) : Text :=
  let first := whole first
  let length := (length.map whole).getD t.length
  if 1 ≤ first then (t.drop (first - 1).toNat).take length.toNat
  else t.take (length - first).toNat

def slashes (t : Text) : Nat := (t.takeWhile (· == '\\')).length

def replacement (found : Text) : Nat → Text → Text
  | 0, _ => []
  | n + 1, t =>
    match t with
    | [] => []
    | '&' :: r => found ++ replacement found n r
    | '\\' :: r =>
      let k := slashes t
      match t.drop k with
      | '&' :: r =>
        List.replicate (k / 2) '\\' ++ (if k % 2 = 1 then ['&'] else found)
          ++ replacement found n r
      | _ => List.replicate k '\\' ++ replacement found n (r.drop (k - 1))
    | c :: r => c :: replacement found n r

/-- a text with matches replaced, and their number; `moved` tells that the last match ends here,
where an empty one does not count -/
def substituted (r : Regex) (every : Bool) (with_ : Text) :
    Nat → Option Char → Bool → Text → Text × Nat
  | 0, _, _, t => (t, 0)
  | n + 1, before, moved, t =>
    match r.find? ⟨false, false⟩ before t with
    | none => (t, 0)
    | some m =>
      let new := replacement m.text (with_.length + 1) with_
      let go := fun (before : Option Char) (moved : Bool) (t : Text) =>
        if every then substituted r every with_ n before moved t else (t, 0)
      if m.text = [] then
        let here := if moved && m.before.isEmpty then ([], 0) else (new, 1)
        match m.after with
        | [] => (m.before ++ here.1, here.2)
        | c :: after =>
          if !every then (m.before ++ here.1 ++ m.after, here.2)
          else
            let p := go (some c) false after
            (m.before ++ here.1 ++ c :: p.1, here.2 + p.2)
      else
        let p := go m.text.getLast? true m.after
        (m.before ++ new ++ p.1, p.2 + 1)

/-! ## parts -/

/-- what separates the parts of a text: blanks, nothing, or what an expression matches -/
inductive Separator where
  | blanks
  | nothing
  | char (c : Char)
  | regex (r : Regex)

def Separator.of (t : Text) : Except NotationFault Separator :=
  match t with
  | [] => .ok .nothing
  | [' '] => .ok .blanks
  | [c] => .ok (.char c)
  | _ => (Awk.regex t).map .regex

def isGap (c : Char) : Bool := c == ' ' || c == '\t' || c == '\n'

def blankParts : Nat → Text → List Text
  | 0, _ => []
  | n + 1, t =>
    match t.dropWhile isGap with
    | [] => []
    | r =>
      let w := r.takeWhile fun c => !isGap c
      w :: blankParts n (r.drop w.length)

/-- the parts of a text between matches of an expression -/
def matchParts (r : Regex) : Nat → Option Char → Text → List Text
  | 0, _, t => [t]
  | n + 1, before, t =>
    match r.find? ⟨false, false⟩ before t with
    | none => [t]
    | some m =>
      if m.text = [] then
        match m.after with
        | [] => [t]
        | [_] => [t]
        | c :: after => Text.onto c (matchParts r n (some c) after)
      else m.before :: matchParts r n m.text.getLast? m.after

def Separator.parts (s : Separator) (t : Text) : List Text :=
  if t = [] then []
  else
    match s with
    | blanks => blankParts (t.length + 1) t
    | nothing => t.map fun c => [c]
    | char c => t.splitOn c
    | regex r => matchParts r (t.length + 1) none t

end Awk
end Shell
end CoroBridge
