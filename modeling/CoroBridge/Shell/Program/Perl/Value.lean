import CoroBridge.Shell.Program.Perl.Word

/-!
# Command language: the language of `perl`, values

Values as numbers and as texts, and what operations make of them.

* `Perl.Value`                 the values;
* `Perl.Value.number`          a value as a number;
* `Perl.Value.toText`          a value as a text;
* `Perl.Value.holds`           whether a value counts as true;
* `Perl.operation?`            the operations on two numbers or texts;
* `Perl.Value.next`            the value that comes after another one;
* `Perl.formatted`             a format with its values.
-/

namespace CoroBridge
namespace Shell
namespace Perl

inductive Value where
  | absent
  | whole (n : Int)
  | number (x : Float)
  | text (t : Text)
  | dual (n : Nat) (t : Text)
  | cell (id : Nat)
  | array (id : Nat)
  | hash (id : Nat)
  | code (id : Nat)
  | handle (name : Text)
  | regex (source : Text) (k : Trial.Notation)

namespace Value

def ofBool (b : Bool) : Value := if b then .whole 1 else .text []

def count (n : Nat) : Value := .whole n

def ofWhole (n : Int) : Value :=
  if -(Int.pow 2 63) ≤ n ∧ n < Int.pow 2 64 then .whole n else .number (Float.ofInt n)

/-- the whole number that a floating-point number of moderate size is -/
def wholeOf? (x : Float) : Option Int :=
  if x.abs < 9007199254740992 ∧ x.floor == x then
    some (if x < 0 then -(x.abs.toUInt64.toNat : Int) else x.toUInt64.toNat)
  else none

/-- a floating-point number without what stands after its point -/
def cutFloat (x : Float) : Int :=
  if x != x then 0
  else if x - x != 0 then (if x < 0 then -(Int.pow 2 63) else Int.pow 2 63 - 1)
  else
    let f := Fraction.ofFloat x
    let n : Int := f.num / f.den
    if x < 0 then -n else n

/-- the number that a text begins with, and what follows it -/
def leading (t : Text) : Value × Text :=
  let r := t.dropWhile isSpace
  let sign := match r with
    | '-' :: _ => 1
    | '+' :: _ => 1
    | _ => 0
  let q := r.drop sign
  let d := q.takeWhile Char.isDigit
  let after := q.drop d.length
  let c := after.headD ' '
  if d ≠ [] ∧ c ≠ '.' ∧ c ≠ 'e' ∧ c ≠ 'E' then
    let n : Int := digitsValue d
    (ofWhole (if r.head? = some '-' then -n else n), after)
  else
    let (x, used) := floating t
    if used = 0 then (.whole 0, t) else (.number x, t.drop used)

def looksNumeric (t : Text) : Bool :=
  let (_, r) := leading t
  t.any (fun c => !isSpace c) && r.length < t.length && r.all isSpace

def address (id : Nat) : Nat := 0x55d0c0de0000 + 24 * id

def toNumber : Value → Value
  | whole n => .whole n
  | number x => .number x
  | text t => (leading t).1
  | absent => .whole 0
  | dual n _ => .whole n
  | cell id => .whole (address id)
  | array id => .whole (address id)
  | hash id => .whole (address id)
  | code id => .whole (address id)
  | _ => .whole 0

def toFloat (v : Value) : Float :=
  match v.toNumber with
  | .whole n => Float.ofInt n
  | .number x => x
  | _ => 0

def toWhole (v : Value) : Int :=
  match v.toNumber with
  | .whole n => n
  | .number x => cutFloat x
  | _ => 0

def toCount (v : Value) : Nat := v.toWhole.toNat

def whole? (v : Value) : Option Int :=
  match v.toNumber with
  | .whole n => some n
  | .number x => wholeOf? x
  | _ => none

def spelled (x : Float) : Text :=
  if x != x then "NaN"
  else if x - x != 0 then (if x < 0 then "-Inf" else "Inf")
  else if x == 0 then ['0']
  else Directive.float ⟨[], 0, some 15, 'g'⟩ x

def notationLetters (k : Trial.Notation) : Text :=
  (if k.manyLines then ['m'] else []) ++ (if k.wholeText then ['s'] else [])
    ++ (if k.caseless then ['i'] else []) ++ (if k.spaced then ['x'] else [])

def toText : Value → Text
  | absent => []
  | whole n => ofInt n
  | number x => spelled x
  | text t => t
  | dual _ t => t
  | cell id => led "SCALAR" id
  | array id => led "ARRAY" id
  | hash id => led "HASH" id
  | code id => led "CODE" id
  | handle n => "GLOB(0x" ++ inBase 16 (address n.length) ++ [')']
  | regex t k => "(?^" ++ notationLetters k ++ ':' :: t ++ [')']
where
  /-- what leads somewhere, as a text -/
  led (what : Text) (id : Nat) : Text := what ++ "(0x" ++ inBase 16 (address id) ++ [')']

/-- whether a value counts as true -/
def holds : Value → Bool
  | absent => false
  | whole n => n != 0
  | number x => x != 0
  | text t => t != [] && t != ['0']
  | dual n _ => n != 0
  | _ => true

def isDefined : Value → Bool
  | absent => false
  | _ => true

def isReference : Value → Bool
  | cell _ => true
  | array _ => true
  | hash _ => true
  | code _ => true
  | handle _ => true
  | regex _ _ => true
  | _ => false

/-! ## the value that comes after -/

/-- a text of letters and digits that comes after another one; the last character is given first -/
def nextBackward : Text → Text
  | [] => []
  | 'z' :: r => 'a' :: (if r = [] then ['a'] else nextBackward r)
  | 'Z' :: r => 'A' :: (if r = [] then ['A'] else nextBackward r)
  | '9' :: r => '0' :: (if r = [] then ['1'] else nextBackward r)
  | c :: r => Char.ofNat (c.toNat + 1) :: r

def isCounter (t : Text) : Bool :=
  t != [] && (t.dropWhile Char.isAlpha).all Char.isDigit && !t.all Char.isDigit

def nextText (t : Text) : Text := (nextBackward t.reverse).reverse

def shifted (v : Value) (by_ : Int) : Value :=
  match v.whole? with
  | some n => ofWhole (n + by_)
  | none => .number (v.toFloat + Float.ofInt by_)

def next : Value → Value
  | text t =>
    if t = [] then .whole 1
    else if isCounter t then .text (nextText t)
    else shifted (.text t) 1
  | v => shifted v 1

def previous (v : Value) : Value := shifted v (-1)

/-- the texts from one to another, in at most so many steps -/
def textsFrom : Nat → Text → Text → List Value
  | 0, _, _ => []
  | n + 1, a, b =>
    if b.length < a.length then []
    else if a = b then [.text a]
    else .text a :: (if isCounter a ∨ a.all Char.isDigit then textsFrom n (nextText a) b else [])

def upTo (a b : Value) : List Value :=
  let counts : Bool := match a with
    | .text t => looksNumeric t || t == []
    | _ => true
  if counts ∧ a.toText ≠ [] then
    let first := a.toWhole
    (List.range (b.toWhole + 1 - first).toNat).map fun (k : Nat) => .whole (first + k)
  else if counts then (List.range (b.toWhole + 1).toNat).map fun (k : Nat) => .whole k
  else textsFrom 1000000 a.toText b.toText

end Value

/-! ## operations -/

/-- what is left of a whole number, with the sign of the divisor -/
def remainder (a b : Int) : Int :=
  let r := a.natAbs % b.natAbs
  if r = 0 then 0
  else
    let r := if a < 0 ∧ 0 < b ∨ 0 < a ∧ b < 0 then b.natAbs - r else r
    if b < 0 then -(r : Int) else r

/-- a whole number to the power of another one -/
def power (a b : Value) : Value :=
  let x := a.toFloat
  let y := b.toFloat
  match a.whole?, b.whole? with
  | some n, some (.ofNat k) =>
    let bits := (inBase 2 n.natAbs).length
    if n.natAbs &&& (n.natAbs - 1) = 0 ∨ 64 < bits * k then .number (Float.pow x y)
    else .ofWhole (Int.pow n k)
  | _, _ => .number (Float.pow x y)

def bitsOf (v : Value) : Nat := (v.toWhole % Int.pow 2 64).toNat

/-- the order of two numbers, if they have one -/
def numberOrder (a b : Value) : Option Ordering :=
  match a.toNumber, b.toNumber with
  | .whole m, .whole n => some (compare m n)
  | x, y =>
    let x := x.toFloat
    let y := y.toFloat
    if x < y then some .lt else if y < x then some .gt else if x == y then some .eq else none

def textOrder (a b : Value) : Ordering := compare a.toText b.toText

def Value.ofOrdering : Ordering → Value
  | .lt => .whole (-1)
  | .eq => .whole 0
  | .gt => .whole 1

def combined (wholes : Int → Int → Int) (floats : Float → Float → Float) (a b : Value) : Value :=
  match a.whole?, b.whole? with
  | some m, some n => .ofWhole (wholes m n)
  | _, _ => .number (floats a.toFloat b.toFloat)

def bitwise (f : Nat → Nat → Nat) (long : Bool) (a b : Value) : Value :=
  match a, b with
  | .text s, .text t =>
    let size := if long then max s.length t.length else min s.length t.length
    .text ((List.range size).map fun k =>
      Char.ofNat (f (s.getD k '\x00').toNat (t.getD k '\x00').toNat))
  | a, b => .whole (f (bitsOf a) (bitsOf b))

/-- an operation on two values, or a complaint -/
def operation (op : Text) (a b : Value) : Except Text Value :=
  let test := fun (p : Ordering → Bool) =>
    (.ok (.ofBool ((numberOrder a b).any p)) : Except Text Value)
  let textTest := fun (p : Ordering → Bool) =>
    (.ok (.ofBool (p (textOrder a b))) : Except Text Value)
  match String.ofList op with
  | "+" => .ok (combined (· + ·) (· + ·) a b)
  | "-" => .ok (combined (· - ·) (· - ·) a b)
  | "*" => .ok (combined (· * ·) (· * ·) a b)
  | "/" =>
    if b.toFloat == 0 then .error "Illegal division by zero"
    else
      match a.whole?, b.whole? with
      | some m, some n =>
        if m % n = 0 ∧ Nat.pow 2 53 < m.natAbs then .ok (.ofWhole (m / n))
        else .ok (.number (Float.ofInt m / Float.ofInt n))
      | _, _ => .ok (.number (a.toFloat / b.toFloat))
  | "%" =>
    let n := b.toWhole
    if n = 0 then .error "Illegal modulus zero" else .ok (.ofWhole (remainder a.toWhole n))
  | "**" => .ok (power a b)
  | "." => .ok (.text (a.toText ++ b.toText))
  | "x" => .ok (.text (List.replicate b.toCount a.toText).flatten)
  | "<=>" =>
    match numberOrder a b with
    | some o => .ok (.ofOrdering o)
    | none => .ok .absent
  | "==" => test (· == .eq)
  | "!=" => .ok (.ofBool (numberOrder a b != some .eq))
  | "<" => test (· == .lt)
  | ">" => test (· == .gt)
  | "<=" => test (· != .gt)
  | ">=" => test (· != .lt)
  | "cmp" => .ok (.ofOrdering (textOrder a b))
  | "eq" => textTest (· == .eq)
  | "ne" => textTest (· != .eq)
  | "lt" => textTest (· == .lt)
  | "gt" => textTest (· == .gt)
  | "le" => textTest (· != .gt)
  | "ge" => textTest (· != .lt)
  | "&" => .ok (bitwise (· &&& ·) false a b)
  | "|" => .ok (bitwise (· ||| ·) true a b)
  | "^" => .ok (bitwise (· ^^^ ·) true a b)
  | "<<" => .ok (.whole (bitsOf a * Nat.pow 2 (min b.toCount 64) % Nat.pow 2 64))
  | ">>" => .ok (.whole (bitsOf a / Nat.pow 2 (min b.toCount 64)))
  | "xor" => .ok (.ofBool (a.holds != b.holds))
  | _ => .error ("Unknown operation " ++ op)

/-! ## formats -/

/-- the width or the precision that a format asks for where it begins, with the values that are left
and what follows -/
def measured (vs : List Value) (t : Text) : Option Int × List Value × Text :=
  match t with
  | '*' :: r => (some (vs.headD .absent).toWhole, vs.drop 1, r)
  | t =>
    let d := t.takeWhile Char.isDigit
    ((number? d).map Int.ofNat, vs, t.drop d.length)

/-- what a directive makes of a value, if there is such a directive -/
def directed (d : Directive) (v : Value) : Option Text :=
  match d.kind with
  | 'c' => some (d.pad true [] [Char.ofNat v.toCount])
  | 's' => some (d.pad true [] (match d.precision with
    | some n => v.toText.take n
    | none => v.toText))
  | 'b' =>
    let digits := zeroed (d.precision.getD 1) (inBase 2 (bitsOf v))
    some (d.pad d.precision.isNone (if '#' ∈ d.flags ∧ v.toWhole ≠ 0 then "0b" else []) digits)
  | 'B' => some (d.pad true [] (zeroed (d.precision.getD 1) (inBase 2 (bitsOf v))))
  | c =>
    if "diouxX".toList.contains c then
      match v.toNumber with
      | .number x => if x - x != 0 then some (d.pad false [] v.toText) else some (d.whole v.toWhole)
      | _ => some (d.whole v.toWhole)
    else if c = 'D' then some ({ d with kind := 'd' }.whole v.toWhole)
    else if c = 'U' ∨ c = 'O' then some ({ d with kind := c.toLower }.whole v.toWhole)
    else if "eEfFgGaA".toList.contains c then
      let x := v.toFloat
      if x - x != 0 then some (d.pad false [] (Value.spelled x)) else some (d.float x)
    else none

def formatted (all : List Value) : Nat → List Value → Text → Text
  | 0, _, _ => []
  | n + 1, vs, t =>
    match t with
    | [] => []
    | '%' :: '%' :: r => '%' :: formatted all n vs r
    | '%' :: r =>
      let place := r.takeWhile Char.isDigit
      let (chosen, r₁) := match place, r.drop place.length with
        | _ :: _, '$' :: q => (some (digitsValue place), q)
        | _, _ => (none, r)
      let flags := r₁.takeWhile fun c => "-+ #0".toList.contains c
      let r₂ := r₁.drop flags.length
      let (versions, r₂) := match r₂ with
        | 'v' :: 'd' :: _ => (true, r₂.drop 1)
        | r => (false, r)
      let (width, vs₁, r₃) := measured vs r₂
      let (precision, vs₂, r₄) := match r₃ with
        | '.' :: q =>
          let m := measured vs₁ q
          (some (m.1.getD 0), m.2)
        | q => (none, vs₁, q)
      let r₅ := r₄.dropWhile fun c => "hlqLV".toList.contains c
      let width := width.getD 0
      let d : Directive :=
        ⟨if width < 0 then '-' :: flags else flags, width.natAbs,
          precision.bind fun p => if p < 0 then none else some p.toNat, r₅.headD '\x00'⟩
      let v := match chosen with
        | some k => all.getD (k - 1) .absent
        | none => vs₂.headD .absent
      let rest := if chosen.isSome then vs₂ else vs₂.drop 1
      let v := if versions then
          .text (List.intercalate ['.'] (v.toText.map fun c => Text.ofNat c.toNat))
        else v
      let d := if versions then { d with kind := 's' } else d
      match directed d v with
      | some u => u ++ formatted all n rest (r₅.drop 1)
      | none =>
        let read := r.length + 1 - r₅.length
        t.take read ++ formatted all n vs (t.drop read)
    | c :: r => c :: formatted all n vs r

end Perl
end Shell
end CoroBridge
