import CoroBridge.Shell.Arithmetic

/-!
# Command language: formats

How `echo` and `printf` write their arguments.

* `escape`, `unescape`       the characters that backslashes and letters stand for;
* `echoed`                   the arguments of `echo`;
* `Decimal`                  the value of a floating-point number, and its digits;
* `Directive`                a place in a format where an argument goes, and how;
* `printed`                  a format with its arguments.
-/

namespace CoroBridge
namespace Shell

/-! ## escapes -/

/-- the character that a letter after a backslash stands for -/
def escaped? (c : Char) : Option Char :=
  match c with
  | 'a' => some '\x07'
  | 'b' => some '\x08'
  | 'e' => some '\x1b'
  | 'f' => some '\x0c'
  | 'n' => some '\n'
  | 'r' => some '\r'
  | 't' => some '\t'
  | 'v' => some '\x0b'
  | '\\' => some '\\'
  | _ => none

def escape (t : Text) : Text × Nat :=
  match t with
  | [] => (['\\'], 0)
  | c :: _ =>
    match escaped? c with
    | some d => ([d], 1)
    | none =>
      let (value, digits) := octalRun 3 t
      if digits = 0 then (['\\'], 0) else ([Char.ofNat (value % 256)], digits)

def unescape : Nat → Text → Text × Bool
  | _, [] => ([], false)
  | skip + 1, _ :: r => unescape skip r
  | 0, '\\' :: r =>
    match r with
    | 'c' :: _ => ([], true)
    | '0' :: r' =>
      let (value, digits) := octalRun 3 r'
      let (t, cut) := unescape (digits + 1) r
      (Char.ofNat (value % 256) :: t, cut)
    | _ =>
      let (front, n) := escape r
      let (t, cut) := unescape n r
      (front ++ t, cut)
  | 0, c :: r =>
    let (t, cut) := unescape 0 r
    (c :: t, cut)

def echoed (args : List Text) : Text :=
  let (ended, args) := match args with
    | ['-', 'n'] :: rest => (false, rest)
    | _ => (true, args)
  let (t, cut) := unescape 0 (List.intercalate [' '] args)
  if ended && !cut then t ++ ['\n'] else t

/-! ## floating-point numbers -/

structure Fraction where
  num : Nat
  den : Nat
  deriving DecidableEq, Repr

/-- the exact value of a finite floating-point number without its sign -/
def Fraction.ofFloat (f : Float) : Fraction :=
  let bits := f.toBits.toNat
  let exponent := bits / Nat.pow 2 52 % 2048
  let mantissa := bits % Nat.pow 2 52
  let (m, e) := if exponent = 0 then (mantissa, 1) else (mantissa + Nat.pow 2 52, exponent)
  if e ≥ 1075 then ⟨m * Nat.pow 2 (e - 1075), 1⟩ else ⟨m, Nat.pow 2 (1075 - e)⟩

/-- the whole number nearest to a fraction, the even one of two -/
def Fraction.round (f : Fraction) : Nat :=
  let q := f.num / f.den
  let r := f.num % f.den
  if 2 * r < f.den then q else if f.den < 2 * r then q + 1 else if q % 2 = 0 then q else q + 1

def Fraction.shift (f : Fraction) (n : Int) : Fraction :=
  if 0 ≤ n then ⟨f.num * Nat.pow 10 n.toNat, f.den⟩ else ⟨f.num, f.den * Nat.pow 10 (-n).toNat⟩

/-- the exponent of the first digit of a fraction, from an exponent that is not too small -/
def Fraction.exponentFrom (f : Fraction) : Nat → Int → Int
  | 0, e => e
  | n + 1, e => if f.den ≤ (f.shift (-e)).num ∧ (f.shift (-e)).den ≤ (f.shift (-e)).num then e
    else f.exponentFrom n (e - 1)

def Fraction.exponent (f : Fraction) : Int := if f.num = 0 then 0 else f.exponentFrom 700 310

def zeroed (n : Nat) (t : Text) : Text := List.replicate (n - t.length) '0' ++ t

def pointed (places : Nat) (point : Bool) (digits : Text) : Text :=
  let digits := zeroed (places + 1) digits
  let k := digits.length - places
  digits.take k ++ (if places > 0 ∨ point then '.' :: digits.drop k else [])

def Fraction.fixed (f : Fraction) (places : Nat) (point : Bool) : Text :=
  pointed places point (Text.ofNat (f.shift places).round)

/-- a fraction with one digit before the point, a number of places, and an exponent, whose value
is given too -/
def Fraction.scientific (f : Fraction) (places : Nat) (point : Bool) (mark : Char) : Text × Int :=
  let e := f.exponent
  let n := (f.shift (places - e)).round
  let (n, e) := if n = Nat.pow 10 (places + 1) then (Nat.pow 10 places, e + 1) else (n, e)
  (pointed places point (Text.ofNat n) ++ mark :: (if e < 0 then '-' else '+')
    :: zeroed 2 (Text.ofNat e.natAbs), e)

/-- digits without zeros at the end of their places -/
def withoutZeros (t : Text) : Text :=
  let whole := t.takeWhile (· != '.')
  match t.drop whole.length with
  | [] => t
  | _ :: places =>
    let kept := (places.reverse.dropWhile (· == '0')).reverse
    if kept = [] then whole else whole ++ '.' :: kept

/-- a fraction with a number of digits in the shorter one of the two forms -/
def Fraction.general (f : Fraction) (digits : Nat) (point : Bool) (mark : Char) : Text :=
  let p := max digits 1
  let (t, e) := f.scientific (p - 1) point mark
  if -4 ≤ e ∧ e < p then
    let t := f.fixed ((p : Int) - 1 - e).toNat point
    if point then t else withoutZeros t
  else
    let front := t.takeWhile (· != mark)
    (if point then front else withoutZeros front) ++ t.drop front.length

/-- the floating-point number that a text begins with, and the number of its characters -/
def floating (t : Text) : Float × Nat :=
  let blanks := (t.takeWhile isSpace).length
  let r := t.drop blanks
  let (negative, sign) := match r with
    | '-' :: _ => (true, 1)
    | '+' :: _ => (false, 1)
    | _ => (false, 0)
  let r := r.drop sign
  let signed := fun (f : Float) (n : Nat) => (if negative then -f else f, blanks + sign + n)
  let word := (r.takeWhile Char.isAlpha).map Char.toLower
  if "infinity".toList.isPrefixOf word then signed (1 / 0) 8
  else if "inf".toList.isPrefixOf word then signed (1 / 0) 3
  else if "nan".toList.isPrefixOf word then signed (0 / 0) 3
  else
    let whole := r.takeWhile Char.isDigit
    let fraction := match r.drop whole.length with
      | '.' :: q => q.takeWhile Char.isDigit
      | _ => []
    let point := if (r.drop whole.length).head? = some '.' then 1 else 0
    let n := whole.length + fraction.length
    if n = 0 then (0, 0)
    else
      let after := r.drop (n + point)
      let (exponent, length) : Int × Nat := match after with
        | c :: q =>
          if c = 'e' ∨ c = 'E' then
            let (negative, k) := match q with
              | '-' :: _ => (true, 1)
              | '+' :: _ => (false, 1)
              | _ => (false, 0)
            let d := (q.drop k).takeWhile Char.isDigit
            if d = [] then (0, 0)
            else (if negative then -(digitsValue d : Int) else digitsValue d, 1 + k + d.length)
          else (0, 0)
        | [] => (0, 0)
      let e := exponent - fraction.length
      signed (Float.ofScientific (digitsValue (whole ++ fraction)) (e < 0) e.natAbs)
        (n + point + length)

/-! ## directives -/

structure Directive where
  flags : Text
  width : Nat
  precision : Option Nat
  kind : Char
  deriving DecidableEq, Repr

/-- a text in its width; zeros may stand between what comes `first` and the rest -/
def Directive.pad (d : Directive) (zeros : Bool) (first rest : Text) : Text :=
  let missing := d.width - (first.length + rest.length)
  if '-' ∈ d.flags then first ++ rest ++ List.replicate missing ' '
  else if zeros ∧ '0' ∈ d.flags then first ++ List.replicate missing '0' ++ rest
  else List.replicate missing ' ' ++ first ++ rest

def Directive.sign (d : Directive) (negative : Bool) : Text :=
  if negative then ['-'] else if '+' ∈ d.flags then ['+'] else if ' ' ∈ d.flags then [' '] else []

def Directive.text (d : Directive) (t : Text) : Text :=
  d.pad false [] (match d.precision with | some n => t.take n | none => t)

/-- a whole number; one below zero is written, where there are no signs, as what is left of the
greatest one of 64 bits -/
def Directive.whole (d : Directive) (n : Int) : Text :=
  let m := (n % Int.pow 2 64).toNat
  let alternate := '#' ∈ d.flags
  let digits : Text := match d.kind with
    | 'o' => inBase 8 m
    | 'x' => inBase 16 m
    | 'X' => (inBase 16 m).map Char.toUpper
    | 'u' => Text.ofNat m
    | _ => Text.ofNat n.natAbs
  let digits := if d.precision = some 0 ∧ n = 0 then [] else zeroed (d.precision.getD 1) digits
  let digits := if d.kind = 'o' ∧ alternate ∧ digits.head? ≠ some '0' then '0' :: digits else digits
  let front :=
    if d.kind = 'x' ∧ alternate ∧ n ≠ 0 then "0x".toList
    else if d.kind = 'X' ∧ alternate ∧ n ≠ 0 then "0X".toList
    else if d.kind = 'd' ∨ d.kind = 'i' then d.sign (n < 0)
    else []
  d.pad d.precision.isNone front digits

def Directive.fraction (d : Directive) (negative : Bool) (f : Fraction) : Text :=
  let places := d.precision.getD 6
  let point := '#' ∈ d.flags
  let mark := if d.kind.isUpper then 'E' else 'e'
  let digits := match d.kind.toLower with
    | 'f' => f.fixed places point
    | 'e' => (f.scientific places point mark).1
    | _ => f.general places point mark
  d.pad true (d.sign negative) digits

/-- a floating-point number without its sign in base sixteen, with a power of two -/
def Directive.hexadecimal (d : Directive) (negative : Bool) (x : Float) : Text :=
  let bits := x.toBits.toNat
  let exponent : Nat := bits / Nat.pow 2 52 % 2048
  let mantissa : Nat := bits % Nat.pow 2 52
  let (whole, e) : Nat × Int :=
    if exponent ≠ 0 then (Nat.pow 2 52 + mantissa, (exponent : Int) - 1023)
    else (mantissa, if mantissa = 0 then 0 else -1022)
  let places := d.precision.getD 13
  let whole := if places < 13 then (Fraction.mk whole (Nat.pow 16 (13 - places))).round
    else whole * Nat.pow 16 (places - 13)
  let fraction := whole % Nat.pow 16 places
  let digits := zeroed places (if fraction = 0 then [] else inBase 16 fraction)
  let digits := if d.precision.isNone then (digits.reverse.dropWhile (· == '0')).reverse else digits
  let t := inBase 16 (whole / Nat.pow 16 places)
    ++ (if digits = [] ∧ '#' ∉ d.flags then [] else '.' :: digits)
    ++ 'p' :: (if e < 0 then '-' else '+') :: Text.ofNat e.natAbs
  let t := d.pad true (d.sign negative ++ "0x") t
  if d.kind.isUpper then t.map Char.toUpper else t

def Directive.float (d : Directive) (x : Float) : Text :=
  let named := fun (t : Text) => if d.kind.isUpper then t.map Char.toUpper else t
  let negative := x < 0 ∨ (x == 0 ∧ 1 / x < 0)
  if x != x then d.pad false (d.sign false) (named "nan")
  else if x - x != x - x then d.pad false (d.sign negative) (named "inf")
  else if d.kind = 'a' ∨ d.kind = 'A' then d.hexadecimal negative x
  else d.fraction negative (Fraction.ofFloat x)

/-! ## formats -/

/-- what comes of a format: what is written, the complaints, and whether one of them has put an end
to it -/
structure Printed where
  text : Text
  complaints : List Text
  failed : Bool
  stopped : Bool
  rest : List Text

/-- the complaint about a number of which `used` characters were read -/
def unread (a : Text) (used : Nat) : List Text :=
  if used ≥ a.length then []
  else if used = 0 then [a ++ ": expected numeric value"]
  else [a ++ ": not completely converted"]

/-- the whole number that an argument is, and the complaint about it; after a quote it is the
number of a character -/
def wholeArgument (signed : Bool) (a : Text) : Int × List Text :=
  match a with
  | '\x27' :: r => ((r.head?.map fun c => (c.toNat : Int)).getD 0, [])
  | '"' :: r => ((r.head?.map fun c => (c.toNat : Int)).getD 0, [])
  | _ =>
    let blanks := (a.takeWhile isSpace).length
    let r := a.drop blanks
    let (negative, sign) := match r with
      | '-' :: _ => (true, 1)
      | '+' :: _ => (false, 1)
      | _ => (false, 0)
    let (n, used) := numeral (r.drop sign)
    let value : Int := if negative then -n else n
    let bounded := if signed then clamp value else min value (Int.pow 2 64 - 1)
    let used := if used = 0 then 0 else blanks + sign + used
    (bounded,
      if used ≥ a.length ∧ bounded ≠ value then [a ++ ": Numerical result out of range"]
      else unread a used)

/-- the floating-point number that an argument is, and the complaint about it -/
def floatArgument (a : Text) : Float × List Text :=
  match a with
  | '\x27' :: r => (Float.ofNat ((r.head?.map Char.toNat).getD 0), [])
  | '"' :: r => (Float.ofNat ((r.head?.map Char.toNat).getD 0), [])
  | _ =>
    let (x, used) := floating a
    (x, unread a used)

/-- a width or a precision in front of a text, which an asterisk takes from the arguments, and what
is left of both -/
def measure (args : List Text) (t : Text) : Option Int × List Text × Text :=
  match t with
  | '*' :: r => (some (wholeArgument true (args.headD [])).1, args.tail, r)
  | _ =>
    let digits := t.takeWhile Char.isDigit
    ((number? digits).map Int.ofNat, args, t.drop digits.length)

/-- the directive in front of a text after its percent sign, what is left of the arguments, and
the length of the directive; none where the text ends too early -/
def directive? (args : List Text) (t : Text) : Option (Directive × List Text × Nat) :=
  let flags := t.takeWhile fun c => c == '#' || c == '-' || c == '+' || c == ' ' || c == '0'
  let (width, args, r) := measure args (t.drop flags.length)
  let (precision, args, r) := match r with
    | '.' :: r =>
      let (p, args, r) := measure args r
      (some (p.getD 0), args, r)
    | _ => (none, args, r)
  match r with
  | [] => none
  | c :: r =>
    let width := width.getD 0
    let flags := if width < 0 then '-' :: flags else flags
    let precision := precision.bind fun p => if p < 0 then none else some p.toNat
    some (⟨flags, width.natAbs, precision, c⟩, args, t.length - r.length)

/-- a format with its arguments once, when `skip` more characters belong to what was read last -/
def printedOnce : Nat → List Text → Text → Printed
  | _, args, [] => ⟨[], [], false, false, args⟩
  | skip + 1, args, _ :: r => printedOnce skip args r
  | 0, args, '\\' :: r =>
    let (front, n) := match r with
      | '"' :: _ => (['"'], 1)
      | '\x27' :: _ => (['\x27'], 1)
      | _ => escape r
    let p := printedOnce n args r
    { p with text := front ++ p.text }
  | 0, args, c :: r =>
    if c ≠ '%' then
      let p := printedOnce 0 args r
      { p with text := c :: p.text }
    else if r.head? = some '%' then
      let p := printedOnce 1 args r
      { p with text := '%' :: p.text }
    else
      match directive? args r with
      | none => ⟨[], ["missing format character"], true, true, args⟩
      | some (d, args, n) =>
        let a := args.headD []
        let go := fun (t : Text) (complaints : List Text) =>
          let p := printedOnce n args.tail r
          { p with text := t ++ p.text, complaints := complaints ++ p.complaints }
        if d.kind = 's' then go (d.text a) []
        else if d.kind = 'b' then
          let (t, cut) := unescape 0 a
          if cut then ⟨d.text t, [], false, true, args.tail⟩ else go (d.text t) []
        else if d.kind = 'c' then go (d.pad false [] [a.headD '\x00']) []
        else if d.kind ∈ ['d', 'i', 'o', 'u', 'x', 'X'] then
          let (k, complaints) := wholeArgument (d.kind == 'd' || d.kind == 'i') a
          go (d.whole k) complaints
        else if d.kind ∈ ['a', 'A', 'e', 'E', 'f', 'F', 'g', 'G'] then
          let (x, complaints) := floatArgument a
          go (d.float x) complaints
        else ⟨[], ['%' :: r.take n ++ ": invalid directive"], true, true, args⟩

def printed : Nat → Text → List Text → Printed
  | 0, format, args => printedOnce 0 args format
  | n + 1, format, args =>
    let p := printedOnce 0 args format
    if p.stopped ∨ p.rest = [] ∨ p.rest.length = args.length then p
    else
      let q := printed n format p.rest
      { q with text := p.text ++ q.text, complaints := p.complaints ++ q.complaints }

end Shell
end CoroBridge
