import CoroBridge.Shell.Tool.Columns
import CoroBridge.Shell.Tool.Make

/-!
# Command language: numbers with units

The tool `numfmt` writes numbers with units, and reads them.

* `Units.Scale`       how units are written;
* `Units.read`        the number that a text is;
* `Units.written`     a number with a unit;
* `numfmt`            the tool.
-/

namespace CoroBridge
namespace Shell
namespace Units

inductive Scale where
  | none
  | auto
  | si
  | iec
  | iecLong
  deriving DecidableEq, Repr

def Scale.of? (t : Text) : Option Scale :=
  ([("none", Scale.none), ("auto", .auto), ("si", .si), ("iec", .iec),
    ("iec-i", .iecLong)] : List (Text × Scale)).lookup t

def Scale.base : Scale → Nat
  | si => 1000
  | _ => 1024

/-- a number that may be below zero, as a fraction -/
structure Amount where
  negative : Bool
  size : Fraction
  deriving DecidableEq, Repr

def letters : Text := "KMGTPEZYRQ"

inductive Fault where
  | invalid
  | suffix
  | rejected
  | noLong
  deriving DecidableEq, Repr

def Fault.message (t : Text) : Fault → Text
  | invalid => "invalid number: " ++ quoted t
  | suffix => "invalid suffix in input: " ++ quoted t
  | rejected => "rejecting suffix in input: " ++ quoted t ++ " (consider using --from)"
  | noLong => "missing 'i' suffix in input: " ++ quoted t ++ " (e.g Ki/Mi/Gi)"

def read (scale : Scale) (t : Text) : Except Fault (Amount × Nat) :=
  let (negative, r) := match t with
    | '-' :: r => (true, r)
    | r => (false, r)
  let whole := r.takeWhile Char.isDigit
  let (places, rest) := match r.drop whole.length with
    | '.' :: q => (q.takeWhile Char.isDigit, q.dropWhile Char.isDigit)
    | q => ([], q)
  if whole = [] ∧ places = [] then .error .invalid
  else
    let n : Fraction := ⟨digitsValue (whole ++ places), Nat.pow 10 places.length⟩
    let unit := fun (power base : Nat) =>
      Except.ok ((⟨negative, ⟨n.num * Nat.pow base power, n.den⟩⟩ : Amount), places.length)
    match rest with
    | [] => unit 0 1
    | c :: r =>
      match letters.findIdx? (· == (if c = 'k' then 'K' else c)) with
      | none => .error .suffix
      | some i =>
        match scale, r with
        | .none, _ => .error .rejected
        | .auto, ['i'] => unit (i + 1) 1024
        | .auto, [] => unit (i + 1) 1000
        | .si, [] => unit (i + 1) 1000
        | .iec, [] => unit (i + 1) 1024
        | .iecLong, ['i'] => unit (i + 1) 1024
        | .iecLong, [] => .error .noLong
        | _, _ => .error .suffix

/-- a fraction as a whole number, by the name of the way to round it -/
def rounded (way : Text) (negative : Bool) (f : Fraction) : Nat :=
  let down := f.num / f.den
  let up := (f.num + f.den - 1) / f.den
  match String.ofList way with
  | "up" => if negative then down else up
  | "down" => if negative then up else down
  | "towards-zero" => down
  | "nearest" => (2 * f.num + f.den) / (2 * f.den)
  | _ => up

/-- the power of a unit that a number is at least, and the number in that unit -/
def powerOf (base : Nat) : Nat → Fraction → Nat × Fraction
  | 0, f => (0, f)
  | n + 1, f =>
    if f.num < base * f.den then (0, f)
    else
      let (p, g) := powerOf base n ⟨f.num, f.den * base⟩
      (p + 1, g)

def placed (way : Text) (negative : Bool) (f : Fraction) (places : Nat) : Text :=
  pointed places false (Text.ofNat (rounded way negative ⟨f.num * Nat.pow 10 places, f.den⟩))

def written (scale : Scale) (way : Text) (places : Option Nat) (usual : Nat) (a : Amount) : Text :=
  let front : Text := if a.negative && a.size.num != 0 then ['-'] else []
  match scale with
  | .none => front ++ placed way a.negative a.size (places.getD usual)
  | _ =>
    let base := scale.base
    let (power, f) := powerOf base 10 a.size
    let kept := match places with
      | some p => min (3 * power) p
      | none => if f.num < 10 * f.den then 1 else 0
    let n := rounded way a.negative ⟨f.num * Nat.pow 10 kept, f.den⟩
    let f : Fraction := ⟨n, Nat.pow 10 kept⟩
    let (f, power) := if base * f.den ≤ f.num then (⟨f.num, f.den * base⟩, power + 1) else (f, power)
    let shown := match places with
      | some p => p
      | none => if f.num ≠ 0 ∧ f.num < 10 * f.den ∧ power > 0 then 1 else 0
    let unit : Text := if power = 0 then [] else
      [letters.getD (power - 1) '?'] ++ (if scale = .iecLong then ['i'] else [])
    front ++ pointed shown false (Text.ofNat (Fraction.round ⟨f.num * Nat.pow 10 shown, f.den⟩)) ++ unit

/-- a format: what comes before the number, its flags, width and places, and what follows -/
structure Format where
  front : Text
  left : Bool
  zeros : Bool
  grouping : Bool
  width : Nat
  places : Option Nat
  back : Text

def Format.of? (t : Text) : Except Text Format :=
  match uptoDirective t with
  | (_, none) => .error ("format " ++ quoted t ++ " has no % directive")
  | (front, some r) =>
    let flags := r.takeWhile fun c => " '-0".toList.contains c
    let r := r.drop flags.length
    let width := r.takeWhile Char.isDigit
    let (places, r) := match r.drop width.length with
      | '.' :: q => (some (digitsValue (q.takeWhile Char.isDigit)), q.dropWhile Char.isDigit)
      | q => (none, q)
    match r with
    | [] => .error ("format " ++ quoted t ++ " ends in %")
    | c :: r =>
      if c ≠ 'f' then
        .error ("invalid format " ++ quoted t ++ ", directive must be %[0]['][-][N][.][N]f")
      else
        match uptoDirective r with
        | (_, some _) => .error ("format " ++ quoted t ++ " has too many % directives")
        | (back, none) =>
          .ok ⟨front, flags.contains '-', flags.contains '0', flags.contains '\x27',
            digitsValue width, places, back⟩

structure Style where
  input : Scale
  output : Scale
  inputUnit : Nat
  outputUnit : Nat
  way : Text
  suffix : Text
  padding : Int
  format : Option Format
  separator : Option Char
  fields : List Span
  invalid : Text
  header : Nat

/-- one field of a line; `later` tells that it is not the first one -/
def field (k : Style) (later : Bool) (t : Text) : Except Fault Text := do
  let trimmed := t.dropWhile isBlank
  let number := if k.suffix ≠ [] ∧ k.suffix.isSuffixOf trimmed ∧ k.suffix.length < trimmed.length then
      trimmed.take (trimmed.length - k.suffix.length)
    else trimmed
  let (a, places) ← read k.input number
  let a := { a with size := ⟨a.size.num * k.inputUnit, a.size.den * k.outputUnit⟩ }
  let usual := if k.input = .none ∧ k.outputUnit = 1 ∧ k.inputUnit = 1 then places else 0
  let text := written k.output k.way (k.format.bind Format.places) usual a
  let text := match k.format with
    | some f =>
      if f.zeros then
        let (sign, digits) := match text with
          | '-' :: r => (['-'], r)
          | r => ([], r)
        sign ++ padWith '0' (f.width - sign.length) digits
      else text
    | none => text
  let text := text ++ k.suffix
  let width : Int := match k.format with
    | some f => if k.padding = 0 then (if f.left then -(f.width : Int) else f.width) else k.padding
    | none =>
      if k.padding = 0 ∧ k.separator.isNone ∧ (later ∨ trimmed.length < t.length) then t.length
      else k.padding
  let text := if width < 0 then text ++ List.replicate (width.natAbs - text.length) ' '
    else padLeft width.natAbs text
  match k.format with
  | some f => .ok (f.front ++ text ++ f.back)
  | none => .ok text

/-- the fields of a line with what stands before each of them -/
def fieldsOf (k : Style) (l : Text) : List Text :=
  match k.separator with
  | some c => l.splitOn c
  | none => blankFields (l.length + 1) l
where
  /-- the fields between blanks, each with the blanks in front -/
  blankFields : Nat → Text → List Text
    | 0, _ => []
    | n + 1, t =>
      let blanks := t.takeWhile isBlank
      let word := (t.drop blanks.length).takeWhile fun c => !isBlank c
      let rest := t.drop (blanks.length + word.length)
      (blanks ++ word) :: (if rest = [] then [] else blankFields n (rest.drop 1))

/-- a line with its numbers written anew, and the complaints -/
def line (k : Style) (l : Text) : Text × List Text :=
  let parts := (fieldsOf k l).zipIdx 1 |>.map fun (f : Text × Nat) =>
    if k.fields.any (·.holds f.2) then
      match field k (f.2 > 1) f.1 with
      | .ok t => (t, [])
      | .error e => (f.1, [e.message (f.1.dropWhile isBlank)])
    else (f.1, [])
  (List.intercalate [k.separator.getD ' '] (parts.map Prod.fst), parts.flatMap Prod.snd)

def options : OptionTable :=
  { OptionTable.of "z" "d" [("delimiter", 'd'), ("field", 'F'), ("format", 'f'), ("from", 'r'),
      ("from-unit", 'R'), ("grouping", 'g'), ("header", 'h'), ("invalid", 'i'), ("padding", 'p'),
      ("round", 'o'), ("suffix", 's'), ("to", 't'), ("to-unit", 'T'), ("zero-terminated", 'z'),
      ("debug", 'D')]
    with valued := "dFfrRipostT", perhaps := "h" }

def styleOf (c : Call) (o : Options) : Except Effect Style := do
  let scale := fun (x : Char) (name : Text) =>
    match o.value? x with
    | none => Except.ok Scale.none
    | some v =>
      match Scale.of? v with
      | some s => .ok s
      | none => .error ⟨none, [(.complaint, c.complaint ("invalid argument " ++ singleQuoted v
          ++ " for " ++ singleQuoted name)), (.complaint, c.hint)], [], 1⟩
  let input ← scale 'r' "--from"
  let output ← scale 't' "--to"
  let unit := fun (x : Char) =>
    match o.value? x with
    | none => Except.ok 1
    | some v =>
      match size? v with
      | some n => if n = 0 then .error (c.fail 1 ("invalid unit size: " ++ quoted v)) else .ok n
      | none => .error (c.fail 1 ("invalid unit size: " ++ quoted v))
  let inputUnit ← unit 'R'
  let outputUnit ← unit 'T'
  let format ← (o.value? 'f').mapM fun t => (Format.of? t).mapError (c.fail 1)
  let padding ← match o.value? 'p' with
    | none => pure 0
    | some v =>
      match whole? v with
      | some n =>
        if n = 0 then throw (c.fail 1 ("invalid padding value " ++ quoted v)) else pure n
      | none => throw (c.fail 1 ("invalid padding value " ++ quoted v))
  let fields ← match o.value? 'F' with
    | none => pure [⟨1, some 1⟩]
    | some ['-'] => pure [⟨1, none⟩]
    | some v => (spansOf (v.splitOnP fun x => x == ',' || isBlank x)).mapError fun f =>
        c.misused 1 (f.message true)
  let separator ← match o.value? 'd' with
    | none => pure none
    | some [x] => pure (some x)
    | some _ => throw (c.fail 1 "the delimiter must be a single character")
  .ok {
    input := input, output := output, inputUnit := inputUnit, outputUnit := outputUnit
    way := (o.value? 'o').getD "from-zero", suffix := (o.value? 's').getD [], padding := padding
    format := format, separator := separator, fields := fields
    invalid := (o.value? 'i').getD "abort"
    header := if o.has 'h' then ((o.value? 'h').bind number?).getD 1 else 0 }

/-- lines with their numbers written anew, up to one that puts an end to it -/
def lines (c : Call) (k : Style) (ending : Char) :
    Nat → List Text → List (Stream × Text) × Nat
  | _, [] => ([], 0)
  | n, l :: ls =>
    if n < k.header then
      let (more, status) := lines c k ending (n + 1) ls
      ((.output, l ++ [ending]) :: more, status)
    else
      let (t, complaints) := line k l
      match complaints with
      | [] =>
        let (more, status) := lines c k ending (n + 1) ls
        ((.output, t ++ [ending]) :: more, status)
      | what :: _ =>
        if k.invalid = "abort".toList then ([(.complaint, c.complaint what)], 2)
        else
          let told := if k.invalid = "ignore".toList then [] else
            complaints.map fun w => (Stream.complaint, c.complaint w)
          let (more, status) := lines c k ending (n + 1) ls
          (told ++ (.output, t ++ [ending]) :: more,
            if k.invalid = "fail".toList then 2 else status)

end Units

def numfmt : Tool := fun c =>
  let isNegative := fun (a : Text) => match a with
    | '-' :: d :: _ => d.isDigit
    | _ => false
  let args := if c.args.any isNegative then
      let front := c.args.takeWhile fun a => !isNegative a
      front ++ "--".toList :: c.args.drop front.length
    else c.args
  { c with args := args }.withOptions Units.options 1 fun o =>
    match Units.styleOf c o with
    | .error e => e
    | .ok k =>
      let ending := if o.has 'z' then '\x00' else '\n'
      if o.operands ≠ [] then
        let (written, status) := Units.lines c { k with header := 0 } ending 0 o.operands
        ⟨none, written, [], status⟩
      else
        match c.source with
        | .error f =>
          ⟨none, [(.complaint, c.complaint ("error reading input: " ++ f.message))], [], 1⟩
        | .ok t =>
          let (written, status) := Units.lines c k ending 0 (recordsOf ending t)
          ⟨some [], written, [], status⟩

end Shell
end CoroBridge
