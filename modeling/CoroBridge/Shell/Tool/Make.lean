import CoroBridge.Shell.Format
import CoroBridge.Shell.Tool.Options

/-!
# Command language: tools for their arguments

The tools that write something made of their arguments alone.

* `Decimal`                 numbers with a point, exactly, as they are written;
* `seq`                     the numbers from one to another;
* `basename`, `dirname`     the last name of a path, and what comes before it;
* `sleep`                   a pause, which no output shows;
* `plainEcho`               the arguments on a line.
-/

namespace CoroBridge
namespace Shell

/-! ## numbers -/

structure Decimal where
  value : Int
  places : Nat
  width : Nat
  plain : Bool
  deriving DecidableEq, Repr

def Decimal.scaled (d : Decimal) (places : Nat) : Int := d.value * Int.pow 10 (places - d.places)

/-- a number of digits with a point and a power of ten -/
def Decimal.ofParts (negative : Bool) (whole fraction : Text) (power : Int) (width : Nat) :
    Decimal :=
  let n : Int := digitsValue (whole ++ fraction)
  let n := if negative then -n else n
  let places : Int := fraction.length - power
  if power = 0 then ⟨n, fraction.length, width, true⟩
  else if places ≤ 0 then
    let v := n * Int.pow 10 (-places).toNat
    ⟨v, 0, (ofInt v).length, true⟩
  else ⟨n, places.toNat, max whole.length 1 + 1 + places.toNat, true⟩

def Decimal.of? (t : Text) : Option Decimal :=
  let r := t.dropWhile isSpace
  let (negative, d) := match r with
    | '-' :: d => (true, d)
    | '+' :: d => (false, d)
    | _ => (false, r)
  match d with
  | '0' :: x :: h =>
    if (x = 'x' ∨ x = 'X') ∧ h ≠ [] ∧ h.all (fun c => (digit? 16 c).isSome) then
      let n : Int := (digitRun 16 h).1
      some ⟨if negative then -n else n, 0, t.length, false⟩
    else ordinary negative d r.length
  | _ => ordinary negative d r.length
where
  /-- the number that digits, a point and an exponent make up -/
  ordinary (negative : Bool) (d : Text) (width : Nat) : Option Decimal :=
    let whole := d.takeWhile Char.isDigit
    let (fraction, rest) := match d.drop whole.length with
      | '.' :: q => (q.takeWhile Char.isDigit, q.dropWhile Char.isDigit)
      | q => ([], q)
    if whole = [] ∧ fraction = [] then none
    else
      match rest with
      | [] => some (.ofParts negative whole fraction 0 width)
      | e :: p =>
        if e ≠ 'e' ∧ e ≠ 'E' then none
        else
          match whole? p with
          | some k => if p.any isSpace then none
            else some (.ofParts negative whole fraction k width)
          | none => none

/-! ## seq -/

/-- the reasons why a text is no format for numbers -/
inductive SeqFault where
  | noDirective
  | ends
  | unknown (c : Char)
  | many
  deriving DecidableEq, Repr

def SeqFault.message (format : Text) (f : SeqFault) : Text :=
  "format " ++ quoted format ++ match f with
    | noDirective => " has no % directive"
    | ends => " ends in %"
    | unknown c => " has unknown %" ++ [c] ++ " directive"
    | many => " has too many % directives"

/-- the text up to the first percent sign that is not doubled, with each doubled one once, and what
follows -/
def uptoDirective : Text → Text × Option Text
  | [] => ([], none)
  | '%' :: '%' :: r => let p := uptoDirective r; ('%' :: p.1, p.2)
  | c :: r => if c = '%' then ([], some r) else let p := uptoDirective r; (c :: p.1, p.2)

/-- a format for numbers: what comes before the number, how it is written, and what follows -/
def seqFormat (t : Text) : Except SeqFault (Text × Directive × Text) :=
  match uptoDirective t with
  | (_, none) => .error .noDirective
  | (front, some r) =>
    let flags := r.takeWhile fun c => "-+#0 '".toList.contains c
    let r := r.drop flags.length
    let width := r.takeWhile Char.isDigit
    let r := r.drop width.length
    let (precision, r) := match r with
      | '.' :: q => (some (digitsValue (q.takeWhile Char.isDigit)), q.dropWhile Char.isDigit)
      | _ => (none, r)
    let r := if r.head? = some 'L' then r.drop 1 else r
    match r with
    | [] => .error .ends
    | c :: back =>
      if c ∉ "efgaEFGA".toList then .error (.unknown c)
      else
        match uptoDirective back with
        | (_, some _) => .error .many
        | (back, none) => .ok (front, ⟨flags, digitsValue width, precision, c⟩, back)

/-- how many numbers a row has from one to another by a step; no last one stands for an endless
row -/
def stepCount (first step : Int) (last : Option Int) : Option Nat :=
  last.map fun last =>
    if 0 < step then ((last - first) / step + 1).toNat else ((first - last) / -step + 1).toNat

def rowPiece : Nat := 1024

def isEndless (t : Text) : Bool :=
  let t := (t.dropWhile fun c => c == '+').map Char.toLower
  t == "inf".toList || t == "infinity".toList

/-- the arguments of `seq` with numbers below zero kept from being options -/
def seqArguments : List Text → List Text
  | [] => []
  | a :: as =>
    match a with
    | '-' :: c :: _ => if c.isDigit ∨ c = '.' then "--" :: a :: as else
        (if a = "-s".toList ∨ a = "-f".toList then
          match as with
          | v :: rest => a :: v :: seqArguments rest
          | [] => [a]
        else a :: seqArguments as)
    | _ => a :: as

/-- the texts that make up the numbers from one to another, one after the other, or what comes of
arguments that ask for none -/
def seqRow (c : Call) : Except Effect (Nat → Option Text) :=
  let table := { OptionTable.of "w" "fs" [("equal-width", 'w'), ("format", 'f'),
    ("separator", 's')] with ordered := true }
  match table.read none (seqArguments c.args) with
  | .error f => .error (c.misused 1 f.message)
  | .ok o =>
    let refuse := fun (what : Text) => Except.error (c.misused 1 what)
    let read := fun (t : Text) =>
      if isEndless t then some none else (Decimal.of? t).map some
    match o.operands with
    | [] =>
      if o.has helpLetter || o.has versionLetter then .error (silent 0)
      else refuse "missing operand"
    | _ :: _ :: _ :: extra :: _ => refuse ("extra operand " ++ quoted extra)
    | args =>
      match (o.value? 'f').map fun f => (f, seqFormat f) with
      | some (f, .error e) => .error (c.fail 1 (e.message f))
      | format =>
        match args.find? fun a => (read a).isNone with
        | some a =>
          if (a.dropWhile fun x => x == '-' || x == '+').map Char.toLower = "nan".toList then
            refuse ("invalid 'not-a-number' argument: " ++ quoted a)
          else refuse ("invalid floating point argument: " ++ quoted a)
        | none =>
          let numbers := args.filterMap read
          let one : Decimal := ⟨1, 0, 1, true⟩
          let (first, step, last) := match numbers with
            | [l] => (some one, some one, l)
            | [a, l] => (a, some one, l)
            | a :: s :: l :: _ => (a, s, l)
            | [] => (some one, some one, none)
          let first := first.getD one
          let step := step.getD one
          if step.value = 0 then
            refuse ("invalid Zero increment value: " ++ quoted (args.getD 1 []))
          else if o.has 'w' ∧ o.has 'f' then
            refuse "format string may not be specified when printing equal width strings"
          else
            let places := max first.places step.places
            let scale := max places ((last.map Decimal.places).getD 0)
            let start := first.scaled scale
            let count := stepCount start (step.scaled scale)
              (last.map fun (l : Decimal) => l.scaled scale)
            let plain := first.plain && step.plain && (last.all Decimal.plain)
            let width :=
              if o.has 'w' ∧ plain then
                let firstWidth := first.width + (places - first.places)
                  + (if first.places = 0 ∧ places > 0 then 1 else 0)
                let lastWidth := match last with
                  | none => 0
                  | some l =>
                    l.width + places - l.places + (if l.places = 0 ∧ places > 0 then 1 else 0)
                      - (if l.places > 0 ∧ places = 0 then 1 else 0)
                max firstWidth lastWidth
              else 0
            let usual : Directive :=
              if plain then ⟨if o.has 'w' then ['0'] else [], width, some places, 'f'⟩
              else ⟨[], 0, none, 'g'⟩
            let (front, d, back) := match format with
              | some (_, .ok p) => p
              | _ => ([], usual, [])
            let text := fun (n : Nat) =>
              let v := start + step.scaled scale * n
              front ++ d.fraction (v < 0) ⟨v.natAbs, Nat.pow 10 scale⟩ ++ back
            let separator := (o.value? 's').getD ['\n']
            .ok fun piece =>
              let from_ := piece * rowPiece
              let many := match count with
                | some m => min rowPiece (m - from_)
                | none => rowPiece
              let ends := count.all fun m => m ≤ from_ + many
              if many = 0 then none
              else
                some ((if piece = 0 then [] else separator)
                  ++ List.intercalate separator ((List.range many).map fun k => text (from_ + k))
                  ++ (if ends && count.isSome then ['\n'] else []))

def seq : Tool := fun c =>
  match seqRow c with
  | .error e => e
  | .ok row => writing ((row 0).getD [])

/-! ## paths -/

def lastName (p : Text) : Text :=
  let name := ((Files.trimSlashes p).reverse.takeWhile (· != '/')).reverse
  if name = [] ∧ p ≠ [] then ['/'] else name

/-- a name without an ending, unless nothing would be left -/
def withoutSuffix (suffix name : Text) : Text :=
  if suffix.isSuffixOf name ∧ suffix.length < name.length then
    name.take (name.length - suffix.length)
  else name

def basename : Tool := fun c =>
  let table := { OptionTable.of "az" "s" [("multiple", 'a'), ("suffix", 's'), ("zero", 'z')] with
    ordered := true }
  c.withOptions table 1 fun o =>
    let ending := if o.has 'z' then '\x00' else '\n'
    let many := o.has 'a' || o.has 's'
    match o.operands with
    | [] => c.misused 1 "missing operand"
    | p :: rest =>
      if !many ∧ rest.length > 1 then
        c.misused 1 ("extra operand " ++ quoted (rest.getD 1 []))
      else if many then
        writing (withEndings ending ((p :: rest).map fun q =>
          withoutSuffix ((o.value? 's').getD []) (lastName q)))
      else writing (withoutSuffix (rest.headD []) (lastName p) ++ [ending])

def aboveName (p : Text) : Text :=
  let trimmed := Files.trimSlashes p
  let above := (trimmed.reverse.dropWhile (· != '/')).reverse
  if above = [] then (if trimmed = [] ∧ p ≠ [] then ['/'] else ['.'])
  else if Files.trimSlashes above = [] then ['/']
  else Files.trimSlashes above

def dirname : Tool := fun c =>
  c.withOptions { OptionTable.of "z" [] [("zero", 'z')] with ordered := true } 1 fun o =>
    let ending := if o.has 'z' then '\x00' else '\n'
    if o.operands = [] then c.misused 1 "missing operand"
    else writing (withEndings ending (o.operands.map aboveName))

/-! ## others -/

def timeUnits : List (Char × Nat) := [('s', 1), ('m', 60), ('h', 3600), ('d', 86400)]

/-- the length of time that a text is, in parts of a thousandth of a millionth of a second -/
def duration? (t : Text) : Option Nat :=
  let unit := t.getLast?.bind fun c => timeUnits.lookup c
  let number := if unit.isSome then t.dropLast else t
  if isEndless number then some (Nat.pow 10 30)
  else
    match Decimal.of? number with
    | some d => if 0 ≤ d.value then some ((d.scaled 9).toNat * unit.getD 1) else none
    | none => none

def sleep : Tool := fun c =>
  c.withOptions (.of [] [] []) 1 fun o =>
    let wrong := o.operands.filter fun a => (duration? a).isNone
    if o.operands = [] then c.misused 1 "missing operand"
    else if wrong = [] then silent 0
    else
      ⟨none, [(.complaint, wrong.flatMap (fun a =>
        c.complaint ("invalid time interval " ++ quoted a)) ++ c.hint)], [], 1⟩

/-- a text with the escapes of `echo` replaced, when `skip` more characters belong to the last one,
and whether an escape has cut it off -/
def unescapeMore : Nat → Text → Text × Bool
  | _, [] => ([], false)
  | skip + 1, _ :: r => unescapeMore skip r
  | 0, '\\' :: r =>
    let more := fun (n : Nat) (front : Text) =>
      let p := unescapeMore n r
      (front ++ p.1, p.2)
    match r with
    | 'c' :: _ => ([], true)
    | '0' :: r' =>
      let (value, digits) := octalRun 3 r'
      more (digits + 1) [Char.ofNat (value % 256)]
    | 'x' :: r' =>
      let d := (r'.takeWhile fun c => (digit? 16 c).isSome).take 2
      if d = [] then more 0 ['\\'] else more (d.length + 1) [Char.ofNat (digitRun 16 d).1]
    | _ =>
      let (front, n) := escape r
      more n front
  | 0, c :: r =>
    let p := unescapeMore 0 r
    (c :: p.1, p.2)

def plainEcho : Tool := fun c =>
  let isOption := fun (a : Text) =>
    match a with
    | '-' :: x :: r => (x :: r).all fun y => y == 'n' || y == 'e' || y == 'E'
    | _ => false
  let flags := (c.args.takeWhile isOption).flatten
  let line := List.intercalate [' '] (c.args.dropWhile isOption)
  let escapes := ((flags.reverse.find? fun x => x == 'e' || x == 'E').any (· == 'e'))
  let (t, cut) := if escapes then unescapeMore 0 line else (line, false)
  writing (if 'n' ∈ flags ∨ cut then t else t ++ ['\n'])

def plainPrintf : Tool := fun c =>
  match c.args with
  | [] => c.misused 1 "missing operand"
  | format :: rest =>
    let p := printed rest.length format rest
    ⟨none, [(.complaint, p.complaints.flatMap c.complaint), (.output, p.text)], [],
      if p.complaints = [] then 0 else 1⟩

end Shell
end CoroBridge
