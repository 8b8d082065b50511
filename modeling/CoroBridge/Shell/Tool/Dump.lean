import CoroBridge.Shell.Tool.Options

/-!
# Command language: tools that show bytes

* `DumpForm`            how bytes are shown in groups;
* `dumpForms`           the forms that a text names;
* `od`                  bytes in groups, with the places where they stand;
* `Sixfold.encode`      bytes as characters that stand for six bits each;
* `Sixfold.decode`      the bytes again, as far as the characters allow;
* `base64`              the tool that does either.
-/

namespace CoroBridge
namespace Shell

/-! ## groups of bytes -/

/-- what is shown of a group of bytes: a number in base eight or sixteen, a number with or without a
sign, or a character by its name or as it is -/
inductive DumpKind where
  | octal
  | hexadecimal
  | signed
  | unsigned
  | named
  | character
  deriving DecidableEq, Repr

structure DumpForm where
  kind : DumpKind
  size : Nat
  trailed : Bool
  deriving DecidableEq, Repr

/-- the names of the characters that are not seen -/
def characterNames : List String :=
  ["nul", "soh", "stx", "etx", "eot", "enq", "ack", "bel", "bs", "ht", "nl", "vt", "ff", "cr",
    "so", "si", "dle", "dc1", "dc2", "dc3", "dc4", "nak", "syn", "etb", "can", "em", "sub", "esc",
    "fs", "gs", "rs", "us", "sp"]

namespace DumpForm

def width (k : DumpForm) : Nat :=
  match k.kind with
  | .octal => (8 * k.size + 2) / 3
  | .hexadecimal => 2 * k.size
  | .unsigned => (toString (Nat.pow 2 (8 * k.size) - 1)).length
  | .signed => (toString (Nat.pow 2 (8 * k.size - 1))).length + 1
  | .named => 3
  | .character => 3

def number (t : Text) : Nat := t.foldr (fun c n => n * 256 + c.toNat) 0

def field (k : DumpForm) (t : Text) : Text :=
  let n := number (t ++ List.replicate (k.size - t.length) '\x00')
  match k.kind with
  | .octal => padWith '0' k.width (inBase 8 n)
  | .hexadecimal => padWith '0' k.width (inBase 16 n)
  | .unsigned => Text.ofNat n
  | .signed =>
    if n < Nat.pow 2 (8 * k.size - 1) then Text.ofNat n
    else '-' :: Text.ofNat (Nat.pow 2 (8 * k.size) - n)
  | .named =>
    let n := n % 128
    if n = 127 then "del" else ((characterNames[n]?).map String.toList).getD [Char.ofNat n]
  | .character =>
    match Char.ofNat n with
    | '\x00' => "\\0"
    | '\\' => ['\\']
    | c => (escapeOf? c).getD [c] |> fun t => if t.length = 4 then t.drop 1 else t

/-- the groups of a line shown, in as much room as `room` gives to a line of `perLine` bytes; what
is left of the room goes in equal parts before the groups -/
def line (k : DumpForm) (perLine room : Nat) (t : Text) : Text :=
  let all := perLine / k.size
  let shown := (t.length + k.size - 1) / k.size
  let pad := room - (k.width + 1) * all
  let part := fun (i : Nat) => pad * (all - i) / all
  let groups := (List.range shown).flatMap fun i =>
    ' ' :: padLeft (part i - part (i + 1) + k.width) (k.field ((t.drop (i * k.size)).take k.size))
  let trail : Text :=
    if k.trailed then
      List.replicate ((all - shown) * (k.width + 1) + part shown) ' ' ++ "  >"
        ++ t.map (fun c => if isPrintable c then c else '.') ++ ['<']
    else []
  groups ++ trail ++ ['\n']

end DumpForm

def dumpForms (whole : Text) : Nat → Text → Except Text (List DumpForm)
  | 0, _ => .ok []
  | _ + 1, [] => .ok []
  | n + 1, c :: r => do
    let sized := fun (k : DumpKind) =>
      let d := r.takeWhile Char.isDigit
      let letter := (r.head?.bind fun x =>
        ([('C', 1), ('S', 2), ('I', 4), ('L', 8)] : List (Char × Nat)).lookup x)
      let (size, rest) := match letter with
        | some size => (size, r.drop 1)
        | none => ((number? d).getD 4, r.drop d.length)
      if [1, 2, 4, 8].contains size then .ok (k, size, rest)
      else
        .error ("invalid type string " ++ quoted whole ++ ";\nthis system doesn't provide a "
          ++ Text.ofNat size ++ "-byte integral type")
    let (kind, size, rest) ← match c with
      | 'o' => sized .octal
      | 'x' => sized .hexadecimal
      | 'd' => sized .signed
      | 'u' => sized .unsigned
      | 'a' => .ok (.named, 1, r)
      | 'c' => .ok (.character, 1, r)
      | _ => .error (("invalid character '" : Text) ++ [c] ++ "' in type string " ++ quoted whole)
    let trailed := rest.head? = some 'z'
    let more ← dumpForms whole n (if trailed then rest.drop 1 else rest)
    return ⟨kind, size, trailed⟩ :: more

def formLetters : List (Char × String) :=
  [('a', "a"), ('b', "o1"), ('c', "c"), ('d', "u2"), ('D', "u4"), ('h', "x2"), ('H', "x4"),
    ('i', "d4"), ('I', "d8"), ('l', "d8"), ('L', "d8"), ('o', "o2"), ('B', "o2"), ('O', "o4"),
    ('s', "d2"), ('x', "x2"), ('X', "x4")]

/-- the base of the places that are shown, and the width of a place; none stands for no places -/
def placeStyle? (t : Text) : Option (Option (Nat × Nat)) :=
  match t.head? with
  | some 'o' => some (some (8, 7))
  | some 'd' => some (some (10, 7))
  | some 'x' => some (some (16, 6))
  | some 'n' => some none
  | _ => none

/-- lines of bytes shown from a place on; a line that is the same as the one before it is left out,
and a star stands for all such lines in a row -/
def dumpLines (forms : List DumpForm) (style : Option (Nat × Nat)) (every : Bool)
    (perLine room place : Nat) (last : Text) (starred : Bool) : List Text → Text
  | [] => []
  | t :: ts =>
    let shownPlace := match style with
      | some (base, width) => padWith '0' width (inBase base place)
      | none => []
    let more := fun (last : Text) (starred : Bool) =>
      dumpLines forms style every perLine room (place + t.length) last starred ts
    if !every ∧ t = last ∧ t.length = perLine ∧ ts ≠ [] then
      (if starred then [] else "*\n") ++ more last true
    else
      let blank : Text := List.replicate shownPlace.length ' '
      let lines := (forms.map fun k => k.line perLine room t).zipIdx.flatMap fun x =>
        (if x.2 = 0 then shownPlace else blank) ++ x.1
      lines ++ more t false

def odOptions : OptionTable :=
  { OptionTable.of "abBcdDhHiIlLoOsvxX" "AjNt"
      [("address-radix", 'A'), ("skip-bytes", 'j'), ("read-bytes", 'N'), ("format", 't'),
        ("output-duplicates", 'v'), ("width", 'w')]
    with perhaps := ['w'] }

def od : Tool := fun c =>
  c.withOptions odOptions 1 fun o =>
    let run : Except Text Effect := do
      let style ← match o.value? 'A' with
        | none => .ok (some (8, 7))
        | some t =>
          match placeStyle? t with
          | some s => .ok s
          | none =>
            .error ("invalid output address radix '" ++ t.take 1
              ++ "'; it must be one character from [doxn]")
      let size := fun (l : Char) => match o.value? l with
        | none => .ok none
        | some t =>
          match size? t with
          | some n => .ok (some n)
          | none => .error (("invalid -" : Text) ++ [l] ++ " argument " ++ quoted t)
      let skipped ← size 'j'
      let most ← size 'N'
      let wanted ← size 'w'
      let forms ← o.given.mapM fun g =>
        match formLetters.lookup g.1 with
        | some t => dumpForms t.toList 4 t.toList
        | none =>
          if g.1 = 't' then
            let t := g.2.getD []
            if t = [] then .ok [⟨.octal, 2, false⟩] else dumpForms t (t.length + 1) t
          else .ok []
      let forms := if forms.flatten = [] then [⟨.octal, 2, false⟩] else forms.flatten
      let unit := forms.foldl (fun n k => Nat.lcm n k.size) 1
      let asked := if o.has 'w' then wanted.getD 32 else 16
      let fits := asked ≠ 0 ∧ asked % unit = 0
      let perLine := if fits then asked else unit
      let warning :=
        if fits then []
        else c.complaint ("warning: invalid width " ++ Text.ofNat asked ++ "; using "
          ++ Text.ofNat unit ++ " instead")
      let room := (forms.map fun k => (k.width + 1) * (perLine / k.size)).foldl max 0
      let paths := pathsOf o.operands
      let found := c.readAll false paths
      let all := found.flatMap fun x => x.2.toOption.getD []
      let skip := skipped.getD 0
      if all.length < skip then
        .error "cannot skip past end of combined input"
      let t := (all.drop skip).take (most.getD all.length)
      let lines := (List.range ((t.length + perLine - 1) / perLine)).map fun i =>
        (t.drop (i * perLine)).take perLine
      let finish : Text := match style with
        | some (base, width) => padWith '0' width (inBase base (skip + t.length)) ++ ['\n']
        | none => []
      let opened := found.any fun x => match x.2 with
        | .ok _ => true
        | .error f => f.opened
      let m : Manner :=
        { opening := usualManner.opening
          reading := fun p f =>
            shownName (if p = ['-'] then "standard input" else p) ++ ": " ++ f.message
          closing := "standard input: Bad file descriptor" }
      let e := c.onFound m 1 paths fun _ =>
        if opened then dumpLines forms style (o.has 'v') perLine room skip [] false lines ++ finish
        else []
      return { e with written := (.complaint, warning) :: e.written }
    match run with
    | .ok e => e
    | .error what => c.fail 1 what

/-! ## six bits a character -/

namespace Sixfold

def letters : Text :=
  "ABCDEFGHIJKLMNOPQRSTUVWXYZabcdefghijklmnopqrstuvwxyz0123456789+/".toList

def encode : Text → Text
  | a :: b :: c :: r =>
    let n := (a.toNat * 256 + b.toNat) * 256 + c.toNat
    part n 3 ++ part n 2 ++ part n 1 ++ part n 0 ++ encode r
  | [a, b] =>
    let n := (a.toNat * 256 + b.toNat) * 256
    part n 3 ++ part n 2 ++ part n 1 ++ ['=']
  | [a] =>
    let n := a.toNat * 65536
    part n 3 ++ part n 2 ++ ['=', '=']
  | [] => []
where
  /-- the character of six bits of a number -/
  part (n place : Nat) : Text := (letters[n / Nat.pow 64 place % 64]?).toList

/-- the bytes that characters stand for, up to the first ones that stand for none, and whether there
are such -/
def decode : Text → Text × Bool
  | [] => ([], true)
  | a :: b :: c :: d :: r =>
    match value a, value b, value c, value d with
    | some x, some y, some z, some w =>
      let n := ((x * 64 + y) * 64 + z) * 64 + w
      let (t, ok) := decode r
      (byte n 2 :: byte n 1 :: byte n 0 :: t, ok)
    | some x, some y, some z, none =>
      let n := ((x * 64 + y) * 64 + z) * 64
      if d = '=' then
        let (t, ok) := decode r
        (byte n 2 :: byte n 1 :: t, ok)
      else ([byte n 2, byte n 1], false)
    | some x, some y, none, _ =>
      let n := (x * 64 + y) * 4096
      if c = '=' ∧ d = '=' then
        let (t, ok) := decode r
        (byte n 2 :: t, ok)
      else ([byte n 2], false)
    | _, _, _, _ => ([], false)
  | [a, b, c] =>
    match value a, value b, value c with
    | some x, some y, some z =>
      let n := ((x * 64 + y) * 64 + z) * 64
      ([byte n 2, byte n 1], false)
    | some x, some y, none => ([byte ((x * 64 + y) * 4096) 2], false)
    | _, _, _ => ([], false)
  | [a, b] =>
    match value a, value b with
    | some x, some y => ([byte ((x * 64 + y) * 4096) 2], false)
    | _, _ => ([], false)
  | [_] => ([], false)
where
  /-- the six bits that a character stands for -/
  value (c : Char) : Option Nat := letters.findIdx? (· == c)
  /-- a byte of a number -/
  byte (n place : Nat) : Char := Char.ofNat (n / Nat.pow 256 place % 256)

end Sixfold

/-- a text in lines of a width -/
def wrappedAt (width : Nat) (t : Text) : Text :=
  if width = 0 then t
  else
    withEnds ((List.range ((t.length + width - 1) / width)).map fun i =>
      (t.drop (i * width)).take width)

def base64 : Tool := fun c =>
  let table := OptionTable.of "di" "w" [("decode", 'd'), ("ignore-garbage", 'i'), ("wrap", 'w')]
  c.withOptions table 1 fun o =>
    let width := (o.value? 'w').map fun t => (number? t, t)
    match width, o.operands with
    | some (none, t), _ => c.fail 1 ("invalid wrap size: " ++ quoted t)
    | _, _ :: extra :: _ => c.misused 1 ("extra operand " ++ quoted extra)
    | _, paths =>
      let m : Manner :=
        { opening := usualManner.opening
          reading := fun _ f => "read error: " ++ f.message
          closing := [] }
      let e := c.onFound m 1 (pathsOf paths) fun found =>
        let t := found.flatMap Prod.snd
        let kept := t.filter fun x =>
          if o.has 'i' then Sixfold.letters.contains x || x == '=' else x != '\n'
        if o.has 'd' then (Sixfold.decode kept).1
        else wrappedAt ((width.bind Prod.fst).getD 76) (Sixfold.encode t)
      let garbled := o.has 'd' && (c.readAll false (pathsOf paths)).any fun x =>
        match x.2 with
        | .ok t =>
          let kept := t.filter fun x =>
            if o.has 'i' then Sixfold.letters.contains x || x == '=' else x != '\n'
          !(Sixfold.decode kept).2
        | .error _ => false
      if garbled then
        { e with written := e.written ++ [(.complaint, c.complaint "invalid input")], status := 1 }
      else e

end Shell
end CoroBridge
