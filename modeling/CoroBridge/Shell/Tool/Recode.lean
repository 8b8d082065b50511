import CoroBridge.Shell.Tool.Options

/-!
# Command language: encodings

The tool `iconv` writes characters in another encoding than the one in which it reads them.

* `Recode.Charset`     an encoding;
* `Recode.decode`      the numbers of the characters that bytes stand for;
* `Recode.encode?`     the bytes that stand for a character;
* `iconv`              the tool.
-/

namespace CoroBridge
namespace Shell
namespace Recode

inductive Charset where
  | ascii
  | latin (others : List (Nat × Nat))
  | utf8
  | utf16 (big : Option Bool)
  | utf32 (big : Option Bool)
  deriving DecidableEq, Repr

def latin9 : List (Nat × Nat) :=
  [(0xA4, 0x20AC), (0xA6, 0x160), (0xA8, 0x161), (0xB4, 0x17D), (0xB8, 0x17E), (0xBC, 0x152),
    (0xBD, 0x153), (0xBE, 0x178)]

/-- where the encoding of western windows differs from the first latin one -/
def western : List (Nat × Nat) :=
  [(0x80, 0x20AC), (0x82, 0x201A), (0x83, 0x192), (0x84, 0x201E), (0x85, 0x2026), (0x86, 0x2020),
    (0x87, 0x2021), (0x88, 0x2C6), (0x89, 0x2030), (0x8A, 0x160), (0x8B, 0x2039), (0x8C, 0x152),
    (0x8E, 0x17D), (0x91, 0x2018), (0x92, 0x2019), (0x93, 0x201C), (0x94, 0x201D), (0x95, 0x2022),
    (0x96, 0x2013), (0x97, 0x2014), (0x98, 0x2DC), (0x99, 0x2122), (0x9A, 0x161), (0x9B, 0x203A),
    (0x9C, 0x153), (0x9E, 0x17E), (0x9F, 0x178)]

def charsetNames : List (Charset × List String) :=
  [(.utf8, ["UTF-8", "UTF8"]),
    (.latin [], ["ISO-8859-1", "ISO8859-1", "ISO_8859-1", "LATIN1", "L1", "ISO88591"]),
    (.latin latin9, ["ISO-8859-15", "ISO8859-15", "LATIN-9", "LATIN9"]),
    (.latin western, ["CP1252", "WINDOWS-1252"]),
    (.ascii, ["ASCII", "US-ASCII", "ANSI_X3.4-1968", "646"]), (.utf16 none, ["UTF-16", "UTF16"]),
    (.utf16 (some false), ["UTF-16LE", "UTF16LE", "UCS-2LE"]),
    (.utf16 (some true), ["UTF-16BE", "UTF16BE", "UCS-2BE"]), (.utf32 none, ["UTF-32", "UTF32"]),
    (.utf32 (some false), ["UTF-32LE", "UTF32LE", "UCS-4LE"]),
    (.utf32 (some true), ["UTF-32BE", "UTF32BE", "UCS-4BE", "UCS-4"])]

def named? (name : Text) : Option Charset :=
  (charsetNames.find? fun c => c.2.any fun n => name == n.toList).map Prod.fst

/-- what becomes of characters that an encoding has not: an end, nothing, or others like them -/
inductive Leniency where
  | none
  | ignore
  | similar
  deriving DecidableEq, Repr

/-- the encoding that a name stands for, and what is to become of other characters -/
def charset? (name : Text) : Option (Charset × Leniency) :=
  let upper := name.map Char.toUpper
  let (base, flags) := match cutAt? "//" upper with
    | some (b, f) => (b, f)
    | none => (upper, [])
  let base : Text := if base = [] then "ANSI_X3.4-1968" else base
  (named? base).map fun c =>
    (c, if (cutAt? "TRANSLIT" flags).isSome then .similar
      else if (cutAt? "IGNORE" flags).isSome then .ignore else .none)

/-- the reasons why bytes are no characters: they are wrong, or some are missing at the end -/
inductive Fault where
  | wrong
  | short
  deriving DecidableEq, Repr

/-- the number of bytes that a character takes which begins with a byte, and the bits in it -/
def utf8Lead (b : Nat) : Option (Nat × Nat) :=
  if b < 0x80 then some (1, b)
  else if 0xC2 ≤ b ∧ b < 0xE0 then some (2, b - 0xC0)
  else if 0xE0 ≤ b ∧ b < 0xF0 then some (3, b - 0xE0)
  else if 0xF0 ≤ b ∧ b < 0xF5 then some (4, b - 0xF0)
  else none

def isScalar (n : Nat) : Bool := n < 0xD800 || (0xE000 ≤ n && n < 0x110000)

def unitOf (big : Bool) (bs : List Nat) : Nat :=
  (if big then bs else bs.reverse).foldl (fun n b => n * 256 + b) 0

/-- the first character in some bytes, and the number of its bytes -/
def first (c : Charset) (bs : List Nat) : Except Fault (Nat × Nat) :=
  match bs with
  | [] => .error .short
  | b :: rest =>
    match c with
    | .ascii => if b < 128 then .ok (b, 1) else .error .wrong
    | .latin others => .ok ((others.lookup b).getD b, 1)
    | .utf8 =>
      match utf8Lead b with
      | none => .error .wrong
      | some (n, bits) =>
        let tail := rest.take (n - 1)
        let good := tail.takeWhile fun b => 0x80 ≤ b && b < 0xC0
        if good.length < tail.length then .error .wrong
        else if tail.length + 1 < n then .error .short
        else
          let v := tail.foldl (fun v b => v * 64 + (b - 0x80)) bits
          let least := [0, 0, 0x80, 0x800, 0x10000].getD n 0
          if isScalar v ∧ least ≤ v then .ok (v, n) else .error .wrong
    | .utf16 big =>
      if bs.length < 2 then .error .short
      else
        let u := unitOf (big.getD false) (bs.take 2)
        if 0xD800 ≤ u ∧ u < 0xDC00 then
          if bs.length < 4 then .error .short
          else
            let v := unitOf (big.getD false) ((bs.drop 2).take 2)
            if 0xDC00 ≤ v ∧ v < 0xE000 then
              .ok (0x10000 + (u - 0xD800) * 1024 + (v - 0xDC00), 4)
            else .error .wrong
        else if isScalar u then .ok (u, 2) else .error .wrong
    | .utf32 big =>
      if bs.length < 4 then .error .short
      else
        let u := unitOf (big.getD false) (bs.take 4)
        if isScalar u then .ok (u, 4) else .error .wrong

def decode (c : Charset) (skips : Bool) : Nat → Nat → List Nat → List Nat × Option (Fault × Nat)
  | 0, _, _ => ([], none)
  | n + 1, at_, bs =>
    if bs.isEmpty then ([], none)
    else
      match first c bs with
      | .ok (v, k) =>
        let (vs, f) := decode c skips n (at_ + k) (bs.drop k)
        (v :: vs, f)
      | .error f =>
        if skips ∧ f = .wrong then
          let (vs, g) := decode c skips n (at_ + 1) (bs.drop 1)
          (vs, g <|> some (f, bs.length + at_))
        else ([], some (f, at_))

/-- a mark in front taken off, with the order of bytes that it tells -/
def unmarked (c : Charset) (bs : List Nat) : Charset × List Nat :=
  match c, bs with
  | .utf16 none, 0xFF :: 0xFE :: r => (.utf16 (some false), r)
  | .utf16 none, 0xFE :: 0xFF :: r => (.utf16 (some true), r)
  | .utf32 none, 0xFF :: 0xFE :: 0 :: 0 :: r => (.utf32 (some false), r)
  | .utf32 none, 0 :: 0 :: 0xFE :: 0xFF :: r => (.utf32 (some true), r)
  | c, bs => (c, bs)

def bytesOf (big : Bool) (size n : Nat) : List Nat :=
  let low := (List.range size).map fun i => n / Nat.pow 256 i % 256
  if big then low.reverse else low

def encode? (c : Charset) (v : Nat) : Option (List Nat) :=
  match c with
  | .ascii => if v < 128 then some [v] else none
  | .latin others =>
    match others.find? (·.2 == v) with
    | some p => some [p.1]
    | none => if v < 256 ∧ (others.lookup v).isNone then some [v] else none
  | .utf8 =>
    let low := fun (k : Nat) => 0x80 + v / Nat.pow 64 k % 64
    some (if v < 0x80 then [v]
      else if v < 0x800 then [0xC0 + v / 64, low 0]
      else if v < 0x10000 then [0xE0 + v / 4096, low 1, low 0]
      else [0xF0 + v / 262144, low 2, low 1, low 0])
  | .utf16 big =>
    let b := big.getD false
    some (if v < 0x10000 then bytesOf b 2 v
      else bytesOf b 2 (0xD800 + (v - 0x10000) / 1024) ++ bytesOf b 2 (0xDC00 + (v - 0x10000) % 1024))
  | .utf32 big => some (bytesOf (big.getD false) 4 v)

def similar : List (Nat × Text) :=
  [(0xA0, " "), (0xA9, "(C)"), (0xAB, "<<"), (0xAD, "-"), (0xAE, "(R)"), (0xB5, "u"),
    (0xBB, ">>"), (0xBC, " 1/4 "), (0xBD, " 1/2 "), (0xBE, " 3/4 "), (0xC6, "AE"), (0xD7, "x"),
    (0xDF, "ss"), (0xE6, "ae"), (0x152, "OE"), (0x153, "oe"), (0x2013, "-"), (0x2014, "-"),
    (0x2018, "'"), (0x2019, "'"), (0x201C, "\""), (0x201D, "\""), (0x2022, "o"), (0x2026, "..."),
    (0x20AC, "EUR"), (0x2122, "TM")]

/-- the bytes that stand for characters up to one that has none, with the number of the characters
before it; the truth value tells that some were left out -/
def encodeAll (c : Charset) (k : Leniency) : List Nat → List Nat × Option Nat × Bool
  | [] => ([], none, false)
  | v :: vs =>
    let go := fun (front : List Nat) (left : Bool) =>
      let (bs, stop, l) := encodeAll c k vs
      (front ++ bs, stop.map (· + 1), l || left)
    match encode? c v with
    | some bs => go bs false
    | none =>
      match k with
      | .none => ([], some 0, false)
      | .ignore => go [] true
      | .similar => go (((similar.lookup v).getD "?").map Char.toNat) false

end Recode

def iconvOptions : OptionTable :=
  .of "cls" "fto" [("from-code", 'f'), ("to-code", 't'), ("list", 'l'), ("output", 'o'),
    ("silent", 's'), ("verbose", 'v')]

def iconv : Tool := fun c =>
  c.withOptions iconvOptions 64 fun o =>
    let from_ := (o.value? 'f').getD []
    let dest := (o.value? 't').getD []
    let unsupported := fun (what : Text) =>
      (⟨none, [(.complaint, c.complaint (what ++ " not supported")),
        (.complaint, "Try `iconv --help' or `iconv --usage' for more information.\n")], [], 1⟩ :
        Effect)
    let named := fun (t : Text) => "`" ++ t ++ "'"
    match Recode.charset? from_, Recode.charset? dest with
    | none, none =>
      unsupported ("conversions from " ++ named from_ ++ " and to " ++ named dest ++ " are")
    | none, _ => unsupported ("conversion from " ++ named from_ ++ " is")
    | _, none => unsupported ("conversion to " ++ named dest ++ " is")
    | some (source, _), some (target, k) =>
      let k := if o.has 'c' then .ignore else k
      let paths := pathsOf o.operands
      let found := c.readAll false paths
      let faults := found.filterMap fun x =>
        match x.2 with
        | .error f => some (Stream.complaint, c.complaint ("cannot open input file "
            ++ named x.1 ++ ": " ++ f.reason.message))
        | .ok _ => none
      let text := found.flatMap fun x => x.2.toOption.getD []
      let (source, bs) := Recode.unmarked source (text.map Char.toNat)
      let skipped := text.length - bs.length
      let (vs, fault) := Recode.decode source (o.has 'c' || k == .ignore) (bs.length + 1) skipped bs
      let (out, stop, left) := Recode.encodeAll target k vs
      let mark : List Nat := match target with
        | .utf16 none => [0xFF, 0xFE]
        | .utf32 none => [0xFF, 0xFE, 0, 0]
        | _ => []
      let out : Text := (mark ++ out).map Char.ofNat
      let bad := fun (n : Nat) =>
        (Stream.complaint, c.complaint ("illegal input sequence at position " ++ Text.ofNat n))
      let position := fun (n : Nat) => skipped + ((vs.take n).flatMap fun v =>
        (Recode.encode? source v).getD [0]).length
      let told := match stop, fault with
        | some n, _ => [bad (position n)]
        | none, some (.wrong, n) => if o.has 'c' then [] else [bad n]
        | none, some (.short, _) =>
          [(.complaint, c.complaint "incomplete character or shift sequence at end of buffer")]
        | none, none => []
      let failed := told ≠ [] ∨ faults ≠ [] ∨ (left ∧ !o.has 'c')
      ⟨leftBy paths, faults ++ (.output, out) :: told, [], if failed then 1 else 0⟩

end Shell
end CoroBridge
