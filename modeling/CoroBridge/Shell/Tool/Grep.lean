import CoroBridge.Shell.Regex
import CoroBridge.Shell.Tool.Options

/-!
# Command language: lines found

The tool `grep` shows the lines in which a pattern matches, counts them, or tells whether there
are any.

* `Search`                what is looked for;
* `Search.pieces`         the parts of a line that match;
* `Found`                 how lines that are found are shown;
* `Found.lines`           those of a text, with the lines around them;
* `grep`                  the tool.
-/

namespace CoroBridge
namespace Shell

/-! ## matches -/

structure Search where
  regex : Regex
  sight : Sight
  words : Bool
  others : Bool

/-- the first match at or after a place that stands as a word -/
def Regex.wordFrom? (r : Regex) (k : Sight) (passed : Text) (before : Option Char) :
    Text → Option Match
  | [] =>
    if before.any isWordChar then none
    else (r.longest? k ⟨before, [], []⟩).map fun e => ⟨passed.reverse, [], [], e.groups⟩
  | c :: t =>
    let ends := if before.any isWordChar then [] else r.spots k ⟨before, c :: t, []⟩
    let ends := (ends.filter fun e => !e.rest.head?.any isWordChar).mergeSort
      fun a b => decide (a.rest.length ≤ b.rest.length)
    match ends with
    | e :: _ =>
      some ⟨passed.reverse, (c :: t).take (t.length + 1 - e.rest.length), e.rest, e.groups⟩
    | [] => r.wordFrom? k (c :: passed) (some c) t

def Search.next? (s : Search) (before : Option Char) (t : Text) : Option Match :=
  if s.words then s.regex.wordFrom? s.sight [] before t else s.regex.find? s.sight before t

def Search.wants (s : Search) (l : Text) : Bool := (s.next? none l).isSome != s.others

def Search.pieces (s : Search) : Nat → Nat → Option Char → Text → List (Nat × Text)
  | 0, _, _, _ => []
  | n + 1, place, before, t =>
    match s.next? before t with
    | none => []
    | some m =>
      let at_ := place + m.before.length
      match m.text, m.after with
      | [], [] => []
      | [], c :: r => s.pieces n (at_ + 1) (some c) r
      | _, _ => (at_, m.text) :: s.pieces n (at_ + m.text.length) m.text.getLast? m.after

/-! ## what is shown -/

structure Found where
  search : Search
  name : Option Text
  numbers : Bool
  offsets : Bool
  zeroName : Bool
  tab : Bool
  only : Bool
  colors : Bool
  before : Option Nat
  after : Option Nat
  between : Option Text
  ending : Char
  most : Option Nat

def colored (color t : Text) : Text := "\x1b[" ++ color ++ "m\x1b[K" ++ t ++ "\x1b[m\x1b[K"

def Found.paint (f : Found) (color t : Text) : Text := if f.colors then colored color t else t

/-- a line with its number and its place in the text -/
structure NumberedLine where
  number : Nat
  place : Nat
  text : Text

def numberedFrom (number place : Nat) : List Text → List NumberedLine
  | [] => []
  | l :: ls => ⟨number, place, l⟩ :: numberedFrom (number + 1) (place + l.length + 1) ls

/-- what comes before a line or a part of it, with a sign after each item; numbers take `width`
places where they are aligned -/
def Found.front (f : Found) (width : Nat) (sign : Char) (l : NumberedLine) (place : Nat)
    (text : Text) : Text :=
  let sign := f.paint "36" [sign]
  let number := fun (n : Nat) =>
    f.paint "32" ((if f.tab then padLeft width else id) (Text.ofNat n)) ++ sign
  let name := match f.name with
    | some n => f.paint "35" n ++ (if f.zeroName then ['\x00'] else sign)
    | none => []
  name ++ (if f.numbers then number l.number else [])
    ++ (if f.offsets then number (l.place + place) else [])
    ++ (if f.tab && (f.name.isSome || f.numbers || f.offsets) && text ≠ [] then ['\t'] else [])

def Found.painted (f : Found) (l : Text) : Text :=
  if f.colors && !f.search.others then
    let (t, n) := (f.search.pieces (l.length + 1) 0 none l).foldl
      (fun (s : Text × Nat) p =>
        (s.1 ++ (l.drop s.2).take (p.1 - s.2) ++ colored "01;31" p.2, p.1 + p.2.length))
      (([] : Text), 0)
    t ++ l.drop n
  else l

def Found.chosen (f : Found) (width : Nat) (l : NumberedLine) : Text :=
  if f.only then
    if f.search.others then []
    else
      (f.search.pieces (l.text.length + 1) 0 none l.text).flatMap fun p =>
        f.front width ':' l p.1 p.2 ++ f.paint "01;31" p.2 ++ [f.ending]
  else f.front width ':' l 0 l.text ++ f.painted l.text ++ [f.ending]

def Found.around (f : Found) (width : Nat) (l : NumberedLine) : Text :=
  if f.only then [] else f.front width '-' l 0 l.text ++ l.text ++ [f.ending]

def Found.lines (f : Found) (width : Nat) (held : List NumberedLine) (owed : Nat)
    (shown gap : Bool) (left : Option Nat) : List NumberedLine → Text × Nat
  | [] => ([], 0)
  | l :: ls =>
    if left ≠ some 0 ∧ f.search.wants l.text then
      let context := (held.take (f.before.getD 0)).reverse
      let gap := gap || context.length < held.length
      let between : Text :=
        if shown && gap && (f.before.isSome || f.after.isSome) && !f.only then
          match f.between with
          | some t => f.paint "36" t ++ ['\n']
          | none => []
        else []
      let (t, n) :=
        f.lines width [] (f.after.getD 0) true false (left.map (· - 1)) ls
      (between ++ context.flatMap (f.around width) ++ f.chosen width l ++ t, n + 1)
    else if 0 < owed then
      let (t, n) := f.lines width [] (owed - 1) shown gap left ls
      (f.around width l ++ t, n)
    else if left = some 0 then ([], 0)
    else f.lines width (l :: held) 0 shown gap left ls

/-! ## options -/

def grepOptions : OptionTable :=
  { OptionTable.of "0123456789EFGHILPTUVZabchilnoqRrsuvwxyzᵇᴳᴵ" "ABCDXdefmᵃᵍᵉⁱʲˡ"
      [("basic-regexp", 'G'), ("extended-regexp", 'E'), ("fixed-regexp", 'F'),
        ("fixed-strings", 'F'), ("perl-regexp", 'P'), ("after-context", 'A'),
        ("before-context", 'B'), ("binary-files", 'ᵃ'), ("binary", 'U'), ("line-buffered", 'ᵇ'),
        ("byte-offset", 'b'), ("context", 'C'), ("color", 'ᶜ'), ("colour", 'ᶜ'), ("count", 'c'),
        ("devices", 'D'), ("directories", 'd'), ("exclude", 'ᵉ'), ("exclude-from", 'ⁱ'),
        ("exclude-dir", 'ʲ'), ("file", 'f'), ("files-with-matches", 'l'),
        ("files-without-match", 'L'), ("group-separator", 'ᵍ'), ("include", 'ⁱ'),
        ("initial-tab", 'T'), ("label", 'ˡ'), ("line-number", 'n'), ("line-regexp", 'x'),
        ("max-count", 'm'), ("ignore-case", 'i'), ("no-ignore-case", 'ᴵ'), ("no-filename", 'h'),
        ("no-group-separator", 'ᴳ'), ("no-messages", 's'), ("null", 'Z'), ("null-data", 'z'),
        ("only-matching", 'o'), ("quiet", 'q'), ("silent", 'q'), ("recursive", 'r'),
        ("dereference-recursive", 'R'), ("regexp", 'e'), ("invert-match", 'v'), ("text", 'a'),
        ("unix-byte-offsets", 'u'), ("with-filename", 'H'), ("word-regexp", 'w')]
    with perhaps := "ᶜ" }

def grepUsage : Text :=
  "Usage: grep [OPTION]... PATTERNS [FILE]...\nTry 'grep --help' for more information.\n"

/-- the letters after a backslash that stand for characters or classes of them, and what stands for
these in an extended expression -/
def letterClasses : List (Char × Text) :=
  [('d', "[0-9]"), ('D', "[^0-9]"), ('h', "[ \t]"), ('t', "\t"), ('f', "\x0c"), ('r', "\r"),
    ('v', "\x0b"), ('e', "\x1b"), ('A', "\\`"), ('z', "\\'"), ('Z', "\\'")]

/-- a text in a notation with letters for classes, as an extended expression -/
def withoutLetters : Text → Text
  | [] => []
  | '\\' :: c :: r => ((letterClasses.lookup c).getD ['\\', c]) ++ withoutLetters r
  | '(' :: '?' :: ':' :: r => '(' :: withoutLetters r
  | c :: r => c :: withoutLetters r

/-- the patterns among options and operands, the operands that are left, and a path that cannot be
read: those of options, those in files, or the first operand -/
def grepPatterns (c : Call) (o : Options) :
    Except (Text × ReadFault) (Option (List Text) × List Text) := do
  let given := o.given.filter fun g => g.1 = 'e' ∨ g.1 = 'f'
  if given = [] then
    match o.operands with
    | [] => .ok (none, [])
    | p :: ps => .ok (some (p.splitOn '\n'), ps)
  else
    let lists ← given.mapM fun g =>
      let value := g.2.getD []
      if g.1 = 'e' then .ok (value.splitOn '\n')
      else
        match c.read value with
        | .ok t => .ok (linesOf t)
        | .error f => .error (value, f)
    .ok (some lists.flatten, o.operands)

/-- the number of lines around that an option asks for, or a complaint -/
def contextOf (value : Text) : Except Text Nat :=
  match number? value with
  | some n => .ok n
  | none => .error (value ++ ": invalid context length argument")

/-- the numbers of lines around, before and after, that options ask for; those of `-C` and of digits
give way to the others -/
def contexts (o : Options) : Except Text (Option Nat × Option Nat) := do
  let of := fun (c : Char) => (o.value? c).mapM contextOf
  let digits := (o.given.map Prod.fst).filter Char.isDigit
  let usual ← match number? digits with
    | some n => Except.ok (some n)
    | none => of 'C'
  let after ← of 'A'
  let before ← of 'B'
  return (before.or usual, after.or usual)

/-- the greatest number of lines that options ask for; a negative one is no bound -/
def mostOf (o : Options) : Except Text (Option Nat) :=
  match o.value? 'm' with
  | none => .ok none
  | some t =>
    match whole? t with
    | some (.ofNat n) => .ok (some n)
    | some _ => .ok none
    | none => .error "invalid max count"

/-- the expression that patterns make up in the notation that options choose, and the warnings -/
def grepRegex (o : Options) (patterns : List Text) : Except RegexFault (Regex × List Text) := do
  let parsed ← patterns.mapM fun p =>
    if o.has 'F' then .ok ⟨Regex.exactly p, 0, []⟩
    else if o.has 'P' then Regex.parse ⟨true, false⟩ (withoutLetters p)
    else Regex.parse ⟨o.has 'E', false⟩ p
  let r := match parsed.map ParsedRegex.regex with
    | [] => Regex.among ⟨false, [], []⟩
    | r :: rs => rs.foldl Regex.either r
  return (if o.has 'x' then .both (.start true) (.both r (.finish true)) else r,
    if o.has 'P' then [] else parsed.flatMap ParsedRegex.misplaced)

/-- the paths of the files below a path, or the path itself -/
def filesBelow (f : Files) : Nat → Text → List Text
  | 0, _ => []
  | n + 1, path =>
    match f.find? path, f.place path with
    | some .directory, .ok p =>
      (f.names p).flatMap fun name => filesBelow f n (Files.trimSlashes path ++ '/' :: name)
    | _, _ => [path]

/-! ## the tool -/


/-- what comes of one file: what is written, whether a line was found, and whether it was reached -/
structure FileFound where
  written : List (Stream × Text)
  found : Bool
  failed : Bool

def grepText (c : Call) (o : Options) (f : Found) (width : Nat) (shown : Text) (again : Bool)
    (t : Text) : FileFound :=
  let ls := numberedFrom 1 0 (recordsOf f.ending t)
  let binary := !o.has 'a' && f.ending = '\n' && t.contains '\x00'
  let (text, n) := f.lines width [] 0 again true f.most ls
  let quiet := o.has 'q'
  let ending := if o.has 'Z' then '\x00' else '\n'
  let name := f.paint "35" shown ++ [ending]
  let written : List (Stream × Text) :=
    if quiet then []
    else if o.has 'L' ∨ o.has 'l' then
      let listed := if o.last? "Ll" = some 'L' then n = 0 else n ≠ 0
      if listed then [(.output, name)] else []
    else if o.has 'c' then
      let front := match f.name with
        | some s => f.paint "35" s ++ (if f.zeroName then ['\x00'] else f.paint "36" ":")
        | none => []
      [(.output, front ++ Text.ofNat n ++ ['\n'])]
    else if binary then
      if n = 0 ∨ o.has 'I' then []
      else [(.complaint, c.complaint (shown ++ ": binary file matches"))]
    else [(.output, text)]
  ⟨written, n ≠ 0, false⟩

/-- what is found in all texts, one after the other -/
def grepAll (c : Call) (o : Options) (f : Found) (named again : Bool) :
    List (Text × Except ReadFault Text) → List FileFound
  | [] => []
  | (path, found) :: rest =>
    let shown := if path = ['-'] then (o.value? 'ˡ').getD "(standard input)" else path
    let f := { f with name := if named then some shown else none }
    let fails := fun (e : ReadFault) =>
      let what := c.complaint (shown ++ ": " ++ e.reason.message)
      let what := if e.reason = .unreadable then what ++ what else what
      let written := if o.has 's' then [] else [(Stream.complaint, what)]
      let nothing := if e.opened then (grepText c o f 1 shown again []).written else []
      (⟨written ++ nothing, false, true⟩ : FileFound)
    let x := match found with
      | .ok t =>
        let width :=
          if isInput path && !c.fromFile then 19 else (Text.ofNat t.length).length
        grepText c o f width shown again t
      | .error e =>
        if e = ⟨true, .directory⟩ ∧ o.value? 'd' = some "skip".toList then ⟨[], false, false⟩
        else fails e
    let done := o.has 'q' && x.found
    x :: (if done then [] else grepAll c o f named (again || x.found) rest)

def grep : Tool := fun c =>
  match grepOptions.read none c.args with
  | .error e => ⟨none, [(.complaint, c.complaint e.message ++ grepUsage)], [], 2⟩
  | .ok o =>
    let kinds := (o.given.map Prod.fst).filter "EFGP".toList.contains
    let fail := fun (what : Text) => c.fail 2 what
    if o.has helpLetter || o.has versionLetter || o.has 'V' then silent 0
    else if kinds.any (kinds.head? != some ·) then fail "conflicting matchers specified"
    else if o.has 'X' then fail ("invalid matcher " ++ (o.value? 'X').getD [])
    else if (o.value? 'D').any fun v => v ≠ "skip".toList ∧ v ≠ "read".toList then
      fail "unknown devices method"
    else if (o.value? 'ᵃ').any fun v =>
        v ≠ "binary".toList ∧ v ≠ "text".toList ∧ v ≠ "without-match".toList then
      fail "unknown binary-files type"
    else if (o.value? 'd').any fun v => (["read", "recurse", "skip"] : List String).all (·.toList != v) then
      ⟨none, [(.complaint, c.complaint ("invalid argument "
        ++ singleQuoted ((o.value? 'd').getD []) ++ " for '--directories'")
        ++ "Valid arguments are:\n  - 'read'\n  - 'recurse'\n  - 'skip'\n" ++ grepUsage)], [], 1⟩
    else
      match contexts o, mostOf o, grepPatterns c o with
      | .error what, _, _ => fail what
      | _, .error what, _ => fail what
      | _, _, .error (path, e) => fail (path ++ ": " ++ e.reason.message)
      | _, _, .ok (none, _) => ⟨none, [(.complaint, grepUsage)], [], 2⟩
      | .ok (before, after), .ok most, .ok (some patterns, operands) =>
        match grepRegex o patterns with
        | .error e => fail e.message
        | .ok (regex, misplaced) =>
          let warned := misplaced.map fun m =>
            (Stream.complaint, c.complaint ("warning: " ++ m ++ " at start of expression"))
          let old :=
            if o.has 'u' then
              [(Stream.complaint, c.complaint "warning: --unix-byte-offsets (-u) is obsolete")]
            else []
          let search : Search :=
            ⟨regex, ⟨o.has 'i' || o.has 'y', false⟩, o.has 'w' && !o.has 'x', o.has 'v'⟩
          let search := if o.last? "iyᴵ" = some 'ᴵ' then
            { search with sight := ⟨false, false⟩ } else search
          let deep := o.has 'r' || o.has 'R' || o.value? 'd' == some "recurse".toList
          let paths :=
            if !deep then pathsOf operands
            else if operands = [] then
              (c.files.names c.files.here).flatMap (filesBelow c.files 40)
            else operands.flatMap fun p => if p = ['-'] then [p] else filesBelow c.files 40 p
          let named :=
            match o.last? "Hh" with
            | some h => h = 'H'
            | none => paths.length > 1 || (deep && (operands == [] || paths ≠ operands))
          let f : Found :=
            { search := search, name := none, numbers := o.has 'n', offsets := o.has 'b'
              zeroName := o.has 'Z', tab := o.has 'T', only := o.has 'o'
              colors := ["always", "yes", "force"].any fun v => o.value? 'ᶜ' == some v.toList
              before := before, after := after
              between := if o.has 'ᴳ' then none else some ((o.value? 'ᵍ').getD "--")
              ending := if o.has 'z' then '\x00' else '\n', most := most }
          if most = some 0 then { silent 1 with written := old ++ warned }
          else
            let xs := grepAll c o f named false (c.readAll false paths)
            let found := xs.any FileFound.found
            let failed := xs.any FileFound.failed
            ⟨leftBy paths, old ++ warned ++ xs.flatMap FileFound.written, [],
              if failed && !(o.has 'q' && found) then 2 else if found then 0 else 1⟩

def grepPace (c : Call) : Pace :=
  match grepOptions.read none c.args with
  | .error _ => Pace.whole
  | .ok o =>
    if o.has 'c' ∨ o.has 'L' then Pace.whole
    else if o.has 'q' ∨ o.has 'l' then
      { Pace.whole with enough := fun t => (grep { c with source := .ok t }).status = 0 }
    else
      match mostOf o with
      | .ok (some n) =>
        { Pace.lines with
          enough := fun t => n ≤ (grep { c with source := .ok t }).output.count '\n' }
      | _ => Pace.lines

end Shell
end CoroBridge
