import CoroBridge.Shell.Regex
import CoroBridge.Shell.Tool.Options

/-!
# Command language: counting

The tools that count what they read, and number its lines.

* `Tally`       the counts of a text;
* `wc`          lines, words, bytes and the longest line counted;
* `Numbering`   which lines have numbers, and how these are written;
* `nl`          lines numbered.
-/

namespace CoroBridge
namespace Shell

/-- a complaint about an argument that is not among those which an option allows -/
def Call.noChoice (c : Call) (option value : Text) (allowed : List Text) : Effect :=
  let rows := allowed.flatMap fun a => ("  - " ++ singleQuoted a ++ "\n" : Text)
  let what : Text := c.complaint ("invalid argument " ++ quoted value ++ " for "
    ++ singleQuoted option) ++ "Valid arguments are:\n" ++ rows ++ c.hint
  ⟨none, [(.complaint, what)], [], 1⟩

/-- the argument that a value cuts short among those which an option allows -/
def choice? (allowed : List Text) (value : Text) : Option Text :=
  match allowed.find? (· == value) with
  | some a => some a
  | none =>
    match allowed.filter fun a => value.isPrefixOf a with
    | [a] => some a
    | _ => none

/-! ## wc -/

def words (t : Text) : List Text := (t.splitOnP isSpace).filter fun w => w.any isPrintable

/-- the column after a text from a column on, and the greatest one on the way -/
def widthFrom (n most : Nat) : Text → Nat
  | [] => max n most
  | c :: r =>
    match c with
    | '\n' | '\r' | '\x0c' => widthFrom 0 (max n most) r
    | '\t' => widthFrom (n + (8 - n % 8)) most r
    | _ => widthFrom (if isPrintable c then n + 1 else n) most r

structure Tally where
  lines : Nat
  words : Nat
  bytes : Nat
  width : Nat
  deriving DecidableEq, Repr

def Tally.of (t : Text) : Tally :=
  ⟨t.count '\n', (Shell.words t).length, t.length, widthFrom 0 0 t⟩

def Tally.add (a b : Tally) : Tally :=
  ⟨a.lines + b.lines, a.words + b.words, a.bytes + b.bytes, max a.width b.width⟩

def Tally.asked (o : Options) (t : Tally) : List Nat :=
  let some_ := o.last? "lwcmL"
  let row := fun (c : Char) (n : Nat) => if o.has c then [n] else []
  if some_.isNone then [t.lines, t.words, t.bytes]
  else
    row 'l' t.lines ++ row 'w' t.words ++ row 'm' t.bytes ++ row 'c' t.bytes ++ row 'L' t.width

def wcOptions : OptionTable :=
  .of "clLmw" "ᵗᶠ" [("bytes", 'c'), ("chars", 'm'), ("lines", 'l'), ("words", 'w'),
    ("files0-from", 'ᶠ'), ("max-line-length", 'L'), ("total", 'ᵗ')]

def totalModes : List Text := ["auto", "always", "only", "never"].map String.toList

/-- the width of the columns: that of the greatest size, and no less than seven where something has
no size -/
def Call.columnWidth (c : Call) (paths : List Text) : Nat :=
  let size := fun (p : Text) =>
    if isInput p then
      match c.input with
      | some t => some (if c.fromFile then some t.length else none)
      | none => if c.inputClosed then none else some (if c.fromFile then some 0 else none)
    else
      match c.files.find p with
      | .ok (.file t _) => some (some t.length)
      | .ok _ => some none
      | .error _ => none
  let sizes := paths.map size
  match sizes with
  | none :: _ => 1
  | _ =>
    let all := (sizes.map fun s => (s.join).getD 0).foldl (· + ·) 0
    max (Text.ofNat all).length (if sizes.any (· == some none) then 7 else 1)

def wc : Tool := fun c =>
  c.withOptions wcOptions 1 fun o =>
    match choice? totalModes ((o.value? 'ᵗ').getD "auto") with
    | none => c.noChoice "--total" ((o.value? 'ᵗ').getD []) totalModes
    | some mode =>
      let paths := pathsOf o.operands
      let only := mode = "only".toList
      let single := paths.length = 1 ∧ (Tally.asked o ⟨0, 0, 0, 0⟩).length = 1
      let width := if only ∨ single then 1 else c.columnWidth paths
      let row := fun (name : Text) (t : Tally) =>
        List.intercalate [' '] ((t.asked o).map fun n => padLeft width (Text.ofNat n))
          ++ (if name = [] then [] else ' ' :: name) ++ ['\n']
      let found := c.readAll false paths
      let opened := found.filter fun x =>
        match x.2 with
        | .error f => f.opened
        | .ok _ => true
      let tallies := opened.map fun x => (x.1, Tally.of (x.2.toOption.getD []))
      let total := tallies.foldl (fun t x => t.add x.2) ⟨0, 0, 0, 0⟩
      let rows := tallies.flatMap fun x => row (if o.operands = [] then [] else x.1) x.2
      let totals := mode = "always".toList || only || (mode = "auto".toList && paths.length > 1)
      let m := { usualManner with
        reading := fun p f =>
          shownName (if o.operands = [] then "standard input" else p) ++ ": " ++ f.message }
      let e := c.onFound m 1 paths fun _ =>
        (if only then [] else rows)
          ++ (if totals then row (if only then [] else "total") total else [])
      e

/-- `wc` does not tell why its output is full -/
def shortLoss (status : Nat) : Loss := fun c b e =>
  match b with
  | .closed => lostWith status c b e
  | _ => if e.output = [] then e else e.lose (c.complaint "write error") status

/-! ## nl -/

inductive Numbered where
  | all
  | full
  | none
  | matching (r : Regex)

/-- how numbers are written: at the left, at the right, or filled up with zeros -/
inductive NumberStyle where
  | left
  | right
  | zeros
  deriving DecidableEq, Repr

structure Numbering where
  header : Numbered
  body : Numbered
  footer : Numbered
  first : Int
  step : Int
  keeps : Bool
  join : Nat
  separator : Text
  width : Nat
  style : NumberStyle
  mark : Text

def Numbering.shown (k : Numbering) (n : Int) : Text :=
  let t := ofInt n
  match k.style with
  | .left => t ++ List.replicate (k.width - t.length) ' '
  | .right => padLeft k.width t
  | .zeros =>
    if n < 0 then '-' :: padWith '0' (k.width - 1) (ofInt (-n)) else padWith '0' k.width t

/-- whether a line that is not empty has a number -/
def Numbered.holds (s : Numbered) (l : Text) : Bool :=
  match s with
  | .all => true
  | .full => l ≠ []
  | .none => false
  | .matching r => (r.find? ⟨false, false⟩ Option.none l).isSome

def Numbering.section? (k : Numbering) (l : Text) : Option Numbered :=
  if k.mark.length < 2 then none
  else if l = k.mark ++ k.mark ++ k.mark then some k.header
  else if l = k.mark ++ k.mark then some k.body
  else if l = k.mark then some k.footer
  else none

/-- lines numbered from a number on; `empties` of them before were empty and have none -/
def Numbering.lines (k : Numbering) (s : Numbered) (n : Int) (empties : Nat) : List Text → Text
  | [] => []
  | l :: ls =>
    match k.section? l with
    | some s => '\n' :: k.lines s (if k.keeps then n else k.first) empties ls
    | none =>
      let waits := s matches .all && k.join > 1 && l = [] && empties + 1 ≠ k.join
      if s.holds l && !waits then
        k.shown n ++ k.separator ++ l ++ '\n' :: k.lines s (n + k.step) 0 ls
      else
        List.replicate (k.width + k.separator.length) ' ' ++ l
          ++ '\n' :: k.lines s n (if l = [] then empties + 1 else empties) ls

/-- the lines that a value chooses, or a complaint about it -/
def numbered? (part value : Text) : Except (Text × Bool) Numbered :=
  match value with
  | ['a'] => .ok .all
  | ['t'] => .ok .full
  | ['n'] => .ok .none
  | 'p' :: r =>
    match Regex.parse ⟨false, true⟩ r with
    | .ok p => .ok (.matching p.regex)
    | .error _ => .error ("Invalid regular expression", false)
  | _ => .error ("invalid " ++ part ++ " numbering style: " ++ quoted value, true)

def nlOptions : OptionTable :=
  .of "p" "hbfvilswnd" [("header-numbering", 'h'), ("body-numbering", 'b'),
    ("footer-numbering", 'f'), ("starting-line-number", 'v'), ("line-increment", 'i'),
    ("no-renumber", 'p'), ("join-blank-lines", 'l'), ("number-separator", 's'),
    ("number-width", 'w'), ("number-format", 'n'), ("section-delimiter", 'd')]

/-- a count that an option names, no less than one, or a complaint about it -/
def positive (what : Text) (value : Text) : Except (Text × Bool) Nat :=
  match whole? value with
  | some (.ofNat (n + 1)) => .ok (n + 1)
  | some _ =>
    .error ("invalid " ++ what ++ ": " ++ quoted value ++ ": Numerical result out of range", false)
  | none => .error ("invalid " ++ what ++ ": " ++ quoted value, false)

def Numbering.of (o : Options) : Except (Text × Bool) Numbering := do
  let whole := fun (what : String) (v : Option Text) (usual : Int) =>
    match v with
    | none => Except.ok usual
    | some v =>
      match whole? v with
      | some n => .ok n
      | none => .error (("invalid " ++ what : String).toList ++ ": " ++ quoted v, false)
  let body ← numbered? "body" ((o.value? 'b').getD ['t'])
  let header ← numbered? "header" ((o.value? 'h').getD ['n'])
  let footer ← numbered? "footer" ((o.value? 'f').getD ['n'])
  let first ← whole "starting line number" (o.value? 'v') 1
  let step ← whole "line number increment" (o.value? 'i') 1
  let join ← positive "line number of blank lines" ((o.value? 'l').getD ['1'])
  let width ← positive "line number field width" ((o.value? 'w').getD ['6'])
  let style ← match (o.value? 'n').map String.ofList with
    | none => Except.ok NumberStyle.right
    | some "ln" => .ok .left
    | some "rn" => .ok .right
    | some "rz" => .ok .zeros
    | some v => .error ("invalid line numbering format: " ++ quoted v, true)
  let mark := match o.value? 'd' with
    | none => "\\:".toList
    | some [c] => [c, ':']
    | some t => t
  return ⟨header, body, footer, first, step, o.has 'p', join, (o.value? 's').getD ['\t'], width,
    style, mark⟩

def nl : Tool := fun c =>
  c.withOptions nlOptions 1 fun o =>
    match Numbering.of o with
    | .error (what, hinted) => if hinted then c.misused 1 what else c.fail 1 what
    | .ok k =>
      c.onAll o.operands fun found =>
        k.lines k.body k.first 0 (found.flatMap fun f => linesOf f.2)

end Shell
end CoroBridge
