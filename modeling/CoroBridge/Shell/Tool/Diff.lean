import CoroBridge.Shell.Tool.EditScript
import CoroBridge.Shell.Tool.Tree

/-!
# Command language: differences of files

The tool `diff` shows how the lines of one file come from those of another one.

* `Diff.Style`        what counts as a difference, and how it is shown;
* `Diff.keys`         equal numbers for lines that count as equal;
* `Diff.normal`, `Diff.unified`, `Diff.context`, `Diff.edits`   the forms of an answer;
* `diff`              the tool.
-/

namespace CoroBridge
namespace Shell
namespace Diff

inductive Form where
  | normal
  | unified (context : Nat)
  | context (context : Nat)
  | edits
  | brief
  deriving DecidableEq, Repr

structure Style where
  form : Form
  folds : Bool
  allSpace : Bool
  someSpace : Bool
  endSpace : Bool
  blankLines : Bool
  returns : Bool
  tellsSame : Bool
  recursive : Bool
  missing : Bool
  labels : List Text
  shown : List Text

structure Lines where
  lines : Array Text
  ended : Bool

def Lines.of (t : Text) : Lines := ⟨(linesOf t).toArray, t = [] ∨ t.getLast? = some '\n'⟩

def squeezed : Bool → Text → Text
  | _, [] => []
  | before, c :: r =>
    if isSpace c then (if before then squeezed true r else ' ' :: squeezed true r)
    else c :: squeezed false r

def Style.key (k : Style) (l : Text) (ended : Bool) : Text :=
  let lenient := k.allSpace || k.someSpace || k.endSpace
  let l := if k.returns ∧ l.getLast? = some '\r' then l.dropLast else l
  let atEnd := fun (t : Text) => (t.reverse.dropWhile isSpace).reverse
  let l := if k.allSpace then l.filter fun c => !isSpace c
    else if k.someSpace then atEnd (squeezed false l)
    else if k.endSpace then atEnd l
    else l
  let l := if k.folds then l.map Char.toLower else l
  if ended || lenient then l ++ ['\n'] else l

def keys (k : Style) (a b : Lines) : Array Nat × Array Nat :=
  let number := fun (table : List (Text × Nat)) (t : Text) =>
    match table.lookup t with
    | some n => (table, n)
    | none => ((t, table.length) :: table, table.length)
  let all := fun (table : List (Text × Nat)) (x : Lines) =>
    x.lines.toList.zipIdx.foldl (fun (s : List (Text × Nat) × Array Nat) (l : Text × Nat) =>
      let ended := x.ended || l.2 + 1 < x.lines.size
      let (table, n) := number s.1 (k.key l.1 ended)
      (table, s.2.push n)) (table, #[])
  let (table, first) := all [] a
  (first, (all table b).2)

def marked (mark : Text) (x : Lines) (i : Nat) : Text :=
  mark ++ x.lines.getD i [] ++ ['\n']
    ++ (if !x.ended ∧ i + 1 = x.lines.size then "\\ No newline at end of file\n" else "")

def markedLines (mark : Text) (x : Lines) (start count : Nat) : Text :=
  (List.range count).flatMap fun i => marked mark x (start + i)

/-- the numbers of the first and the last line of a stretch, or of the line before it -/
def span (start count : Nat) : Text :=
  if count = 0 then Text.ofNat start
  else if count = 1 then Text.ofNat (start + 1)
  else Text.ofNat (start + 1) ++ ',' :: Text.ofNat (start + count)

def normal (a b : Lines) (cs : List EditScript.Change) : Text :=
  cs.flatMap fun c =>
    let letter := if c.taken = 0 then 'a' else if c.put = 0 then 'd' else 'c'
    span c.first c.taken ++ letter :: span c.second c.put ++ ['\n']
      ++ markedLines "< " a c.first c.taken
      ++ (if letter = 'c' then "---\n" else "")
      ++ markedLines "> " b c.second c.put

def edits (b : Lines) (cs : List EditScript.Change) : Text :=
  cs.reverse.flatMap fun c =>
    let letter := if c.taken = 0 then 'a' else if c.put = 0 then 'd' else 'c'
    span c.first c.taken ++ letter :: ['\n']
      ++ (if letter = 'd' then []
        else ((List.range c.put).flatMap fun i => b.lines.getD (c.second + i) [] ++ ['\n'])
          ++ ['.', '\n'])

/-- changes put together that are close to one another -/
def hunks (context : Nat) : List EditScript.Change → List (List EditScript.Change)
  | [] => []
  | c :: cs =>
    match hunks context cs with
    | (d :: ds) :: hs =>
      if d.first - (c.first + c.taken) ≤ 2 * context then (c :: d :: ds) :: hs
      else [c] :: (d :: ds) :: hs
    | hs => [c] :: hs

/-- the stretches of both files that a hunk shows -/
def shownSpan (context : Nat) (a b : Lines) (h : List EditScript.Change) :
    (Nat × Nat) × (Nat × Nat) :=
  let c := h.head?.getD ⟨0, 0, 0, 0⟩
  let d := h.getLast?.getD ⟨0, 0, 0, 0⟩
  let before := min context (min c.first c.second)
  let after := min context (a.lines.size - (d.first + d.taken))
  ((c.first - before, d.first + d.taken + after - (c.first - before)),
    (c.second - before, min b.lines.size (d.second + d.put + after) - (c.second - before)))

def headSpan (start count : Nat) : Text :=
  if count = 1 then Text.ofNat (start + 1)
  else Text.ofNat (if count = 0 then start else start + 1) ++ ',' :: Text.ofNat count

/-- the lines of a hunk with changes between them, from a line on -/
def unifiedLines (a b : Lines) (stop : Nat) : Nat → List EditScript.Change → Text
  | at_, [] => markedLines " " a at_ (stop - at_)
  | at_, c :: cs =>
    markedLines " " a at_ (c.first - at_) ++ markedLines "-" a c.first c.taken
      ++ markedLines "+" b c.second c.put ++ unifiedLines a b stop (c.first + c.taken) cs

def unified (context : Nat) (a b : Lines) (cs : List EditScript.Change) : Text :=
  (hunks context cs).flatMap fun h =>
    let ((i, n), (j, m)) := shownSpan context a b h
    "@@ -" ++ headSpan i n ++ " +" ++ headSpan j m ++ " @@\n" ++ unifiedLines a b (i + n) i h

def contextSpan (start count : Nat) : Text :=
  if count ≤ 1 then Text.ofNat (start + count)
  else Text.ofNat (start + 1) ++ ',' :: Text.ofNat (start + count)

def contextLines (x : Lines) (first : Bool) (stop : Nat) :
    Nat → List EditScript.Change → Text
  | at_, [] => markedLines "  " x at_ (stop - at_)
  | at_, c :: cs =>
    let (start, count) := if first then (c.first, c.taken) else (c.second, c.put)
    let mark : Text := if c.taken > 0 ∧ c.put > 0 then "! " else if first then "- " else "+ "
    markedLines "  " x at_ (start - at_) ++ markedLines mark x start count
      ++ contextLines x first stop (start + count) cs

def context (context : Nat) (a b : Lines) (cs : List EditScript.Change) : Text :=
  (hunks context cs).flatMap fun h =>
    let ((i, n), (j, m)) := shownSpan context a b h
    "***************\n*** " ++ contextSpan i n ++ " ****\n"
      ++ (if h.any fun c => c.taken > 0 then contextLines a true (i + n) i h else [])
      ++ "--- " ++ contextSpan j m ++ " ----\n"
      ++ (if h.any fun c => c.put > 0 then contextLines b false (j + m) j h else [])

/-- the answer about two texts with names; none if they are the same -/
def answer (k : Style) (a b : Text × Text) : Option Text :=
  if a.2 = b.2 then none
  else if a.2.contains '\x00' ∨ b.2.contains '\x00' then
    if k.form = .brief then some ("Files " ++ a.1 ++ " and " ++ b.1 ++ " differ\n")
    else some ("Binary files " ++ a.1 ++ " and " ++ b.1 ++ " differ\n")
  else
    let x := Lines.of a.2
    let y := Lines.of b.2
    let (p, q) := keys k x y
    let cs := EditScript.changes p q
    let blank := fun (c : EditScript.Change) =>
      ((List.range c.taken).all fun i => x.lines.getD (c.first + i) [] == [])
        && ((List.range c.put).all fun i => y.lines.getD (c.second + i) [] == [])
    let cs := if k.blankLines then cs.filter fun c => !blank c else cs
    if cs = [] then none
    else
      let time : Text := "\t1970-01-01 00:00:00.000000000 +0000"
      let title := fun (i : Nat) (n : Text) => (k.labels[i]?).getD (n ++ time)
      match k.form with
      | .normal => some (normal x y cs)
      | .edits => some (edits y cs)
      | .brief => some ("Files " ++ a.1 ++ " and " ++ b.1 ++ " differ\n")
      | .unified n =>
        some ("--- " ++ title 0 a.1 ++ "\n+++ " ++ title 1 b.1 ++ "\n" ++ unified n x y cs)
      | .context n =>
        some ("*** " ++ title 0 a.1 ++ "\n--- " ++ title 1 b.1 ++ "\n" ++ context n x y cs)

def options : OptionTable :=
  { OptionTable.of "abBcdeEiNpqrstuwyZ" "CIULWxF" [("brief", 'q'), ("context", 'c'), ("ed", 'e'),
      ("ignore-all-space", 'w'), ("ignore-blank-lines", 'B'), ("ignore-case", 'i'),
      ("ignore-space-change", 'b'), ("ignore-tab-expansion", 'E'), ("ignore-trailing-space", 'Z'),
      ("label", 'L'), ("new-file", 'N'), ("normal", 'n'), ("recursive", 'r'),
      ("report-identical-files", 's'), ("strip-trailing-cr", 'R'), ("text", 'a'), ("unified", 'u'),
      ("minimal", 'd'), ("color", 'o'), ("side-by-side", 'y')]
    with perhaps := "o" }

def namesOfBoth (f : Files) (p q : Place) : List Text :=
  ((f.names p ++ f.names q).foldl (fun ns n => if ns.contains n then ns else n :: ns) []).mergeSort
    fun a b => !Text.precedes b a

def comparePaths (c : Call) (k : Style) : Nat → Bool → Text → Text → List (Stream × Text) × Nat
  | 0, _, _, _ => ([], 2)
  | n + 1, below, p, q =>
    let node := fun (path : Text) => if isInput path then none else c.files.find? path
    let fault := fun (path : Text) =>
      if isInput path then (match c.source with | .error f => some f | .ok _ => none)
      else match c.files.find path with
        | .error f => some f
        | .ok _ => none
    let lost := [p, q].filterMap fun path => (fault path).map fun f =>
      (Stream.complaint, c.complaint (path ++ ": " ++ f.message))
    if k.missing ∧ ((fault p).isSome != (fault q).isSome) then both below p q
    else if lost ≠ [] then (lost, 2)
    else
      match node p, node q with
      | some .directory, some .directory =>
        if below ∧ !k.recursive then
          ([(.output, "Common subdirectories: " ++ p ++ " and " ++ q ++ "\n")], 0)
        else
          let place := fun (path : Text) => (c.files.place path).toOption.getD []
          (namesOfBoth c.files (place p) (place q)).foldl (fun r name =>
            let x := pathIn p name
            let y := pathIn q name
            let (w, s) := match c.files.find? x, c.files.find? y with
              | some _, some _ => comparePaths c k n true x y
              | some m, none =>
                if k.missing ∧ m ≠ .directory then comparePaths c k n true x y
                else ([(Stream.output, "Only in " ++ p ++ ": " ++ name ++ "\n")], 1)
              | _, _ =>
                if k.missing then comparePaths c k n true x y
                else ([(Stream.output, "Only in " ++ q ++ ": " ++ name ++ "\n")], 1)
            (r.1 ++ w, max r.2 s)) ([], 0)
      | some .directory, _ =>
        if below then uneven p q true else comparePaths c k n below (pathIn p (baseName q)) q
      | _, some .directory =>
        if below then uneven p q false else comparePaths c k n below p (pathIn q (baseName p))
      | _, _ => both below p q
where
  /-- a directory and a file of the same name -/
  uneven (p q : Text) (first : Bool) : List (Stream × Text) × Nat :=
    let kinds : Text × Text :=
      if first then ("directory", "regular file") else ("regular file", "directory")
    ([(.output, "File " ++ p ++ " is a " ++ kinds.1 ++ " while file " ++ q ++ " is a "
      ++ kinds.2 ++ "\n")], 1)
  /-- two files -/
  both (below : Bool) (p q : Text) : List (Stream × Text) × Nat :=
    let text := fun (path : Text) => ((c.read path).toOption).getD []
    match answer k (p, text p) (q, text q) with
    | none =>
      (if k.tellsSame then
        [(.output, "Files " ++ p ++ " and " ++ q ++ " are identical\n")] else [], 0)
    | some t =>
      let head := if below ∧ k.form ≠ .brief ∧ !"Binary".toList.isPrefixOf t then
          "diff " ++ k.shown.flatMap (· ++ [' ']) ++ p ++ ' ' :: q ++ ['\n']
        else []
      ([(.output, head ++ t)], 1)

end Diff

/-- the differences of files -/
def diff : Tool := fun c =>
  let misused := fun (what : Text) =>
    (⟨none, [(.complaint, c.complaint what),
      (.complaint, c.complaint ("Try '" ++ c.name ++ " --help' for more information."))], [], 2⟩ :
      Effect)
  match Diff.options.read none c.args with
  | .error f => misused f.message
  | .ok o =>
    if o.has helpLetter || o.has versionLetter then silent 0
    else
      let number := fun (x : Char) => (o.value? x).bind number?
      let form : Diff.Form :=
        if o.has 'q' then .brief
        else if o.has 'e' then .edits
        else if o.has 'u' ∨ o.has 'U' then .unified ((number 'U').getD 3)
        else if o.has 'c' ∨ o.has 'C' then .context ((number 'C').getD 3)
        else .normal
      let shown := c.args.takeWhile fun a => a.head? == some '-' && a.length > 1
      let k : Diff.Style :=
        { form := form, folds := o.has 'i', allSpace := o.has 'w', someSpace := o.has 'b'
          endSpace := o.has 'Z', blankLines := o.has 'B', returns := o.has 'R'
          tellsSame := o.has 's', recursive := o.has 'r', missing := o.has 'N'
          labels := o.values 'L', shown := shown }
      match o.operands with
      | [] => misused ("missing operand after " ++ quoted (c.args.getLast?.getD c.name))
      | [p] => misused ("missing operand after " ++ quoted p)
      | _ :: _ :: x :: _ => misused ("extra operand " ++ quoted x)
      | [p, q] =>
        let (written, status) := Diff.comparePaths c k 4096 false p q
        ⟨leftBy [p, q], written, [], status⟩

end Shell
end CoroBridge
