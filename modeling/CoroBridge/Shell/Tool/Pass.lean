import CoroBridge.Shell.Tool.Options

/-!
# Command language: tools that pass on

Tools that pass on all that they read, as it is or turned around.

* `cat`, `tac`, `rev`     everything, in order or turned around;
* `tee`                   the input, also put into files;
* `yes`                   a line again and again.
-/

namespace CoroBridge
namespace Shell

/-! ## cat -/

/-- a character as it is shown where it would not be seen -/
def visible (c : Char) : Text :=
  let low := fun n =>
    if n < 32 then ['^', Char.ofNat (n + 64)]
    else if n = 127 then "^?".toList
    else [Char.ofNat n]
  if c.toNat < 128 then low c.toNat else "M-" ++ low (c.toNat - 128)

structure CatStyle where
  numbers : Bool
  onlyFull : Bool
  squeezes : Bool
  ends : Bool
  tabs : Bool
  others : Bool
  deriving DecidableEq, Repr

def CatStyle.shown (k : CatStyle) (l : Text) : Text :=
  let t := l.flatMap fun c =>
    if c = '\t' then (if k.tabs then "^I".toList else [c])
    else if k.others then visible c
    else [c]
  if k.ends && !k.others && t.getLast? = some '\r' then t.dropLast ++ "^M".toList else t

/-- lines shown from a number on; `ended` tells that the last one has an end, and `afterEmpty` that
an empty line comes before -/
def CatStyle.lines (k : CatStyle) (ended afterEmpty : Bool) (n : Nat) : List Text → Text
  | [] => []
  | l :: ls =>
    let full := l ≠ []
    if k.squeezes ∧ afterEmpty ∧ !full then k.lines ended true n ls
    else
      let counts := k.numbers && (full || !k.onlyFull)
      let front := if counts then padLeft 6 (Text.ofNat n) ++ ['\t'] else []
      let ending : Text :=
        if ls = [] ∧ !ended then [] else if k.ends then "$\n" else "\n"
      let shown := if ending = [] then { k with ends := false }.shown l else k.shown l
      front ++ shown ++ ending ++ k.lines ended (!full) (if counts then n + 1 else n) ls

def catOptions : OptionTable :=
  .of "AbeEnstTuv" [] [("number-nonblank", 'b'), ("number", 'n'), ("squeeze-blank", 's'),
    ("show-nonprinting", 'v'), ("show-ends", 'E'), ("show-tabs", 'T'), ("show-all", 'A')]

def cat : Tool := fun c =>
  c.withOptions catOptions 1 fun o =>
    let any := fun (t : Text) => t.any o.has
    let k : CatStyle := ⟨any "nb", o.has 'b', o.has 's', any "AeE", any "AtT", any "Aetv"⟩
    let paths := pathsOf o.operands
    if k = ⟨false, false, false, false, false, false⟩ then
      let found := c.readAll false paths
      let events := found.map fun x =>
        match x.2 with
        | .ok t => (Stream.output, t)
        | .error e => (.complaint, c.faultOf usualManner x.1 e)
      let failed := events.any (·.1 = .complaint)
      let closing :=
        if c.inputClosed && paths.contains ['-'] then
          [(Stream.complaint, c.complaint "closing standard input: Bad file descriptor")]
        else []
      ⟨leftBy paths, events ++ closing, [], if failed then 1 else 0⟩
    else
      let m := { usualManner with closing := "closing standard input: Bad file descriptor" }
      c.onFound m 1 paths fun found =>
        let t := found.flatMap Prod.snd
        k.lines (t.getLast? == some '\n') false 1 (linesOf t)

/-- `cat` looks at its output before it reads -/
def catLoss : Loss := fun c b e =>
  match b with
  | .closed => c.fail 1 "standard output: Bad file descriptor"
  | _ =>
    if e.output = [] then e
    else
      let before := e.written.takeWhile fun w => w.1 = .complaint || w.2 == []
      ⟨e.left, before ++ [(.complaint, c.complaint ("write error: " ++ b.message))], [], 1⟩

/-! ## turned around -/

/-- the pieces of a text between places where a separator stands, which belongs to the piece before
it or after it; the separators are looked for from the end on, where `t` is the text turned around
and `piece` is what was read of a piece -/
def tacPieces (separator : Text) (before : Bool) : Nat → Text → Text → List Text
  | 0, _, _ => []
  | n + 1, piece, t =>
    match Text.after? separator.reverse t with
    | some r =>
      if before then
        (separator ++ piece) :: (if r = [] then [] else tacPieces separator before n [] r)
      else if piece = [] then tacPieces separator before n separator r
      else piece :: tacPieces separator before n separator r
    | none =>
      match t with
      | [] => if piece = [] then [] else [piece]
      | c :: r => tacPieces separator before n (c :: piece) r

def tac : Tool := fun c =>
  c.withOptions (.of "br" "s" [("before", 'b'), ("regex", 'r'), ("separator", 's')]) 1 fun o =>
    let separator := (o.value? 's').getD ['\n']
    let m : Manner :=
      { opening := fun p f => "failed to open " ++ shownAlways p ++ " for reading: " ++ f.message
        reading := fun p f =>
          shownName (if p = ['-'] then "standard input" else p) ++ ": read error: "
            ++ (if f = .directory then PathFault.invalid else f).message
        closing := "-: Bad file descriptor" }
    if separator = [] then c.fail 1 "separator cannot be empty"
    else
      c.onFound m 1 (pathsOf o.operands) fun found =>
        found.flatMap fun f =>
          (tacPieces separator (o.has 'b') (2 * f.2.length + 2) [] f.2.reverse).flatten

def rev : Tool := fun c =>
  c.withOptions (.of "0hV" [] [("zero", '0')]) 1 fun o =>
    let ending := if o.has '0' then '\x00' else '\n'
    let m : Manner :=
      { opening := fun p f => "cannot open " ++ p ++ ": " ++ f.message
        reading := fun p f => p ++ ": " ++ f.message
        closing := [] }
    c.onFound m 1 (pathsOf o.operands) fun found =>
      found.flatMap fun f =>
        (piecesOf ending f.2).flatMap fun p =>
          if p.getLast? = some ending then p.dropLast.reverse ++ [ending] else p.reverse

/-- `rev` does not notice that nothing can be written -/
def revLoss : Loss := fun c b e =>
  match b with
  | .full => lostWith 1 c b e
  | _ => { e with written := e.written.filter (·.1 = .complaint) }

/-! ## tee -/

/-- what comes of putting a text into a file: what is written, what changes, and a complaint -/
def Call.put (c : Call) (append : Bool) (t path : Text) :
    List (Stream × Text) × List (Place × Option Node) :=
  let failed := fun (reason : Text) => ([(Stream.complaint, c.complaint (shownName path ++ ": "
    ++ reason))], [])
  if path = "/dev/stdout".toList ∨ path = "/dev/fd/1".toList then ([(.output, t)], [])
  else if path = "/dev/stderr".toList ∨ path = "/dev/fd/2".toList then ([(.complaint, t)], [])
  else
    match c.files.room path with
    | .error f => failed f.message
    | .ok p =>
      match c.files.at? p with
      | some .directory => failed PathFault.directory.message
      | some (.device .full) => if t = [] then ([], []) else failed Blocked.full.message
      | some (.device .terminal) => failed PathFault.noTerminal.message
      | some (.device _) => ([], [])
      | _ =>
        let new := (if append then c.files.textAt p else []) ++ t
        ([], (c.files.putText p new).changes.take 1)

def teeOptions : OptionTable :=
  { OptionTable.of "aip" [] [("append", 'a'), ("ignore-interrupts", 'i'), ("output-error", 'q')]
    with perhaps := ['q'] }

def tee : Tool := fun c =>
  c.withOptions teeOptions 1 fun o =>
    let put := fun (t : Text) => o.operands.map (c.put (o.has 'a') t)
    match c.source with
    | .error f =>
      let closing := if c.inputClosed then c.complaint ("standard input: " ++ f.message) else []
      ⟨none, [(.complaint, c.complaint ("read error: " ++ f.message) ++ closing)],
        (put []).flatMap Prod.snd, 1⟩
    | .ok t =>
      let results := put t
      let failed := results.any fun r => r.2 = [] ∧ r.1.any fun w =>
        w.1 = .complaint ∧ w.2 ≠ t
      let output := match c.blocked with
        | none => [(Stream.output, t)]
        | some b =>
          if t = [] then []
          else [(.complaint, c.complaint ("'standard output': " ++ b.message))]
      ⟨some [], output ++ results.flatMap Prod.fst, results.flatMap Prod.snd,
        if failed ∨ (c.blocked.isSome ∧ t ≠ []) then 1 else 0⟩

/-- the texts that make up a line again and again, or what comes of arguments that ask for none -/
def yesRow (c : Call) : Except Effect (Nat → Option Text) :=
  match { OptionTable.of [] [] [] with ordered := true }.read none c.args with
  | .error f => .error (c.misused 1 f.message)
  | .ok o =>
    if o.has helpLetter || o.has versionLetter then .error (silent 0)
    else
      let words := if o.operands = [] then [['y']] else o.operands
      let line : Text := List.intercalate [' '] words ++ ['\n']
      let piece := (List.replicate (8192 / line.length + 1) line).flatten
      .ok fun _ => some piece

def yes : Tool := fun c =>
  match yesRow c with
  | .error e => e
  | .ok row =>
    match c.blocked with
    | some b => c.fail 1 ("standard output: " ++ b.message)
    | none => writing ((row 0).getD [])

end Shell
end CoroBridge
