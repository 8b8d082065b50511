import CoroBridge.Shell.Tool.Options

/-!
# Command language: blocks copied

The tool `dd` copies blocks from one place to another, perhaps with their bytes changed.

* `Copy.Job`         what is copied, from where, to where, and how;
* `Copy.converted`   bytes changed as a job asks for;
* `dd`               the tool.
-/

namespace CoroBridge
namespace Shell
namespace Copy

structure Job where
  source : Option Text
  target : Option Text
  input : Nat
  output : Nat
  convert : Nat
  count : Option Nat
  skip : Nat
  seek : Nat
  changes : List Text
  inputFlags : List Text
  outputFlags : List Text
  status : Text

def knownChanges : List Text :=
  (["ascii", "ebcdic", "ibm", "block", "unblock", "lcase", "ucase", "sparse", "swab", "sync", "excl",
    "nocreat", "notrunc", "noerror", "fdatasync", "fsync"] : List String).map String.toList

/-- the size that a text is: numbers with units, multiplied -/
def size? (t : Text) : Option Nat :=
  (t.splitOn 'x').foldl (fun r p =>
    match r, p with
    | some n, _ =>
      let d := p.takeWhile Char.isDigit
      let unit := match p.drop d.length with
        | ['c'] => some 1
        | ['w'] => some 2
        | u => unit? u
      match number? d, unit with
      | some m, some k => some (n * m * k)
      | _, _ => none
    | none, _ => none) (some 1)

/-- the job that operands describe, or a complaint -/
def Job.of : Job → List Text → Except Text Job
  | j, [] => .ok j
  | j, a :: as =>
    let name := a.takeWhile (· != '=')
    let value := a.drop (name.length + 1)
    let unknown := Except.error ("unrecognized operand " ++ quoted a)
    if name.length = a.length then unknown
    else
      let sized := fun (f : Nat → Job) (zero : Bool) =>
        match size? value with
        | some n =>
          if n = 0 ∧ !zero then .error ("invalid number: " ++ quoted value)
          else Job.of (f n) as
        | none => .error ("invalid number: " ++ quoted value)
      let words := value.splitOn ','
      match String.ofList name with
      | "if" => Job.of { j with source := some value } as
      | "of" => Job.of { j with target := some value } as
      | "bs" => sized (fun n => { j with input := n, output := n }) false
      | "ibs" => sized (fun n => { j with input := n }) false
      | "obs" => sized (fun n => { j with output := n }) false
      | "cbs" => sized (fun n => { j with convert := n }) false
      | "count" => sized (fun n => { j with count := some n }) true
      | "skip" => sized (fun n => { j with skip := n }) true
      | "iseek" => sized (fun n => { j with skip := n }) true
      | "seek" => sized (fun n => { j with seek := n }) true
      | "oseek" => sized (fun n => { j with seek := n }) true
      | "status" =>
        if value ∈ (["none", "noxfer", "progress"] : List String).map String.toList then
          Job.of { j with status := value } as
        else .error ("invalid status level: " ++ quoted value)
      | "conv" =>
        match words.find? fun w => !knownChanges.contains w with
        | some w => .error ("invalid conversion: " ++ quoted w)
        | none => Job.of { j with changes := j.changes ++ words } as
      | "iflag" => Job.of { j with inputFlags := words } as
      | "oflag" => Job.of { j with outputFlags := words } as
      | _ => unknown

def swapped : Text → Text
  | a :: b :: r => b :: a :: swapped r
  | t => t

def converted (j : Job) (t : Text) : Text :=
  let has := fun (w : String) => j.changes.contains w.toList
  let t := if has "swab" then swapped t else t
  let t := if has "ucase" then t.map Char.toUpper else if has "lcase" then t.map Char.toLower else t
  if has "block" ∧ j.convert > 0 then
    (recordsOf '\n' t).flatMap fun l =>
      let l := l.take j.convert
      l ++ List.replicate (j.convert - l.length) ' '
  else if has "unblock" ∧ j.convert > 0 then
    (pieces j.convert (t.length + 1) t).flatMap fun p =>
      (p.reverse.dropWhile (· == ' ')).reverse ++ ['\n']
  else t
where
  /-- a text in pieces of a length -/
  pieces (n : Nat) : Nat → Text → List Text
    | 0, _ => []
    | fuel + 1, t => if t = [] then [] else t.take n :: pieces n fuel (t.drop n)

/-- the bytes that a job takes of an input, and what is left of it -/
def taken (j : Job) (t : Text) : Text × Text :=
  let inBytes := fun (flag : String) => j.inputFlags.contains flag.toList
  let skipped := t.drop (if inBytes "skip_bytes" then j.skip else j.skip * j.input)
  match j.count with
  | some n =>
    let k := if inBytes "count_bytes" then n else n * j.input
    (skipped.take k, skipped.drop k)
  | none => (skipped, [])

def blocks (size n : Nat) : Text :=
  Text.ofNat (n / size) ++ '+' :: (if n % size = 0 then "0" else "1")

end Copy

def dd : Tool := fun c =>
  match Copy.Job.of ⟨none, none, 512, 512, 0, none, 0, 0, [], [], [], []⟩ c.args with
  | .error what => c.misused 1 what
  | .ok j =>
    let opened : Except Text Text := match j.source with
      | none => c.source.mapError fun f => "error reading 'standard input': " ++ f.message
      | some p => (c.files.read p).mapError fun f =>
          if f.opened then "error reading " ++ shownAlways p ++ ": " ++ f.reason.message
          else "failed to open " ++ shownAlways p ++ ": " ++ f.reason.message
    match opened with
    | .error what => c.fail 1 what
    | .ok t =>
      let (t, rest) := Copy.taken j t
      let padded := if j.changes.contains "sync" ∧ t.length % j.input ≠ 0 then
          t ++ List.replicate (j.input - t.length % j.input)
            (if j.changes.contains "block" ∨ j.changes.contains "unblock" then ' ' else '\x00')
        else t
      let out := Copy.converted j padded
      let records : Text := Copy.blocks j.input t.length ++ " records in\n"
        ++ Copy.blocks j.output out.length ++ " records out\n"
      let n := out.length
      let unit : Text := if n = 1 then " byte" else " bytes"
      let told : Text := if j.status = "none".toList then []
        else if j.status = "noxfer".toList then records
        else records ++ Text.ofNat n ++ unit ++ " copied, 0.0001 s, "
          ++ Text.ofNat (n * 10) ++ " kB/s\n"
      let left := if j.source.isNone then some rest else none
      match j.target with
      | none => ⟨left, [(.output, out), (.complaint, told)], [], 0⟩
      | some p =>
        match c.files.room p with
        | .error f =>
          c.fail 1 ("failed to open " ++ shownAlways p ++ ": "
            ++ (if f = .taken then PathFault.directory else f).message)
        | .ok q =>
          match c.files.at? q with
          | some .directory =>
            c.fail 1 ("failed to open " ++ shownAlways p ++ ": " ++ PathFault.directory.message)
          | some (.device .full) =>
            if out = [] then ⟨left, [(.complaint, told)], [], 0⟩
            else
              ⟨left, [(.complaint, c.complaint ("error writing " ++ shownAlways p ++ ": "
                ++ Blocked.full.message))], [], 1⟩
          | some (.device _) => ⟨left, [(.complaint, told)], [], 0⟩
          | _ =>
            let old := c.files.textAt q
            let at_ := j.seek * j.output
            let appends := j.outputFlags.contains "append"
            let keeps := j.changes.contains "notrunc" || appends
            let front := if appends then old else
              (old.take at_) ++ List.replicate (at_ - old.length) '\x00'
            let back := if keeps ∧ !appends then old.drop (at_ + out.length) else []
            let changed := (c.files.putText q (front ++ out ++ back)).changes.take 1
            ⟨left, [(.complaint, told)], changed, 0⟩

def ddPace (c : Call) : Pace :=
  match Copy.Job.of ⟨none, none, 512, 512, 0, none, 0, 0, [], [], [], []⟩ c.args with
  | .ok j =>
    match j.count with
    | some n =>
      let most := (j.skip + n) * j.input
      { Pace.lines with enough := fun t => most ≤ t.length, block := max 1 (min j.input 65536) }
    | none => { Pace.lines with flows := j.target.isNone && j.changes = [] }
  | .error _ => Pace.whole

end Shell
end CoroBridge
