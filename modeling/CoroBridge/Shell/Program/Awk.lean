import CoroBridge.Shell.Program.Awk.Eval
import CoroBridge.Shell.Program.Awk.Reader

/-!
# Command language: the program `awk`

Rules are done for the records of the input.

* `Awk.Invocation`     what the arguments ask for;
* `Awk.run`            the rules of a program done;
* `awk`                the program.
-/

namespace CoroBridge
namespace Shell
namespace Awk

/-! ## arguments -/

structure Invocation where
  files : List Text
  sets : List (Text × Text)
  operands : List Text

/-- an option that takes a value, where its own text may hold it -/
def Invocation.option (i : Invocation) (c : Char) (v : Text) : Except Text Invocation :=
  match c with
  | 'f' => .ok { i with files := i.files ++ [v] }
  | 'F' => .ok { i with sets := i.sets ++ [("FS".toList, v)] }
  | _ =>
    match Run.assignment? v with
    | some p => .ok { i with sets := i.sets ++ [p] }
    | none => .error ("improper assignment: -v " ++ v)

/-- what the arguments ask for, after what is known of it -/
def Invocation.from_ (i : Invocation) : Nat → List Text → Except Text Invocation
  | 0, as => .ok { i with operands := as }
  | n + 1, as =>
    match as with
    | [] => .ok i
    | ['-', '-'] :: as => .ok { i with operands := as }
    | ['-'] :: as => .ok { i with operands := ['-'] :: as }
    | ('-' :: c :: v) :: rest =>
      if c = 'f' ∨ c = 'F' ∨ c = 'v' then
        match v, rest with
        | [], [] => .error ("option -" ++ [c] ++ " lacks argument")
        | [], v :: rest => do (← i.option c v).from_ n rest
        | v, rest => do (← i.option c v).from_ n rest
      else if c = 'W' then i.from_ n (if v = [] then rest.drop 1 else rest)
      else .error ("not an option: -" ++ [c] ++ v)
    | as => .ok { i with operands := as }

def Invocation.of (args : List Text) : Except Text Invocation :=
  from_ ⟨[], [], []⟩ (args.length + 1) args

/-! ## running -/

def Memory.start (code : Code) (env : List (Text × Text)) (args : List Text) : Memory where
  globals :=
    [("NR", .value (.number 0)), ("FNR", .value (.number 0)), ("FS", .value (.text [' '])),
      ("OFS", .value (.text [' '])), ("ORS", .value (.text ['\n'])),
      ("RS", .value (.text ['\n'])), ("FILENAME", .value (.text [])),
      ("SUBSEP", .value (.text ['\x1c'])), ("RSTART", .value (.number 0)),
      ("RLENGTH", .value (.number (-1))), ("CONVFMT", .value (.text "%.6g")),
      ("OFMT", .value (.text "%.6g")),
      ("ARGC", .value (.number (Float.ofNat (args.length + 1)))),
      ("ARGV", .table 0), ("ENVIRON", .table 1)]
  locals := []
  tables :=
    let argv := ("awk".toList :: args).zipIdx.foldl (fun s a =>
      let k := Key.whole a.2
      (s.touch true k).put k (.given a.1)) Table.empty
    let environ := env.foldl (fun s p =>
      let k := Key.text p.1
      (s.touch true k).put k (.given p.2)) Table.empty
    #[argv, environ]
  record := ⟨[], true, #[], false, .blanks⟩
  separator := .blanks
  limit := .char '\n'
  input := none
  argument := 1
  used := false
  outlets := [⟨Run.outputName, false, .of 1, none⟩]
  inlets := []
  functions := code.functions
  ranges := Array.replicate code.rules.length false
  status := 0
  seed := 0
  nextSeed := 0
  count := 0

namespace Run

def chosen (shell : Text → Act Unit) (place : Nat) : Pattern → Run Bool
  | .all => return true
  | .test e => return (← eval shell countless e).holds
  | .range first last => do
    let inside := (← get).ranges[place]?.getD false
    let begins ← if inside then pure true else do pure (← eval shell countless first).holds
    if begins then
      let ends := (← eval shell countless last).holds
      modify fun m => { m with ranges := m.ranges.setIfInBounds place (!ends) }
      return true
    else return false

/-- the rules done for the record, from a place in their list on -/
def rulesFrom (shell : Text → Act Unit) : Nat → List Rule → Run Unit
  | _, [] => return
  | place, r :: rs => do
    if ← chosen shell place r.pattern then
      match r.action with
      | some s => exec shell countless s
      | none => exec shell countless (.print [] none)
    rulesFrom shell (place + 1) rs

/-- the rules done for all records, in at most so many steps -/
def recordsFrom (shell : Text → Act Unit) (rules : List Rule) : Nat → Run Unit
  | 0 => return
  | n + 1 => do
    match ← record? with
    | none => return
    | some t =>
      setRecord t
      round
      tryCatch (rulesFrom shell 0 rules) fun s =>
        match s with
        | .next => pure ()
        | .nextFile => do
          match (← get).input with
          | some f => if f.descriptor ≠ 0 then act (Act.close f.descriptor)
          | none => pure ()
          modify fun m => { m with input := none }
        | s => throw s
      recordsFrom shell rules n

/-- an action up to its end, or up to a place where it asks for the end -/
def upToExit (x : Run Unit) : Run Bool :=
  tryCatch (do x; pure false) fun s =>
    match s with
    | .exit => pure true
    | s => throw s

def all (shell : Text → Act Unit) (code : Code) (sets : List (Text × Text)) : Run Unit := do
  for p in sets do write p.1 (.given (unescape 0 p.2))
  let finished ← upToExit (execAll shell countless code.start)
  if !finished && !(code.rules.isEmpty && code.finish.isEmpty) then
    discard (upToExit (recordsFrom shell code.rules countless))
  discard (upToExit (execAll shell countless code.finish))

end Run

def complain (what : Text) : Act Unit := discard (Act.write 2 ("awk: " ++ what ++ ['\n']))

/-- what is said of an action that has taken a way out, and the status -/
def settle (x : Run Unit) (m : Memory) : Act (Nat × Memory) := do
  let (r, m) ← x.run m
  match r with
  | .error (.fault what placed) =>
    let number := fun (name : Text) =>
      match m.globals.lookup name with
      | some (.value v) => v.toText "%.6g"
      | _ => []
    complain (if placed then
        what ++ "\n\tFILENAME=\"" ++ number "FILENAME" ++ "\" FNR=" ++ number "FNR" ++ " NR="
          ++ number "NR"
      else what)
    return (2, m)
  | _ => return (m.status, m)

def run (shell : Text → Act Unit) (code : Code) (sets : List (Text × Text)) (operands : List Text) :
    Act Unit := do
  let m := Memory.start code (Act.exportedOf (← get)) operands
  let (status, m) ← settle (Run.all shell code sets) m
  let mut worst := status
  for o in m.outlets do
    let (closing, _) ← settle (discard (Run.closeOutlet o)) { m with status := 0 }
    worst := max worst closing
  Act.finish (if status = 0 then worst else status)

/-- the text of some files, each of them ended -/
def programText : List Text → Act (Except Text Text)
  | [] => return .ok []
  | f :: fs => do
    let t : Except Text Text ←
      if f = ['-'] then do pure (.ok ((← Act.takeAll 0).toOption.getD []))
      else do
        match (← get).files.read f with
        | .ok t => pure (.ok t)
        | .error e => pure (.error ("cannot open \"" ++ f ++ "\" (" ++ e.reason.message ++ ")"))
    match t, ← programText fs with
    | .ok t, .ok ts => return .ok (if ts = [] then t else t ++ '\n' :: ts)
    | .error e, _ => return .error e
    | _, .error e => return .error e

end Awk

def awk (shell : Text → Act Unit) (args : List Text) : Act Unit := do
  let refuse := fun (what : Text) => do
    Awk.complain what
    Act.finish 2
  match Awk.Invocation.of args with
  | .error what => refuse what
  | .ok i =>
    let source : Except Text (Text × List Text) ←
      if i.files = [] then
        pure (match i.operands with
          | t :: rest => .ok (t, rest)
          | [] => .error "no program")
      else do
        let t ← Awk.programText i.files
        pure (t.map (·, i.operands))
    match source with
    | .error what => refuse what
    | .ok (t, operands) =>
      match Awk.Code.of t with
      | .error whats =>
        for what in whats do Awk.complain what
        Act.finish 2
      | .ok code => Awk.run shell code i.sets operands

end Shell
end CoroBridge
