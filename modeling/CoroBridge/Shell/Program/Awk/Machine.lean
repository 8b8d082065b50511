import CoroBridge.Shell.Buffer
import CoroBridge.Shell.Program.Awk.Value

/-!
# Command language: the language of `awk`, machine

What a program for `awk` has at its disposal while it runs.

* `Awk.Memory`                 everything that statements see and change;
* `Awk.Run`                    statements as actions on it, which may take a way out;
* `Awk.Run.field`, `Awk.Run.setField`   the record and its fields;
* `Awk.Run.read`, `Awk.Run.write`       variables;
* `Awk.Run.record?`            the next record of the input;
* `Awk.Run.emit`               a text written somewhere;
* `Awk.Run.close`              a file or a command closed.
-/

namespace CoroBridge
namespace Shell
namespace Awk

/-- a way out of a statement: to the next record or file, out of a loop or to its next round, out of
a function, to the end, or to a complaint, which may tell the place in the input -/
inductive Stop where
  | next
  | nextFile
  | leave
  | again
  | back (v : Value)
  | exit
  | fault (what : Text) (placed : Bool)

/-- a record and its fields, of which one follows from the other, and what separates the fields -/
structure Record where
  text : Text
  joined : Bool
  fields : Array Value
  cut : Bool
  separator : Separator

/-- what a name stands for: a value, a table, or something that may yet become a table -/
inductive Slot where
  | value (v : Value)
  | table (id : Nat)
  | undecided (id : Nat)

inductive Limit where
  | char (c : Char)
  | paragraph
  | regex (r : Regex)

/-- a file or a command that is written to, with its process -/
structure OpenOutlet where
  name : Text
  command : Bool
  flow : Outflow
  process : Option Nat

/-- a file or a command that is read from, with its process -/
structure OpenInlet where
  name : Text
  command : Bool
  flow : Inflow
  process : Option Nat

structure Memory where
  globals : List (Text × Slot)
  locals : List (Text × Slot)
  tables : Array Table
  record : Record
  separator : Separator
  limit : Limit
  input : Option Inflow
  argument : Nat
  used : Bool
  outlets : List OpenOutlet
  inlets : List OpenInlet
  functions : List (Text × Function)
  ranges : Array Bool
  status : Nat
  seed : Nat
  nextSeed : Nat
  count : Nat

abbrev Run := ExceptT Stop (StateT Memory Act)

namespace Run

def act {α : Type} (x : Act α) : Run α := ExceptT.lift (StateT.lift x)

def fail {α : Type} (placed : Bool) (what : Text) : Run α := throw (.fault what placed)

/-- a round of a loop; now and then other processes have their turn -/
def round : Run Unit := do
  let k := (← get).count
  modify fun m => { m with count := k + 1 }
  if k % 32 = 31 then act (Act.turn 1)

/-! ## variables -/

def slot? (name : Text) : Run (Option Slot) := do
  let m ← get
  match m.locals.lookup name with
  | some s => return some s
  | none => return m.globals.lookup name

def setSlot (name : Text) (s : Slot) : Run Unit := modify fun m =>
  if (m.locals.lookup name).isSome then { m with locals := Shell.put name s m.locals }
  else { m with globals := Shell.put name s m.globals }

/-- the value of a variable that has no meaning of its own -/
def plain (name : Text) : Run Value := do
  match ← slot? name with
  | some (.value v) => return v
  | _ => return .unset

def conversion : Run Text := return (← plain "CONVFMT").toText "%.6g"

def text (v : Value) : Run Text := do
  match v with
  | .number x =>
    match whole? x with
    | some n => return ofInt n
    | none => return v.toText (← conversion)
  | v => return v.toText []

def shown (v : Value) : Run Text := do
  match v with
  | .number x =>
    match whole? x with
    | some n => return ofInt n
    | none => return v.toText ((← plain "OFMT").toText "%.6g")
  | v => return v.toText []

def regexOf (t : Text) : Run Regex := do
  match regex t with
  | .ok r => return r
  | .error f =>
    fail true ("run time error: regular expression compile failed (" ++ f.message ++ ")\n" ++ t)

def separatorOf (t : Text) : Run Separator := do
  match Separator.of t with
  | .ok s => return s
  | .error f =>
    fail true ("run time error: regular expression compile failed (" ++ f.message ++ ")\n" ++ t)

/-- the table of a name, which is made if there is none -/
def tableOf (name : Text) : Run Nat := do
  match ← slot? name with
  | some (.table id) => return id
  | some (.undecided id) => return id
  | _ =>
    let id := (← get).tables.size
    modify fun m => { m with tables := m.tables.push .empty }
    setSlot name (.table id)
    return id

def changeTable (id : Nat) (f : Table → Table) : Run Unit :=
  modify fun m => { m with tables := m.tables.modify id f }

/-! ## the record -/

def fields : Run (Array Value) := do
  let r := (← get).record
  if r.cut then return r.fields
  else
    let r := { r with fields := ((r.separator.parts r.text).map Value.given).toArray, cut := true }
    modify fun m => { m with record := r }
    return r.fields

def whole : Run Text := do
  let r := (← get).record
  if r.joined then return r.text
  else
    let between ← text (← plain "OFS")
    let parts ← r.fields.toList.mapM text
    let t := List.intercalate between parts
    modify fun m => { m with record := { m.record with text := t, joined := true } }
    return t

def setRecord (t : Text) : Run Unit := modify fun m =>
  { m with record := ⟨t, true, #[], false, m.separator⟩ }

def field (k : Nat) : Run Value := do
  if k = 0 then return .given (← whole)
  else return (← fields)[k - 1]?.getD .unset

def setFields (fs : Array Value) : Run Unit := modify fun m =>
  { m with record := { m.record with fields := fs, cut := true, joined := false } }

def resized (fs : Array Value) (k : Nat) : Array Value :=
  fs.take k ++ Array.replicate (k - fs.size) (.text [])

def setField (k : Nat) (v : Value) : Run Unit := do
  if k = 0 then setRecord (← text v)
  else
    let fs ← fields
    let fs := if fs.size < k then resized fs k else fs
    setFields (fs.setIfInBounds (k - 1) v)

def read (name : Text) : Run Value := do
  if name = "NF".toList then return .number (Float.ofNat (← fields).size) else plain name

def write (name : Text) (v : Value) : Run Unit := do
  if (← get).locals.lookup name |>.isSome then setSlot name (.value v)
  else
    match String.ofList name with
    | "NF" => setFields (resized (← fields) (Awk.whole v.toFloat).toNat)
    | "FS" =>
      let s ← separatorOf (← text v)
      modify fun m => { m with separator := s }
      setSlot name (.value v)
    | "RS" =>
      let limit ← match ← text v with
        | [] => pure .paragraph
        | [c] => pure (.char c)
        | t => do pure (.regex (← regexOf t))
      modify fun m => { m with limit := limit }
      setSlot name (.value v)
    | _ => setSlot name (.value v)

def count (name : Text) : Run Unit := do
  setSlot name (.value (.number ((← plain name).toFloat + 1)))

/-! ## writing -/

def lost {α : Type} (what : Text) (b : Blocked) : Run α :=
  fail false (what ++ " (" ++ b.message ++ ")")

def setOutlet (o : OpenOutlet) : Run Unit := modify fun m =>
  let set := fun (p : OpenOutlet) => if p.name = o.name ∧ p.command = o.command then o else p
  { m with outlets := m.outlets.map set }

def outputName : Text := "/dev/stdout"

def outletName (name : Text) (command : Bool) : Text :=
  if !command ∧ name = ['-'] then outputName else name

def pour (o : OpenOutlet) (t : Text) : Run Unit := do
  let (b, flow) ← act (o.flow.put t)
  setOutlet { o with flow := flow }
  match b with
  | none => return
  | some b => lost "write failure" b

/-- all that is to be written to an outlet written -/
def flush (o : OpenOutlet) : Run Unit := do
  let (b, flow) ← act o.flow.flush
  setOutlet { o with flow := flow }
  match b with
  | none => return
  | some b => lost "write failure" b

def flushOutput : Run Unit := do
  for o in (← get).outlets do if o.name = outputName ∧ !o.command then flush o

def flushAll : Run Unit := do
  for o in (← get).outlets do flush o

def emitPlain (t : Text) : Run Unit := do
  match (← get).outlets.find? fun o => o.name = outputName ∧ !o.command with
  | some o => pour o t
  | none => discard (act (Act.put 1 t))

def emit (shell : Text → Act Unit) (target : Outlet) (name t : Text) : Run Unit := do
  let command := target == .command
  let name := outletName name command
  if !command ∧ name = "/dev/stderr".toList then discard (act (Act.put 2 t))
  else
    match (← get).outlets.find? fun o => o.name = name ∧ o.command = command with
    | some o =>
      let others := fun (p : OpenOutlet) => !(p.name = name ∧ p.command = command)
      modify fun m => { m with outlets := o :: m.outlets.filter others }
      pour o t
    | none =>
      let o ←
        if command then do
          flushOutput
          let (flow, id) ← act (Act.outflowInto (shell name))
          pure (OpenOutlet.mk name true flow (some id))
        else
          match ← act (Act.outflowTo (target == .end_) name) with
          | .ok flow => pure (OpenOutlet.mk name false flow none)
          | .error f =>
            fail false ("cannot open \"" ++ name ++ "\" for output (" ++ f.message ++ ")")
      modify fun m => { m with outlets := o :: m.outlets }
      pour o t

def statusValue : Ending → Nat
  | .status k => k
  | .signal k => 256 + k

def closeOutlet (o : OpenOutlet) : Run Nat := do
  let (b, _) ← act o.flow.flush
  let closed := (← act (Act.channelOf o.flow.descriptor)).isNone
  act (Act.close o.flow.descriptor)
  let others := fun (p : OpenOutlet) => !(p.name = o.name ∧ p.command = o.command)
  modify fun m => { m with outlets := m.outlets.filter others }
  match b <|> (if closed then some Blocked.closed else none) with
  | some b => lost ("close failed on file \"" ++ o.name ++ "\"") b
  | none =>
    match o.process with
    | some id => return statusValue (← act (Act.join id))
    | none => return 0

def close (name : Text) : Run (Option Nat) := do
  let m ← get
  let mut status : Option Nat := none
  for o in m.outlets do
    if o.name = outletName name o.command then status := some (← closeOutlet o)
  for i in m.inlets do
    if i.name = name then
      act (Act.close i.flow.descriptor)
      match i.process with
      | some id => status := some (statusValue (← act (Act.join id)))
      | none => status := some 0
  modify fun m => { m with inlets := m.inlets.filter (·.name != name) }
  return status

/-! ## reading -/

/-- the paragraph that a text begins with, and what follows it -/
def paragraph (t : Text) : Option (Text × Text) :=
  match cutAt? "\n\n" t with
  | none => none
  | some (p, r) =>
    match r.dropWhile (· == '\n') with
    | [] => none
    | r => some (p, r)

/-- the next record that can be read, and what is left -/
def piece (f : Inflow) : Run (Except PathFault (Option Text) × Inflow) := do
  match (← get).limit with
  | .char c => act (f.next (pieceUpTo c))
  | .paragraph =>
    let (r, f) ← act (f.next fun t => some ([], t.dropWhile (· == '\n')))
    match r with
    | .error e => return (.error e, f)
    | .ok _ =>
      let (t, f) ← act f.all
      match t with
      | .error e => return (.error e, f)
      | .ok t =>
        let t := t.dropWhile (· == '\n')
        match paragraph t with
        | some (p, r) => return (.ok (some p), { f with buffer := r })
        | none =>
          let p := (t.reverse.dropWhile (· == '\n')).reverse
          return (.ok (if p = [] then none else some p), { f with buffer := [] })
  | .regex r =>
    let (t, f) ← act f.all
    match t with
    | .error e => return (.error e, f)
    | .ok t =>
      if t = [] then return (.ok none, f)
      else
        match r.find? ⟨false, false⟩ none t with
        | some m =>
          if m.text = [] then return (.ok (some t), { f with buffer := [] })
          else return (.ok (some m.before), { f with buffer := m.after })
        | none => return (.ok (some t), { f with buffer := [] })

/-- the variable and the value that an argument sets -/
def assignment? (a : Text) : Option (Text × Text) :=
  match pieceUpTo '=' a with
  | some (x, v) => if isVariable x then some (x, v) else none
  | none => none

/-- the next file among the arguments opened, in at most so many steps; `false` if there is none -/
def openNext : Nat → Run Bool
  | 0 => return false
  | n + 1 => do
    let m ← get
    let count := Awk.whole (← plain "ARGC").toFloat
    if (m.argument : Int) < count then
      modify fun m => { m with argument := m.argument + 1 }
      let id ← tableOf "ARGV"
      let a := (← get).tables[id]?.bind fun t => t.find (.whole m.argument)
      let a ← text (a.getD .unset)
      if a = [] then openNext n
      else
        match assignment? a with
        | some (x, v) =>
          write x (.given (unescape 0 v))
          openNext n
        | none =>
          let flow ←
            if a = ['-'] then pure (Inflow.of 0)
            else
              match ← act (Act.inflowOf a) with
              | .ok f => pure f
              | .error f => fail false ("cannot open \"" ++ a ++ "\" (" ++ f.message ++ ")")
          modify fun m => { m with input := some flow, used := true }
          setSlot "FILENAME" (.value (.given a))
          setSlot "FNR" (.value (.number 0))
          return true
    else if m.used then return false
    else
      modify fun m => { m with input := some (.of 0), used := true }
      setSlot "FILENAME" (.value (.given ['-']))
      setSlot "FNR" (.value (.number 0))
      return true

/-- the next record of the input, in at most so many steps -/
def recordFrom : Nat → Run (Option Text)
  | 0 => return none
  | n + 1 => do
    match (← get).input with
    | none => if ← openNext countless then recordFrom n else return none
    | some f =>
      let (r, f) ← piece f
      match r with
      | .error e => fail false ("read error (" ++ e.message ++ ")")
      | .ok (some t) =>
        modify fun m => { m with input := some f }
        count "NR"
        count "FNR"
        return some t
      | .ok none =>
        if f.descriptor ≠ 0 then act (Act.close f.descriptor)
        modify fun m => { m with input := none }
        recordFrom n

def record? : Run (Option Text) := recordFrom countless

/-- a line of a file or of what a command writes; an error if there is no such file -/
def lineOf (shell : Text → Act Unit) (command : Bool) (name : Text) :
    Run (Except PathFault (Option Text)) := do
  let known := (← get).inlets.find? fun i => i.name = name ∧ i.command = command
  let opened : Except PathFault OpenInlet ←
    match known with
    | some i => pure (.ok i)
    | none =>
      if command then do
        flushOutput
        let (flow, id) ← act (Act.inflowFrom (shell name))
        pure (.ok ⟨name, true, flow, some id⟩)
      else if name = ['-'] then pure (.ok ⟨name, false, .of 0, none⟩)
      else do
        match ← act (Act.inflowOf name) with
        | .ok flow => pure (.ok ⟨name, false, flow, none⟩)
        | .error f => pure (.error f)
  match opened with
  | .error f => return .error f
  | .ok i =>
    let (r, flow) ← piece i.flow
    let others := fun (j : OpenInlet) => !(j.name = name ∧ j.command = command)
    modify fun m => { m with inlets := { i with flow := flow } :: m.inlets.filter others }
    return r

end Run
end Awk
end Shell
end CoroBridge
