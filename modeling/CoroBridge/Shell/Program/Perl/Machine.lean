import CoroBridge.Shell.Buffer
import CoroBridge.Shell.Program.Perl.Value

/-!
# Command language: the language of `perl`, machine

What a program for `perl` has at its disposal while it runs.

* `Perl.Memory`                everything that statements see and change;
* `Perl.Run`                   statements as actions on it, which may take a way out;
* `Perl.Run.cellOf`, `Perl.Run.arrayOf`, `Perl.Run.hashOf`   what variables stand for;
* `Perl.Run.complaint`         what is said, with the place where it is said;
* `Perl.Run.patternOf`         the expression that a text is.
-/

namespace CoroBridge
namespace Shell
namespace Perl

/-- what is wanted of an expression: nothing, one value, or as many as there are -/
inductive Want where
  | nothing
  | scalar
  | list
  deriving DecidableEq, Repr

abbrev Scope := List (Variable × Nat)

/-- a function: one of the program, with its package, its name and the variables that it sees, or
one that a module gives -/
inductive Code where
  | own (package name : Text) (scope : Option Scope) (body : List Stmt)
  | given (name : Text)

/-- a way out of a statement: to the next round of a loop, out of it, to the same round again, out
of a function, to a complaint, or to the end -/
inductive Stop where
  | next (label : Text)
  | leave (label : Text)
  | redo (label : Text)
  | back (vs : List Value)
  | die (v : Value)
  | exit (status : Nat)

/-- what is put back where a block ends: a variable, an entry or an item -/
inductive Restore where
  | variable (x : Variable) (old : Option Nat)
  | entry (hash : Nat) (key : Text) (old : Option Nat)
  | item (array index : Nat) (old : Option Nat)

/-- a file that is open: what is read and written, the lines read so far, whether its end was met, the
process at its other end, whether its texts are encoded, whether what is written goes out at once,
the value that takes its place, and the names in a directory -/
structure OpenFile where
  input : Option Inflow
  output : Option Outflow
  lines : Nat
  ended : Bool
  process : Option Nat
  encoded : Bool
  prompt : Bool
  cell : Option Nat
  names : List Text

def OpenFile.none_ : OpenFile := ⟨none, none, 0, false, none, false, false, none, []⟩

structure Memory where
  cells : Array Value
  arrays : Array (Array Nat)
  hashes : Array (List (Text × Nat))
  codes : Array Code
  blessed : List ((Char × Nat) × Text)
  iterators : List (Nat × Nat)
  scope : Scope
  whole : Scope
  globals : Scope
  subs : List (Text × Nat)
  files : List (Text × OpenFile)
  selected : Text
  lastRead : Option Text
  found : Option (Trial.Match × Trial.Parsed)
  subject : Text
  positions : List (Nat × Nat × Bool)
  patterns : List ((Text × Text) × Trial.Parsed)
  package : Text
  file : Text
  line : Nat
  ranges : Array Bool
  saved : List Restore
  finals : List (List Stmt)
  want : Want
  count : Nat
  opened : Nat
  evaluated : Nat
  depth : Nat
  lineEnds : Bool
  inPlace : Option Text
  began : Bool
  seed : Nat
  known : List Text
  strict : Bool

abbrev Run := ExceptT Stop (StateT Memory Act)

namespace Run

def act {α : Type} (x : Act α) : Run α := ExceptT.lift (StateT.lift x)

/-- what can be seen of the memory; the memory itself is not kept, so that what comes next can change
it in place -/
def seen {α : Type} (f : Memory → α) : Run α := modifyGet fun m => (f m, m)

/-! ## places in memory -/

def load (id : Nat) : Run Value := return (← seen (·.cells))[id]?.getD .absent

def store (id : Nat) (v : Value) : Run Unit := do
  if !(← seen (·.positions)).isEmpty then
    modify fun m => { m with positions := m.positions.filter (·.1 != id) }
  modify fun m => { m with cells := m.cells.setIfInBounds id v }

def newCell (v : Value) : Run Nat :=
  modifyGet fun m => (m.cells.size, { m with cells := m.cells.push v })

def newCells (vs : List Value) : Run (List Nat) := vs.mapM newCell

def newArray (ids : List Nat) : Run Nat :=
  modifyGet fun m => (m.arrays.size, { m with arrays := m.arrays.push ids.toArray })

def newHash (ps : List (Text × Nat)) : Run Nat :=
  modifyGet fun m => (m.hashes.size, { m with hashes := m.hashes.push ps })

def newCode (c : Code) : Run Nat :=
  modifyGet fun m => (m.codes.size, { m with codes := m.codes.push c })

def array (id : Nat) : Run (Array Nat) := return (← seen (·.arrays))[id]?.getD #[]

def setArray (id : Nat) (a : Array Nat) : Run Unit :=
  modify fun m => { m with arrays := m.arrays.setIfInBounds id a }

def hash (id : Nat) : Run (List (Text × Nat)) := return (← seen (·.hashes))[id]?.getD []

def setHash (id : Nat) (h : List (Text × Nat)) : Run Unit :=
  modify fun m => { m with hashes := m.hashes.setIfInBounds id h }

def arrayValues (id : Nat) : Run (List Value) := do
  let a ← array id
  seen fun m => a.toList.map fun k => m.cells[k]?.getD .absent

def setValues (id : Nat) (vs : List Value) : Run Unit := do
  setArray id (← newCells vs).toArray

def hashValues (id : Nat) : Run (List (Text × Value)) := do
  let h ← hash id
  seen fun m => h.map fun p => (p.1, m.cells[p.2]?.getD .absent)

def setPairs (id : Nat) (vs : List Value) : Run Unit := do
  let rec pairs : List Value → List (Text × Value)
    | k :: v :: r => (k.toText, v) :: pairs r
    | [k] => [(k.toText, .absent)]
    | [] => []
  let mut h : List (Text × Nat) := []
  for p in pairs vs do
    match h.lookup p.1 with
    | some c => store c p.2
    | none => h := (p.1, ← newCell p.2) :: h
  setHash id h.reverse

def placeIn (size : Nat) (i : Int) : Option Nat :=
  if 0 ≤ i then some i.toNat
  else if -i ≤ size then some (size - i.natAbs) else none

def stretch (id k : Nat) : Run Unit := do
  let a ← array id
  if a.size ≤ k then
    let more ← newCells (List.replicate (k + 1 - a.size) .absent)
    setArray id (a ++ more.toArray)

/-- the cell of an entry, which is made where there is none -/
def entryCell (id : Nat) (key : Text) : Run Nat := do
  let h ← hash id
  match h.lookup key with
  | some c => return c
  | none =>
    let c ← newCell .absent
    setHash id (h ++ [(key, c)])
    return c

/-! ## complaints -/

/-- the file last read from, as complaints tell it -/
def readingPlace : Run Text := do
  let m ← get
  match m.lastRead with
  | none => return []
  | some f =>
    let n := ((m.files.lookup f).map OpenFile.lines).getD 0
    let shown : Text := if f = "ARGV".toList then [] else if f.all isVariableChar then f else "$fh"
    return if n = 0 then [] else ", <" ++ shown ++ "> line " ++ Text.ofNat n

def complaint (what : Text) : Run Text := do
  let m ← get
  let place : Text := if m.line = 0 then [] else " at " ++ m.file ++ " line " ++ Text.ofNat m.line
  return what ++ place ++ (← readingPlace) ++ ".\n"

def fail {α : Type} (what : Text) : Run α := do throw (.die (.text (← complaint what)))

def utter (t : Text) : Run Unit := discard (act (Act.write 2 t))

/-! ## variables -/

def isShared (x : Text) : Bool :=
  !(x.headD '0').isAlpha || (["ENV", "ARGV", "INC", "STDIN", "STDOUT", "STDERR", "ARGVOUT", "SIG"] :
    List String).any fun n => n.toList = x

/-- the full name of a variable or a function of the package -/
def qualified (package x : Text) : Text :=
  match Text.after? "main::" x with
  | some r => r
  | none =>
    if package = "main".toList ∨ isShared x ∨ x.contains ':' then x else package ++ "::" ++ x

/-- what a variable of a package stands for, made where there is nothing -/
def global (x : Variable) : Run Nat := do
  let x : Variable := (x.1, qualified (← seen (·.package)) x.2)
  match (← seen (·.globals)).lookup x with
  | some id => return id
  | none =>
    let id ← match x.1 with
      | .scalar => newCell .absent
      | .array => newArray []
      | .hash => newHash []
    modify fun m => { m with globals := (x, id) :: m.globals }
    return id

def setGlobal (x : Variable) (id : Nat) : Run Unit := modify fun m =>
  { m with globals := Shell.put (x.1, qualified m.package x.2) id m.globals }

def idOf (x : Variable) : Run Nat := do
  match (← seen (·.scope)).lookup x with
  | some id => return id
  | none => global x

/-- a variable of a block, with what it stands for -/
def declare (x : Variable) : Run Nat := do
  let id ← match x.1 with
    | .scalar => newCell .absent
    | .array => newArray []
    | .hash => newHash []
  modify fun m => { m with scope := (x, id) :: m.scope }
  return id

/-- what a part of the last match has matched -/
def part (name : Text) : Run Value := do
  let m ← get
  match m.found with
  | none => return .absent
  | some (f, _) =>
    let text := fun (t : Option Text) => (match t with | some t => .text t | none => .absent : Value)
    match String.ofList name with
    | "&" => return .text f.text
    | "\x60" => return .text (m.subject.take f.first)
    | "'" => return .text (m.subject.drop f.last)
    | "+" => return text ((f.groups.foldl (fun n g => max n g.1) 0 |> fun n =>
        if n = 0 then none else f.group? n))
    | _ => return text (f.group? (digitsValue name))

def cellOf (x : Text) : Run Nat := do
  let ofMatch : Bool := (x.all Char.isDigit && x != ['0']) || x == ['&'] || x == ['\x60'] || x == ['\x27']
    || x == ['+']
  if ofMatch then newCell (← part x)
  else if x = ['$'] then newCell (.whole (← act get).process)
  else idOf (.scalar, x)

def value (x : Text) : Run Value := do load (← cellOf x)

/-- the value of a variable whose name is a sign -/
def sign (c : Char) : Run Value := do
  match (← seen (·.globals)).lookup (.scalar, [c]) with
  | some id => load id
  | none => return .absent

def setSign (c : Char) (v : Value) : Run Unit := do store (← global (.scalar, [c])) v

def setFault (number : Nat) (message : Text) : Run Unit := setSign '!' (.dual number message)

/-- the number of a reason why nothing can be done at a path -/
def faultNumber : PathFault → Nat
  | .missing => 2
  | .notDirectory => 20
  | .directory => 21
  | .longName => 36
  | .denied => 13
  | .noTerminal => 6
  | .noDescriptor => 9
  | .unreadable => 9
  | .taken => 17
  | .notEmpty => 39
  | .invalid => 22

def setPathFault (f : PathFault) : Run Unit := setFault (faultNumber f) f.message

/-! ## surroundings -/

/-- the signals that the program has something to do for made known to others -/
def syncSignals : Run Unit := do
  match (← seen (·.globals)).lookup (.hash, "SIG".toList) with
  | none => return
  | some id =>
    let found := (← hashValues id).filterMap fun p =>
      (Signal.number? p.1).map fun n =>
        let t := p.2.toText
        (n, if t = [] ∨ t = "DEFAULT".toList then none
          else if t = "IGNORE".toList then some [] else some t)
    act (modify fun s =>
      let mentioned := found.map Prod.fst
      let ignored := (found.filter (·.2 == some [])).map Prod.fst
      let caught := found.filterMap fun p => p.2.bind fun t => if t = [] then none else some (p.1, t)
      { s with
        ignored := s.ignored.filter (fun n => !mentioned.contains n) ++ ignored
        traps := s.traps.filter (fun p => !mentioned.contains p.1) ++ caught })

def putBack (depth : Nat) : Run Unit := do
  let m ← get
  for r in m.saved.take (m.saved.length - depth) do
    match r with
    | .variable x old =>
      modify fun m => { m with globals := match old with
        | some id => Shell.put x id m.globals
        | none => m.globals.filter (·.1 != x) }
    | .entry h k old => do
      let ps ← hash h
      setHash h (match old with
        | some id => Shell.put k id ps
        | none => ps.filter (·.1 != k))
    | .item a k old => do
      match old with
      | some id => setArray a ((← array a).setIfInBounds k id)
      | none => pure ()
  modify fun m => { m with saved := m.saved.drop (m.saved.length - depth) }
  if m.saved.any (· matches .entry ..) then syncSignals

/-- what is done in a block of its own: its variables are seen in it alone -/
def within {α : Type} (x : Run α) : Run α := do
  let depth := (← seen (·.saved)).length
  let scope := (← seen (·.scope))
  let found := (← seen (·.found))
  let subject := (← seen (·.subject))
  let restore : Run Unit := do
    if (← seen (·.saved)).length ≠ depth then putBack depth
    modify fun m => { m with scope := scope, found := found, subject := subject }
  let a ← tryCatch x fun s => do
    restore
    throw s
  restore
  return a

/-- what is done with a variable of a package that stands for something else -/
def withGlobal {α : Type} (x : Variable) (id : Nat) (y : Run α) : Run α := do
  let old ← global x
  setGlobal x id
  let a ← tryCatch y fun s => do
    setGlobal x old
    throw s
  setGlobal x old
  return a

/-- a round of a loop; now and then other processes have their turn -/
def round : Run Unit := do
  let k := (← seen (·.count))
  modify fun m => { m with count := k + 1 }
  if k % 64 = 63 then act (Act.turn 1)

/-! ## expressions that are matched -/

def refused (t : Text) (left : Nat) : Trial.Refusal → Text
  | .openGroup => marked "Unmatched ( in regex" t left
  | .closedGroup => marked "Unmatched ) in regex" t left
  | .openList => marked "Unmatched [ in regex" t left
  | .nothingToRepeat => marked "Quantifier follows nothing in regex" t (left - 1)
  | .nested => marked "Nested quantifiers in regex" t (left - 1)
  | .backslash => "Search pattern not terminated"
  | .range r => marked ("Invalid [] range \"" ++ r ++ "\" in regex") t left
  | .unknownGroup n => marked ("Reference to nonexistent group in regex" ++ n.take 0) t left
  | .unknownExtension s =>
    marked ("Sequence (?" ++ s ++ "...) not recognized in regex") t (left - s.length)
  | .unknownClass n => marked ("POSIX class [:" ++ n ++ ":] unknown in regex") t left
  | .escape c => marked ("Unrecognized escape \\" ++ [c] ++ " passed through in regex") t left
where
  /-- a complaint with the place in the expression -/
  marked (what t : Text) (left : Nat) : Text :=
    let here := t.length - left
    what ++ "; marked by <-- HERE in m/" ++ t.take here ++ " <-- HERE " ++ t.drop here ++ "/"

/-- the expression that a text is in a notation -/
def patternOf (t : Text) (k : Trial.Notation) : Run Trial.Parsed := do
  let key := (t, Value.notationLetters k)
  match (← seen (·.patterns)).lookup key with
  | some p => return p
  | none =>
    match Trial.parse { k with wide := t.any fun c => 255 < c.toNat } t with
    | .ok p =>
      modify fun m => { m with patterns := (key, p) :: m.patterns.take 40 }
      return p
    | .error (r, left) => fail (refused t left r)

def patternText : Value → Text := Value.toText

/-! ## what belongs to packages -/

def markOf? : Value → Option (Char × Nat)
  | .cell id => some ('$', id)
  | .array id => some ('@', id)
  | .hash id => some ('%', id)
  | .code id => some ('&', id)
  | _ => none

def packageOf? (v : Value) : Run (Option Text) := do
  match v with
  | .regex _ _ => return some "Regexp"
  | v => return (markOf? v).bind ((← seen (·.blessed)).lookup ·)

/-- a value as a text, with its package if it has one -/
def textOf (v : Value) : Run Text := do
  match v with
  | .text t => return t
  | .regex .. => return v.toText
  | v =>
    if v.isReference then
      match ← packageOf? v with
      | some p => return p ++ '=' :: v.toText
      | none => return v.toText
    else return v.toText

end Run
end Perl
end Shell
end CoroBridge
