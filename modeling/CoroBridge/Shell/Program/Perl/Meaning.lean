import CoroBridge.Shell.Program.Perl.Function

/-!
# Command language: the language of `perl`, places

Where the values of expressions are kept, as far as this follows from the meaning of their parts.

* `Perl.Meaning`               what expressions and statements do;
* `Perl.Run.placeOf`           the cell of an expression;
* `Perl.Run.cellsOf`           the cells of all its values;
* `Perl.Run.assign`            values put where an expression speaks;
* `Perl.Run.localize`          variables that stand for something else up to the end of a block.
-/

namespace CoroBridge
namespace Shell
namespace Perl

structure Meaning where
  scalar : Expr → Run Value
  list : Expr → Run (List Value)
  place : Expr → Run Nat
  cells : Expr → Run (List Nat)
  array : Expr → Run Nat
  hash : Expr → Run Nat
  body : Want → List Stmt → Run (List Value)
  call : Want → Nat → List Nat → Run (List Value)

namespace Run

/-- whether an expression stands for several values -/
def isPlural : Expr → Bool
  | .variable (.array, _) => true
  | .items _ _ => true
  | .entries _ _ => true
  | .behind .array _ => true
  | _ => false

/-- whether an expression is a place where references can be put -/
def isPlace : Expr → Bool
  | .variable _ => true
  | .item _ _ => true
  | .entry _ _ => true
  | .my _ _ => true
  | .behind _ _ => true
  | _ => false

/-! ## what references lead to -/

/-- what a reference of a kind leads to; where there is nothing yet, `make` brings it about -/
def led (k : Meaning) (r : Expr) (what : Text) (kind : Sigil) (id? : Value → Option Nat)
    (make : Run (Value × Nat)) : Run Nat := do
  let place ← if isPlace r then do pure (some (← k.place r)) else pure none
  let v ← match place with
    | some c => load c
    | none => k.scalar r
  match id? v, v, place with
  | some id, _, _ => return id
  | none, .absent, some c =>
    let (v, id) ← make
    store c v
    return id
  | none, .absent, none => return (← make).2
  | none, v, _ =>
    let t := v.toText
    if v.isReference then fail ("Not " ++ what ++ " reference")
    else if (← seen (·.strict)) then
      let shown : Text := if 32 < t.length then t.take 32 ++ "\"..." else t ++ ['"']
      fail ("Can't use string (\"" ++ shown ++ ") as " ++ what
        ++ " ref while \"strict refs\" in use")
    else global (kind, t)

def arrayBehind (k : Meaning) (r : Expr) : Run Nat :=
  led k r "an ARRAY" .array (fun | .array id => some id | _ => none) do
    let id ← newArray []
    return (.array id, id)

def hashBehind (k : Meaning) (r : Expr) : Run Nat :=
  led k r "a HASH" .hash (fun | .hash id => some id | _ => none) do
    let id ← newHash []
    return (.hash id, id)

def cellBehind (k : Meaning) (r : Expr) : Run Nat :=
  led k r "a SCALAR" .scalar (fun | .cell id => some id | _ => none) do
    let id ← newCell .absent
    return (.cell id, id)

/-! ## variables that stand for something else for a while -/

/-- what an expression stands for replaced up to the end of the block -/
def localizeOne (k : Meaning) (e : Expr) : Run Unit := do
  match e with
  | .variable x =>
    let old ← global x
    let x := (x.1, qualified (← seen (·.package)) x.2)
    modify fun m => { m with
      saved := .variable x (some old) :: m.saved
      globals := m.globals.filter (·.1 != x) }
    discard (global x)
  | .entry h key =>
    let id ← k.hash h
    let key := (← k.scalar key).toText
    let old := (← hash id).lookup key
    modify fun m => { m with saved := .entry id key old :: m.saved }
    setHash id (Shell.put key (← newCell .absent) (← hash id))
  | .item a i =>
    let id ← k.array a
    match placeIn (← array id).size (← k.scalar i).toWhole with
    | some n =>
      stretch id n
      let old := (← array id)[n]?
      modify fun m => { m with saved := .item id n old :: m.saved }
      setArray id ((← array id).setIfInBounds n (← newCell .absent))
    | none => return
  | _ => return

def localize (k : Meaning) : Expr → Run Unit
  | .list es => es.forM (localizeOne k)
  | e => localizeOne k e

/-! ## places -/

def keyText (k : Meaning) (key : Expr) : Run Text := do
  match key with
  | .list es =>
    let vs ← es.mapM k.scalar
    return List.intercalate (← sign ';').toText (vs.map Value.toText)
  | e => textOf (← k.scalar e)

def itemPlace (id : Nat) (i : Int) : Run Nat := do
  match placeIn (← array id).size i with
  | none => fail ("Modification of non-creatable array value attempted, subscript " ++ ofInt i)
  | some n =>
    stretch id n
    return (← array id)[n]?.getD 0

def itemCell? (id : Nat) (i : Int) : Run (Option Nat) := do
  let a ← array id
  return (placeIn a.size i).bind fun n => a[n]?

def orNew : Option Nat → Run Nat
  | some c => return c
  | none => newCell .absent

def placeOf (k : Meaning) (e : Expr) : Run Nat := do
  match e with
  | .variable (.scalar, x) => cellOf x
  | .my [x] _ => if x.1 = .scalar then declare x else newCell .absent
  | .our [x] _ => global x
  | .item a i =>
    let id ← k.array a
    itemPlace id (← k.scalar i).toWhole
  | .entry h key =>
    let id ← k.hash h
    entryCell id (← keyText k key)
  | .behind .scalar r => cellBehind k r
  | .choice t a b => if (← k.scalar t).holds then k.place a else k.place b
  | .local_ e =>
    localize k e
    k.place e
  | .list [e] => k.place e
  | .assign _ a _ =>
    match a with
    | .variable _ => do
      discard (k.scalar e)
      k.place a
    | .my [x] false => do
      discard (k.scalar e)
      idOf x
    | .my [x] true => do
      discard (k.scalar e)
      if x.1 = .scalar then idOf x else newCell .absent
    | a => do
      discard (k.scalar e)
      k.place a
  | .step true _ e' => do
    discard (k.scalar e)
    k.place e'
  | .substitute _ _ _ _ => newCell (← k.scalar e)
  | e => newCell (← k.scalar e)

/-- the places of the last match and of its groups -/
def groupPlaces (f : Nat → Nat → Nat) : Run Nat := do
  match (← seen (·.found)) with
  | none => newArray []
  | some (m, p) =>
    let whole := Value.count (f m.first (m.last - m.first))
    let groups := (List.range p.groups).map fun i =>
      match m.groups.lookup (i + 1) with
      | some (first, t) => Value.count (f first t.length)
      | none => .absent
    newArray (← newCells (whole :: groups))

/-- what an expression stands for as an array -/
def arrayAt (k : Meaning) (e : Expr) : Run Nat := do
  match e with
  | .variable (_, ['-']) => groupPlaces fun first _ => first
  | .variable (_, ['+']) => groupPlaces fun first size => first + size
  | .variable (_, x) => idOf (.array, x)
  | .behind _ r => arrayBehind k r
  | .my [x] _ => declare (.array, x.2)
  | .our [x] _ => global (.array, x.2)
  | .local_ e =>
    localize k e
    k.array e
  | .list [e] => if isPlural e then k.array e else do newArray (← k.cells e)
  | .assign _ a _ =>
    discard (k.scalar e)
    match a with
    | .my [x] _ => idOf (.array, x.2)
    | a => k.array a
  | e =>
    match ← k.list e with
    | [.array id] => return id
    | vs => newArray (← newCells vs)

def hashAt (k : Meaning) (e : Expr) : Run Nat := do
  match e with
  | .variable (_, x) => idOf (.hash, x)
  | .behind _ r => hashBehind k r
  | .my [x] _ => declare (.hash, x.2)
  | .our [x] _ => global (.hash, x.2)
  | .local_ e =>
    localize k e
    k.hash e
  | .list [e] => k.hash e
  | .assign _ a _ =>
    discard (k.scalar e)
    match a with
    | .my [x] _ => idOf (.hash, x.2)
    | a => k.hash a
  | e =>
    match ← k.scalar e with
    | .hash id => return id
    | _ => newHash []

def valueCells (id : Nat) : Run (List Nat) := return (← hash id).map Prod.snd

def pairsOf (id : Nat) : Run (List Value) := do
  return (← hashValues id).flatMap fun p => [.text p.1, p.2]

def cellsOf (k : Meaning) (e : Expr) : Run (List Nat) := do
  match e with
  | .variable (.scalar, x) => return [← cellOf x]
  | .variable (.array, x) => return (← array (← idOf (.array, x))).toList
  | .behind .array r => return (← array (← arrayBehind k r)).toList
  | .behind .scalar r => return [← cellBehind k r]
  | .list es =>
    let cs ← es.mapM k.cells
    return cs.flatten
  | .item a i => do
    let id ← k.array a
    return [← orNew (← itemCell? id (← k.scalar i).toWhole)]
  | .entry h key => do
    let id ← k.hash h
    let key ← keyText k key
    return [← orNew ((← hash id).lookup key)]
  | .items a is =>
    let id ← k.array a
    (← k.list is).mapM fun i => do itemPlace id i.toWhole
  | .entries h ks =>
    let id ← k.hash h
    (← k.list ks).mapM fun v => entryCell id v.toText
  | .choice t a b => if (← k.scalar t).holds then k.cells a else k.cells b
  | .use f [h] => do
    if f = "values".toList ∧ !isPlural h then valueCells (← k.hash h)
    else newCells (← k.list e)
  | .my xs _ =>
    let cs ← xs.mapM fun x => do
      let id ← declare x
      return if x.1 = .scalar then [id] else []
    return cs.flatten
  | e => newCells (← k.list e)

/-! ## assignments -/

/-- whether an assignment puts all values that there are into an expression -/
def takesList : Expr → Bool
  | .list _ => true
  | .my xs list => list || xs.any fun x => x.1 != .scalar
  | .our xs list => list || xs.any fun x => x.1 != .scalar
  | .variable (.array, _) => true
  | .variable (.hash, _) => true
  | .behind .array _ => true
  | .behind .hash _ => true
  | .items _ _ => true
  | .entries _ _ => true
  | .local_ e => takesList e
  | _ => false

/-- values put into a variable: those that are left, and the cells that have them now -/
def fillVariable (kind : Sigil) (id : Nat) (vs : List Value) : Run (List Value × List Nat) := do
  match kind with
  | .scalar =>
    store id (vs.headD .absent)
    return (vs.drop 1, [id])
  | .array =>
    setValues id vs
    return ([], (← array id).toList)
  | .hash =>
    setPairs id vs
    return ([], ← valueCells id)

/-- values put into variables one after the other -/
def fillVariables (ids : List (Sigil × Nat)) (vs : List Value) :
    Run (List Value × List Nat) := do
  let mut rest := vs
  let mut cells : List Nat := []
  for (kind, id) in ids do
    let (left, cs) ← fillVariable kind id rest
    rest := left
    cells := cells ++ cs
  return (rest, cells)

/-- values put where an expression speaks: those that are left, and the cells that have them now -/
def fillOne (k : Meaning) (e : Expr) (vs : List Value) : Run (List Value × List Nat) := do
  match e with
  | .my xs _ => do
    fillVariables (← xs.mapM fun x => do return (x.1, ← declare x)) vs
  | .our xs _ => do
    fillVariables (← xs.mapM fun x => do return (x.1, ← global x)) vs
  | .variable (.array, _) => fillVariable .array (← k.array e) vs
  | .variable (.hash, _) => fillVariable .hash (← k.hash e) vs
  | .behind .array _ => fillVariable .array (← k.array e) vs
  | .behind .hash _ => fillVariable .hash (← k.hash e) vs
  | .items _ _ => do
    let cs ← k.cells e
    fillVariables (cs.map fun c => (.scalar, c)) vs
  | .entries _ _ => do
    let cs ← k.cells e
    fillVariables (cs.map fun c => (.scalar, c)) vs
  | .use f [] =>
    if f = "undef".toList then return (vs.drop 1, []) else return (vs, [])
  | e => fillVariable .scalar (← k.place e) vs

/-- values put where expressions say, one after the other -/
def fillAll (k : Meaning) : List Expr → List Value → Run (List Value × List Nat)
  | [], vs => return (vs, [])
  | e :: es, vs => do
    let (rest, cs) ← fillOne k e vs
    let (rest, ds) ← fillAll k es rest
    return (rest, cs ++ ds)

/-- values put where an expression for several ones speaks; the cells that have them now -/
def fill (k : Meaning) (e : Expr) (vs : List Value) : Run (List Nat) := do
  match e with
  | .list es => return (← fillAll k es vs).2
  | .local_ e =>
    localize k e
    match e with
    | .list es => return (← fillAll k es vs).2
    | e => return (← fillOne k e vs).2
  | e => return (← fillOne k e vs).2

/-- what has to follow a change of a variable that has a meaning of its own -/
def noticed (e : Expr) : Run Unit := do
  match e with
  | .variable (.scalar, ['|']) =>
    let on := (← sign '|').holds
    let name := (← seen (·.selected))
    match ← file? name with
    | some f =>
      setFile name { f with prompt := on }
      if on then discard (flush name)
    | none => pure ()
  | .local_ (.variable (.scalar, ['|'])) =>
    let name := (← seen (·.selected))
    match ← file? name with
    | some f => setFile name { f with prompt := (← sign '|').holds }
    | none => pure ()
  | .entry (.variable (.hash, h)) _ => if h = "SIG".toList then syncSignals
  | .local_ (.entry (.variable (.hash, h)) _) => if h = "SIG".toList then syncSignals
  | _ => pure ()

/-- a value put where an expression speaks, which may be a part of a text or the length of an array -/
def put (k : Meaning) (e : Expr) (v : Value) : Run Value := do
  match e with
  | .lastIndex a =>
    let id ← k.array a
    let size := (v.toWhole + 1).toNat
    let old ← array id
    setArray id (old.take size)
    if old.size < size then stretch id (size - 1)
    return v
  | .use f args =>
    match String.ofList f, args with
    | "substr", x :: rest =>
      let c ← k.place x
      let t := (← load c).toText
      let ns ← rest.mapM k.scalar
      match partOf t.length (ns.headD .absent).toWhole ((ns.drop 1).head?.map Value.toWhole) with
      | some (first, size) =>
        store c (.text (t.take first ++ v.toText ++ t.drop (first + size)))
        return v
      | none => fail "substr outside of string"
    | "pos", args =>
      let c ← k.place (args.headD (.variable (.scalar, ['_'])))
      modify fun m => { m with positions := (c, v.toCount, false) :: m.positions.filter (·.1 != c) }
      return v
    | "local", [x] =>
      localize k x
      store (← k.place x) v
      return v
    | _, _ => return v
  | e =>
    store (← k.place e) v
    noticed e
    return v

end Run
end Perl
end Shell
end CoroBridge
