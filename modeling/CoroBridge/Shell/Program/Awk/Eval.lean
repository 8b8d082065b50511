import CoroBridge.Shell.Program.Awk.Machine

/-!
# Command language: the language of `awk`, meaning

What expressions and statements of programs for `awk` do.

* `Awk.Address`        where a value is kept;
* `Awk.Run.eval`       the value of an expression;
* `Awk.Run.exec`       a statement done.
-/

namespace CoroBridge
namespace Shell
namespace Awk

inductive Address where
  | variable (name : Text)
  | element (table : Nat) (key : Key)
  | field (k : Nat)

namespace Run

/-! ## what is kept -/

def load : Address → Run Value
  | .variable name => read name
  | .field k => field k
  | .element id k => do
    changeTable id (Table.touch · true k)
    return (((← get).tables[id]?).bind fun t => t.find k).getD .unset

def store (a : Address) (v : Value) : Run Unit := do
  match a with
  | .variable name => write name v
  | .field k => setField k v
  | .element id k => changeTable id fun t => (t.touch true k).put k v

def keyOf (vs : List Value) : Run Key := do
  match vs with
  | [v] =>
    match v with
    | .number x =>
      match whole? x with
      | some n => return .whole n
      | none => return .text (← text v)
    | v => return .text (← text v)
  | vs =>
    let between ← text (← plain "SUBSEP")
    return .text (List.intercalate between (← vs.mapM text))

def fieldNumber (v : Value) : Run Nat := do
  let k := Awk.whole v.toFloat
  if k < 0 then fail true ("run time error: negative field index $" ++ ofInt k)
  else return k.toNat

/-- what a function gets for a name alone: what it stands for, and where that is nothing yet,
something that may become a table -/
def pass (name : Text) : Run Slot := do
  match ← slot? name with
  | some (.value .unset) => undecided
  | none => if name = "NF".toList then return .value (← read name) else undecided
  | some s => return s
where
  /-- a name that may become a table -/
  undecided : Run Slot := do
    let id := (← get).tables.size
    modify fun m => { m with tables := m.tables.push .empty }
    setSlot name (.undecided id)
    return .undecided id

/-- a format with its values; what was written before a fault is written -/
def formatted (who : Text) (vs : List Value) : Run (Text × Option Text) := do
  match vs with
  | [] => return ([], none)
  | f :: vs =>
    let format ← text f
    let conversion ← conversion
    let (t, fault) := printed (fun v => v.toText conversion) (format.length + 1) 0 vs format
    return (t, fault.map fun f => "run time error: " ++ f.message who format)

/-- the next number of a row that looks like chance -/
def chance : Run Float := do
  let s := ((← get).seed * 6364136223846793005 + 1442695040888963407) % Nat.pow 2 64
  modify fun m => { m with seed := s }
  return Float.ofNat (s / Nat.pow 2 11) / 9007199254740992

/-- a function that every program has, with the values of its arguments -/
def useBuiltin (shell : Text → Act Unit) (name : Text) (vs : List Value) : Run Value := do
  let number := fun (x : Float) => (pure (.number x) : Run Value)
  let first := vs.headD .unset
  let x := first.toFloat
  match String.ofList name with
  | "length" =>
    let t ← match vs with
      | [] => whole
      | v :: _ => text v
    number (Float.ofNat t.length)
  | "substr" =>
    let t ← text first
    return .text (substring t ((vs.drop 1).headD .unset).toFloat
      ((vs.drop 2).head?.map Value.toFloat))
  | "index" =>
    let t ← text first
    match cutAt? (← text ((vs.drop 1).headD .unset)) t with
    | some (front, _) => number (Float.ofNat (front.length + 1))
    | none => number 0
  | "sprintf" =>
    match ← formatted "sprintf" vs with
    | (t, none) => return .text t
    | (_, some what) => fail true what
  | "sin" => number x.sin
  | "cos" => number x.cos
  | "atan2" => number (Float.atan2 x ((vs.drop 1).headD .unset).toFloat)
  | "exp" => number x.exp
  | "log" => number (if x < 0 then -(0 / 0) else x.log)
  | "int" => number (if x < 0 then x.ceil else x.floor)
  | "sqrt" => number (if x < 0 then -(0 / 0) else x.sqrt)
  | "rand" => number (← chance)
  | "srand" =>
    let m ← get
    let seed := if vs.isEmpty then 1700000000 else (Awk.whole x).toNat
    set { m with seed := seed, nextSeed := seed }
    number (Float.ofNat m.nextSeed)
  | "toupper" => return .text ((← text first).map Char.toUpper)
  | "tolower" => return .text ((← text first).map Char.toLower)
  | "systime" => number 1700000000
  | "close" =>
    match ← close (← text first) with
    | some k => number (Float.ofNat k)
    | none => number (-1)
  | "fflush" =>
    flushAll
    number 0
  | "system" =>
    flushAll
    let command ← text first
    let e ← act do Act.join (← Act.fork Act.withoutOwn (shell command))
    number (Float.ofNat (statusValue e))
  | _ => return .text []

/-- the place and the length of the first match in a text set as variables; the place -/
def matched (r : Regex) (t : Text) : Run Value := do
  let (place, length) : Float × Float :=
    match r.find? ⟨false, false⟩ none t with
    | some m => (Float.ofNat (m.before.length + 1), Float.ofNat m.text.length)
    | none => (0, -1)
  setSlot "RSTART" (.value (.number place))
  setSlot "RLENGTH" (.value (.number length))
  return .number place

def sizeOf (id : Nat) : Run Value := do
  return .number (Float.ofNat ((((← get).tables[id]?).map Table.size).getD 0))

mutual

def eval (shell : Text → Act Unit) : Nat → Expr → Run Value
  | 0, _ => fail false "program too complex"
  | n + 1, e => do
    match e with
    | .number x => return .number x
    | .text t => return .text t
    | .regex r => return .ofBool (r.find? ⟨false, false⟩ none (← whole)).isSome
    | .kept c => load (← address shell n c)
    | .assign op c e =>
      let a ← address shell n c
      let v ← eval shell n e
      let v ← match op with
        | none => pure v
        | some op => do pure (.number (op.apply (← load a).toFloat v.toFloat))
      store a v
      return v
    | .step early up c =>
      let a ← address shell n c
      let old := (← load a).toFloat
      let new := if up then old + 1 else old - 1
      store a (.number new)
      return .number (if early then new else old)
    | .operate op a b =>
      let x := (← eval shell n a).toFloat
      let y := (← eval shell n b).toFloat
      return .number (op.apply x y)
    | .negate e => return .number (-(← eval shell n e).toFloat)
    | .numeric e => return .number (← eval shell n e).toFloat
    | .not e => return .ofBool !(← eval shell n e).holds
    | .join a b =>
      let t ← text (← eval shell n a)
      let u ← text (← eval shell n b)
      return .text (t ++ u)
    | .compare r a b =>
      let x ← eval shell n a
      let y ← eval shell n b
      return .ofBool (compare (← conversion) r x y)
    | .fits wanted a b =>
      let t ← text (← eval shell n a)
      let r ← regexIn shell n b
      return .ofBool ((r.find? ⟨false, false⟩ none t).isSome == wanted)
    | .both a b =>
      if (← eval shell n a).holds then return .ofBool (← eval shell n b).holds
      else return .ofBool false
    | .either a b =>
      if (← eval shell n a).holds then return .ofBool true
      else return .ofBool (← eval shell n b).holds
    | .choice test yes no =>
      if (← eval shell n test).holds then eval shell n yes else eval shell n no
    | .member es table =>
      let k ← keyOf (← evalAll shell n es)
      let id ← tableOf table
      changeTable id (Table.touch · false k)
      return .ofBool (((← get).tables[id]?).bind fun t => t.find k).isSome
    | .call f args =>
      let slots ← passAll shell n args
      match (← get).functions.lookup f with
      | none => return .unset
      | some g =>
        let saved := (← get).locals
        let extra := List.replicate (g.params.length - slots.length) (Slot.value .unset)
        modify fun m => { m with locals := g.params.zip (slots ++ extra) }
        round
        let v ← tryCatch (do exec shell n g.body; pure Value.unset) fun s =>
          match s with
          | .back v => pure v
          | s => throw s
        modify fun m => { m with locals := saved }
        return v
    | .use name args =>
      match String.ofList name, args with
      | "match", [subject, pattern] =>
        let t ← text (← eval shell n subject)
        matched (← regexIn shell n pattern) t
      | _, _ => useBuiltin shell name (← evalAll shell n args)
    | .substitute every pattern replacement into =>
      let r ← regexIn shell n pattern
      let new ← text (← eval shell n replacement)
      let a ← match into with
        | some c => address shell n c
        | none => pure (.field 0)
      let t ← text (← load a)
      let (t', k) := substituted r every new (t.length + 2) none false t
      if k ≠ 0 then store a (.text t')
      return .number (Float.ofNat k)
    | .split subject table separator =>
      let t ← text (← eval shell n subject)
      let s ← match separator with
        | none => do pure (← get).separator
        | some (.regex r) => pure (.regex r)
        | some e => do separatorOf (← text (← eval shell n e))
      let parts := (s.parts t).map Value.given
      let id ← tableOf table
      changeTable id fun _ => .ofList parts
      return .number (Float.ofNat parts.length)
    | .sizeOf name =>
      match ← slot? name with
      | some (.table id) => sizeOf id
      | some (.undecided id) => sizeOf id
      | _ => return .number (Float.ofNat (← text (← read name)).length)
    | .readLine source into =>
      let line : Except PathFault (Option Text) ←
        match source with
        | .input => do pure (.ok (← record?))
        | .file e => do lineOf shell false (← text (← eval shell n e))
        | .command e => do lineOf shell true (← text (← eval shell n e))
      match line with
      | .error _ => return .number (-1)
      | .ok none => return .number 0
      | .ok (some t) =>
        match into with
        | none => setRecord t
        | some c => store (← address shell n c) (.given t)
        return .number 1

def evalAll (shell : Text → Act Unit) : Nat → List Expr → Run (List Value)
  | 0, _ => fail false "program too complex"
  | n + 1, es => do
    match es with
    | [] => return []
    | e :: es =>
      let v ← eval shell n e
      return v :: (← evalAll shell n es)

/-- what a function of the program gets for expressions -/
def passAll (shell : Text → Act Unit) : Nat → List Expr → Run (List Slot)
  | 0, _ => fail false "program too complex"
  | n + 1, es => do
    match es with
    | [] => return []
    | e :: es =>
      let s ← match e with
        | .kept (.variable name) => pass name
        | e => do pure (.value (← eval shell n e))
      return s :: (← passAll shell n es)

def address (shell : Text → Act Unit) : Nat → Cell → Run Address
  | 0, _ => fail false "program too complex"
  | n + 1, c => do
    match c with
    | .variable name => return .variable name
    | .field e => return .field (← fieldNumber (← eval shell n e))
    | .element table es =>
      let k ← keyOf (← evalAll shell n es)
      return .element (← tableOf table) k

/-- the regular expression that an expression stands for -/
def regexIn (shell : Text → Act Unit) : Nat → Expr → Run Regex
  | 0, _ => fail false "program too complex"
  | n + 1, e => do
    match e with
    | .regex r => return r
    | e => regexOf (← text (← eval shell n e))

def exec (shell : Text → Act Unit) : Nat → Stmt → Run Unit
  | 0, _ => fail false "program too complex"
  | n + 1, s => do
    match s with
    | .expr e => discard (eval shell n e)
    | .print es target =>
      let t ← match es with
        | [] => whole
        | es => do
          let ts ← (← evalAll shell n es).mapM shown
          let between ← match ts with
            | [_] => pure []
            | _ => do text (← plain "OFS")
          pure (List.intercalate between ts)
      let t := t ++ (← text (← plain "ORS"))
      send shell n target t
    | .format es target =>
      let vs ← evalAll shell n es
      let (t, fault) ← formatted "printf" vs
      send shell n target t
      match fault with
      | some what => fail true what
      | none => return
    | .block ss => execAll shell n ss
    | .test e yes no =>
      if (← eval shell n e).holds then exec shell n yes
      else
        match no with
        | some no => exec shell n no
        | none => return
    | .loop e body => rounds shell n (some e) none body
    | .lateLoop body e =>
      if ← inLoop shell n body then rounds shell n (some e) none body
    | .steps first test next body =>
      match first with
      | some e => discard (eval shell n e)
      | none => pure ()
      rounds shell n test next body
    | .each name table body =>
      let id ← tableOf table
      changeTable id Table.order
      let keys := (((← get).tables[id]?).map Table.indices).getD []
      eachOf shell n name keys body
    | .leave => throw .leave
    | .again => throw .again
    | .next => throw .next
    | .nextFile => throw .nextFile
    | .exit e =>
      match e with
      | some e =>
        let k := Awk.whole (← eval shell n e).toFloat
        modify fun m => { m with status := (k % 256).toNat }
      | none => pure ()
      throw .exit
    | .back e =>
      match e with
      | some e => throw (.back (← eval shell n e))
      | none => throw (.back .unset)
    | .delete table es =>
      let id ← tableOf table
      if es.isEmpty then changeTable id fun _ => .empty
      else
        let k ← keyOf (← evalAll shell n es)
        changeTable id (Table.erase · k)

def send (shell : Text → Act Unit) : Nat → Option (Outlet × Expr) → Text → Run Unit
  | 0, _, _ => fail false "program too complex"
  | n + 1, target, t => do
    match target with
    | none => emitPlain t
    | some (o, e) => emit shell o (← text (← eval shell n e)) t

def execAll (shell : Text → Act Unit) : Nat → List Stmt → Run Unit
  | 0, _ => fail false "program too complex"
  | n + 1, ss => do
    match ss with
    | [] => return
    | s :: ss =>
      exec shell n s
      execAll shell n ss

/-- the body of a loop done; `false` if it is the last time -/
def inLoop (shell : Text → Act Unit) : Nat → Stmt → Run Bool
  | 0, _ => fail false "program too complex"
  | n + 1, body => do
    round
    tryCatch (do exec shell n body; pure true) fun s =>
      match s with
      | .again => pure true
      | .leave => pure false
      | s => throw s

def rounds (shell : Text → Act Unit) : Nat → Option Expr → Option Expr → Stmt → Run Unit
  | 0, _, _, _ => fail false "program too complex"
  | n + 1, test, next, body => do
    let goes ← match test with
      | some e => do pure (← eval shell n e).holds
      | none => pure true
    if goes then
      if ← inLoop shell n body then
        match next with
        | some e => discard (eval shell n e)
        | none => pure ()
        rounds shell n test next body

def eachOf (shell : Text → Act Unit) : Nat → Text → List Text → Stmt → Run Unit
  | 0, _, _, _ => fail false "program too complex"
  | n + 1, name, keys, body => do
    match keys with
    | [] => return
    | k :: keys =>
      write name (.text k)
      if ← inLoop shell n body then eachOf shell n name keys body

end

end Run
end Awk
end Shell
end CoroBridge
