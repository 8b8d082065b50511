import CoroBridge.Shell.Tool.Options

/-!
# Command language: joined lines

The tool `join` puts the lines of two sorted files together that have the same text in a field.

* `Join.Style`        what is asked for;
* `Join.Row`          a line and its fields;
* `Join.joined`       the lines that two files make up;
* `join`              the tool.
-/

namespace CoroBridge
namespace Shell
namespace Join

structure Row where
  number : Nat
  line : Text
  fields : List Text
  deriving DecidableEq, Repr

structure Style where
  separator : Option Char
  folds : Bool
  first : Nat
  second : Nat
  single : List Nat
  pairs : Bool
  empty : Text
  shown : Option (List (Nat × Nat))
  checks : Bool
  ending : Char

def fieldsOf (k : Style) (l : Text) : List Text :=
  match k.separator with
  | some '\n' => [l]
  | some c => l.splitOn c
  | none => (l.splitOnP fun c => isBlank c || c == '\n').filter (· ≠ [])

def rowsOf (k : Style) (t : Text) : List Row :=
  (recordsOf k.ending t).zipIdx.map fun l => ⟨l.2 + 1, l.1, fieldsOf k l.1⟩

def Row.key (r : Row) (field : Nat) : Text := (r.fields[field - 1]?).getD []

def compareKeys (k : Style) (a b : Text) : Ordering :=
  let fold := fun (t : Text) => if k.folds then t.map Char.toUpper else t
  compare (fold a) (fold b)

/-- the text of a row or of two, of which one may be missing -/
def shown (k : Style) (a b : Option Row) : Text :=
  let separator := k.separator.getD ' '
  let separator := if separator = '\n' then ' ' else separator
  let filled := fun (t : Option Text) =>
    match t with
    | some t => if t = [] then k.empty else t
    | none => k.empty
  let key := match a, b with
    | some r, _ => r.fields[k.first - 1]?
    | none, some r => r.fields[k.second - 1]?
    | none, none => none
  let others := fun (r : Option Row) (field : Nat) =>
    match r with
    | some r => ((r.fields.zipIdx 1).filter (·.2 ≠ field)).map fun f => filled (some f.1)
    | none => []
  let parts := match k.shown with
    | some fs => fs.map fun (f : Nat × Nat) =>
        match f.1 with
        | 0 => filled key
        | 1 => filled (a.bind fun r => r.fields[f.2 - 1]?)
        | _ => filled (b.bind fun r => r.fields[f.2 - 1]?)
    | none => filled key :: others a k.first ++ others b k.second
  List.intercalate [separator] parts ++ [k.ending]

def joined (k : Style) : Nat → List Row → List Row → Text
  | 0, _, _ => []
  | n + 1, as, bs =>
    let singleA := fun (r : Row) => if k.single.contains 1 then shown k (some r) none else []
    let singleB := fun (r : Row) => if k.single.contains 2 then shown k none (some r) else []
    match as, bs with
    | [], bs => bs.flatMap singleB
    | as, [] => as.flatMap singleA
    | a :: as', b :: bs' =>
      match compareKeys k (a.key k.first) (b.key k.second) with
      | .lt => singleA a ++ joined k n as' bs
      | .gt => singleB b ++ joined k n as bs'
      | .eq =>
        let sameA := as.takeWhile fun r =>
          compareKeys k (r.key k.first) (a.key k.first) == .eq
        let sameB := bs.takeWhile fun r =>
          compareKeys k (r.key k.second) (b.key k.second) == .eq
        let pairs := if k.pairs then
            sameA.flatMap fun r => sameB.flatMap fun q => shown k (some r) (some q)
          else []
        pairs ++ joined k n (as.drop sameA.length) (bs.drop sameB.length)

def unsorted? (k : Style) (field : Nat) : List Row → Option Row
  | a :: b :: rs =>
    if compareKeys k (a.key field) (b.key field) == .gt then some b
    else unsorted? k field (b :: rs)
  | _ => none

def fieldList? (t : Text) : Option (List (Nat × Nat)) :=
  ((t.splitOnP fun c => c == ',' || isBlank c).filter (· ≠ [])).mapM fun f =>
    match f with
    | ['0'] => some (0, 0)
    | '1' :: '.' :: d => (number? d).bind fun n => if n = 0 then none else some (1, n)
    | '2' :: '.' :: d => (number? d).bind fun n => if n = 0 then none else some (2, n)
    | _ => none

def options : OptionTable :=
  { OptionTable.of "iz" "aejotv12" [("ignore-case", 'i'), ("check-order", 'C'),
      ("nocheck-order", 'N'), ("zero-terminated", 'z'), ("header", 'H')]
    with perhaps := [] }

def styleOf (c : Call) (o : Options) : Except Effect Style := do
  let field := fun (v : Text) =>
    match number? v with
    | some n => if n = 0 then Except.error (c.fail 1 ("invalid field number: " ++ quoted v))
        else .ok n
    | none => .error (c.fail 1 ("invalid field number: " ++ quoted v))
  let both ← (o.value? 'j').mapM field
  let first ← (o.value? '1').mapM field
  let second ← (o.value? '2').mapM field
  for v in o.values 'a' ++ o.values 'v' do
    if v ≠ ['1'] ∧ v ≠ ['2'] then throw (c.fail 1 ("invalid file number: " ++ quoted v))
  let separator ← match o.value? 't' with
    | none => pure none
    | some [] => pure (some '\n')
    | some [x] => pure (some x)
    | some ['\\', '0'] => pure (some '\x00')
    | some v => throw (c.fail 1 ("multi-character tab " ++ quoted v))
  let shown ← match o.value? 'o' with
    | none => pure none
    | some v =>
      if v = "auto".toList then pure none
      else
        match fieldList? v with
        | some fs => pure (some fs)
        | none => throw (c.fail 1 ("invalid field specifier: " ++ quoted v))
  let numbers := fun (x : Char) => (o.values x).map digitsValue
  .ok {
    separator := separator, folds := o.has 'i', first := (first <|> both).getD 1
    second := (second <|> both).getD 1, single := numbers 'a' ++ numbers 'v'
    pairs := !o.has 'v', empty := (o.value? 'e').getD [], shown := shown
    checks := !o.has 'N', ending := if o.has 'z' then '\x00' else '\n' }

end Join

def join : Tool := fun c =>
  c.withOptions Join.options 1 fun o =>
    match Join.styleOf c o with
    | .error e => e
    | .ok k =>
      match o.operands with
      | [] => c.misused 1 "missing operand"
      | [p] => c.misused 1 ("missing operand after " ++ quoted p)
      | _ :: _ :: r :: _ => c.misused 1 ("extra operand " ++ quoted r)
      | [p, q] =>
        if p = ['-'] ∧ q = ['-'] then c.fail 1 "both files cannot be standard input"
        else
          match c.read p, c.read q with
          | .error f, _ => c.fail 1 (shownName p ++ ": " ++ f.reason.message)
          | _, .error f => c.fail 1 (shownName q ++ ": " ++ f.reason.message)
          | .ok t, .ok u =>
            let as := Join.rowsOf k t
            let bs := Join.rowsOf k u
            let (heads, as, bs) := if o.has 'H' then
                (Join.shown { k with shown := k.shown } as.head? bs.head?, as.drop 1, bs.drop 1)
              else ([], as, bs)
            let out := Join.joined k (as.length + bs.length + 1) as bs
            let alone := fun (rs qs : List Join.Row) (f g : Nat) => rs.any fun r =>
              qs.all fun q => Join.compareKeys k (r.key f) (q.key g) != .eq
            let single := alone as bs k.first k.second || alone bs as k.second k.first
            let bad := if k.checks && single then
                [(p, Join.unsorted? k k.first as), (q, Join.unsorted? k k.second bs)]
              else []
            let told := bad.filterMap fun (x : Text × Option Join.Row) =>
              x.2.map fun r => c.complaint (shownName x.1 ++ ':' :: Text.ofNat r.number
                ++ ": is not sorted: " ++ r.line)
            let told := if told = [] then [] else told ++ [c.complaint "input is not in sorted order"]
            ⟨leftBy [p, q], (.output, heads ++ out) :: told.map fun t => (.complaint, t), [],
              if told = [] then 0 else 1⟩

end Shell
end CoroBridge
