import CoroBridge.Shell.Tool.Options

/-!
# Command language: first and last pieces

The tools that keep the first or the last lines or bytes of what they read.

* `Amount`          how many pieces are meant, and from which end they are counted;
* `titled`          texts, each under the name of its file;
* `head`, `tail`    the tools.
-/

namespace CoroBridge
namespace Shell

structure Amount where
  bytes : Bool
  turned : Bool
  count : Nat
  deriving DecidableEq, Repr

def Amount.pieces (a : Amount) (ending : Char) (t : Text) : List Text :=
  if a.bytes then t.map ([·]) else piecesOf ending t

def Amount.noun (bytes : Bool) : Text :=
  if bytes then "number of bytes" else "number of lines"

def titleOf (path : Text) : Text := if path = ['-'] then "standard input" else path

def endsManner (closed : Text) : Manner where
  opening p f := "cannot open " ++ shownAlways p ++ " for reading: " ++ f.message
  reading p f :=
    (if f = .noDescriptor then closed else "error reading") ++ ' ' :: shownAlways (titleOf p)
      ++ ": " ++ f.message
  closing := "-: Bad file descriptor"

def Call.titled (c : Call) (m : Manner) (named first : Bool) (select : Text → Text) :
    List (Text × Except ReadFault Text) → List (Stream × Text)
  | [] => []
  | (p, x) :: fs =>
    let front : Text := if first then [] else ['\n']
    let title : Text := if named then front ++ "==> " ++ titleOf p ++ " <==\n" else []
    match x with
    | .ok t => (.output, title ++ select t) :: c.titled m named false select fs
    | .error f =>
      let what := (Stream.complaint, c.faultOf m p f)
      if f.opened then (.output, title) :: what :: c.titled m named false select fs
      else what :: c.titled m named first select fs

def Call.keep (c : Call) (o : Options) (m : Manner) (select : Text → Text) : Effect :=
  let paths := pathsOf o.operands
  let named := match o.last? "qv" with
    | some 'q' => false
    | some _ => true
    | none => paths.length > 1
  let found := c.readAll false paths
  let closing := if c.inputClosed && paths.contains ['-'] then c.complaint m.closing else []
  ⟨leftBy paths, c.titled m named true select found ++ [(.complaint, closing)], [],
    if found.all fun x => x.2.isOk then 0 else 1⟩

/-! ## head -/

def headOptions : OptionTable :=
  .of "qvz0123456789" "cn" [("bytes", 'c'), ("lines", 'n'), ("quiet", 'q'), ("silent", 'q'),
    ("verbose", 'v'), ("zero-terminated", 'z')]

/-- the options that letters after a number stand for, and the unit among them -/
def trailing (bytes : Bool) (unit : Text) : Text → Except Char (Bool × Text × Text)
  | [] => .ok (bytes, unit, [])
  | c :: r =>
    match c with
    | 'c' => trailing true [] r
    | 'l' => trailing false unit r
    | _ =>
      if c = 'b' ∨ c = 'k' ∨ c = 'm' then trailing true [c] r
      else if c = 'q' ∨ c = 'v' ∨ c = 'z' then
        (trailing bytes unit r).map fun p => (p.1, p.2.1, c :: p.2.2)
      else .error c

/-- the arguments of `head` with a number that is written like an option spelled out -/
def spelledOut : List Text → Except Char (List Text)
  | ('-' :: d :: t) :: as =>
    if d.isDigit then do
      let digits := d :: t.takeWhile Char.isDigit
      let (bytes, unit, letters) ← trailing false [] (t.drop (digits.length - 1))
      .ok (letters.map (fun c => ['-', c])
        ++ ['-', if bytes then 'c' else 'n'] :: (digits ++ unit) :: as)
    else .ok (('-' :: d :: t) :: as)
  | as => .ok as

/-- the amount that an option of `head` names; ten lines without one -/
def headAmount (o : Options) : Except Text Amount :=
  match o.given.reverse.find? fun g => g.1 = 'n' ∨ g.1 = 'c' with
  | none => .ok ⟨false, false, 10⟩
  | some (k, v) => do
    let v := v.getD []
    let turned := v.head? = some '-'
    let n ← sizeOf (Amount.noun (k == 'c')) (if turned then v.drop 1 else v)
    .ok ⟨k == 'c', turned, n⟩

def head : Tool := fun c =>
  match spelledOut c.args with
  | .error d => c.misused 1 ("invalid trailing option -- " ++ [d])
  | .ok args =>
    { c with args := args }.withOptions headOptions 1 fun o =>
      match o.given.find? fun (g : Char × Option Text) => g.1.isDigit with
      | some (d, _) => c.misused 1 ("invalid trailing option -- " ++ [d])
      | none =>
        match headAmount o with
        | .error what => c.fail 1 what
        | .ok a =>
          let ending := if o.has 'z' then '\x00' else '\n'
          let select := fun (t : Text) =>
            let ps := a.pieces ending t
            (ps.take (if a.turned then ps.length - a.count else a.count)).flatten
          let e := c.keep o (endsManner "error reading") select
          if c.fromFile ∧ !a.turned ∧ pathsOf o.operands = [['-']] then
            let t := c.input.getD []
            { e with left := some (t.drop (select t).length) }
          else e

def headPace (c : Call) : Pace :=
  match (spelledOut c.args).map fun args => headOptions.read none args with
  | .ok (.ok o) =>
    match headAmount o with
    | .ok a =>
      if a.turned ∨ pathsOf o.operands ≠ [['-']] then Pace.whole
      else if a.bytes then
        { Pace.lines with enough := fun t => a.count ≤ t.length, block := min a.count 8192 }
      else
        let ending := if o.has 'z' then '\x00' else '\n'
        { Pace.lines with enough := fun t => a.count ≤ t.count ending, block := 8192 }
    | .error _ => Pace.whole
  | _ => Pace.whole

/-! ## tail -/

def tailOptions : OptionTable :=
  { OptionTable.of "fFqvz0123456789" "cns" [("bytes", 'c'), ("follow", 'f'), ("lines", 'n'),
      ("max-unchanged-stats", 's'), ("pid", 's'), ("quiet", 'q'), ("retry", 'F'), ("silent", 'q'),
      ("sleep-interval", 's'), ("verbose", 'v'), ("zero-terminated", 'z')]
    with perhaps := ['f'] }

/-- the amount that `tail` is given in front of its only operand, by a sign, digits and a letter -/
def tailShort? : List Text → Option (Amount × List Text)
  | (s :: t) :: rest =>
    let few : Bool := match rest with
      | [] => true
      | [a] => a == ['-'] || a.head? != some '-' || a == "--".toList
      | [a, _] => a == "--".toList
      | _ => false
    let alone := t == [] || t == ['c']
    if few && (s == '+' || (s == '-' && !alone)) then
      let digits := t.takeWhile Char.isDigit
      let (bytes, unit, r) := match t.drop digits.length with
        | 'b' :: r => (true, 512, r)
        | 'c' :: r => (true, 1, r)
        | 'l' :: r => (false, 1, r)
        | r => (false, 1, r)
      let r := if r.head? = some 'f' then r.drop 1 else r
      if r = [] then some (⟨bytes, s == '+', (number? digits).getD 10 * unit⟩, rest) else none
    else none
  | _ => none

/-- the amount that an option of `tail` names; ten lines without one -/
def tailAmount (o : Options) : Except Text Amount :=
  match o.given.reverse.find? fun g => g.1 = 'n' ∨ g.1 = 'c' with
  | none => .ok ⟨false, false, 10⟩
  | some (k, v) => do
    let v := v.getD []
    let n ← sizeOf (Amount.noun (k == 'c')) (if v.head? = some '-' then v.drop 1 else v)
    .ok ⟨k == 'c', v.head? == some '+', n⟩

def tail : Tool := fun c =>
  let (short, args) := match tailShort? c.args with
    | some (a, args) => (some a, args)
    | none => (none, c.args)
  { c with args := args }.withOptions tailOptions 1 fun o =>
    match o.given.find? fun (g : Char × Option Text) => g.1.isDigit with
    | some (d, _) => c.misused 1 ("option used in invalid context -- " ++ [d])
    | none =>
      match tailAmount o with
      | .error what => c.fail 1 what
      | .ok a =>
        let a := short.getD a
        let ending := if o.has 'z' then '\x00' else '\n'
        c.keep o (endsManner "cannot fstat") fun t =>
          let ps := a.pieces ending t
          (if a.turned then ps.drop (a.count - 1) else ps.drop (ps.length - a.count)).flatten

end Shell
end CoroBridge
