import CoroBridge.Shell.Tool.Pass

/-!
# Command language: tools that compare

* `firstDifference`      the place where two texts are no longer the same;
* `cmp`                  whether two files are the same, byte by byte;
* `Merging`, `merge`     the lines of two sorted files in three columns;
* `comm`                 the tool that shows them.
-/

namespace CoroBridge
namespace Shell

/-! ## byte by byte -/

def firstDifference (n : Nat) : Text → Text → Option (Nat × Option Char × Option Char)
  | [], [] => none
  | a :: r, b :: s => if a = b then firstDifference (n + 1) r s else some (n, some a, some b)
  | [], b :: _ => some (n, none, some b)
  | a :: _, [] => some (n, some a, none)

def byteShown (width : Nat) (itself : Bool) (c : Char) : Text :=
  let n := inBase 8 c.toNat
  padLeft width n ++ if itself then ' ' :: visible c else []

/-- all differences of two texts, each with its place, on lines of their own -/
def differences (width : Nat) (itself : Bool) (n : Nat) : Text → Text → Text
  | a :: r, b :: s =>
    let more := differences width itself (n + 1) r s
    if a = b then more
    else
      let first := byteShown 3 itself a
      let gap := if itself then List.replicate (4 - (visible a).length) ' ' else []
      padLeft width (Text.ofNat (n + 1)) ++ ' ' :: first ++ gap ++ ' ' :: byteShown 3 itself b
        ++ '\n' :: more
  | _, _ => []

def cmpOptions : OptionTable :=
  .of "bls" "in" [("print-bytes", 'b'), ("verbose", 'l'), ("quiet", 's'), ("silent", 's'),
    ("bytes", 'n'), ("ignore-initial", 'i')]

/-- what comes of two texts that are compared -/
def Call.compared (c : Call) (o : Options) (a b : Text × Text) (limited : Bool) : Effect :=
  match firstDifference 0 a.2 b.2 with
  | none => silent 0
  | some (n, x, y) =>
    let line := ((a.2.take n).filter (· == '\n')).length + 1
    let all := fun (last : Nat) => differences (Text.ofNat last).length (o.has 'b') 0 a.2 b.2
    let ended := fun (t : Text × Text) =>
      let size := t.2.length
      let lines := (t.2.filter (· == '\n')).length
      let what : Text :=
        if size = 0 then "which is empty"
        else if o.has 'l' then "after byte " ++ Text.ofNat size
        else if t.2.getLast? = some '\n' then
          "after byte " ++ Text.ofNat size ++ ", line " ++ Text.ofNat lines
        else "after byte " ++ Text.ofNat size ++ ", in line " ++ Text.ofNat (lines + 1)
      [(Stream.complaint, c.complaint ("EOF on " ++ t.1 ++ ' ' :: what))]
    let shorter := if a.2.length < b.2.length then a else b
    if o.has 's' then silent 1
    else if o.has 'l' then
      let last := max a.2.length b.2.length
      ⟨none, (.output, all (if limited then min last shorter.2.length else last))
        :: (if a.2.length = b.2.length then [] else ended shorter), [], 1⟩
    else
      match x, y with
      | some x, some y =>
        let bytes : Text :=
          if o.has 'b' then " is " ++ byteShown 3 true x ++ ' ' :: byteShown 3 true y else []
        let unit : Text := if o.has 'b' then "byte " else "char "
        writing (a.1 ++ ' ' :: b.1 ++ " differ: " ++ unit ++ Text.ofNat (n + 1) ++ ", line "
          ++ Text.ofNat line ++ bytes ++ ['\n']) |> fun e => { e with status := 1 }
      | _, _ => ⟨none, ended shorter, [], 1⟩

def cmp : Tool := fun c =>
  let misused := fun (what : Text) =>
    (⟨none, [(.complaint, c.complaint what
      ++ c.complaint ("Try '" ++ c.name ++ " --help' for more information."))], [], 2⟩ : Effect)
  match cmpOptions.read none c.args with
  | .error f => misused f.message
  | .ok o =>
    if o.has helpLetter || o.has versionLetter then silent 0
    else
      match o.operands with
      | [] => misused ("missing operand after " ++ singleQuoted c.name)
      | first :: rest =>
        let second := rest.headD ['-']
        let skips := (((o.value? 'i').getD []).splitOn ':').map fun n => (size? n).getD 0
        let most := (o.value? 'n').bind size?
        let cut := fun (skip : Nat) (t : Text) =>
          let t := t.drop skip
          (most.map t.take).getD t
        if first = second then silent 0
        else
          let found := c.readAll false [first, second]
          let complaints := found.filterMap fun x =>
            match x.2 with
            | .error f => some (Stream.complaint, c.complaint (x.1 ++ ": " ++ f.reason.message))
            | .ok _ => none
          let texts := found.filterMap fun x => x.2.toOption
          let left := leftBy [first, second]
          match texts with
          | [a, b] =>
            { c.compared o (first, cut (skips.headD 0) a)
                (second, cut (skips.getLast?.getD 0) b) most.isSome with left := left }
          | _ => ⟨left, if o.has 's' then [] else complaints.take 1, [], 2⟩

/-! ## line by line -/

structure Merging where
  shown : Nat → Bool
  delimiter : Text
  ending : Char
  checks : Bool
  strict : Bool

/-- a line in a column; the first two columns hold the lines of either file, the third those of
both -/
def Merging.line (k : Merging) (column : Nat) (t : Text) : Text :=
  if !k.shown column then []
  else
    let before := (List.range column).filter fun i => i ≠ 0 ∧ k.shown i
    before.flatMap (fun _ => k.delimiter) ++ t ++ [k.ending]

/-- what was seen while two files are merged: whether some line is in one file only, which files
were found out of order, and the number of lines in each column -/
structure MergeState where
  unpaired : Bool
  disordered : List Nat
  counts : Nat × Nat × Nat

def merge (c : Call) (k : Merging) : Nat → MergeState → List Text → List Text →
    List (Stream × Text) × MergeState × Bool
  | 0, s, _, _ => ([], s, true)
  | fuel + 1, s, a, b =>
    let checked := fun (s : MergeState) (file : Nat) (ls : List Text) =>
      match ls with
      | x :: y :: _ =>
        if k.checks ∧ (k.strict ∨ s.unpaired) ∧ !s.disordered.contains file ∧ y < x then
          let what : Text := "file " ++ Text.ofNat file ++ " is not in sorted order"
          ([(Stream.complaint, c.complaint what)],
            { s with disordered := file :: s.disordered })
        else ([], s)
      | _ => ([], s)
    let go := fun (out : Text) (s : MergeState) (first second : Bool) =>
      let (w1, s) := if first then checked s 1 a else ([], s)
      if k.strict ∧ w1 ≠ [] then ((.output, out) :: w1, s, false)
      else
        let (w2, s) := if second then checked s 2 b else ([], s)
        if k.strict ∧ w2 ≠ [] then ((.output, out) :: w2, s, false)
        else
          let (w, s, ok) := merge c k fuel s (if first then a.drop 1 else a)
            (if second then b.drop 1 else b)
          ((.output, out) :: (w1 ++ w2 ++ w), s, ok)
    let only := { s with unpaired := true }
    let (n1, n2, n3) := s.counts
    match a, b with
    | [], [] => ([], s, true)
    | x :: _, [] => go (k.line 1 x) { only with counts := (n1 + 1, n2, n3) } true false
    | [], y :: _ => go (k.line 2 y) { only with counts := (n1, n2 + 1, n3) } false true
    | x :: _, y :: _ =>
      if x = y then go (k.line 3 x) { s with counts := (n1, n2, n3 + 1) } true true
      else if x < y then go (k.line 1 x) { only with counts := (n1 + 1, n2, n3) } true false
      else go (k.line 2 y) { only with counts := (n1, n2 + 1, n3) } false true

def commOptions : OptionTable :=
  .of "123zonT" "d" [("zero-terminated", 'z'), ("check-order", 'o'), ("nocheck-order", 'n'),
    ("output-delimiter", 'd'), ("total", 'T')]

def comm : Tool := fun c =>
  c.withOptions commOptions 1 fun o =>
    match o.operands with
    | [] => c.misused 1 "missing operand"
    | [p] => c.misused 1 ("missing operand after " ++ quoted p)
    | _ :: _ :: extra :: _ => c.misused 1 ("extra operand " ++ quoted extra)
    | [p, q] =>
      let ending := if o.has 'z' then '\x00' else '\n'
      let delimiter := match o.value? 'd' with
        | some [] => ['\x00']
        | some t => t
        | none => ['\t']
      let k : Merging :=
        { shown := fun n => !o.has (Char.ofNat ('0'.toNat + n)), delimiter := delimiter
          ending := ending, checks := !o.has 'n', strict := o.has 'o' }
      let found := c.readAll false [p, q]
      let failed := found.findSome? fun x =>
        match x.2 with
        | .error f => some (x.1, f)
        | .ok _ => none
      match failed with
      | some (path, f) => { c.fail 1 (shownName path ++ ": " ++ f.reason.message) with
          left := leftBy [p, q] }
      | none =>
        let lines := found.map fun x => recordsOf ending (x.2.toOption.getD [])
        let a := lines.headD []
        let b := (lines.drop 1).headD []
        let (w, s, ok) := merge c k (a.length + b.length + 1) ⟨false, [], (0, 0, 0)⟩ a b
        if !ok then ⟨leftBy [p, q], w, [], 1⟩
        else
          let (n1, n2, n3) := s.counts
          let total :=
            if o.has 'T' then
              let ns := [n1, n2, n3].flatMap fun n => Text.ofNat n ++ delimiter
              [(Stream.output, ns ++ "total" ++ [ending])]
            else []
          let last :=
            if s.disordered = [] then []
            else [(Stream.complaint, c.complaint "input is not in sorted order")]
          ⟨leftBy [p, q], w ++ total ++ last, [], if s.disordered = [] then 0 else 1⟩

end Shell
end CoroBridge
