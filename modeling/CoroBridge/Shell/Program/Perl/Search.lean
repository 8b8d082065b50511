import CoroBridge.Shell.Program.Perl.Meaning

/-!
# Command language: the language of `perl`, searching

Texts in which something is found, replaced, exchanged or cut.

* `Perl.Run.matchScalar`, `Perl.Run.matchList`   what matches of a text there are;
* `Perl.Run.substitute`        matches replaced;
* `Perl.Run.exchange`          characters exchanged;
* `Perl.Run.split`             a text cut into parts.
-/

namespace CoroBridge
namespace Shell
namespace Perl

/-- an exchange of the characters of a text: how many were found, and the text afterwards -/
def exchangedText (from_ dest : Text) (k : ExchangeFlags) (t : Text) : Nat × Text :=
  let dest := if dest = [] ∧ !k.delete then (if k.complement then [] else from_) else dest
  let place := fun (c : Char) =>
    if k.complement then (if from_.contains c then none else some from_.length)
    else from_.idxOf? c
  let step := fun (s : Nat × Text × Option Char) (c : Char) =>
    let (n, done, last) := s
    match place c with
    | none => (n, c :: done, none)
    | some i =>
      match (if k.complement ∧ dest = [] ∧ !k.delete then some c else dest[i]? <|>
          (if k.delete then none else dest.getLast?)) with
      | none => (n + 1, done, last)
      | some d =>
        if k.squeeze ∧ last = some d then (n + 1, done, last) else (n + 1, d :: done, some d)
  let (n, done, _) := t.foldl step (0, [], none)
  (n, done.reverse)

namespace Run

def keep (p : Trial.Parsed) (t : Text) (m : Trial.Match) : Run Unit :=
  modify fun s => { s with found := some (m, p), subject := t }

def searched (k : Meaning) (pattern : Expr) (n : Trial.Notation) : Run Trial.Parsed := do
  patternOf (patternText (← k.scalar pattern)) n

def subjectOf (subject : Option Expr) : Expr := subject.getD Parse.topic

def groupValues (p : Trial.Parsed) (m : Trial.Match) : List Value :=
  (List.range p.groups).map fun i =>
    match m.group? (i + 1) with
    | some t => .text t
    | none => .absent

def matchScalar (k : Meaning) (subject : Option Expr) (pattern : Expr) (f : MatchFlags) :
    Run Bool := do
  let c ← k.place (subjectOf subject)
  let t := (← load c).toText
  let p ← searched k pattern f.notation_
  if !f.every then
    match p.find? none t 0 with
    | some m =>
      keep p t m
      return true
    | none => return false
  else
    let (begin_, empty) := ((← seen (·.positions)).lookup c).getD (0, false)
    let found :=
      if t.length < begin_ then none
      else p.find? (if empty then some begin_ else none) t begin_
    match found with
    | some m =>
      keep p t m
      modify fun s => { s with
        positions := (c, m.last, m.first == m.last) :: s.positions.filter (·.1 != c) }
      return true
    | none =>
      if !f.continued then
        modify fun s => { s with positions := s.positions.filter (·.1 != c) }
      return false

def matchList (k : Meaning) (subject : Option Expr) (pattern : Expr) (f : MatchFlags) :
    Run (List Value) := do
  let c ← k.place (subjectOf subject)
  let t := (← load c).toText
  let p ← searched k pattern f.notation_
  if !f.every then
    match p.find? none t 0 with
    | some m =>
      keep p t m
      return if p.groups = 0 then [.whole 1] else groupValues p m
    | none => return []
  else
    let begin_ := (((← seen (·.positions)).lookup c).map Prod.fst).getD 0
    let ms := p.allFrom (2 * t.length + 2) none (Trial.spotAt t begin_)
    modify fun s => { s with positions := s.positions.filter (·.1 != c) }
    match ms.getLast? with
    | some m => keep p t m
    | none => pure ()
    return ms.flatMap fun m => if p.groups = 0 then [.text m.text] else groupValues p m

/-- matches replaced: the pieces of the new text, the last one first, after those that were made -/
def replaceAll (p : Trial.Parsed) (t : Text) (new : Run Text) :
    List Trial.Match → Nat → List Text → Run (List Text)
  | [], from_, done => return t.drop from_ :: done
  | m :: ms, from_, done => do
    keep p t m
    let u ← new
    replaceAll p t new ms m.last (u :: (t.drop from_).take (m.first - from_) :: done)

def substitute (k : Meaning) (subject : Option Expr) (pattern replacement : Expr)
    (f : MatchFlags) : Run Value := do
  let c ← k.place (subjectOf subject)
  let t := (← load c).toText
  let p ← searched k pattern f.notation_
  let ms := if f.every then p.all t else (p.find? none t 0).toList
  if ms.isEmpty then return if f.fresh then .text t else .text []
  else
    let pieces ← replaceAll p t (do textOf (← k.scalar replacement)) ms 0 []
    let new := pieces.reverse.flatten
    if f.fresh then return .text new
    else
      store c (.text new)
      return .count ms.length

def exchange (k : Meaning) (subject : Option Expr) (from_ dest : Text) (f : ExchangeFlags) :
    Run Value := do
  let c ← k.place (subjectOf subject)
  let t := (← load c).toText
  let (n, u) := exchangedText from_ dest f t
  if f.fresh then return .text u
  else
    if u ≠ t then store c (.text u)
    return .count n

/-! ## splitting -/

/-- the parts of a text between matches, with what the groups of these have matched; at most so many
parts, if there is such a number -/
def partsOf (p : Trial.Parsed) (t : Text) (most : Option Nat) :
    List Trial.Match → Nat → Nat → List Value
  | [], _, from_ => [.text (t.drop from_)]
  | m :: ms, count, from_ =>
    if most.any (· ≤ count + 1) then [.text (t.drop from_)]
    else if m.first = m.last ∧ (m.first = 0 ∨ m.first = t.length) then
      partsOf p t most ms count from_
    else
      .text ((t.drop from_).take (m.first - from_)) :: groupValues p m
        ++ partsOf p t most ms (count + 1) m.last

def withoutEmptyEnd (vs : List Value) : List Value :=
  (vs.reverse.dropWhile fun v => v.toText == []).reverse

def splitBy (p : Trial.Parsed) (blanks : Bool) (t : Text) (limit : Int) : List Value :=
  let t := if blanks then t.dropWhile isSpace else t
  if t = [] then []
  else
    let vs := partsOf p t (if 0 < limit then some limit.toNat else none) (p.all t) 0 0
    if limit = 0 then withoutEmptyEnd vs else vs

def split (k : Meaning) (args : List Expr) : Run (List Value) := do
  let t ← match args[1]? with
    | some e => do textOf (← k.scalar e)
    | none => do textOf (← k.scalar Parse.topic)
  let limit ← match args[2]? with
    | some e => do pure (← k.scalar e).toWhole
    | none => pure 0
  let blanks : Run (List Value) := do
    return splitBy (← patternOf "\\s+" .plain) true t limit
  match args.head? with
  | none => blanks
  | some (.match_ none _ pattern f) =>
    let w := patternText (← k.scalar pattern)
    let n := if w = ['^'] then { f.notation_ with manyLines := true } else f.notation_
    return splitBy (← patternOf w n) false t limit
  | some e =>
    let w := patternText (← k.scalar e)
    if w = [' '] then blanks else return splitBy (← patternOf w .plain) false t limit

end Run
end Perl
end Shell
end CoroBridge
