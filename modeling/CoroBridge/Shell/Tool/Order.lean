import CoroBridge.Shell.Tool.Count
import CoroBridge.Shell.Tool.Rank

/-!
# Command language: ordering

The tools that put lines in order, and that put neighbouring lines together.

* `Kind`, `Key`     a part of lines, and how lines are ordered by it;
* `SortFault`       the reasons why arguments of `sort` are refused;
* `Sorting`         how lines are ordered;
* `sort`            lines in order, and whether they are;
* `uniq`            neighbouring lines that are alike put together.
-/

namespace CoroBridge
namespace Shell

/-! ## keys -/

abbrev Kind := Text

structure Key where
  field : Nat
  char : Nat
  endField : Option Nat
  endChar : Nat
  startBlanks : Bool
  endBlanks : Bool
  kind : Kind
  deriving DecidableEq, Repr

inductive SortFault where
  | noCount (what at_ : Text)
  | spec (what spec : Text)
  | incompatible (letters : Text)
  | longTab (t : Text)
  | emptyTab
  deriving DecidableEq, Repr

def SortFault.message : SortFault → Text
  | noCount what t => what ++ ": invalid count at start of " ++ quoted t
  | spec what t => what ++ ": invalid field specification " ++ quoted t
  | incompatible ls => "options " ++ singleQuoted ('-' :: ls) ++ " are incompatible"
  | longTab t => "multi-character tab " ++ quoted t
  | emptyTab => "empty tab"

/-- the count in front of a text, and what follows -/
def countIn (what : Text) (t : Text) : Except SortFault (Nat × Text) :=
  let d := t.takeWhile Char.isDigit
  match number? d with
  | some n => .ok (n, t.drop d.length)
  | none => .error (.noCount what t)

def keyFlags : Text := "bdfghiMnRrV"

def Key.of (t : Text) : Except SortFault Key := do
  let (field, r) ← countIn "invalid number at field start" t
  if field = 0 then .error (.spec "field number is zero" t)
  let (char, r) ← match r with
    | '.' :: r => do
      let (n, r) ← countIn "invalid number after '.'" r
      if n = 0 then .error (.spec "character offset is zero" t) else .ok (n - 1, r)
    | _ => .ok (0, r)
  let flags := r.takeWhile keyFlags.contains
  let kind := flags.filter (· != 'b')
  match r.drop flags.length with
  | [] => .ok ⟨field - 1, char, none, 0, flags.contains 'b', false, kind⟩
  | ',' :: r =>
    let (last, r) ← countIn "invalid number after ','" r
    if last = 0 then .error (.spec "field number is zero" t)
    let (endChar, r) ← match r with
      | '.' :: r => countIn "invalid number after '.'" r
      | _ => .ok (0, r)
    let more := r.takeWhile keyFlags.contains
    if more.length < r.length then .error (.spec "stray character in field spec" t)
    else
      .ok ⟨field - 1, char, some (last - 1), endChar, flags.contains 'b', more.contains 'b',
        kind ++ more.filter (· != 'b')⟩
  | _ => .error (.spec "stray character in field spec" t)

/-- what follows some fields of a line; `whole` keeps the separator after the last one -/
def afterFields (tab : Option Char) (whole : Bool) : Nat → Text → Text
  | 0, t => t
  | n + 1, t =>
    match tab with
    | some c =>
      match t.dropWhile (· != c) with
      | [] => []
      | d :: r => if n = 0 ∧ whole then d :: r else afterFields tab whole n r
    | none => afterFields tab whole n ((t.dropWhile isBlank).dropWhile fun c => !isBlank c)

def Key.part (k : Key) (tab : Option Char) (l : Text) : Text :=
  let skip := fun (on : Bool) (t : Text) => if on then t.dropWhile isBlank else t
  let start := (skip k.startBlanks (afterFields tab false k.field l)).drop k.char
  match k.endField with
  | none => start
  | some f =>
    let rest :=
      if k.endChar = 0 then afterFields tab true (f + 1) l
      else (skip k.endBlanks (afterFields tab false f l)).drop k.endChar
    start.take (start.length - rest.length)

def Kind.compare (k : Kind) (a b : Text) : Ordering :=
  let clean := fun (t : Text) =>
    let t :=
      if k.contains 'd' then t.filter fun c => c.isAlphanum || isBlank c
      else if k.contains 'i' then t.filter isPrintable
      else t
    if k.contains 'f' then t.map Char.toUpper else t
  let o :=
    if k.contains 'n' then compareNumbers a b
    else if k.contains 'g' then compareFloats a b
    else if k.contains 'h' then compareSizes a b
    else if k.contains 'M' then compareMonths a b
    else if k.contains 'V' then compareVersions (clean a) (clean b)
    else compareOfLessAndEq (clean a) (clean b)
  if k.contains 'r' then o.swap else o

/-! ## sort -/

structure Sorting where
  keys : List Key
  tab : Option Char
  turned : Bool
  stable : Bool
  unique : Bool

def Sorting.byKeys (s : Sorting) (a b : Text) : Ordering :=
  s.keys.foldl (fun o k => o.then (k.kind.compare (k.part s.tab a) (k.part s.tab b))) .eq

/-- lines by their keys, and then as they are -/
def Sorting.compare (s : Sorting) (a b : Text) : Ordering :=
  let plain := compareOfLessAndEq a b
  let last := if s.turned then plain.swap else plain
  if s.keys = [] then (if s.unique then last else last)
  else (s.byKeys a b).then (if s.stable ∨ s.unique then .eq else last)

/-- the first one of each run of lines that are the same in an order -/
def firstOfEach (same : Text → Text → Bool) : List Text → List Text
  | [] => []
  | l :: ls =>
    (ls.foldl (fun (r : List Text) m =>
      if r.head?.any (same · m) then r else m :: r) [l]).reverse

def sortOptions : OptionTable :=
  { OptionTable.of "bcCdfghiMmnrRsuVzᵈ" "koSTtˢᵃᵖᵇᶠ" [("ignore-leading-blanks", 'b'),
      ("check", 'ᶜ'), ("compress-program", 'ᵃ'), ("debug", 'ᵈ'), ("dictionary-order", 'd'),
      ("ignore-case", 'f'), ("files0-from", 'ᶠ'), ("general-numeric-sort", 'g'),
      ("ignore-nonprinting", 'i'), ("key", 'k'), ("merge", 'm'), ("month-sort", 'M'),
      ("numeric-sort", 'n'), ("human-numeric-sort", 'h'), ("version-sort", 'V'),
      ("random-sort", 'R'), ("random-source", 'ᵇ'), ("sort", 'ˢ'), ("output", 'o'),
      ("reverse", 'r'), ("stable", 's'), ("batch-size", 'ᵃ'), ("buffer-size", 'S'),
      ("field-separator", 't'), ("temporary-directory", 'T'), ("unique", 'u'),
      ("zero-terminated", 'z'), ("parallel", 'ᵖ')]
    with perhaps := ['ᶜ'] }

def sortWords : List (Text × Char) :=
  [("general-numeric", 'g'), ("human-numeric", 'h'), ("month", 'M'), ("numeric", 'n'),
    ("random", 'R'), ("version", 'V')]

def rivals (k : Kind) : Text :=
  let both := if k.contains 'd' then k.filter (· != 'i') else k
  "dghiMnRV".toList.filter both.contains

/-- whether the letters of a kind go with one another -/
def Kind.agrees (k : Kind) : Bool :=
  let alone := (rivals k).filter "ghMn".toList.contains
  let others := (rivals k).filter "diRV".toList.contains
  alone.length + min 1 others.length ≤ 1

def Sorting.of (o : Options) : Except SortFault Sorting := do
  let words := (o.values 'ˢ').filterMap fun v => choice? (sortWords.map Prod.fst) v
  let global : Kind :=
    ((o.given.map Prod.fst).filter fun c => keyFlags.contains c ∧ c ≠ 'b')
      ++ words.filterMap fun w => sortWords.lookup w
  let given ← (o.values 'k').mapM Key.of
  let keys := given.map fun k =>
    if k.kind = [] ∧ !k.startBlanks ∧ !k.endBlanks then
      { k with kind := global, startBlanks := o.has 'b', endBlanks := o.has 'b' }
    else k
  let keys :=
    if keys = [] ∧ (o.has 'b' ∨ global.any (· != 'r')) then
      [⟨0, 0, none, 0, o.has 'b', o.has 'b', global⟩]
    else keys
  let tab ← match o.value? 't' with
    | none => Except.ok none
    | some [] => .error .emptyTab
    | some [c] => .ok (some c)
    | some ['\\', '0'] => .ok (some '\x00')
    | some t => .error (.longTab t)
  match keys.find? fun k => !k.kind.agrees with
  | some k => .error (.incompatible (rivals k.kind))
  | none => return ⟨keys, tab, global.contains 'r', o.has 's', o.has 'u'⟩

def merged (s : Sorting) (a b : List Text) : List Text :=
  List.merge a b fun x y => (s.compare x y).isLE

/-- the first line that is out of order, with its number -/
def firstDisorder (s : Sorting) : Nat → List Text → Option (Nat × Text)
  | n, a :: b :: ls =>
    let o := s.compare a b
    if o = .gt ∨ (s.unique ∧ o = .eq) then some (n + 1, b) else firstDisorder s (n + 1) (b :: ls)
  | _, _ => none

def checkWords : List Text := ["quiet", "silent", "diagnose-first"].map String.toList

def sortManner : Manner where
  opening p f := "cannot read: " ++ shownName p ++ ": " ++ f.message
  reading p f := (if f = .noDescriptor then "stat failed" else "read failed") ++ ": " ++ shownName p
    ++ ": " ++ f.message
  closing := []

def Sorting.sorted (s : Sorting) (merges : Bool) (texts : List (List Text)) : List Text :=
  let ls :=
    if merges then texts.foldl (merged s) []
    else texts.flatten.mergeSort fun a b => (s.compare a b).isLE
  if s.unique then firstOfEach (fun a b => s.compare a b == .eq) ls else ls

def sort : Tool := fun c =>
  c.withOptions sortOptions 2 fun o =>
    let checks := o.has 'c' || o.has 'C' || o.has 'ᶜ'
    let how := (o.values 'ᶜ').getLast?
    let silent_ := o.has 'C' || how.any fun h => h.head?.any fun c => c == 'q' || c == 's'
    match how.bind fun h => if (checkWords.any h.isPrefixOf) then none else some h with
    | some h =>
      ⟨none, [(.complaint, c.complaint ("invalid argument " ++ quoted h ++ " for '--check'")
        ++ "Valid arguments are:\n  - 'quiet', 'silent'\n  - 'diagnose-first'\n" ++ c.hint)], [], 2⟩
    | none =>
      match (o.values 'ˢ').find? fun v => (choice? (sortWords.map Prod.fst) v).isNone with
      | some v => { c.noChoice "--sort" v (sortWords.map Prod.fst) with status := 2 }
      | none =>
        match Sorting.of o with
        | .error f => c.fail 2 f.message
        | .ok s =>
          let paths := pathsOf o.operands
          let refused := fun (f : SortFault) => c.fail 2 f.message
          if checks && o.has 'o' then
            refused (.incompatible [if o.has 'C' then 'C' else 'c', 'o'])
          else if o.has 'c' && o.has 'C' then refused (.incompatible "cC")
          else if checks && paths.length > 1 then
            c.fail 2 ("extra operand " ++ quoted (paths.getD 1 []) ++ " not allowed with -"
              ++ [if o.has 'C' then 'C' else 'c'])
          else
            let ending := if o.has 'z' then '\x00' else '\n'
            let found := c.readAll false paths
            match found.find? fun x => !x.2.toBool with
            | some (p, .error f) => ⟨leftBy paths, [(.complaint, c.faultOf sortManner p f)], [], 2⟩
            | _ =>
              let texts := found.map fun x => recordsOf ending (x.2.toOption.getD [])
              let left := leftBy paths
              if checks then
                match firstDisorder s 1 texts.flatten with
                | none => ⟨left, [], [], 0⟩
                | some (n, l) =>
                  let what := c.complaint (paths.headD [] ++ ":" ++ Text.ofNat n ++ ": disorder: "
                    ++ l)
                  ⟨left, if silent_ then [] else [(.complaint, what)], [], 1⟩
              else
                let out := withEndings ending (s.sorted (o.has 'm') texts)
                match o.value? 'o' with
                | none => ⟨left, [(.output, out)], [], 0⟩
                | some path =>
                  match c.files.room path with
                  | .ok p => ⟨left, [], (c.files.putText p out).changes.take 1, 0⟩
                  | .error f =>
                    ⟨left, [(.complaint, c.complaint ("open failed: " ++ shownName path ++ ": "
                      ++ f.message))], [], 2⟩

/-- `sort` tells twice that its output is blocked -/
def sortLoss : Loss := fun c b e =>
  if e.output = [] then e
  else
    e.lose (c.complaint ("fflush failed: 'standard output': " ++ b.message)
      ++ c.complaint ("write error" ++ match b with
        | .closed => ": " ++ b.message
        | _ => [])) 2

/-! ## uniq -/

def uniqOptions : OptionTable :=
  { OptionTable.of "0123456789cdDiuz" "fsw" [("count", 'c'), ("repeated", 'd'),
      ("all-repeated", 'ᵃ'), ("group", 'ᵍ'), ("ignore-case", 'i'), ("unique", 'u'),
      ("skip-fields", 'f'), ("skip-chars", 's'), ("check-chars", 'w'), ("zero-terminated", 'z')]
    with perhaps := ['ᵃ', 'ᵍ'] }

def runsOf (alike : Text → Text → Bool) : List Text → List (List Text)
  | [] => []
  | l :: ls =>
    match runsOf alike ls with
    | (m :: ms) :: rs => if alike l m then (l :: m :: ms) :: rs else [l] :: (m :: ms) :: rs
    | rs => [l] :: rs

/-- a line without some fields and some characters of what follows -/
def withoutFields : Nat → Nat → Text → Text
  | 0, chars, t => t.drop chars
  | n + 1, chars, t =>
    withoutFields n chars ((t.dropWhile isBlank).dropWhile fun c => !isBlank c)

def repeatedWords : List Text := ["none", "prepend", "separate"].map String.toList

def groupWords : List Text := ["prepend", "append", "separate", "both"].map String.toList

def shownOf (o : Options) (run : List Text) : List Text :=
  let all := o.has 'D' || o.has 'ᵃ'
  match run with
  | [l] => if o.has 'd' || all then [] else [l]
  | _ =>
    if all then (if o.has 'u' then run.dropLast else run)
    else if o.has 'u' then []
    else run.take 1

def uniq : Tool := fun c =>
  c.withOptions uniqOptions 1 fun o =>
    let digits := (o.given.map Prod.fst).filter Char.isDigit
    let plus := o.operands.find? fun a => a.head? = some '+' ∧ (number? (a.drop 1)).isSome
    let operands := o.operands.filter fun a => some a ≠ plus
    let counts := [('f', ("fields to skip" : Text)), ('s', "bytes to skip"),
      ('w', "bytes to compare")]
    let wrong := o.given.findSome? fun g =>
      match counts.lookup g.1, g.2 with
      | some what, some v => if (number? v).isNone then some (v, what) else none
      | _, _ => none
    let number := fun (c : Char) => ((o.value? c).bind number?)
    let fields := ((number 'f').or (number? digits)).getD 0
    let chars := ((number 's').or (plus.bind fun a => number? (a.drop 1))).getD 0
    let all := o.has 'D' || o.has 'ᵃ'
    let between := ((o.value? 'ᵃ').bind (choice? repeatedWords)).getD "none"
    let group := ((o.value? 'ᵍ').bind (choice? groupWords)).getD "separate"
    let bad := fun (c : Char) (words : List Text) =>
      (o.values c).find? fun v => (choice? words v).isNone
    match bad 'ᵃ' repeatedWords, bad 'ᵍ' groupWords, wrong with
    | some v, _, _ => c.noChoice "--all-repeated" v repeatedWords
    | _, some v, _ => c.noChoice "--group" v groupWords
    | _, _, some (v, what) => c.fail 1 (v ++ ": invalid number of " ++ what)
    | none, none, none =>
      if operands.length > 2 then c.misused 1 ("extra operand " ++ quoted (operands.getD 2 []))
      else if o.has 'ᵍ' ∧ (o.has 'c' ∨ o.has 'd' ∨ o.has 'u' ∨ all) then
        c.misused 1 "--group is mutually exclusive with -c/-d/-D/-u"
      else if o.has 'c' ∧ all then
        c.misused 1 "printing all duplicated lines and repeat counts is meaningless"
      else
        let ending := if o.has 'z' then '\x00' else '\n'
        let seen := fun (l : Text) =>
          let t := withoutFields fields chars l
          let t := match number 'w' with
            | some n => t.take n
            | none => t
          if o.has 'i' then t.map Char.toLower else t
        let path := operands.headD ['-']
        let m := { usualManner with
          reading := fun p f => "error reading " ++ shownAlways p ++ ": " ++ f.message
          closing := [] }
        let e := c.onFound m 1 [path] fun found =>
          let runs := runsOf (fun a b => seen a == seen b)
            (recordsOf ending (found.flatMap Prod.snd))
          let blocks :=
            if o.has 'ᵍ' then runs
            else (runs.map fun r => (shownOf o r).map fun l =>
              (if o.has 'c' then padLeft 7 (Text.ofNat r.length) ++ [' '] else []) ++ l).filter
                (· ≠ [])
          let texts := blocks.map (withEndings ending)
          let apart := if o.has 'ᵍ' then group else if all then between else "none"
          let joined := List.intercalate (if apart = "none".toList then [] else [ending]) texts
          let front := apart = "prepend".toList ∨ apart = "both".toList
          let back := apart = "append".toList ∨ apart = "both".toList
          (if front ∧ texts ≠ [] then [ending] else []) ++ joined
            ++ (if back ∧ texts ≠ [] then [ending] else [])
        match operands with
        | [_, target] =>
          if e.status ≠ 0 then e
          else
            match c.files.room target with
            | .ok p => { e with
                written := []
                changes := (c.files.putText p e.output).changes.take 1 }
            | .error f => c.fail 1 (shownName target ++ ": " ++ f.message)
        | _ => e

end Shell
end CoroBridge
