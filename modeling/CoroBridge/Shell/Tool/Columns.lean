import CoroBridge.Shell.Tool.Order

/-!
# Command language: columns

The tools that cut lines up, join them, and fold them at columns.

* `Span`                   from a place to another one, or to the end;
* `cut`                    parts of every line;
* `paste`                  lines joined;
* `fold`                   lines folded at a width;
* `TabStops`               the columns where tabs end;
* `expand`, `unexpand`     tabs turned into spaces, and spaces into tabs.
-/

namespace CoroBridge
namespace Shell

/-! ## cut -/

structure Span where
  first : Nat
  last : Option Nat
  deriving DecidableEq, Repr

def Span.holds (s : Span) (n : Nat) : Bool := s.first ≤ n && s.last.all (n ≤ ·)

/-- the reasons why a text is no list of spans -/
inductive SpanFault where
  | zero
  | value (t : Text)
  | range
  | decreasing
  | noEnd
  | large (t : Text)
  deriving DecidableEq, Repr

/-- the wording of a reason, for fields or for places -/
def SpanFault.message (fields : Bool) : SpanFault → Text
  | zero =>
    if fields then "fields are numbered from 1"
    else "byte/character positions are numbered from 1"
  | value t =>
    (if fields then "invalid field value " else "invalid byte/character position ") ++ quoted t
  | range => if fields then "invalid field range" else "invalid byte or character range"
  | decreasing => "invalid decreasing range"
  | noEnd => "invalid range with no endpoint: -"
  | large t =>
    (if fields then "field number " else "byte/character offset ") ++ quoted t ++ " is too large"

def placeOf (digits : Text) : Except SpanFault Nat :=
  if digitsValue digits ≤ greatestSize - 1 then .ok (digitsValue digits) else .error (.large digits)

/-- the span that a text describes, of a list that goes on with `after` -/
def Span.of (t after : Text) : Except SpanFault Span := do
  let a := t.takeWhile Char.isDigit
  let n ← placeOf a
  match t.drop a.length with
  | [] => if n = 0 then .error .zero else .ok ⟨n, some n⟩
  | '-' :: r =>
    if a ≠ [] ∧ n = 0 then .error .zero
    let b := r.takeWhile Char.isDigit
    let m ← placeOf b
    let first := if a = [] then 1 else n
    match r.drop b.length with
    | [] =>
      if a = [] ∧ b = [] then .error .noEnd
      else if b = [] then .ok ⟨first, none⟩
      else if m < first then .error .decreasing
      else .ok ⟨first, some m⟩
    | '-' :: _ => .error .range
    | r => .error (.value (r ++ after))
  | r => .error (.value (r ++ after))

def spansOf : List Text → Except SpanFault (List Span)
  | [] => .ok []
  | t :: ts => do
    let s ← Span.of t (ts.flatMap (',' :: ·))
    .ok (s :: (← spansOf ts))

/-- spans in order, with those that overlap put together -/
def mergedSpans (ss : List Span) : List Span :=
  let sorted := ss.mergeSort fun a b => decide (a.first ≤ b.first)
  (sorted.foldl (fun (r : List Span) s =>
    match r with
    | t :: ts =>
      if t.last.all (s.first ≤ ·) then
        let last := match t.last, s.last with
          | some x, some y => some (max x y)
          | _, _ => none
        ⟨t.first, last⟩ :: ts
      else s :: r
    | [] => [s]) []).reverse

/-- the spans between some spans, from a place on -/
def otherSpans (n : Nat) : List Span → List Span
  | [] => [⟨n, none⟩]
  | s :: ss =>
    let front := if n < s.first then [(⟨n, some (s.first - 1)⟩ : Span)] else []
    match s.last with
    | some m => front ++ otherSpans (m + 1) ss
    | none => front

def Span.select {α : Type} (s : Span) (xs : List α) : List α :=
  let from_ := xs.drop (s.first - 1)
  match s.last with
  | some m => from_.take (m + 1 - s.first)
  | none => from_

def cutOptions : OptionTable :=
  .of "nszᶜ" "bcdfᵒ" [("bytes", 'b'), ("characters", 'c'), ("fields", 'f'), ("delimiter", 'd'),
    ("only-delimited", 's'), ("output-delimiter", 'ᵒ'), ("complement", 'ᶜ'),
    ("zero-terminated", 'z')]

def cut : Tool := fun c =>
  c.withOptions cutOptions 1 fun o =>
    let lists := o.given.filter fun (g : Char × Option Text) => g.1 = 'b' ∨ g.1 = 'c' ∨ g.1 = 'f'
    let longMark := (o.values 'd').any fun d => d.length > 1
    match lists with
    | _ :: _ :: _ => c.misused 1 "only one list may be specified"
    | [] =>
      if longMark then c.misused 1 "the delimiter must be a single character"
      else c.misused 1 "you must specify a list of bytes, characters, or fields"
    | [(kind, places)] =>
      let fields := kind == 'f'
      if longMark then c.misused 1 "the delimiter must be a single character"
      else if !fields && o.has 'd' then
        c.misused 1 "an input delimiter may be specified only when operating on fields"
      else if !fields && o.has 's' then
        c.misused 1 "suppressing non-delimited lines makes sense\n\tonly when operating on fields"
      else
        match spansOf ((places.getD []).splitOnP fun x => x == ',' || isBlank x) with
        | .error f => c.misused 1 (f.message fields)
        | .ok given =>
          let merged := mergedSpans given
          let spans := if o.has 'ᶜ' then otherSpans 1 merged else merged
          let mark := (((o.value? 'd').getD ['\t']).head?).getD '\x00'
          let ending := if o.has 'z' then '\x00' else '\n'
          let out := o.value? 'ᵒ'
          c.onAll o.operands fun found =>
            withEndings ending ((found.flatMap fun f => recordsOf ending f.2).filterMap fun l =>
              if !fields then
                some (List.intercalate (out.getD [])
                  ((spans.map fun s => s.select l).filter (· ≠ [])))
              else
                let parts := l.splitOn mark
                if parts.length = 1 then (if o.has 's' then none else some l)
                else
                  some (List.intercalate (out.getD [mark]) (spans.flatMap fun s => s.select parts)))

/-! ## paste -/

/-- the texts that a list of separators names; a backslash at its end is refused -/
def separatorsOf : Text → Option (List Text)
  | [] => some []
  | ['\\'] => none
  | '\\' :: c :: r =>
    let t := match c with
      | '0' => []
      | 'b' => ['\x08']
      | 'f' => ['\x0c']
      | 'n' => ['\n']
      | 'r' => ['\r']
      | 't' => ['\t']
      | 'v' => ['\x0b']
      | _ => [c]
    (separatorsOf r).map (t :: ·)
  | c :: r => (separatorsOf r).map ([c] :: ·)

/-- texts with separators between them, again and again in their order, the next one at a place -/
def joinedBy (separators : List Text) (n : Nat) : List Text → Text
  | [] => []
  | [t] => t
  | t :: ts => t ++ separators.getD (n % separators.length) [] ++ joinedBy separators (n + 1) ts

/-- a row of lines, one of each column, and what is left; columns that read the input share it -/
def rowOf : List (Bool × List Text) → List Text → List (Option Text) × List (Bool × List Text)
    × List Text
  | [], input => ([], [], input)
  | (true, _) :: cs, input =>
    let (row, rest, left) := rowOf cs (input.drop 1)
    (input.head? :: row, (true, []) :: rest, left)
  | (false, ls) :: cs, input =>
    let (row, rest, left) := rowOf cs input
    (ls.head? :: row, (false, ls.drop 1) :: rest, left)

/-- the rows of lines while there are any, at most `n` of them -/
def rowsOf : Nat → List (Bool × List Text) → List Text → List (List Text)
  | 0, _, _ => []
  | n + 1, columns, input =>
    let (row, rest, left) := rowOf columns input
    if row.any Option.isSome then row.map (·.getD []) :: rowsOf n rest left else []

def pasteOptions : OptionTable :=
  .of "sz" "d" [("serial", 's'), ("delimiters", 'd'), ("zero-terminated", 'z')]

def paste : Tool := fun c =>
  c.withOptions pasteOptions 1 fun o =>
    let list := (o.value? 'd').getD ['\t']
    match separatorsOf list with
    | none =>
      c.fail 1 ("delimiter list ends with an unescaped backslash: "
        ++ list.flatMap fun x => if x = '\\' then [x, x] else [x])
    | some given =>
      let separators := if given = [] then [[]] else given
      let ending := if o.has 'z' then '\x00' else '\n'
      let paths := pathsOf o.operands
      if o.has 's' then
        let m := usualManner
        let empty := paths.flatMap fun p =>
          match c.read p with
          | .error f => if f.opened then [ending] else []
          | .ok _ => []
        let e := c.onFound m 1 paths fun found =>
          found.flatMap fun f => joinedBy separators 0 (recordsOf ending f.2) ++ [ending]
        { e with written := e.written ++ [(.output, empty)] }
      else
        let unopened := paths.filterMap fun p =>
          match c.read p with
          | .error f => if f.opened then none else some (c.faultOf usualManner p f)
          | .ok _ => none
        match unopened with
        | what :: _ => ⟨none, [(.complaint, what)], [], 1⟩
        | [] =>
          let input := recordsOf ending (c.input.getD [])
          let columns := paths.map fun p =>
            (isInput p, if isInput p then [] else recordsOf ending ((c.read p).toOption.getD []))
          let rounds := input.length + (columns.map fun x => x.2.length).foldl (· + ·) 0 + 1
          c.onFound usualManner 1 paths fun _ =>
            withEndings ending ((rowsOf rounds columns input).map (joinedBy separators 0))

/-! ## fold -/

def columnAfter (byBytes : Bool) (n : Nat) (c : Char) : Nat :=
  if byBytes then n + 1
  else
    match c with
    | '\x08' => n - 1
    | '\r' => 0
    | '\t' => n + (8 - n % 8)
    | _ => n + 1

/-- a text folded at a width, after a row that is kept with its last character first and ends at a
column; at most `n` characters and breaks follow -/
def foldFrom (width : Nat) (byBytes atBlanks : Bool) :
    Nat → Text → Nat → Text → Text
  | 0, row, _, _ => row.reverse
  | _, row, _, [] => row.reverse
  | n + 1, row, column, c :: r =>
    if c = '\n' then row.reverse ++ '\n' :: foldFrom width byBytes atBlanks n [] 0 r
    else
      let next := columnAfter byBytes column c
      if next ≤ width then foldFrom width byBytes atBlanks n (c :: row) next r
      else
        let after := row.takeWhile fun d => !isBlank d
        if atBlanks ∧ after.length < row.length then
          (row.drop after.length).reverse ++ '\n' ::
            foldFrom width byBytes atBlanks n after
              (after.reverse.foldl (columnAfter byBytes) 0) (c :: r)
        else if row = [] then foldFrom width byBytes atBlanks n [c] next r
        else row.reverse ++ '\n' :: foldFrom width byBytes atBlanks n [] 0 (c :: r)

def digitLetters : Text := "0123456789"

def digitValue? (o : Options) : Option Text :=
  (o.given.reverse.find? fun (g : Char × Option Text) => g.1.isDigit).map fun g =>
    g.1 :: g.2.getD []

def fold : Tool := fun c =>
  let table := { OptionTable.of "bs" "w" [("bytes", 'b'), ("spaces", 's'), ("width", 'w')] with
    perhaps := digitLetters }
  c.withOptions table 1 fun o =>
    let last := o.given.reverse.find? fun g => g.1 = 'w' ∨ g.1.isDigit
    let width := (last.map fun g =>
      if g.1 = 'w' then g.2.getD [] else g.1 :: g.2.getD []).getD "80"
    match sizeOf "number of columns" width with
    | .error what => c.fail 1 what
    | .ok 0 =>
      c.fail 1 ("invalid number of columns: " ++ quoted width ++ ": Numerical result out of range")
    | .ok n =>
      c.onAll o.operands fun found => found.flatMap fun f =>
        foldFrom n (o.has 'b') (o.has 's') (3 * f.2.length + 1) [] 0 f.2

/-! ## tabs -/

structure TabStops where
  stops : List Nat
  every : Option Nat
  further : Option Nat
  deriving DecidableEq, Repr

/-- the column where a tab at a column ends, if there is one -/
def TabStops.next? (t : TabStops) (n : Nat) : Option Nat :=
  match t.stops.find? (n < ·) with
  | some s => some s
  | none =>
    match t.every, t.further with
    | some k, _ => some (n + (k - n % k))
    | _, some k =>
      let last := t.stops.getLast?.getD 0
      some (n + (k - (n - last) % k))
    | none, none => none

/-- the stops that a list of columns describes, or a complaint about it -/
def TabStops.of (lists : List Text) : Except Text TabStops := do
  let items := (lists.flatMap fun t => t.splitOnP fun c => c == ',' || isBlank c).filter (· ≠ [])
  let step := fun (t : TabStops) (item : Text) =>
    let digits := fun (d : Text) => do
      let n := d.takeWhile Char.isDigit
      if n.length < d.length then
        .error ("tab size contains invalid character(s): " ++ quoted (d.drop n.length) : Text)
      else .ok (digitsValue n)
    match item with
    | '/' :: d => do
      let n ← digits d
      if t.every.isSome then .error ("'/' specifier only allowed with the last value" : Text)
      else .ok (if n = 0 then t else { t with every := some n })
    | '+' :: d => do
      let n ← digits d
      if t.further.isSome then .error ("'+' specifier only allowed with the last value" : Text)
      else .ok (if n = 0 then t else { t with further := some n })
    | d => do
      let n ← digits d
      .ok { t with stops := t.stops ++ [n] }
  let t ← items.foldlM step ⟨[], none, none⟩
  let ascending := (t.stops.zip (t.stops.drop 1)).all fun p => p.1 < p.2
  if t.stops.contains 0 then .error "tab size cannot be 0"
  else if !ascending then .error "tab sizes must be ascending"
  else if t.every.isSome && t.further.isSome then
    .error "'/' specifier is mutually exclusive with '+'"
  else
    match t.stops, t.every, t.further with
    | [], none, none => .ok ⟨[], some 8, none⟩
    | [n], none, none => .ok ⟨[], some n, none⟩
    | [], none, some k => .ok ⟨[], some k, none⟩
    | _, _, _ => .ok t

def tabLists (o : Options) : List Text :=
  let digits := (o.given.filter fun (g : Char × Option Text) => g.1.isDigit).map fun g =>
    g.1 :: g.2.getD []
  o.values 't' ++ digits

/-- a text with spaces in place of tabs, from a column on; `active` tells that tabs are replaced
here -/
def expandFrom (t : TabStops) (onlyFront : Bool) (active : Bool) (n : Nat) : Text → Text
  | [] => []
  | c :: r =>
    if c = '\n' then c :: expandFrom t onlyFront true 0 r
    else if !active then c :: expandFrom t onlyFront false n r
    else
      let stays := !onlyFront || isBlank c
      match c with
      | '\t' =>
        let next := (t.next? n).getD (n + 1)
        List.replicate (next - n) ' ' ++ expandFrom t onlyFront stays next r
      | '\x08' => c :: expandFrom t onlyFront stays (n - 1) r
      | _ => c :: expandFrom t onlyFront stays (n + 1) r

def expand : Tool := fun c =>
  let table := { OptionTable.of "i" "t" [("tabs", 't'), ("initial", 'i')] with
    perhaps := digitLetters }
  c.withOptions table 1 fun o =>
    match TabStops.of (tabLists o) with
    | .error what => c.fail 1 what
    | .ok t =>
      c.onAll o.operands fun found => expandFrom t (o.has 'i') true 0 (found.flatMap Prod.snd)

/-- where `unexpand` is on a line: whether blanks are still replaced, the column, the blanks that
are not written yet, whether one of them stands just before a stop, and whether a blank came last -/
structure Unexpanding where
  active : Bool
  column : Nat
  pending : Text
  oneBefore : Bool
  afterBlank : Bool

def Unexpanding.start : Unexpanding := ⟨true, 0, [], false, true⟩

/-- a character on a line: the state after it and what is written; none where the text ends -/
def Unexpanding.step (t : TabStops) (whole : Bool) (s : Unexpanding) (c : Option Char) :
    Unexpanding × Text :=
  let own := c.toList
  if !s.active then (s, own)
  else
    let blank := c.any isBlank
    let flush := fun (pending : Text) =>
      if pending.length > 1 ∧ s.oneBefore then '\t' :: pending.drop 1 else pending
    let done := fun (s' : Unexpanding) (pending out : Text) =>
      ({ s' with
          pending := [], oneBefore := if pending = [] then s'.oneBefore else false
          afterBlank := blank, active := s'.active && (whole || blank) },
        flush pending ++ out)
    if blank then
      match t.next? s.column with
      | none => done { s with active := false } s.pending own
      | some next =>
        if c = some '\t' then
          let first := if s.pending = [] then [] else ['\t']
          done { s with column := next } (first.take (if s.oneBefore then 1 else 0)) ['\t']
        else
          let column := s.column + 1
          if s.afterBlank ∧ column = next then
            done { s with column } (if s.oneBefore then ['\t'] else []) ['\t']
          else
            ({ s with
                column, pending := s.pending ++ own, afterBlank := true
                oneBefore := s.oneBefore || column == next }, [])
    else if c = some '\x08' then done { s with column := s.column - 1 } s.pending own
    else done { s with column := s.column + 1 } s.pending own

def unexpandFrom (t : TabStops) (whole : Bool) (s : Unexpanding) : Text → Text
  | [] => (s.step t whole none).2
  | c :: r =>
    let (s', out) := s.step t whole (some c)
    out ++ unexpandFrom t whole (if c = '\n' then .start else s') r

def unexpand : Tool := fun c =>
  let table := { OptionTable.of "aᶠ," "t" [("tabs", 't'), ("all", 'a'), ("first-only", 'ᶠ')] with
    perhaps := digitLetters }
  c.withOptions table 1 fun o =>
    match TabStops.of (tabLists o) with
    | .error what => c.fail 1 what
    | .ok t =>
      let whole := (o.has 'a' || o.has 't' || (digitValue? o).isSome) && !o.has 'ᶠ'
      c.onAll o.operands fun found =>
        unexpandFrom t whole .start (found.flatMap Prod.snd)

end Shell
end CoroBridge
