import CoroBridge.Shell.Tool.Options

/-!
# Command language: filled paragraphs

The tool `fmt` breaks the lines of paragraphs anew, so that they cost least: a line costs the more
the further it is from the length that is aimed at, and good places for a break are cheaper.

* `Fill.Style`        what is asked for;
* `Fill.Piece`        a word of a paragraph and what follows it;
* `Fill.Line`         a line read;
* `Fill.breaks`       the lines into which the words of a paragraph are cut;
* `fmt`               the tool.
-/

namespace CoroBridge
namespace Shell
namespace Fill

structure Style where
  width : Nat
  goal : Nat
  mark : Text
  crown : Bool
  tagged : Bool
  splits : Bool
  uniform : Bool

structure Piece where
  text : Text
  space : Nat
  paren : Bool
  period : Bool
  punct : Bool
  final : Bool
  deriving DecidableEq, Repr

instance : Inhabited Piece := ⟨⟨[], 0, false, false, false, false⟩⟩

structure Line where
  lead : Nat
  column : Nat
  marked : Bool
  rest : Text
  whole : Text
  deriving DecidableEq, Repr

/-! ## reading -/

/-- the column after some blanks, and what follows them -/
def overBlanks (column : Nat) : Text → Nat × Text
  | ' ' :: r => overBlanks (column + 1) r
  | '\t' :: r => overBlanks ((column / 8 + 1) * 8) r
  | t => (column, t)

def Line.of (k : Style) (t : Text) : Line :=
  let lead := k.mark.takeWhile (· == ' ')
  let mark := ((k.mark.drop lead.length).reverse.dropWhile (· == ' ')).reverse
  let (column, r) := overBlanks 0 t
  if mark = [] then ⟨min lead.length column, column, lead.length ≤ column && r ≠ [], r, t⟩
  else
    match Text.after? mark r with
    | none => ⟨column, column, false, r, t⟩
    | some r' =>
      let full := (k.mark.drop lead.length).length
      let (inner, r'') := overBlanks (column + mark.length) r'
      ⟨column, inner, lead.length ≤ column && column + full ≤ inner && r'' ≠ [], r'', t⟩

def endsSentence (t : Text) : Bool :=
  let closing := fun c => ")]'\"".toList.contains c
  let r := t.reverse
  let r := match r.dropWhile closing with
    | [] => r.getLast?.toList
    | r => r
  r.head?.any fun c => ".?!".toList.contains c

def pieces (uniform : Bool) : Nat → Nat → Text → List Piece
  | 0, _, _ => []
  | n + 1, column, t =>
    match t with
    | [] => []
    | c :: r =>
      let word := c :: r.takeWhile fun c => !isSpace c
      let column := column + word.length
      let (after, rest) := overBlanks column (t.drop word.length)
      let ends := rest = []
      let period := endsSentence word
      let final := period && (ends || after - column > 1)
      let space := if ends || uniform then (if final then 2 else 1) else after - column
      ⟨word, space, "(['`\"".toList.contains c, period, (word.getLast?.any isPunctuation), final⟩
        :: pieces uniform n after rest

/-! ## costs -/

def square (n : Int) : Int := n * n

def shortCost (n : Int) : Int := square (n * 10)

def raggedCost (n : Int) : Int := shortCost n / 2

/-- the cost of a line that begins with a word, after two others if there are any -/
def baseCost (before : Option Piece) (earlier : Option Piece) (w : Piece) : Int :=
  let cost : Int := match before with
    | none => 0
    | some b =>
      if b.period then (if b.final then -square 50 else square 600)
      else if b.punct then -square 40
      else if earlier.any Piece.final then square 200 / ((b.text.length : Int) + 2)
      else 0
  square 70 + cost
    + (if w.paren then -square 40
      else if w.final then square 150 / ((w.text.length : Int) + 2) else 0)

/-- the best way to go on from a word: its cost, the next break, and the length of the line -/
structure Way where
  cost : Int
  next : Nat
  length : Int
  deriving DecidableEq, Repr

instance : Inhabited Way := ⟨⟨0, 0, 0⟩⟩

/-- the best way from a word, where the ways from all later words are known; `w` is the word before
which a break is tried and `length` that of the line up to there -/
def bestFrom (k : Style) (ws : Array Piece) (ways : Array Way) (start : Nat) :
    Nat → Nat → Int → Option Way → Option Way
  | 0, _, _, best => best
  | n + 1, w, length, best =>
    let after := ways.getD w default
    let lineCost := if w = ws.size then 0 else
      shortCost ((k.goal : Int) - length)
        + (if after.next = ws.size then 0 else raggedCost (length - after.length))
    let cost := lineCost + after.cost
    let best := match best with
      | some b => if cost < b.cost then some ⟨cost, w, length⟩ else some b
      | none => some ⟨cost, w, length⟩
    if w = ws.size then best
    else
      let length := length + (ws.getD (w - 1) default).space + (ws.getD w default).text.length
      if length < k.width then bestFrom k ws ways start n (w + 1) length best else best

/-- the best ways from all words on, from the last one back -/
def ways (k : Style) (first other : Nat) (ws : Array Piece) : Array Way :=
  let n := ws.size
  ((List.range n).foldr (fun start (ways : Array Way) =>
    let length : Int := (if start = 0 then first else other)
      + (ws.getD start default).text.length
    let best := (bestFrom k ws ways start (n + 1) (start + 1) length none).getD default
    let before := if start = 0 then none else ws[start - 1]?
    let earlier := if start < 2 then none else ws[start - 2]?
    ways.setIfInBounds start
      { best with cost := best.cost + baseCost before earlier (ws.getD start default) })
    (Array.replicate (n + 1) default))

def breaks (ways : Array Way) (ws : Array Piece) : Nat → Nat → List (List Piece)
  | 0, _ => []
  | n + 1, start =>
    if ws.size ≤ start then []
    else
      let next := max (start + 1) (ways.getD start default).next
      (ws.toList.drop start).take (next - start) :: breaks ways ws n next

/-! ## writing -/

/-- blanks from a column to another one, with tabs where the input has some -/
def gap (tabs : Bool) (column target : Nat) : Text :=
  if tabs ∧ column + 1 < target / 8 * 8 then
    let stops := target / 8 - column / 8
    List.replicate stops '\t' ++ List.replicate (target % 8) ' '
  else List.replicate (target - column) ' '

def lineText (tabs : Bool) (mark : Text) (lead indent : Nat) (ws : List Piece) : Text × Nat :=
  let front := gap tabs 0 lead ++ mark
  let column := lead + mark.length
  let start := front ++ gap tabs column indent
  let r := ws.dropLast.foldl (fun (r : Text × Nat) w =>
    let column := r.2 + w.text.length
    (r.1 ++ w.text ++ gap tabs column (column + w.space), column + w.space))
    (start, max column indent)
  match ws.getLast? with
  | some w => (r.1 ++ w.text, r.2 + w.text.length)
  | none => r

/-- the lines that belong to the paragraph of the first one, with the column of the others -/
def paragraph (k : Style) (other : Nat) (l : Line) (ls : List Line) :
    List Line × Nat × List Line :=
  let same := fun (m : Line) => m.marked && m.lead == l.lead
  let next := ls.head?.filter same
  let follows := fun (column : Nat) (ls : List Line) =>
    ls.takeWhile fun m => same m && m.column == column
  if k.splits then ([l], l.column, ls)
  else if k.crown then
    let other := (next.map Line.column).getD l.column
    let more := match next with
      | some _ => follows other ls
      | none => []
    (l :: more, other, ls.drop more.length)
  else if k.tagged then
    match next with
    | some m =>
      if m.column = l.column then
        let other := if other = l.column then (if l.column = 0 then 3 else 0) else other
        ([l], other, ls)
      else
        let more := follows m.column ls
        (l :: more, m.column, ls.drop more.length)
    | none =>
      let other := if other = l.column then (if l.column = 0 then 3 else 0) else other
      ([l], other, ls)
  else
    let more := follows l.column ls
    (l :: more, l.column, ls.drop more.length)

/-- lines filled; `other` is the column of the lines after the first one in the last paragraph -/
def filled (k : Style) (tabs : Bool) : Nat → Nat → List Line → Text
  | 0, _, _ => []
  | n + 1, other, ls =>
    match ls with
    | [] => []
    | l :: rest =>
      if !l.marked then
        let whole := if l.rest = [] ∧ k.mark = [] then [] else l.whole
        whole ++ '\n' :: filled k tabs n other rest
      else
        let (lines, other, rest) := paragraph k other l rest
        let ws := (lines.flatMap fun m => pieces k.uniform (m.rest.length + 1) m.column m.rest)
        let ws := match ws.getLast? with
          | some w => ws.dropLast ++ [{ w with period := true, final := true }]
          | none => ws
        let ws := ws.toArray
        let mark := ((k.mark.dropWhile (· == ' ')).reverse.dropWhile (· == ' ')).reverse
        let cut := breaks (ways k l.column other ws) ws (ws.size + 1) 0
        let texts := cut.zipIdx.map fun (line : List Piece × Nat) =>
          (lineText tabs mark l.lead (if line.2 = 0 then l.column else other) line.1).1 ++ ['\n']
        texts.flatten ++ filled k tabs n other rest

end Fill

def fmtOptions : OptionTable :=
  .of "cstu" "wgp" [("crown-margin", 'c'), ("prefix", 'p'), ("split-only", 's'),
    ("tagged-paragraph", 't'), ("uniform-spacing", 'u'), ("width", 'w'), ("goal", 'g')]

def fmt : Tool := fun c =>
  let args := match c.args with
    | ('-' :: d :: r) :: as =>
      if d.isDigit ∧ r.all Char.isDigit then ['-', 'w'] :: (d :: r) :: as else c.args
    | _ => c.args
  { c with args := args }.withOptions fmtOptions 1 fun o =>
    let number := fun (x : Char) (what : Text) (most : Nat) =>
      match o.value? x with
      | none => Except.ok none
      | some v =>
        match number? v with
        | some n =>
          if n ≤ most then .ok (some n)
          else .error (("invalid " : Text) ++ what ++ ": " ++ quoted v
            ++ ": Numerical result out of range")
        | none => .error ("invalid " ++ what ++ ": " ++ quoted v)
    match number 'w' "width" 2500 with
    | .error what => c.fail 1 what
    | .ok width =>
      match number 'g' "width" (match width with | some w => w | none => 75) with
      | .error what => c.fail 1 what
      | .ok goal =>
        let width := match width, goal with
          | some w, _ => w
          | none, some g => g + 10
          | none, none => 75
        let k : Fill.Style :=
          ⟨width, goal.getD (width * 187 / 200), (o.value? 'p').getD [], o.has 'c', o.has 't',
            o.has 's', o.has 'u'⟩
        let m : Manner :=
          { usualManner with
            opening := fun p f => "cannot open " ++ shownAlways p ++ " for reading: " ++ f.message
            reading := fun p f => "error reading " ++ shownAlways p ++ ": " ++ f.message }
        c.onFound m 1 (pathsOf o.operands) fun found =>
          found.flatMap fun (f : Text × Text) =>
            let lines := (linesOf f.2).map (Fill.Line.of k)
            Fill.filled k (f.2.contains '\t') (lines.length + 1) 0 lines

end Shell
end CoroBridge
