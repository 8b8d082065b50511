import CoroBridge.Shell.Pattern
import CoroBridge.Shell.Variables

/-!
# Command language: expansion

What words stand for, once parameters, outputs and values are put in.

* `Item`             what a word expands to: characters by origin, and places;
* `fields`           the texts that items make up, cut where separators stand;
* `Field.expanded`   the paths that a text names as a pattern;
* `Act.parameter`    the value of a parameter;
* `Act.items`        the items of a word;
* `Act.arguments`    the texts that words stand for.
-/

namespace CoroBridge
namespace Shell

/-! ## items -/

/-- the origin of a character: quoted, written in the script, or put in -/
inductive Origin where
  | quoted
  | written
  | inserted
  deriving DecidableEq, Repr

inductive Item where
  | char (c : Char) (origin : Origin)
  | mark
  | border
  deriving DecidableEq, Repr

def textOf (is : List Item) : Text :=
  is.filterMap fun
    | .char c _ => some c
    | .border => some ' '
    | .mark => none

def patternOf (is : List Item) : List Glob :=
  Glob.of 0 (is.filterMap fun
    | .char c o => some (c, o == .quoted)
    | .border => some (' ', true)
    | .mark => none)

def inserted (quoted : Bool) (t : Text) : List Item :=
  t.map (.char · (if quoted then .quoted else .inserted))

def reinserted (quoted : Bool) (is : List Item) : List Item :=
  is.map fun
    | .char c .written => .char c (if quoted then .quoted else .inserted)
    | i => i

abbrev Field := List (Char × Bool)

def Field.text (f : Field) : Text := f.map Prod.fst

/-- the texts that items make up: `opened` is the one that is not ended yet, its last character
first, and `blank` tells that separators without a weight of their own have ended one -/
def fieldsFrom (separators : Text) (opened : Option Field) (blank : Bool) : List Item → List Field
  | [] => (opened.map List.reverse).toList
  | .mark :: is => fieldsFrom separators (some (opened.getD [])) false is
  | .border :: is => (opened.map List.reverse).toList ++ fieldsFrom separators none false is
  | .char c o :: is =>
    if o ≠ .inserted ∨ c ∉ separators then
      fieldsFrom separators (some ((c, o == .quoted) :: opened.getD [])) false is
    else
      match opened with
      | some t => t.reverse :: fieldsFrom separators none (isSpace c) is
      | none =>
        if isSpace c then fieldsFrom separators none blank is
        else if blank then fieldsFrom separators none false is
        else [] :: fieldsFrom separators none false is

def fields (separators : Text) (is : List Item) : List Field := fieldsFrom separators none false is

/-! ## paths -/

def Field.isPattern (f : Field) : Bool :=
  f.any fun p => !p.2 && (p.1 == '*' || p.1 == '?' || p.1 == '[')

def Field.parts (f : Field) : List Field := f.splitOnP fun p => p.1 == '/'

/-- the names in a directory that a part of a pattern names; a name with a point in front is named
only by a pattern with one -/
def namesLike (f : Files) (directory : Text) (p : Field) : List Text :=
  match f.find? (if directory = [] then ['.'] else directory),
      f.place (if directory = [] then ['.'] else directory) with
  | some .directory, .ok place =>
    let glob := Glob.of 0 p
    let hidden := p.head?.any (·.1 == '.')
    (f.names place).filter fun n => (hidden || n.head? ≠ some '.') && accepts glob n
  | _, _ => []

/-- the paths that the parts of a pattern name, after a path in front -/
def expandedFrom (f : Files) (front : Text) : List Field → List Text
  | [] => [front]
  | p :: ps =>
    let ending : Text := if ps.isEmpty then [] else ['/']
    if p.isPattern then
      (namesLike f front p).flatMap fun n =>
        let path := front ++ n
        let goes := ps.isEmpty || f.find? path == some .directory
        if goes then expandedFrom f (path ++ ending) ps else []
    else
      let path := front ++ p.text
      if ps.isEmpty ∧ path ≠ [] ∧ (f.find? path).isNone then []
      else expandedFrom f (path ++ ending) ps

def Field.expanded (f : Files) (t : Field) : List Text :=
  if !t.isPattern then [t.text]
  else
    match expandedFrom f [] t.parts with
    | [] => [t.text]
    | ps => ps.mergeSort fun a b => !Text.precedes b a

/-- the name of a person that a tilde in front of some items stands before, and what follows; after
a colon too where `assigned` -/
def tildeName (assigned : Bool) : List Item → Text × List Item
  | .char c .written :: is =>
    if c = '/' ∨ (assigned && c == ':') then ([], .char c .written :: is)
    else (c :: (tildeName assigned is).1, (tildeName assigned is).2)
  | is => ([], is)

namespace Act

/-! ## parameters -/

def parameter (name : Text) : Act (Option Text) := do
  let s ← get
  match name with
  | ['#'] => return some (Text.ofNat s.args.length)
  | ['?'] => return some (Text.ofNat s.status)
  | ['$'] => return some (Text.ofNat s.shell)
  | ['!'] => return s.lastJob.map Text.ofNat
  | ['-'] => return some s.options
  | ['@'] => return if s.args = [] then none else some (List.intercalate [' '] s.args)
  | ['*'] =>
    let between := ((← separators).head?).toList
    return if s.args = [] then none else some (List.intercalate between s.args)
  | _ =>
    match number? name with
    | some 0 => return some s.name
    | some n => return s.args[n - 1]?
    | none => lookup name

/-- all arguments of the script as items: each is a text of its own -/
def allArguments (quoted : Bool) : Act (List Item) := do
  let texts := (← get).args.map fun a =>
    (if quoted then [Item.mark] else []) ++ inserted quoted a
  return List.intercalate [.border] texts

/-- the items of a parameter without an operation -/
def plainItems (name : Text) (quoted : Bool) : Act (List Item) := do
  if name = ['@'] then allArguments quoted
  else if name = ['*'] ∧ !quoted then allArguments false
  else
    match ← parameter name with
    | some v => return inserted quoted v
    | none =>
      if 'u' ∈ (← get).options ∧ name ≠ ['*'] ∧ name ≠ ['!'] then
        fail [] (name ++ ": parameter not set")
      else return []

/-- the items of a parameter with an operation, whose operand has the items `operand` -/
def parameterItems (name : Text) (op : Operation) (operand : Act (List Item)) (quoted : Bool) :
    Act (List Item) := do
  let value ← parameter name
  let missing := fun orEmpty => value = none || (orEmpty && value == some [])
  match op with
  | .plain => plainItems name quoted
  | .length =>
    if name = ['@'] ∨ name = ['*'] then
      return inserted quoted (Text.ofNat (← get).args.length)
    else
      match value with
      | none =>
        if 'u' ∈ (← get).options then fail [] (name ++ ": parameter not set")
        else return inserted quoted "0"
      | some v => return inserted quoted (Text.ofNat v.length)
  | .instead orEmpty =>
    if missing orEmpty then return reinserted quoted (← operand) else plainItems name quoted
  | .store orEmpty =>
    if missing orEmpty then
      let t := textOf (← operand)
      if isVariable name then
        assign name t
        return inserted quoted t
      else fail [] (name ++ ": bad variable name")
    else plainItems name quoted
  | .demand orEmpty =>
    if missing orEmpty then
      let t := textOf (← operand)
      fail [] (name ++ ": "
        ++ (if t ≠ [] then t
          else if orEmpty then "parameter not set or null" else "parameter not set"))
    else plainItems name quoted
  | .alternative orEmpty =>
    if missing orEmpty then return [] else return reinserted quoted (← operand)
  | .trim atEnd longest =>
    let ps := patternOf (← operand)
    return inserted quoted (Shell.trim atEnd longest ps (value.getD []))
  | .unknown => fail [] "Bad substitution"

/-! ## words -/

def calculate (t : Text) : Act Text := do
  let before ← values
  match Expr.parse t >>= fun e => e.eval before with
  | .error f => fail [] (f.message t)
  | .ok (n, vs) =>
    for p in (vs.take (vs.length - before.length)).reverse do
      assign p.1 p.2
    return ofInt n

mutual

/-- the items of a part of a word, when `run` gives what commands write -/
def partItems (run : Option Command → Act Text) : Part → Act (List Item)
  | .char c kept => pure [.char c (if kept then .quoted else .written)]
  | .stretch => pure [.mark]
  | .param name op operand quoted =>
    parameterItems name op (items run operand) quoted
  | .output body quoted => do
    let t ← run body
    return inserted quoted (t.reverse.dropWhile (· == '\n')).reverse
  | .value expression quoted => do
    let t := textOf (← items run expression)
    return inserted quoted (← calculate t)

def items (run : Option Command → Act Text) : List Part → Act (List Item)
  | [] => pure []
  | p :: ps => do
    let front ← partItems run p
    let back ← items run ps
    return front ++ back

end

/-- items with a tilde in front replaced by the directory of its person -/
def withHome (assigned : Bool) (is : List Item) : Act (List Item) := do
  match is with
  | .char '~' .written :: rest =>
    let (name, after) := tildeName assigned rest
    let ends := match after with
      | [] => true
      | .char c .written :: _ => c == '/' || c == ':'
      | _ => false
    let home ← if name = [] then lookup "HOME"
      else pure (if name = "root".toList then some "/root".toList else none)
    match ends, home with
    | true, some h => return inserted true h ++ after
    | _, _ => return is
  | _ => return is

def wordText (run : Option Command → Act Text) (w : Word) : Act Text := do
  return textOf (← withHome false (← items run w))

def valueText (run : Option Command → Act Text) (w : Word) : Act Text := do
  return textOf (← withHome true (← items run w))

def arguments (run : Option Command → Act Text) (ws : List Word) : Act (List Text) := do
  let texts ← ws.mapM fun w => do
    let is ← withHome false (← items run w)
    let s ← get
    return (fields (← separators) is).flatMap fun f =>
      if 'f' ∈ s.options then [f.text] else f.expanded s.files
  return texts.flatten

end Act
end Shell
end CoroBridge
