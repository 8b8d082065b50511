import CoroBridge.Shell.Pattern

/-!
# Command language: regular expressions

The two notations of regular expressions that tools for lines understand: a basic one, in which
most operators are written after a backslash, and an extended one.

* `Regex`             regular expressions, with groups and references to them;
* `RegexStyle`        how expressions are written;
* `RegexFault`        the reasons why a text is none;
* `bracketList`       the bracket list that a text begins with;
* `Regex.parse`       the expression that a text is in one of the notations;
* `Spot`              a place in a text, with what the groups have matched before it;
* `Sight`             which differences and which places matter to a match;
* `Regex.spots`       the places where a match that begins at a place can end;
* `Regex.find?`       the first match in a text, and of those that begin there the longest one.
-/

namespace CoroBridge
namespace Shell

inductive Regex where
  | nothing
  | char (c : Char)
  | any
  | among (members : Members)
  | start (whole : Bool)
  | finish (whole : Bool)
  | border (start finish : Bool)
  | inside
  | both (a b : Regex)
  | either (a b : Regex)
  | repeated (a : Regex) (least : Nat) (most : Option Nat)
  | group (n : Nat) (a : Regex)
  | again (n : Nat)

structure RegexStyle where
  extended : Bool
  strict : Bool
  deriving DecidableEq, Repr

inductive RegexFault where
  | invalid
  | openGroup
  | closedGroup
  | openList
  | rangeEnd
  | className
  | collation
  | bareClass
  | openCount
  | count
  | tooBig
  | nothingBefore
  | backslash
  | reference
  deriving DecidableEq, Repr

def RegexFault.message : RegexFault → Text
  | invalid => "Invalid regular expression"
  | openGroup => "Unmatched ( or \\("
  | closedGroup => "Unmatched ) or \\)"
  | openList => "Unmatched [, [^, [:, [., or [="
  | rangeEnd => "Invalid range end"
  | className => "Invalid character class name"
  | collation => "Invalid collation character"
  | bareClass => "character class syntax is [[:space:]], not [:space:]"
  | openCount => "Unmatched \\\x7b"
  | count => "Invalid content of \\\x7b\\\x7d"
  | tooBig => "Regular expression too big"
  | nothingBefore => "Invalid preceding regular expression"
  | backslash => "Trailing backslash"
  | reference => "Invalid back reference"

/-! ## bracket lists -/

/-- an element of a bracket list: a character, or a class by its name -/
inductive BracketElement where
  | one (c : Char)
  | named (name : Text)
  deriving DecidableEq, Repr

/-- the element that a list goes on with, and what follows; `first` tells that a dash may begin
it -/
def bracketElement (first : Bool) : Text → Except RegexFault (BracketElement × Text)
  | '[' :: d :: r =>
    if d = ':' ∨ d = '.' ∨ d = '=' then
      match cutAt? [d, ']'] r with
      | none => .error .openList
      | some (name, rest) =>
        if d = ':' then
          if (classOf? name).isSome then .ok (.named name, rest) else .error .className
        else
          match name with
          | [c] => if d = '=' then .ok (.named [c], rest) else .ok (.one c, rest)
          | _ => .error .collation
    else .ok (.one '[', d :: r)
  | '-' :: c :: r => if first || c = ']' then .ok (.one '-', c :: r) else .error .rangeEnd
  | c :: r => .ok (.one c, r)
  | [] => .error .openList

/-- a list with an element, or with all characters from one to another -/
def Members.with (m : Members) (e : BracketElement) : Members :=
  match e with
  | .one c => { m with ranges := (c, c) :: m.ranges }
  | .named [c] => { m with ranges := (c, c) :: m.ranges }
  | .named name => { m with named := name :: m.named }

/-- the members that a list goes on with up to its closing bracket, and what follows, in at most as
many steps as there are characters; `first` tells that there are none yet, where a closing bracket
is a member -/
def bracketMembers (m : Members) (first : Bool) : Nat → Text → Except RegexFault (Members × Text)
  | 0, _ => .error .openList
  | n + 1, t =>
    match t with
    | [] => .error .openList
    | c :: r =>
      if c = ']' ∧ !first then .ok (m, r)
      else do
        let (e, r) ← if c = ']' then .ok (.one c, r) else bracketElement first t
        match e, r with
        | .one a, '-' :: d :: r' =>
          if d = ']' then bracketMembers (m.with e) false n r
          else do
            let (f, r) ← bracketElement true (d :: r')
            match f with
            | .one b =>
              if a ≤ b then bracketMembers { m with ranges := (a, b) :: m.ranges } false n r
              else .error .rangeEnd
            | .named _ => .error .rangeEnd
        | .named _, '-' :: d :: _ =>
          if d = ']' then bracketMembers (m.with e) false n r else .error .rangeEnd
        | _, _ => bracketMembers (m.with e) false n r

def isBareClass (t : Text) : Bool :=
  t.head? == some ':' && t.getLast? == some ':' && t.any (· != ':')
    && !t.contains '[' && !(t.drop 1).dropLast.contains '-'

def bracketList (t : Text) : Except RegexFault (Members × Text) := do
  let (excluded, r) := match t with
    | '^' :: r => (true, r)
    | _ => (false, t)
  if r = [] then .error .invalid
  else
    let (m, rest) ← bracketMembers ⟨excluded, [], []⟩ true (r.length + 1) r
    if isBareClass (r.take (r.length - rest.length - 1)) then .error .bareClass
    else .ok (m, rest)

/-! ## reading -/

/-- the pieces of a notation: characters, operators and the classes that letters stand for -/
inductive RegexToken where
  | char (c : Char)
  | any
  | list (members : Members)
  | caret
  | dollar
  | whole (start : Bool)
  | border (start finish : Bool)
  | inside
  | star
  | plus
  | maybe
  | counting
  | counted
  | bar
  | opening
  | closing
  | again (n : Nat)

def wordMembers (excluded : Bool) : Members := ⟨excluded, [('_', '_')], ["alnum".toList]⟩

def spaceMembers (excluded : Bool) : Members := ⟨excluded, [], ["space".toList]⟩

/-- the piece that a character after a backslash is -/
def escapedToken (extended : Bool) (c : Char) : RegexToken :=
  match c with
  | 'w' => .list (wordMembers false)
  | 'W' => .list (wordMembers true)
  | 's' => .list (spaceMembers false)
  | 'S' => .list (spaceMembers true)
  | 'b' => .border true true
  | 'B' => .inside
  | '<' => .border true false
  | '>' => .border false true
  | '`' => .whole true
  | '\x27' => .whole false
  | _ =>
    if c.isDigit ∧ c ≠ '0' then .again (c.toNat - 48)
    else if extended then .char c
    else
      match c with
      | '(' => .opening
      | ')' => .closing
      | '|' => .bar
      | '+' => .plus
      | '?' => .maybe
      | '\x7b' => .counting
      | '\x7d' => .counted
      | _ => .char c

/-- the piece that a character alone is, if it is no bracket -/
def plainToken (extended : Bool) (c : Char) : RegexToken :=
  match c with
  | '.' => .any
  | '*' => .star
  | '^' => .caret
  | '$' => .dollar
  | _ =>
    if !extended then .char c
    else
      match c with
      | '+' => .plus
      | '?' => .maybe
      | '|' => .bar
      | '(' => .opening
      | ')' => .closing
      | '\x7b' => .counting
      | '\x7d' => .counted
      | _ => .char c

/-- the pieces of a text, when `skip` more characters belong to the last one -/
def regexTokens (extended : Bool) : Nat → Text → Except RegexFault (List RegexToken)
  | _, [] => .ok []
  | skip + 1, _ :: r => regexTokens extended skip r
  | 0, c :: r =>
    if c = '\\' then
      match r with
      | [] => .error .backslash
      | d :: _ => (regexTokens extended 1 r).map (escapedToken extended d :: ·)
    else if c = '[' then do
      let (m, rest) ← bracketList r
      (regexTokens extended (r.length - rest.length) r).map (.list m :: ·)
    else (regexTokens extended 0 r).map (plainToken extended c :: ·)

def greatestCount : Nat := 32767

def RegexToken.endsNumber : RegexToken → Bool
  | counted => true
  | char c => c == ','
  | _ => false

/-- the number that some pieces are, where no piece is none -/
def numberOf? (ts : List RegexToken) : Option (Option Nat) :=
  let digits := ts.filterMap fun
    | .char c => some c
    | _ => none
  if ts.isEmpty then some none
  else if digits.length < ts.length then none
  else (number? digits).map some

/-- the counts that some pieces begin with, after the opening brace, and what follows; the truth
value beside a fault tells that a lenient notation overlooks it -/
def counts (ts : List RegexToken) :
    Except (RegexFault × Bool) (Nat × Option Nat × List RegexToken) :=
  let first := ts.takeWhile fun k => !k.endsNumber
  let later := ts.drop first.length
  let second := (later.drop 1).takeWhile fun k => !k.endsNumber
  let last := later.drop (second.length + 1)
  let checked := fun (least : Nat) (most : Option Nat) (r : List RegexToken) =>
    if most.any (· < least) then .error (.count, false)
    else if greatestCount < most.getD least then .error (.tooBig, false)
    else .ok (least, most, r)
  match later, numberOf? first with
  | [], _ => .error (.openCount, true)
  | _, none => .error (.count, true)
  | .counted :: r, some (some n) => checked n (some n) r
  | .counted :: _, some none => .error (.count, false)
  | _, some least =>
    match last, numberOf? second with
    | [], _ => .error (.openCount, true)
    | _, none => .error (.count, true)
    | .counted :: r, some most => checked (least.getD 0) most r
    | _, _ => .error (.count, false)

structure RegexGroups where
  opened : Nat
  closed : List Nat

abbrev RegexParsed := Except RegexFault (Regex × List RegexToken × RegexGroups)

/-- whether a dollar sign before some pieces stands for the end of a text -/
def endsHere (extended : Bool) : List RegexToken → Bool
  | [] => true
  | .closing :: _ => true
  | .bar :: _ => true
  | _ => extended

/-- an expression with the repetitions that follow it; a strict basic notation takes only one with
a star or a count -/
def readRepeats (k : RegexStyle) : Nat → Regex → List RegexToken →
    Except RegexFault (Regex × List RegexToken)
  | 0, a, ts => .ok (a, ts)
  | n + 1, a, ts =>
    let go := fun (least : Nat) (most : Option Nat) (ts : List RegexToken) =>
      match k.strict && !k.extended, ts with
      | true, .star :: _ => .error .nothingBefore
      | true, .counting :: _ => .error .nothingBefore
      | _, _ => readRepeats k n (.repeated a least most) ts
    match ts with
    | .star :: ts => go 0 none ts
    | .plus :: ts => go 1 none ts
    | .maybe :: ts => go 0 (some 1) ts
    | .counting :: ts =>
      match counts ts with
      | .ok (least, most, ts) => go least most ts
      | .error (f, overlooked) =>
        if overlooked && k.extended && !k.strict then .ok (.both a (.char '\x7b'), ts)
        else .error f
    | _ => .ok (a, ts)

mutual

def readEither (k : RegexStyle) : Nat → Nat → RegexGroups → List RegexToken → RegexParsed
  | 0, _, _, _ => .error .openGroup
  | n + 1, depth, gs, ts => do
    let (a, ts, gs) ← readBoth k n depth gs true .nothing ts
    match ts with
    | .bar :: ts =>
      let (b, ts, gs) ← readEither k n depth gs ts
      .ok (.either a b, ts, gs)
    | _ => .ok (a, ts, gs)

/-- pieces one after the other, with those before them; `front` tells that there are none -/
def readBoth (k : RegexStyle) : Nat → Nat → RegexGroups → Bool → Regex → List RegexToken →
    RegexParsed
  | 0, _, _, _, _, _ => .error .openGroup
  | n + 1, depth, gs, front, before, ts =>
    let go := fun (a : Regex) (gs : RegexGroups) (ts : List RegexToken) => do
      let (a, ts) ← readRepeats k (ts.length + 1) a ts
      readBoth k n depth gs false (.both before a) ts
    let plain := fun (a : Regex) (ts : List RegexToken) => go a gs ts
    let anchor := fun (a : Regex) (ts : List RegexToken) =>
      readBoth k n depth gs false (.both before a) ts
    let misplaced := fun (c : Char) (ts : List RegexToken) =>
      if !k.extended then plain (.char c) ts
      else if k.strict then .error .nothingBefore
      else readBoth k n depth gs front before ts
    match ts with
    | [] => if depth = 0 then .ok (before, [], gs) else .error .openGroup
    | .bar :: _ => .ok (before, ts, gs)
    | .closing :: r =>
      if depth ≠ 0 then .ok (before, ts, gs)
      else if k.extended && !k.strict then plain (.char ')') r
      else .error .closedGroup
    | .opening :: r => do
      let here := gs.opened + 1
      let (a, r, gs) ← readEither k n (depth + 1) { gs with opened := here } r
      match r with
      | .closing :: r => go (.group here a) { gs with closed := here :: gs.closed } r
      | _ => .error .openGroup
    | .char c :: r => plain (.char c) r
    | .any :: r => plain .any r
    | .list m :: r => plain (.among m) r
    | .border s f :: r => anchor (.border s f) r
    | .inside :: r => anchor .inside r
    | .whole true :: r => anchor (.start true) r
    | .whole false :: r => anchor (.finish true) r
    | .again i :: r => if i ∈ gs.closed then plain (.again i) r else .error .reference
    | .caret :: r =>
      if k.extended || front then anchor (.start false) r else plain (.char '^') r
    | .dollar :: r =>
      if endsHere k.extended r then anchor (.finish false) r else plain (.char '$') r
    | .star :: r => misplaced '*' r
    | .plus :: r => misplaced '+' r
    | .maybe :: r => misplaced '?' r
    | .counted :: r => plain (.char '\x7d') r
    | .counting :: r =>
      if k.strict then .error .nothingBefore
      else if !k.extended then plain (.char '\x7b') r
      else
        match counts r with
        | .ok (_, _, r) => readBoth k n depth gs front before r
        | .error (f, overlooked) => if overlooked then plain (.char '\x7b') r else .error f

end

/-- the repetitions of nothing in an expression, as they are shown; `front` tells that nothing
comes before -/
def misplacedRepeats (front : Bool) : List RegexToken → List Text
  | [] => []
  | t :: ts =>
    let here := fun (x : String) => if front then [x.toList] else []
    match t with
    | .star => here "*" ++ misplacedRepeats front ts
    | .plus => here "+" ++ misplacedRepeats front ts
    | .maybe => here "?" ++ misplacedRepeats front ts
    | .counting =>
      (if front && (counts ts).toOption.isSome then ["\x7b...\x7d".toList] else [])
        ++ misplacedRepeats false ts
    | .caret => misplacedRepeats front ts
    | .bar => misplacedRepeats true ts
    | .opening => misplacedRepeats true ts
    | _ => misplacedRepeats false ts

/-- an expression with the number of its groups, and the repetitions of nothing in it -/
structure ParsedRegex where
  regex : Regex
  groups : Nat
  misplaced : List Text

def Regex.parse (k : RegexStyle) (t : Text) : Except RegexFault ParsedRegex := do
  let ts ← regexTokens k.extended 0 t
  let (a, rest, gs) ← readEither k (3 * ts.length + 3) 0 ⟨0, []⟩ ts
  match rest with
  | [] => .ok ⟨a, gs.opened, if k.extended then misplacedRepeats true ts else []⟩
  | _ => .error .closedGroup

def Regex.exactly (t : Text) : Regex := t.foldl (fun r c => .both r (.char c)) .nothing

/-! ## matching -/

structure Spot where
  before : Option Char
  rest : Text
  groups : List (Nat × Text)

def Spot.forward (s : Spot) (n : Nat) : Spot :=
  { s with
    before := if n = 0 then s.before else s.rest[n - 1]?
    rest := s.rest.drop n }

def distinctSpots : List Spot → List Spot
  | [] => []
  | s :: ss => s :: (distinctSpots ss).filter fun r => r.rest.length ≠ s.rest.length

/-- the places after as many rounds as there can be, the longest way first; a round that moves no
place is the last one, and where rounds have no greatest number only the first one can be such -/
def rounds (step : Spot → List Spot) : Nat → Bool → Nat → Option Nat → Spot → List Spot
  | 0, _, _, _, s => [s]
  | n + 1, begun, least, most, s =>
    if most = some 0 then [s]
    else
      let ends := step s
      let further := ends.flatMap fun r =>
        if r.rest.length = s.rest.length then
          if least ≤ 1 ∧ !(begun && most.isNone) then [r] else []
        else rounds step n true (least - 1) (most.map (· - 1)) r
      let stays := least = 0 || ends.any fun r => r.rest.length = s.rest.length
      distinctSpots (further ++ if stays then [s] else [])

structure Sight where
  caseless : Bool
  manyLines : Bool
  deriving DecidableEq, Repr

def isWordChar (c : Char) : Bool := isVariableChar c

def Sight.same (k : Sight) (a b : Char) : Bool :=
  a == b || (k.caseless && a.toLower == b.toLower)

def Regex.spots (k : Sight) : Regex → Spot → List Spot
  | nothing, s => [s]
  | char c, s => if s.rest.head?.any (k.same c) then [s.forward 1] else []
  | any, s => if s.rest ≠ [] then [s.forward 1] else []
  | among m, s =>
    let fits := fun (c : Char) =>
      m.has c || (k.caseless && (m.has c.toLower || m.has c.toUpper))
    if s.rest.head?.any fits then [s.forward 1] else []
  | start whole, s =>
    if s.before.isNone || (k.manyLines && !whole && s.before == some '\n') then [s] else []
  | finish whole, s =>
    if s.rest.isEmpty || (k.manyLines && !whole && s.rest.head? == some '\n') then [s] else []
  | border first last, s =>
    let b := s.before.any isWordChar
    let a := s.rest.head?.any isWordChar
    if (first && !b && a) || (last && b && !a) then [s] else []
  | inside, s => if s.before.any isWordChar == s.rest.head?.any isWordChar then [s] else []
  | both a b, s => distinctSpots ((a.spots k s).flatMap (b.spots k))
  | either a b, s => distinctSpots (a.spots k s ++ b.spots k s)
  | repeated a least most, s => rounds (a.spots k) (s.rest.length + least + 1) false least most s
  | group n a, s =>
    (a.spots k s).map fun r =>
      { r with groups := (n, s.rest.take (s.rest.length - r.rest.length)) :: r.groups }
  | again n, s =>
    match s.groups.lookup n with
    | none => []
    | some t =>
      let u := s.rest.take t.length
      if u.length = t.length ∧ (t.zip u).all (fun p => k.same p.1 p.2) then [s.forward t.length]
      else []

/-- a match: the text before it, the match itself, what follows, and what its groups have matched -/
structure Match where
  before : Text
  text : Text
  after : Text
  groups : List (Nat × Text)

def Regex.longest? (r : Regex) (k : Sight) (s : Spot) : Option Spot :=
  (r.spots k s).foldl (fun best e =>
    match best with
    | none => some e
    | some b => if e.rest.length < b.rest.length then some e else some b) none

/-- the first match at or after a place in a text of which `passed` comes before it, its last
character first -/
def Regex.findFrom? (r : Regex) (k : Sight) (passed : Text) (before : Option Char) :
    Text → Option Match
  | [] =>
    (r.longest? k ⟨before, [], []⟩).map fun e => ⟨passed.reverse, [], [], e.groups⟩
  | c :: t =>
    match r.longest? k ⟨before, c :: t, []⟩ with
    | some e =>
      some ⟨passed.reverse, (c :: t).take (t.length + 1 - e.rest.length), e.rest, e.groups⟩
    | none => r.findFrom? k (c :: passed) (some c) t

def Regex.find? (r : Regex) (k : Sight) (before : Option Char) (t : Text) : Option Match :=
  r.findFrom? k [] before t

end Shell
end CoroBridge
