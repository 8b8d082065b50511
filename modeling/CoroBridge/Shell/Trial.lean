import CoroBridge.Shell.Octet

/-!
# Command language: expressions that are tried in order

Regular expressions whose ways to match are tried one after the other, so that the first way counts
and not the longest one. They can look around, be shy or grasping, and refer to what was matched.

* `Trial`              the expressions;
* `Trial.Spot`         a place in a text, with what the groups have matched before it;
* `Trial.run`          the first way to match from a place, such that what follows matches too;
* `Trial.Notation`     how expressions are written;
* `Trial.parse`        the expression that a text is;
* `Trial.find?`        the first match in a text.
-/

namespace CoroBridge
namespace Shell

inductive TrialEdge where
  | start
  | lineStart
  | fullLine
  | finish
  | lastLine
  | lineEnd
  | border
  | inside
  | here
  deriving DecidableEq, Repr

inductive Trial where
  | nothing
  | one (fits : Char → Bool)
  | edge (e : TrialEdge)
  | both (a b : Trial)
  | either (a b : Trial)
  | repeated (a : Trial) (least : Nat) (most : Option Nat) (greedy : Bool)
  | group (n : Nat) (a : Trial)
  | again (n : Nat) (caseless : Bool)
  | look (ahead wanted : Bool) (a : Trial)
  | alone (a : Trial)
  | keep

namespace Trial

structure Spot where
  position : Nat
  passed : Text
  rest : Text
  groups : List (Nat × Nat × Text)
  kept : Option Nat

def Spot.forward (s : Spot) : Spot :=
  match s.rest with
  | [] => s
  | c :: r => { s with position := s.position + 1, passed := c :: s.passed, rest := r }

def Spot.onward (s : Spot) : Nat → Spot
  | 0 => s
  | n + 1 => s.forward.onward n

def Spot.backward (s : Spot) : Nat → Spot
  | 0 => s
  | n + 1 =>
    match s.passed with
    | [] => s
    | c :: p =>
      Spot.backward { s with position := s.position - 1, passed := p, rest := c :: s.rest } n

def isWord (c : Char) : Bool := isVariableChar c || 0xAA ≤ c.toNat && c.toNat ≠ 0xD7
  && c.toNat ≠ 0xF7 && (c.toNat < 0x2000 || 0x2070 < c.toNat)

/-- whether a place is one of a kind, where `word` tells the characters of words -/
def Spot.isAt (s : Spot) (word : Char → Bool) (begun : Nat) : TrialEdge → Bool
  | .start => s.position == 0
  | .lineStart => s.position == 0 || s.passed.head? == some '\n'
  | .fullLine => s.position == 0 || (s.passed.head? == some '\n' && s.rest != [])
  | .finish => s.rest == []
  | .lastLine => s.rest == [] || s.rest == ['\n']
  | .lineEnd => s.rest == [] || s.rest.head? == some '\n'
  | .border => s.passed.head?.any word != s.rest.head?.any word
  | .inside => s.passed.head?.any word == s.rest.head?.any word
  | .here => s.position == begun

/-- the places after as many characters of a kind as there are, at most so many, the last one
first -/
def runOf (fits : Char → Bool) : Nat → Spot → List Spot → List Spot
  | 0, s, ss => s :: ss
  | n + 1, s, ss =>
    match s.rest with
    | [] => s :: ss
    | c :: _ => if fits c then runOf fits n s.forward (s :: ss) else s :: ss

/-- the rounds of a repetition: `step` is one round, and what follows is tried after as many as
there can be, or as few -/
def rounds (step : Spot → (Spot → Option Spot) → Option Spot) (greedy : Bool) :
    Nat → Nat → Option Nat → Spot → (Spot → Option Spot) → Option Spot
  | 0, _, _, s, next => next s
  | n + 1, least, most, s, next =>
    let more := fun (_ : Unit) =>
      if most = some 0 then none
      else
        step s fun r =>
          if r.position = s.position ∧ least = 0 then none
          else rounds step greedy n (least - 1) (most.map (· - 1)) r next
    if least ≠ 0 then more ()
    else if greedy then
      match more () with
      | some e => some e
      | none => next s
    else
      match next s with
      | some e => some e
      | none => more ()

def run (word : Char → Bool) (begun : Nat) :
    Trial → Spot → (Spot → Option Spot) → Option Spot
  | nothing, s, next => next s
  | one fits, s, next =>
    match s.rest with
    | [] => none
    | c :: _ => if fits c then next s.forward else none
  | edge e, s, next => if s.isAt word begun e then next s else none
  | both a b, s, next => run word begun a s fun r => run word begun b r next
  | either a b, s, next =>
    match run word begun a s next with
    | some e => some e
    | none => run word begun b s next
  | repeated a least most greedy, s, next =>
    match a with
    | one fits =>
      let ends := runOf fits (most.getD s.rest.length) s []
      let ends := ends.take (ends.length - least)
      (if greedy then ends else ends.reverse).findSome? next
    | a => rounds (run word begun a) greedy (s.rest.length + least + 2) least most s next
  | group n a, s, next =>
    run word begun a s fun r =>
      let t := s.rest.take (r.position - s.position)
      next { r with groups := (n, s.position, t) :: r.groups }
  | again n caseless, s, next =>
    match s.groups.lookup n with
    | none => none
    | some (_, t) =>
      let u := s.rest.take t.length
      let same := fun (p : Char × Char) =>
        p.1 == p.2 || (caseless && p.1.toLower == p.2.toLower)
      if u.length = t.length ∧ (t.zip u).all same then
        next (t.foldl (fun (s : Spot) _ => s.forward) s)
      else none
  | look ahead wanted a, s, next =>
    let found :=
      if ahead then run word begun a s some
      else (List.range (s.position + 1)).findSome? fun k =>
        run word begun a (s.backward k) fun r => if r.position = s.position then some r else none
    match found with
    | some r => if wanted then next { s with groups := r.groups } else none
    | none => if wanted then none else next s
  | alone a, s, next =>
    match run word begun a s some with
    | some r => next r
    | none => none
  | keep, s, next => next { s with kept := some s.position }

/-! ## notation -/

structure Notation where
  caseless : Bool
  manyLines : Bool
  wholeText : Bool
  spaced : Bool
  wide : Bool
  strict : Bool

def Notation.plain : Notation := ⟨false, false, false, false, false, false⟩

inductive Refusal where
  | openGroup
  | closedGroup
  | openList
  | nothingToRepeat
  | nested
  | backslash
  | range (t : Text)
  | unknownGroup (t : Text)
  | unknownExtension (t : Text)
  | unknownClass (t : Text)
  | escape (c : Char)
  deriving DecidableEq, Repr

abbrev Refused := Refusal × Nat

structure Known where
  groups : Nat
  names : List (Text × Nat)

abbrev Reading := StateT Known (Except Refused)

def refuse {α : Type} (r : Refusal) (t : Text) : Reading α := throw (r, t.length)

def Notation.isGap (k : Notation) (c : Char) : Bool :=
  isSpace c || (k.wide && (c.toNat == 0x85 || c.toNat == 0xA0 || c.toNat == 0x3000
    || (0x2000 ≤ c.toNat && c.toNat ≤ 0x200A) || c.toNat == 0x2028 || c.toNat == 0x2029
    || (0x1C ≤ c.toNat && c.toNat ≤ 0x1F)))

def Notation.isWord (k : Notation) (c : Char) : Bool :=
  if k.wide then Trial.isWord c else isVariableChar c

/-- the kind of characters that a letter after a backslash stands for -/
def Notation.kind? (k : Notation) (c : Char) : Option (Char → Bool) :=
  match c with
  | 'd' => some Char.isDigit
  | 'D' => some fun c => !c.isDigit
  | 'w' => some k.isWord
  | 'W' => some fun c => !k.isWord c
  | 's' => some k.isGap
  | 'S' => some fun c => !k.isGap c
  | c => if k.strict then none else moreKinds c
where
  /-- the kinds that not all notations know -/
  moreKinds : Char → Option (Char → Bool)
    | 'h' => some isBlank
    | 'H' => some fun c => !isBlank c
    | 'v' => some fun c => 10 ≤ c.toNat && c.toNat ≤ 13
    | 'V' => some fun c => !(10 ≤ c.toNat && c.toNat ≤ 13)
    | 'N' => some fun c => c != '\n'
    | _ => none

/-- the character that an escape stands for when a text follows its backslash, and what follows it -/
def escaped (t : Text) : Char × Text :=
  match t with
  | [] => ('\\', [])
  | 'n' :: r => ('\n', r)
  | 't' :: r => ('\t', r)
  | 'r' :: r => ('\r', r)
  | 'f' :: r => ('\x0c', r)
  | 'v' :: r => ('\x0b', r)
  | 'e' :: r => ('\x1b', r)
  | 'a' :: r => ('\x07', r)
  | 'x' :: '\x7b' :: r =>
    let h := r.takeWhile (· != '\x7d')
    (Char.ofNat (digitRun 16 h).1, r.drop (h.length + 1))
  | 'x' :: r =>
    let (n, digits) := digitRun 16 (r.take 2)
    (Char.ofNat n, r.drop digits)
  | 'u' :: r =>
    let (n, digits) := digitRun 16 (r.take 4)
    (Char.ofNat n, r.drop digits)
  | 'c' :: c :: r => (Char.ofNat (c.toUpper.toNat ^^^ 64), r)
  | '0' :: r =>
    let (n, digits) := octalRun 2 r
    (Char.ofNat n, r.drop digits)
  | c :: r => (c, r)

/-- the character of an escape in a list, where all numbers are in base eight -/
def escapedMember (t : Text) : Char × Text :=
  match t with
  | 'b' :: r => ('\x08', r)
  | t =>
    let (v, digits) := octalRun 3 t
    if digits = 0 then escaped t else (Char.ofNat v, t.drop digits)

def Notation.only (k : Notation) (c : Char) : Char → Bool :=
  if k.caseless then fun d => d == c || d.toLower == c.toLower else fun d => d == c

def Notation.within (k : Notation) (a b : Char) : Char → Bool :=
  let fits := fun (c : Char) => a ≤ c && c ≤ b
  if k.caseless then fun c => fits c || fits c.toLower || fits c.toUpper else fits

/-- a member of a list, where a class is no single character, and what follows -/
def member? (k : Notation) : Text → Option (Char × Text)
  | [] => none
  | '[' :: ':' :: _ => none
  | ']' :: _ => none
  | '\\' :: c :: r => if (k.kind? c).isSome then none else some (escapedMember (c :: r))
  | c :: r => some (c, r)

/-- the members of a list in brackets up to the closing one, and what follows -/
def members (k : Notation) : Nat → Bool → (Char → Bool) → Text → Reading ((Char → Bool) × Text)
  | 0, _, _, t => refuse .openList t
  | n + 1, first, found, t => do
    let add := fun (f : Char → Bool) (r : Text) =>
      members k n false (fun c => found c || f c) r
    match t with
    | [] => refuse .openList t
    | '[' :: ':' :: r =>
      match if k.strict then none else cutAt? ":]" r with
      | some (name, rest) =>
        let (no, name) := match name with
          | '^' :: name => (true, name)
          | name => (false, name)
        match if name = "word".toList then some isVariableChar else classOf? name with
        | some f => add (fun c => f c != no) rest
        | none => refuse (.unknownClass name) rest
      | none => add (· == '[') (':' :: r)
    | ']' :: r => if first then add (· == ']') r else return (found, r)
    | '\\' :: c :: r =>
      match k.kind? c with
      | some f => add f r
      | none => single n add (escapedMember (c :: r))
    | c :: r => single n add (c, r)
where
  /-- a member, or all from one to another -/
  single (_ : Nat) (add : (Char → Bool) → Text → Reading ((Char → Bool) × Text))
      (m : Char × Text) : Reading ((Char → Bool) × Text) :=
    let (a, r) := m
    match r with
    | '-' :: r' =>
      match member? k r' with
      | some (b, r'') =>
        if b < a then refuse (.range [a, '-', b]) r'' else add (k.within a b) r''
      | none => add (k.only a) r
    | _ => add (k.only a) r

/-- the counts in braces that a text begins with, after the opening brace, and what follows -/
def counts? (k : Notation) (t : Text) : Option (Nat × Option Nat × Text) :=
  let least := t.takeWhile Char.isDigit
  match t.drop least.length with
  | '\x7d' :: r => (number? least).map fun n => (n, some n, r)
  | ',' :: r =>
    let most := r.takeWhile Char.isDigit
    match r.drop most.length with
    | '\x7d' :: r =>
      if least = [] ∧ (most = [] ∨ !k.strict) then none
      else some ((number? least).getD 0, number? most, r)
    | _ => none
  | _ => none

/-- the counts of a repetition that a text begins with, and what follows -/
def repetition? (k : Notation) : Text → Option (Nat × Option Nat × Text)
  | '*' :: r => some (0, none, r)
  | '+' :: r => some (1, none, r)
  | '?' :: r => some (0, some 1, r)
  | '\x7b' :: r => counts? k r
  | _ => none

/-- what follows blanks and remarks, where they mean nothing -/
def skipSpaced (k : Notation) : Nat → Text → Text
  | 0, t => t
  | n + 1, t =>
    if !k.spaced then t
    else
      match t with
      | '#' :: r => skipSpaced k n (r.dropWhile (· != '\n'))
      | c :: r => if isSpace c then skipSpaced k n r else t
      | [] => []

/-- a piece with the repetition that follows it, and what follows that -/
def repeats (k : Notation) (a : Trial) (t : Text) : Reading (Trial × Text) := do
  let t := skipSpaced k t.length t
  match repetition? k t with
  | none => return (a, t)
  | some (least, most, r) =>
    let (b, r) := match r with
      | '?' :: r => (repeated a least most false, r)
      | '+' :: r => (alone (repeated a least most true), r)
      | r => (repeated a least most true, r)
    if (repetition? k r).isSome then refuse .nested r else return (b, r)

/-- a notation with differences turned on and off by letters, and what follows them -/
def flagged (k : Notation) (on : Bool) : Text → Notation × Text
  | 'i' :: r => flagged { k with caseless := on } on r
  | 'm' :: r => flagged { k with manyLines := on } on r
  | 's' :: r => flagged { k with wholeText := on } on r
  | 'x' :: r => flagged { k with spaced := on } on r
  | 'a' :: r => flagged k on r
  | 'u' :: r => flagged k on r
  | 'l' :: r => flagged k on r
  | 'n' :: r => flagged k on r
  | '^' :: r =>
    flagged { k with caseless := false, manyLines := false, wholeText := false, spaced := false }
      on r
  | '-' :: r => flagged k false r
  | r => (k, r)

def groupOf (name : Text) (t : Text) : Reading Nat := do
  match number? name, name with
  | some n, _ => return n
  | none, '-' :: d =>
    match number? d with
    | some n => return (← get).groups + 1 - n
    | none => refuse (.unknownGroup name) t
  | none, _ =>
    match (← get).names.lookup name with
    | some n => return n
    | none => refuse (.unknownGroup name) t

/-- the kind of characters that a property names -/
def Notation.property (k : Notation) (name : Text) : Char → Bool :=
  let isLetter := fun (c : Char) => k.isWord c && c != '_' && !c.isDigit
  match String.ofList name with
  | "L" => isLetter
  | "Letter" => isLetter
  | "Alpha" => isLetter
  | "Alphabetic" => isLetter
  | "N" => Char.isDigit
  | "Nd" => Char.isDigit
  | "Digit" => Char.isDigit
  | "Lu" => Char.isUpper
  | "Upper" => Char.isUpper
  | "Uppercase" => Char.isUpper
  | "Ll" => Char.isLower
  | "Lower" => Char.isLower
  | "Lowercase" => Char.isLower
  | "Space" => k.isGap
  | "Word" => k.isWord
  | "Alnum" => fun c => isLetter c || c.isDigit
  | "P" => fun c => isPunctuation c && !"$+<=>^\x60|~".toList.contains c
  | "Punct" => fun c => isPunctuation c && !"$+<=>^\x60|~".toList.contains c
  | "S" => "$+<=>^\x60|~".toList.contains
  | "ASCII" => fun c => c.toNat < 128
  | _ => fun _ => false

/-- the kind of characters that a property stands for whose name a text begins with, perhaps between
braces, and what follows -/
def Notation.propertyAt (k : Notation) (t : Text) : (Char → Bool) × Text :=
  match t with
  | '\x7b' :: r =>
    let name := r.takeWhile (· != '\x7d')
    let rest := r.drop (name.length + 1)
    match name with
    | '^' :: name => (fun c => !k.property name c, rest)
    | name => (k.property ((Text.after? "Is" name).getD name), rest)
  | c :: r => (k.property [c], r)
  | [] => (fun _ => false, [])

/-- a list after its opening bracket, which is where complaints about a missing end are; `first` is
where its members begin -/
def listAt (k : Notation) (first t : Text) : Reading ((Char → Bool) × Text) :=
  tryCatch (members k (first.length + 1) true (fun _ => false) first) fun e =>
    match e with
    | (.openList, _) => refuse .openList t
    | e => throw e

def strictLetters : Text := "abfnrtuUxvABdDsSwWZ"

/-- an escape outside of lists: the piece, and what follows -/
def escapedPiece (k : Notation) (t : Text) : Reading (Trial × Text) := do
  match t with
  | [] => refuse .backslash t
  | c :: r =>
    if k.strict && c.isAlpha && !strictLetters.contains c then refuse (.escape c) t
    match k.kind? c with
    | some f => return (one f, r)
    | none =>
      match c with
      | 'p' =>
        let (f, r) := k.propertyAt r
        return (one f, r)
      | 'P' =>
        let (f, r) := k.propertyAt r
        return (one fun c => !f c, r)
      | 'A' => return (edge .start, r)
      | 'z' => return (edge .finish, r)
      | 'Z' => return (edge (if k.strict then .finish else .lastLine), r)
      | 'b' => return (edge .border, r)
      | 'B' => return (edge .inside, r)
      | 'G' => return (edge .here, r)
      | 'K' => return (keep, r)
      | 'R' =>
        return (either (both (one (· == '\r')) (one (· == '\n')))
          (one fun c => 10 ≤ c.toNat && c.toNat ≤ 13), r)
      | 'E' => return (nothing, r)
      | 'k' =>
        let closing := match r.head? with
          | some '\x7b' => '\x7d'
          | some '<' => '>'
          | c => c.getD '>'
        let name := (r.drop 1).takeWhile (· != closing)
        return (again (← groupOf name r) k.caseless, r.drop (name.length + 2))
      | 'g' =>
        match r with
        | '\x7b' :: r =>
          let name := r.takeWhile (· != '\x7d')
          return (again (← groupOf name r) k.caseless, r.drop (name.length + 1))
        | r =>
          let name := r.takeWhile fun c => c.isDigit || c == '-'
          return (again (← groupOf name r) k.caseless, r.drop name.length)
      | _ =>
        if c.isDigit ∧ c ≠ '0' then
          let d := t.takeWhile Char.isDigit
          let n := digitsValue d
          if d.length = 1 ∨ n ≤ (← get).groups then return (again n k.caseless, t.drop d.length)
          else
            let (c, r) := escapedMember t
            return (one (k.only c), r)
        else
          let (c, r) := escaped t
          return (one (k.only c), r)

mutual

/-- alternatives up to the end or a closing bracket, and what follows -/
def alternatives (k : Notation) : Nat → Text → Reading (Trial × Text)
  | 0, t => refuse .openGroup t
  | n + 1, t => do
    let (a, r) ← sequence k n nothing t
    match r with
    | '|' :: r =>
      let (b, r) ← alternatives k n r
      return (either a b, r)
    | _ => return (a, r)

def sequence (k : Notation) : Nat → Trial → Text → Reading (Trial × Text)
  | 0, _, t => refuse .openGroup t
  | n + 1, before, t => do
    let t := skipSpaced k t.length t
    let go := fun (a : Trial) (r : Text) => do
      let (a, r) ← repeats k a r
      sequence k n (both before a) r
    match t with
    | [] => return (before, [])
    | '|' :: _ => return (before, t)
    | ')' :: _ => return (before, t)
    | '(' :: r => bracket k n before r
    | '[' :: '^' :: r =>
      let (f, r) ← listAt k r ('^' :: r)
      go (one fun c => !f c) r
    | '[' :: r =>
      let (f, r) ← listAt k r r
      go (one f) r
    | '\\' :: r =>
      let (a, r) ← escapedPiece k r
      go a r
    | '.' :: r => go (one (if k.wholeText then fun _ => true else fun c => c != '\n')) r
    | '^' :: r =>
      go (edge (if !k.manyLines then .start else if k.strict then .lineStart else .fullLine)) r
    | '$' :: r => go (edge (if k.manyLines then .lineEnd else .lastLine)) r
    | c :: r =>
      if (repetition? k t).isSome then refuse .nothingToRepeat t else go (one (k.only c)) r

/-- a group after its opening bracket, and the pieces after it -/
def bracket (k : Notation) : Nat → Trial → Text → Reading (Trial × Text)
  | 0, _, t => refuse .openGroup t
  | n + 1, before, t => do
    let close := fun (wrap : Trial → Trial) (k' : Notation) (r : Text) => do
      let (a, r) ← alternatives k' n r
      match r with
      | ')' :: r =>
        let (a, r) ← repeats k (wrap a) r
        sequence k n (both before a) r
      | _ => refuse .openGroup t
    let numbered := fun (name : Option Text) (r : Text) => do
      let s ← get
      let i := s.groups + 1
      set (Known.mk i (match name with | some x => (x, i) :: s.names | none => s.names))
      close (group i) k r
    let named := fun (closing : Char) (r : Text) => do
      let name := r.takeWhile (· != closing)
      numbered (some name) (r.drop (name.length + 1))
    match t with
    | '?' :: r =>
      match r with
      | ':' :: r => close (fun a => a) k r
      | '=' :: r => close (look true true) k r
      | '!' :: r => close (look true false) k r
      | '<' :: '=' :: r => close (look false true) k r
      | '<' :: '!' :: r => close (look false false) k r
      | '>' :: r => close alone k r
      | '#' :: r => sequence k n before ((r.dropWhile (· != ')')).drop 1)
      | 'P' :: '=' :: r =>
        let name := r.takeWhile (· != ')')
        let (a, r) ← repeats k (again (← groupOf name r) k.caseless) (r.drop (name.length + 1))
        sequence k n (both before a) r
      | 'P' :: '<' :: r => named '>' r
      | '<' :: r => named '>' r
      | '\x27' :: r => named '\x27' r
      | r =>
        let (k', r') := flagged k true r
        match r' with
        | ':' :: r' => close (fun a => a) k' r'
        | ')' :: r' => sequence k' n before r'
        | _ => refuse (.unknownExtension (r.take 1)) r
    | _ => numbered none t

end

/-- an expression, the number of its groups and their names -/
structure Parsed where
  trial : Trial
  groups : Nat
  names : List (Text × Nat)
  wide : Bool

def parse (k : Notation) (t : Text) : Except Refused Parsed := do
  let ((a, rest), s) ← (alternatives k (4 * t.length + 8) t).run ⟨0, []⟩
  match rest with
  | [] => .ok ⟨a, s.groups, s.names, k.wide⟩
  | _ => .error (.closedGroup, rest.length)

/-! ## searching -/

/-- a match: where it begins and ends, the match itself, and what its groups have matched, with
their places -/
structure Match where
  first : Nat
  last : Nat
  text : Text
  groups : List (Nat × Nat × Text)

def Parsed.word (p : Parsed) : Char → Bool := if p.wide then isWord else isVariableChar

/-- the match at a place, if there is one; an empty one at `barred` does not count -/
def Parsed.at? (p : Parsed) (begun : Nat) (barred : Option Nat) (s : Spot) : Option Match :=
  let final := fun (r : Spot) =>
    if some r.position = barred ∧ r.position = s.position then none else some r
  (run p.word begun p.trial s final).map fun r =>
    let first := r.kept.getD s.position
    ⟨first, r.position, (r.passed.take (r.position - first)).reverse, r.groups⟩

/-- the first match at or after a place, in at most so many steps -/
def Parsed.findFrom (p : Parsed) (begun : Nat) (barred : Option Nat) : Nat → Spot → Option Match
  | 0, _ => none
  | n + 1, s =>
    match p.at? begun barred s with
    | some m => some m
    | none => if s.rest = [] then none else p.findFrom begun barred n s.forward

def spotAt (t : Text) (k : Nat) : Spot := ⟨k, (t.take k).reverse, t.drop k, [], none⟩

def Parsed.find? (p : Parsed) (barred : Option Nat) (t : Text) (k : Nat) : Option Match :=
  p.findFrom k barred (t.length + 1) (spotAt t k)

def Match.group? (m : Match) (n : Nat) : Option Text :=
  if n = 0 then some m.text else (m.groups.lookup n).map Prod.snd

def Match.bars (m : Match) : Option Nat := if m.first = m.last then some m.last else none

/-- all matches from a spot on, in at most so many steps -/
def Parsed.allFrom (p : Parsed) : Nat → Option Nat → Spot → List Match
  | 0, _, _ => []
  | n + 1, barred, s =>
    match p.findFrom s.position barred (s.rest.length + 1) s with
    | none => []
    | some m => m :: allFrom p n m.bars (s.onward (m.last - s.position))

def Parsed.all (p : Parsed) (t : Text) : List Match :=
  p.allFrom (2 * t.length + 2) none (spotAt t 0)

end Trial
end Shell
end CoroBridge
