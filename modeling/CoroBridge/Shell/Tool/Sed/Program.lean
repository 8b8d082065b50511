import CoroBridge.Shell.Regex
import CoroBridge.Shell.Tool

/-!
# Command language: programs for lines

The programs of the tool `sed`: commands, each for some of the lines, and how texts are read as
such a program.

* `Address`, `Until`      the lines that a command is for;
* `Insert`, `Edit`        what commands do;
* `Order`                 a command with its addresses;
* `EditFault`             the reasons why a text is no program;
* `Editing`               a reader's step;
* `Editing.orders`        the commands of a text;
* `ordersOf`              the commands of all parts of a program.
-/

namespace CoroBridge
namespace Shell

/-! ## programs -/

structure Pattern where
  regex : Option Regex
  sight : Sight

inductive Address where
  | line (n : Nat)
  | last
  | pattern (p : Pattern)
  | every (first step : Nat)

inductive Until where
  | address (a : Address)
  | further (n : Nat)
  | multiple (n : Nat)

inductive CaseChange where
  | upper
  | lower
  | upperOne
  | lowerOne
  | off
  deriving DecidableEq, Repr

inductive Insert where
  | char (c : Char)
  | group (n : Nat)
  | change (c : CaseChange)
  deriving DecidableEq, Repr

/-- a substitution: what is looked for and what is put in, the first match that is replaced, whether
all further ones are, whether the line is printed, and a file that it is written to -/
structure Substitution where
  pattern : Pattern
  inserts : List Insert
  place : Nat
  all : Bool
  print : Bool
  file : Option Text

inductive Edit where
  | opening
  | closing
  | substitute (s : Substitution)
  | translate (source target : Text)
  | delete
  | deleteFirst
  | print
  | printFirst
  | next
  | join
  | hold
  | holdMore
  | fetch
  | fetchMore
  | exchange
  | number
  | name
  | clear
  | show (width : Option Nat)
  | quit (silently : Bool) (status : Nat)
  | insert (t : Text)
  | append (t : Text)
  | change (t : Text)
  | readFile (path : Text)
  | readLine (path : Text)
  | writeFile (path : Text)
  | writeLine (path : Text)
  | label (name : Text)
  | jump (name : Text)
  | jumpIf (replaced : Bool) (name : Text)
  | nothing

structure Order where
  first : Option Address
  last : Option Until
  negated : Bool
  edit : Edit

def Edit.files : Edit → List Text
  | substitute s => s.file.toList
  | writeFile p => [p]
  | writeLine p => [p]
  | _ => []

inductive EditFault where
  | unknown (c : Char)
  | missing
  | unfinished (c : Char)
  | badOption
  | twice (what : Text)
  | noPlace
  | address
  | lengths
  | opened
  | closed
  | comma
  | leading
  | lineZero
  | marks
  | extra
  | noText
  | closingAddress
  | labelAddress
  | commentAddress
  | unnamed
  | oneAddress
  | noFile
  | forbidden
  | version
  | modifiers
  | noPattern
  | reference (n : Nat)
  | regex (f : RegexFault)
  deriving DecidableEq, Repr

def EditFault.message : EditFault → Text
  | unknown c => "unknown command: `" ++ [c] ++ "'"
  | missing => "missing command"
  | unfinished c => "unterminated `" ++ [c] ++ "' command"
  | badOption => "unknown option to `s'"
  | twice what => "multiple " ++ what ++ " options to `s' command"
  | noPlace => "number option to `s' command may not be zero"
  | address => "unterminated address regex"
  | lengths => "strings for `y' command are different lengths"
  | opened => "unmatched `\x7b'"
  | closed => "unexpected `\x7d'"
  | comma => "unexpected `,'"
  | leading => "invalid usage of +N or ~N as first address"
  | lineZero => "invalid usage of line address 0"
  | marks => "multiple `!'s"
  | extra => "extra characters after command"
  | noText => "expected \\ after `a', `c' or `i'"
  | closingAddress => "`\x7d' doesn't want any addresses"
  | labelAddress => ": doesn't want any addresses"
  | commentAddress => "comments don't accept any addresses"
  | unnamed => "\":\" lacks a label"
  | oneAddress => "command only uses one address"
  | noFile => "missing filename in r/R/w/W commands"
  | forbidden => "e/r/w commands disabled in sandbox mode"
  | version => "expected newer version of sed"
  | modifiers => "cannot specify modifiers on empty regexp"
  | noPattern => "no previous regular expression"
  | reference n => "invalid reference \\" ++ Text.ofNat n ++ " on `s' command's RHS"
  | regex f => f.message

/-! ## reading -/

/-- where a part of a program comes from: the expression of a number, or a file -/
inductive EditOrigin where
  | expression (n : Nat)
  | file (path : Text)
  deriving DecidableEq, Repr

/-- how complaints name a place in a part of a program -/
def EditOrigin.shown (o : EditOrigin) (place line : Nat) : Text :=
  match o with
  | expression n => "-e expression #" ++ Text.ofNat n ++ ", char " ++ Text.ofNat place ++ ": "
  | file path => "file " ++ path ++ " line " ++ Text.ofNat line ++ ": "

/-- what is left of a part of a program, the numbers of characters and of lines that were read, and
where the braces that are open come from -/
structure EditSource where
  rest : Text
  place : Nat
  line : Nat
  origin : EditOrigin
  opened : List EditOrigin

structure EditStyle where
  extended : Bool
  sandbox : Bool

abbrev Editing := StateT EditSource (Except Text)

namespace Editing

def stop {α : Type} (f : EditFault) : Editing α := fun s =>
  .error (match f with
    | .regex .bareClass => f.message
    | .opened => s.origin.shown 0 0 ++ f.message
    | _ => s.origin.shown s.place s.line ++ f.message)

def next : Editing (Option Char) := fun s =>
  match s.rest with
  | [] => .ok (none, s)
  | c :: r =>
    .ok (some c, { s with
      rest := r, place := s.place + 1, line := if c = '\n' then s.line + 1 else s.line })

def back (c : Option Char) : Editing Unit := modify fun s =>
  match c with
  | none => s
  | some c =>
    { s with
      rest := c :: s.rest, place := s.place - 1, line := if c = '\n' then s.line - 1 else s.line }

def pass (n : Nat) : Editing Unit := modify fun s =>
  let t := s.rest.take n
  { s with rest := s.rest.drop n, place := s.place + t.length, line := s.line + t.count '\n' }

/-- the characters in front for which a condition holds, passed over -/
def passWhile (p : Char → Bool) : Editing Text := do
  let t := (← get).rest.takeWhile p
  pass t.length
  return t

def nextFull : Editing (Option Char) := do
  discard (passWhile isBlank)
  next

/-- the number that a digit begins, or zero, where another character is put back -/
def number (c : Option Char) : Editing Nat := do
  match c with
  | some d =>
    if d.isDigit then return digitsValue (d :: (← passWhile Char.isDigit))
    else
      back c
      return 0
  | none => return 0

/-- the end of a command: a separator, a line's end or a closing brace must follow -/
def finish : Editing Unit := do
  let c ← nextFull
  match c with
  | none => return
  | some c =>
    if c = ';' ∨ c = '\n' then return
    else if c = '\x7d' ∨ c = '#' then back (some c)
    else stop .extra

/-! ## texts with escapes -/

/-- the letters after a backslash that stand for characters which are not seen -/
def letterEscape? : Char → Option Char
  | 'a' => some '\x07'
  | 'f' => some '\x0c'
  | 'r' => some '\r'
  | 't' => some '\t'
  | 'v' => some '\x0b'
  | _ => none

/-- the character that a base and some digits after a backslash stand for, and the number of the
digits; without digits it is the letter itself -/
def digitEscape? (c : Char) (r : Text) : Option (Char × Nat) :=
  let of := fun (base most : Nat) =>
    let (n, k) := digitRun base (r.take most)
    some (if k = 0 then c else Char.ofNat (n % 256), k)
  match c with
  | 'd' => of 10 3
  | 'o' => of 8 3
  | 'x' => of 16 2
  | _ => none

/-- a text in which escapes are replaced by their characters, when `skip` more characters belong to
the last one; some characters that stem from digits are `kept` by a backslash from any meaning -/
def unescaped (kept : Char → Bool) : Nat → Text → Text
  | _, [] => []
  | skip + 1, _ :: r => unescaped kept skip r
  | 0, c :: r =>
    match c, r with
    | '\\', 'c' :: d :: _ =>
      Char.ofNat (Nat.xor d.toUpper.toNat 64) :: unescaped kept 2 r
    | '\\', d :: r' =>
      match letterEscape? d, digitEscape? d r' with
      | some e, _ => e :: unescaped kept 1 r
      | none, some (e, k) =>
        (if kept e && k ≠ 0 then ['\\', e] else [e]) ++ unescaped kept (k + 1) r
      | none, none => c :: d :: unescaped kept 1 r
    | _, _ => c :: unescaped kept 0 r

/-- the number of characters of a bracket list that a text begins with, with both brackets, or of
its opening bracket where none closes it -/
def listLength (t : Text) : Option Nat :=
  let body := t.drop 1
  let front := if body.head? = some '^' then 1 else 0
  let front := if (body.drop front).head? = some ']' then front + 1 else front
  let rec go : Nat → Nat → Text → Option Nat
    | _, _, [] => none
    | skip + 1, k, _ :: r => go skip (k + 1) r
    | 0, k, c :: r =>
      if c = ']' then some (k + 1)
      else
        match c, r with
        | '[', d :: r' =>
          if d = ':' ∨ d = '.' ∨ d = '=' then
            match cutAt? [d, ']'] r' with
            | some (name, _) => go (name.length + 3) (k + 1) r
            | none => none
          else go 0 (k + 1) r
        | _, _ => go 0 (k + 1) r
  go 0 (front + 1) (body.drop front)

/-- a bracket list in which a line feed is written as a letter after a backslash -/
def plainList : Text → Text
  | '\\' :: '\\' :: r => '\\' :: '\\' :: plainList r
  | '\\' :: 'n' :: r => '\n' :: plainList r
  | c :: r => c :: plainList r
  | [] => []

/-- the text up to an unprotected delimiter, and its length with that; a bracket list of a pattern
protects what is in it, a line feed may be written as a letter, and a protected delimiter stands
for itself -/
def delimited (delimiter : Char) (pattern : Bool) : Nat → Text → Option (Text × Nat)
  | 0, _ => none
  | n + 1, t =>
    let more := fun (front : Text) (k : Nat) =>
      (delimited delimiter pattern n (t.drop k)).map fun p => (front ++ p.1, p.2 + k)
    match t with
    | [] => none
    | '\\' :: c :: _ =>
      if c = '\n' then more ['\n'] 2
      else if c = 'n' ∧ pattern then more ['\n'] 2
      else if c = delimiter ∧ !(c = '&' ∧ !pattern) then more [c] 2
      else more ['\\', c] 2
    | c :: _ =>
      if c = '\n' then none
      else if c = delimiter then some ([], 1)
      else if c = '[' ∧ pattern then
        match listLength t with
        | some k =>
          let list := t.take k
          if list.contains '\n' then none else more (plainList list) k
        | none => none
      else more [c] 1

/-- the text up to a delimiter, passed over; where there is none, the rest of the line is passed -/
def upTo (delimiter : Char) (pattern : Bool) (f : EditFault) : Editing Text := do
  let s ← get
  match delimited delimiter pattern (s.rest.length + 1) s.rest with
  | some (t, n) =>
    pass n
    return t
  | none =>
    discard (passWhile (· != '\n'))
    stop f

/-! ## patterns and addresses -/

def pattern (k : EditStyle) (sight : Sight) (t : Text) : Editing (Pattern × Nat) :=
  if t = [] then
    if sight = ⟨false, false⟩ then return (⟨none, sight⟩, 9) else stop .modifiers
  else
    match Regex.parse ⟨k.extended, true⟩ (unescaped (fun _ => false) 0 t) with
    | .ok r => return (⟨some r.regex, sight⟩, r.groups)
    | .error f => stop (.regex f)

/-- the flags after the pattern of an address -/
def addressFlags : Nat → Sight → Editing Sight
  | 0, sight => return sight
  | n + 1, sight => do
    let c ← nextFull
    match c with
    | some 'I' => addressFlags n { sight with caseless := true }
    | some 'M' => addressFlags n { sight with manyLines := true }
    | _ =>
      back c
      return sight

/-- the address that a character begins; where it begins none, it is not put back -/
def address? (k : EditStyle) (c : Option Char) : Editing (Option Until) := do
  match c with
  | some '/' | some '\\' =>
    let delimiter ← if c = some '/' then pure c else next
    match delimiter with
    | none => stop .address
    | some d =>
      let t ← upTo d true .address
      let sight ← addressFlags ((← get).rest.length + 1) ⟨false, false⟩
      let (p, _) ← pattern k sight t
      return some (.address (.pattern p))
  | some '$' => return some (.address .last)
  | some '+' => return some (.further (← number (← nextFull)))
  | some '~' => return some (.multiple (← number (← nextFull)))
  | some d =>
    if d.isDigit then
      let n ← number c
      let c ← nextFull
      if c = some '~' then
        let step ← number (← nextFull)
        return some (.address (if step = 0 then .line n else .every n step))
      else
        back c
        return some (.address (.line n))
    else return none
  | none => return none

/-! ## commands -/

def insertsOf : Text → List Insert
  | [] => []
  | '\\' :: c :: r =>
    (if c.isDigit then Insert.group (c.toNat - 48)
      else
        match c with
        | 'n' => .char '\n'
        | 'U' => .change .upper
        | 'L' => .change .lower
        | 'u' => .change .upperOne
        | 'l' => .change .lowerOne
        | 'E' => .change .off
        | _ => .char c) :: insertsOf r
  | c :: r => (if c = '&' then .group 0 else .char c) :: insertsOf r

/-- the name of a file, up to the end of the line -/
def fileName (k : EditStyle) : Editing Text := do
  if k.sandbox then stop .forbidden
  discard (passWhile isBlank)
  let t ← passWhile (· != '\n')
  if t = [] then stop .noFile
  else
    discard next
    return t

/-- the flags of a substitution: which match, and the others in the substitution itself -/
def flags (k : EditStyle) : Nat → Option Nat → Sight → Substitution →
    Editing (Option Nat × Sight × Substitution)
  | 0, which, sight, s => return (which, sight, s)
  | n + 1, which, sight, s => do
    let c ← next
    match c with
    | none => return (which, sight, s)
    | some 'g' =>
      if s.all then stop (.twice "`g'") else flags k n which sight { s with all := true }
    | some 'p' =>
      if s.print then stop (.twice "`p'") else flags k n which sight { s with print := true }
    | some 'i' | some 'I' => flags k n which { sight with caseless := true } s
    | some 'm' | some 'M' => flags k n which { sight with manyLines := true } s
    | some 'w' => do
      let path ← fileName k
      return (which, sight, { s with file := some path })
    | some d =>
      if d.isDigit then
        if which.isSome then stop (.twice "number")
        else
          let m ← number c
          if m = 0 then stop .noPlace else flags k n (some m) sight s
      else if d = '\x7d' ∨ d = '#' then
        back c
        return (which, sight, s)
      else if d = '\n' ∨ d = ';' then return (which, sight, s)
      else if isBlank d then flags k n which sight s
      else stop .badOption

def substitution (k : EditStyle) : Editing Edit := do
  match ← next with
  | none => stop (.unfinished 's')
  | some d =>
    let source ← upTo d true (.unfinished 's')
    let target ← upTo d false (.unfinished 's')
    let start : Substitution := ⟨⟨none, ⟨false, false⟩⟩, [], 1, false, false, none⟩
    let (which, sight, s) ← flags k ((← get).rest.length + 1) none ⟨false, false⟩ start
    let (p, groups) ← pattern k sight source
    let inserts := insertsOf (unescaped (fun c => c == '&' || c == '\\') 0 target)
    match inserts.find? fun
      | .group i => groups < i
      | _ => false with
    | some (.group i) => stop (.reference i)
    | _ =>
      return .substitute { s with pattern := p, inserts := inserts, place := which.getD 1 }

/-- the characters of a list for a translation -/
def letters : Text → Text
  | '\\' :: 'n' :: r => '\n' :: letters r
  | '\\' :: c :: r => c :: letters r
  | c :: r => c :: letters r
  | [] => []

def translation : Editing Edit := do
  match ← next with
  | none => stop (.unfinished 'y')
  | some d =>
    let lettersUp : Editing Text := do
      let t ← upTo d false (.unfinished 'y')
      return letters (unescaped (· == '\\') 0 t)
    let source ← lettersUp
    let target ← lettersUp
    if source.length ≠ target.length then stop .lengths
    else
      finish
      return .translate source target

/-- a text up to the end of its line, where a backslash keeps the next character, and the number of
its characters with that end -/
def protectedLine : Text → Text × Nat
  | [] => ([], 0)
  | ['\\'] => ([], 1)
  | '\\' :: c :: r => ('\\' :: c :: (protectedLine r).1, (protectedLine r).2 + 2)
  | c :: r => if c = '\n' then ([], 1) else (c :: (protectedLine r).1, (protectedLine r).2 + 1)

def text : Editing Text := do
  let line : Editing Text := do
    let (t, n) := protectedLine (← get).rest
    pass n
    return letters (unescaped (· == '\\') 0 t) ++ ['\n']
  match ← nextFull with
  | none => stop .noText
  | some '\\' =>
    let rest := (← get).rest
    let blanks := rest.takeWhile isBlank
    match rest.drop blanks.length with
    | [] => return []
    | c :: _ =>
      if c = '\n' then pass (blanks.length + 1)
      line
  | c =>
    back c
    line

def labelName : Editing Text := do
  discard (passWhile isBlank)
  passWhile fun c => !isSpace c && c ≠ ';' && c ≠ '\x7d'

/-- the number after a command's letter, if there is one -/
def count? : Editing (Option Nat) := do
  let c ← nextFull
  if c.any Char.isDigit then
    let n ← number c
    finish
    return some n
  else
    back c
    finish
    return none

/-- a command after its addresses, by its letter -/
def edit (k : EditStyle) (c : Char) (addresses : Nat) : Editing Edit := do
  let simple := fun (e : Edit) => do
    finish
    return e
  match c with
  | '\x7b' =>
    modify fun s => { s with opened := s.origin :: s.opened }
    return .opening
  | '\x7d' =>
    if (← get).opened = [] then stop .closed
    else if addresses ≠ 0 then stop .closingAddress
    else
      modify fun s => { s with opened := s.opened.drop 1 }
      simple .closing
  | '#' =>
    if addresses ≠ 0 then stop .commentAddress
    else
      discard (passWhile (· != '\n'))
      return .nothing
  | 's' => substitution k
  | 'y' => translation
  | 'd' => simple .delete
  | 'D' => simple .deleteFirst
  | 'p' => simple .print
  | 'P' => simple .printFirst
  | 'n' => simple .next
  | 'N' => simple .join
  | 'h' => simple .hold
  | 'H' => simple .holdMore
  | 'g' => simple .fetch
  | 'G' => simple .fetchMore
  | 'x' => simple .exchange
  | '=' => simple .number
  | 'F' => simple .name
  | 'z' => simple .clear
  | 'l' => return .show (← count?)
  | 'q' | 'Q' =>
    if addresses > 1 then stop .oneAddress
    else return .quit (c == 'Q') ((← count?).getD 0)
  | 'i' => return .insert (← text)
  | 'a' => return .append (← text)
  | 'c' => return .change (← text)
  | 'r' => return .readFile (← fileName k)
  | 'R' => return .readLine (← fileName k)
  | 'w' => return .writeFile (← fileName k)
  | 'W' => return .writeLine (← fileName k)
  | 'v' => do
    let wanted ← labelName
    let numbers := (wanted.splitOn '.').map digitsValue
    if decide ([4, 9] < numbers) then stop .version else simple .nothing
  | ':' =>
    if addresses ≠ 0 then stop .labelAddress
    else
      let name ← labelName
      if name = [] then stop .unnamed else return .label name
  | 'b' => return .jump (← labelName)
  | 't' => return .jumpIf true (← labelName)
  | 'T' => return .jumpIf false (← labelName)
  | _ => stop (.unknown c)

/-- the next command of a part of a program, if there is one -/
def order? (k : EditStyle) : Editing (Option Order) := do
  discard (passWhile fun c => isSpace c || c == ';')
  let c ← next
  if c.isNone then return none
  let first ← address? k c
  match first with
  | some (.further _) | some (.multiple _) => stop .leading
  | _ => pure ()
  let first := match first with
    | some (.address a) => some a
    | _ => none
  let c ← if first.isSome then nextFull else pure c
  let (last, c) ←
    if first.isSome && c == some ',' then do
      match ← address? k (← nextFull) with
      | some u => pure (some u, ← nextFull)
      | none => stop .comma
    else pure (none, c)
  match first, last with
  | some (.line 0), some (.address (.pattern _)) => pure ()
  | some (.line 0), _ => stop .lineZero
  | _, _ => pure ()
  let negated := c == some '!'
  let c ← if negated then nextFull else pure c
  if negated && c == some '!' then stop .marks
  match c with
  | none => stop .missing
  | some c =>
    let addresses := first.toList.length + last.toList.length
    return some ⟨first, last, negated, ← edit k c addresses⟩

def orders (k : EditStyle) : Nat → Editing (List Order)
  | 0 => return []
  | n + 1 => do
    match ← order? k with
    | none => return []
    | some o => return o :: (← orders k n)

end Editing

/-! ## whole programs -/

def isOpenEnded (t : Text) : Bool := (t.reverse.takeWhile (· == '\\')).length % 2 == 1

/-- parts of a program of which each protects its end are one with the next -/
def joinParts : List (EditOrigin × Text) → List (EditOrigin × Text)
  | [] => []
  | (o, t) :: ps =>
    match joinParts ps with
    | (_, u) :: qs =>
      if isOpenEnded t then (o, t ++ '\n' :: u) :: qs else (o, t) :: joinParts ps
    | [] => [(o, t)]

/-- the commands of some parts of a program, when the braces from some places are open -/
def partOrders (k : EditStyle) (opened : List EditOrigin) :
    List (EditOrigin × Text) → Except Text (List Order)
  | [] =>
    match opened.getLast? with
    | some o => .error (o.shown 0 0 ++ EditFault.opened.message)
    | none => .ok []
  | (o, t) :: ps => do
    let (os, s) ← (Editing.orders k (t.length + 1)).run ⟨t, 0, 1, o, opened⟩
    return os ++ (← partOrders k s.opened ps)

def ordersOf (k : EditStyle) (parts : List (EditOrigin × Text)) :
    Except (Text × Nat) (List Order) := do
  let os ← (partOrders k [] (joinParts parts)).mapError fun what => (what, 1)
  let labels := os.filterMap fun o =>
    match o.edit with
    | .label name => some name
    | _ => none
  let jumps := os.filterMap fun o =>
    match o.edit with
    | .jump name => some name
    | .jumpIf _ name => some name
    | _ => none
  match jumps.find? fun name => name != [] && !labels.contains name with
  | some name => .error ("can't find label for jump to `" ++ name ++ "'", 4)
  | none => .ok os

end Shell
end CoroBridge
