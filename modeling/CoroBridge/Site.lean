import CoroBridge.Decl

/-!
# Sites

Where a text declares marked functions.  A declaration is the statement

    int  marker  name ( args ) ;

with blanks or nothing around the marker, that begins where a line begins and ends where a line
ends.

* `Marker`                 the two marks, and the word that stands for each;
* `Statement`              the variable parts of a statement, and its text;
* `Statement.WellFormed`   what these parts may be;
* `startsLine`, `endsLine` the places in a text where a line begins or ends;
* `Marker.statement?`      the statement that a text begins with;
* `Marker.sites`           the statements of a text, from left to right: each search goes on where
                           the last statement ended;
* `Site.decl`              the declaration at a site.
-/

namespace CoroBridge

/-- a mark that a declaration may carry: it asks for a bridge, or names a coroutine -/
inductive Marker where
  | wrapper
  | coroutine
  deriving DecidableEq, Repr

def Marker.word : Marker → Text
  | wrapper => "generated_co_wrapper"
  | coroutine => "coroutine_fn"

/-! ## statements -/

/-- the variable parts of a marked statement: the blanks before and after the marker, the name,
and what stands between the parentheses -/
structure Statement where
  gap : Text
  lead : Text
  name : Text
  args : Text
  deriving DecidableEq, Repr

namespace Statement

def text (m : Marker) (s : Statement) : Text :=
  statusType ++ s.gap ++ m.word ++ s.lead ++ s.name ++ '(' :: s.args ++ [')', ';']

/-- blanks around the marker, a name, and arguments without a closing parenthesis -/
structure WellFormed (s : Statement) : Prop where
  gap_blank : ∀ c ∈ s.gap, isBlank c = true
  lead_blank : ∀ c ∈ s.lead, isBlank c = true
  name_isName : isName s.name = true
  args_open : ')' ∉ s.args

def decl (s : Statement) : Except Fault Decl := Decl.read statusType s.name s.args

end Statement

/-! ## line ends -/

/-- whether a line begins between a character, or the start of the text, and what follows: not
inside a pair of carriage return and line feed -/
def startsLine : Option Char → Text → Bool
  | none, _ => true
  | some '\n', _ => true
  | some '\r', r => r.head? != some '\n'
  | some _, _ => false

/-- whether a line ends before a text that follows no carriage return -/
def endsLine : Text → Bool
  | [] => true
  | c :: _ => c == '\n' || c == '\r'

/-! ## search -/

/-- the statement that a text begins with, if a line ends after it -/
def Marker.statement? (m : Marker) (t : Text) : Option Statement := do
  let t ← statusType.after? t
  let gap := t.takeWhile isBlank
  let t ← m.word.after? (t.dropWhile isBlank)
  let lead := t.takeWhile isBlank
  let t := t.dropWhile isBlank
  let name := t.takeWhile isNameChar
  let t ← Text.after? ['('] (t.dropWhile isNameChar)
  let args := t.takeWhile (· != ')')
  let t ← Text.after? [')', ';'] (t.dropWhile (· != ')'))
  if isName name && endsLine t then some ⟨gap, lead, name, args⟩ else none

/-- a statement and the number of characters before it -/
structure Site where
  start : Nat
  statement : Statement
  deriving DecidableEq, Repr

/-- the sites in what is left of a text after `i` characters, the last of which is `left`, when
`skip` more characters belong to the last statement found -/
def Marker.sitesFrom (m : Marker) : Nat → Option Char → Nat → Text → List Site
  | _, _, _, [] => []
  | i, _, skip + 1, c :: r => m.sitesFrom (i + 1) (some c) skip r
  | i, left, 0, c :: r =>
    match if startsLine left (c :: r) then m.statement? (c :: r) else none with
    | some s => ⟨i, s⟩ :: m.sitesFrom (i + 1) (some c) ((s.text m).length - 1) r
    | none => m.sitesFrom (i + 1) (some c) 0 r

def Marker.sites (m : Marker) (t : Text) : List Site := m.sitesFrom 0 none 0 t

@[simp] theorem Marker.sites_nil (m : Marker) : m.sites [] = [] := rfl

def Site.text (m : Marker) (s : Site) : Text := s.statement.text m

def Site.decl (s : Site) : Except Fault Decl := s.statement.decl

end CoroBridge
