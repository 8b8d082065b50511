import CoroBridge.Plan

/-!
# Counterparts

A bridge has to take what its coroutine takes.

* `loosen`               a text with spaces around its stars;
* `splitBlanks`          the parts of a text between its blanks;
* `normalType`           a type in the spacing in which types are compared;
* `typeMismatch?`        the first position where two lists of parameters differ in type;
* `Decl.mismatch?`       the first difference between two declarations;
* `Plan.checkAgainst`    the comparison as a step of a run.
-/

namespace CoroBridge

/-- a text with a space before and after every star -/
def loosen (t : Text) : Text := t.flatMap fun c => if c = '*' then [' ', '*', ' '] else [c]

def splitBlanks (t : Text) : List Text := (t.splitOnP isBlank).filter (· ≠ [])

def spaced (words : List Text) : Text := List.intercalate [' '] words

def normalType (ty : Text) : Text := spaced (splitBlanks (loosen ty))

/-- the first position, counted from `i`, where the two lists differ in type -/
def typeMismatch? (i : Nat) : List Param → List Param → Option Mismatch
  | p :: ps, q :: qs =>
    if normalType p.ty = normalType q.ty then typeMismatch? (i + 1) ps qs
    else some (.type i p.name (normalType p.ty) (normalType q.ty))
  | _, _ => none

/-- the first difference between a bridge's declaration and its coroutine's: the number of
parameters, then their types from left to right; names may differ -/
def Decl.mismatch? (wrapper coroutine : Decl) : Option Mismatch :=
  if wrapper.params.length ≠ coroutine.params.length then
    some (.arity wrapper.params.length coroutine.params.length)
  else typeMismatch? 1 wrapper.params coroutine.params

def Plan.checkAgainst (p : Plan) (counterpart : Decl) : Except Fault Unit :=
  match p.wrapper.mismatch? counterpart with
  | none => .ok ()
  | some m => .error (.drift p.wrapper.name counterpart.name m)

end CoroBridge
