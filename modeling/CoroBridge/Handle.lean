import CoroBridge.Text.Basic

/-!
# Handles

The first parameter of a bridge says which block driver the poll loop drives.

* `Handle`           the two kinds of first parameter;
* `Handle.typeText`  the type that a kind is declared with;
* `Handle.ofType?`   the kind that a type declares;
* `Handle.owner`     the expression for the block driver state.
-/

namespace CoroBridge

/-- a first parameter that is the block driver state, or a child that points to it -/
inductive Handle where
  | direct
  | child
  deriving DecidableEq, Repr

namespace Handle

/-- the type that a kind is declared with -/
def typeText : Handle → Text
  | direct => "BlockDriverState *"
  | child => "BdrvChild *"

/-- the kind that a type declares, which has to be written in exactly its way -/
def ofType? (ty : Text) : Option Handle :=
  if ty = typeText direct then some direct
  else if ty = typeText child then some child
  else none

@[simp] theorem ofType?_typeText (h : Handle) : ofType? h.typeText = some h := by
  cases h <;> decide

theorem ofType?_eq_some_iff {ty : Text} {h : Handle} : ofType? ty = some h ↔ ty = h.typeText := by
  constructor
  · intro e
    unfold ofType? at e
    split at e
    · cases e; assumption
    · split at e
      · cases e; assumption
      · cases e
  · rintro rfl
    exact ofType?_typeText h

/-- the expression for the block driver state, when the parameter is called `name` -/
def owner (h : Handle) (name : Text) : Text :=
  match h with
  | direct => name
  | child => name ++ "->bs"

end Handle
end CoroBridge
