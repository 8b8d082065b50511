import CoroBridge.Text.Upper

/-!
# Names

How identifiers are written, and how one is made from another.

* `isName`           lower-case identifiers: a letter, then letters, digits and underscores;
* `coroutineName?`   the name of the coroutine behind a bridge: `bdrv_` becomes `bdrv_co_`;
* `camel`            the type name made of an underscored name.
-/

namespace CoroBridge

/-- a character that may follow the first one of a name -/
def isNameChar (c : Char) : Bool := c.isLower || c.isDigit || c == '_'

/-- a lower-case ASCII letter, then such letters, ASCII digits and underscores -/
def isName : Text → Bool
  | [] => false
  | c :: r => c.isLower && r.all isNameChar

@[simp] theorem isName_nil : isName [] = false := rfl
@[simp] theorem isName_cons (c : Char) (r : Text) :
    isName (c :: r) = (c.isLower && r.all isNameChar) := rfl

theorem isNameChar_of_isName {t : Text} (h : isName t = true) : ∀ c ∈ t, isNameChar c = true := by
  cases t with
  | nil => cases h
  | cons c r =>
    rw [isName_cons, Bool.and_eq_true] at h
    refine List.forall_mem_cons.2 ⟨?_, List.all_eq_true.1 h.2⟩
    rw [isNameChar, h.1]
    rfl

/-! ## the two stems -/

def wrapperStem : Text := "bdrv_"

def coroutineStem : Text := "bdrv_co_"

/-- the coroutine behind the bridge `name`, if that has the stem of a bridge -/
def coroutineName? (name : Text) : Option Text :=
  (wrapperStem.after? name).map (coroutineStem ++ ·)

theorem coroutineName?_eq_some_iff {name co : Text} :
    coroutineName? name = some co ↔ ∃ r, name = wrapperStem ++ r ∧ co = coroutineStem ++ r := by
  simp only [coroutineName?, Option.map_eq_some_iff, Text.after?_eq_some_iff]
  exact ⟨fun ⟨r, h, e⟩ => ⟨r, h, e.symm⟩, fun ⟨r, h, e⟩ => ⟨r, h, e.symm⟩⟩

/-! ## type names -/

/-- an underscored name in capitalised parts without underscores; empty parts leave no trace -/
def camel (name : Text) : Text := (name.splitOn '_').flatMap Text.capital

@[simp] theorem camel_nil : camel [] = [] := rfl

end CoroBridge
