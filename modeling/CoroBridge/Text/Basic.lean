/-!
# Texts

A text is a list of characters, so that what is said about texts is said about lists.

* `Text`            lists of characters; a string literal is read as a text;
* `Text.ofNat`      a number in decimal digits;
* `Text.after?`     what follows a word that a text begins with;
* `Text.onto`       a character put in front of the first part of a list of parts;
* `Text.lines`      the lines of a text, ended by a line feed, alone or after a carriage return;
* `Text.fromLast?`  the end of a text from the last place where a word stands;
* `Text.precedes`   the order of texts by their characters.
-/

namespace CoroBridge

/-- a text, character by character -/
abbrev Text := List Char

instance : Coe String Text := ⟨String.toList⟩

namespace Text

def ofNat (n : Nat) : Text := Nat.toDigits 10 n

/-! ## beginnings -/

/-- what follows the word `w` in a text that begins with it -/
def after? : Text → Text → Option Text
  | [], t => some t
  | _ :: _, [] => none
  | c :: w, d :: t => if c = d then after? w t else none

@[simp] theorem after?_nil (t : Text) : after? [] t = some t := by
  cases t <;> rfl

theorem after?_eq_some_iff {w t r : Text} : after? w t = some r ↔ t = w ++ r := by
  induction w generalizing t with
  | nil => simp [eq_comm]
  | cons c w ih =>
    cases t with
    | nil => simp [after?]
    | cons d t =>
      by_cases h : c = d
      · simp [after?, h, ih]
      · simp [after?, h, Ne.symm h]

@[simp] theorem after?_append (w r : Text) : after? w (w ++ r) = some r :=
  after?_eq_some_iff.2 rfl

/-- a text that begins with another character begins with no such word -/
theorem after?_eq_none_of_head? {c : Char} {w t : Text} (h : t.head? ≠ some c) :
    after? (c :: w) t = none := by
  cases t with
  | nil => rfl
  | cons d t => exact if_neg fun hc => h (congrArg some hc.symm)

/-! ## parts -/

/-- a character in front of the first part; of no part it makes one -/
def onto (c : Char) : List Text → List Text
  | [] => [[c]]
  | p :: ps => (c :: p) :: ps

@[simp] theorem onto_nil (c : Char) : onto c [] = [[c]] := rfl
@[simp] theorem onto_cons (c : Char) (p : Text) (ps : List Text) :
    onto c (p :: ps) = (c :: p) :: ps := rfl

theorem onto_ne_nil (c : Char) (ps : List Text) : onto c ps ≠ [] := by
  cases ps <;> simp

@[simp] theorem flatten_onto (c : Char) (ps : List Text) :
    (onto c ps).flatten = c :: ps.flatten := by
  cases ps <;> simp

/-! ## lines -/

/-- the lines of a text: each ends at a line feed, of which one carriage return before it is a
part, or at the end of the text; after a last line feed no further line begins -/
def lines : Text → List Text
  | [] => []
  | '\n' :: r => [] :: lines r
  | '\r' :: '\n' :: r => [] :: lines r
  | c :: r => onto c (lines r)

@[simp] theorem lines_nil : lines [] = [] := rfl
@[simp] theorem lines_feed (r : Text) : lines ('\n' :: r) = [] :: lines r := rfl
@[simp] theorem lines_return_feed (r : Text) : lines ('\r' :: '\n' :: r) = [] :: lines r := rfl

/-! ## the last place of a word -/

/-- the end of a text from the last place where `w` stands, if there is one -/
def fromLast? (w : Text) : Text → Option Text
  | [] => if w = [] then some [] else none
  | c :: r =>
    match fromLast? w r with
    | some t => some t
    | none => if w.isPrefixOf (c :: r) then some (c :: r) else none

theorem fromLast?_nil (w : Text) : fromLast? w [] = if w = [] then some [] else none := rfl

theorem isSuffix_of_fromLast? {w t s : Text} (h : fromLast? w t = some s) : s <:+ t := by
  induction t with
  | nil =>
    rw [fromLast?_nil] at h
    split at h
    · cases h; exact List.suffix_refl _
    · cases h
  | cons c r ih =>
    unfold fromLast? at h
    split at h
    · next s' hs =>
      cases h
      exact (ih hs).trans (List.suffix_cons c r)
    · split at h
      · cases h; exact List.suffix_refl _
      · cases h

/-! ## order -/

/-- whether a text comes before another one: where they first differ, its character has the smaller
number, or it has ended -/
def precedes (a b : Text) : Bool := List.lex a b fun c d => decide (c.toNat < d.toNat)

end Text

end CoroBridge
