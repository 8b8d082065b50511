import CoroBridge.Text.Utf8

/-!
# Texts for a terminal

Some characters are not shown by a terminal, because they control it, alone or in sequences that
begin with the escape character.

* `Text.Place`        the place of a reader outside or inside a control sequence;
* `Text.Place.next`   the place after a character that is not shown;
* `Text.Place.shows`  whether a character is shown at a place;
* `Text.shown`        the characters of a text that are shown.
-/

namespace CoroBridge
namespace Text

/-! ## characters -/

/-- a graphic character: no control character among the first 128 -/
def isGraphic (c : Char) : Bool :=
  (0x20 ≤ c.toNat && c.toNat ≤ 0x7E) || 0x80 ≤ c.toNat

/-- a control character that only moves to the place where the next one is shown -/
def isLayout (c : Char) : Bool :=
  c == '\t' || c == '\n' || c == '\x0c' || c == '\r'

def isMiddle (c : Char) : Bool := 0x20 ≤ c.toNat && c.toNat ≤ 0x2F

/-- a character that can end a sequence of an escape and middle characters -/
def isEscapeEnd (c : Char) : Bool := 0x30 ≤ c.toNat && c.toNat ≤ 0x7E

def isParameterEnd (c : Char) : Bool := 0x40 ≤ c.toNat && c.toNat ≤ 0x7E

/-- whether the bytes of a character hold the one that ends a control string -/
def holdsStringEnd (c : Char) : Bool := (String.utf8EncodeChar c).contains 0x9C

/-! ## places -/

/-- the place of a reader: outside every sequence (`ground`), after an escape and perhaps middle
characters, among the parameters of a sequence, at the beginning, the parameters or the middle
characters of a device sequence, in a string that is for the device, and in a command for the
operating system -/
inductive Place where
  | ground
  | escape
  | escapeMiddle
  | parameters
  | device
  | deviceParameters
  | deviceMiddle
  | string
  | command
  deriving DecidableEq, Repr

namespace Place

/-- the place after a character that is no escape and no cancel character -/
def nextInside (c : Char) : Place → Place
  | ground => ground
  | escape =>
    if isMiddle c then escapeMiddle
    else if c = '[' then parameters
    else if c = ']' then command
    else if c = 'P' then device
    else if c = 'X' ∨ c = '^' ∨ c = '_' then string
    else if isEscapeEnd c then ground
    else escape
  | escapeMiddle => if isEscapeEnd c then ground else escapeMiddle
  | parameters => if isParameterEnd c then ground else parameters
  | device =>
    if isMiddle c then deviceMiddle
    else if isParameterEnd c then string
    else if isEscapeEnd c then deviceParameters
    else device
  | deviceParameters =>
    if isMiddle c then deviceMiddle
    else if isEscapeEnd c && 0x3B < c.toNat then string
    else deviceParameters
  | deviceMiddle => if isEscapeEnd c then string else deviceMiddle
  | string => if holdsStringEnd c then ground else string
  | command => if c = '\x07' then ground else command

/-- the place after a character that is not shown: an escape begins a sequence wherever it
stands, and two characters cancel every sequence -/
def next (c : Char) (p : Place) : Place :=
  if c = '\x1b' then escape
  else if c = '\x18' ∨ c = '\x1a' then ground
  else p.nextInside c

/-- whether control characters keep their own meaning at a place -/
def obeys : Place → Bool
  | ground | escape | escapeMiddle | parameters => true
  | _ => false

/-- whether a character is shown at a place; just after one that was shown, what counts is the
character alone -/
def shows (afterShown : Bool) (c : Char) (p : Place) : Bool :=
  (isGraphic c && (afterShown || p == ground)) || (isLayout c && (afterShown || p.obeys))

end Place

/-! ## what is shown -/

/-- the characters that are shown from a place on; a shown character among the first 128 does not
change the place, so that an open sequence goes on with the next character that is not shown -/
def shownFrom (afterShown : Bool) (p : Place) : Text → Text
  | [] => []
  | c :: r =>
    if p.shows afterShown c then
      c :: shownFrom true (if c.toNat < 0x80 then p else .ground) r
    else shownFrom false (p.next c) r

def shown (t : Text) : Text := shownFrom false .ground t

@[simp] theorem shownFrom_nil (b : Bool) (p : Place) : shownFrom b p [] = [] := rfl

theorem shownFrom_cons (b : Bool) (p : Place) (c : Char) (r : Text) :
    shownFrom b p (c :: r)
      = if p.shows b c then c :: shownFrom true (if c.toNat < 0x80 then p else .ground) r
        else shownFrom false (p.next c) r := rfl

theorem shownFrom_sublist (b : Bool) (p : Place) (t : Text) : (shownFrom b p t).Sublist t := by
  induction t generalizing b p with
  | nil => exact List.Sublist.refl _
  | cons c r ih =>
    rw [shownFrom_cons]
    split
    · exact (ih _ _).cons_cons c
    · exact (ih _ _).cons c

theorem shown_sublist (t : Text) : (shown t).Sublist t := shownFrom_sublist _ _ t

theorem shownFrom_ground {t : Text} (b : Bool) (h : ∀ c ∈ t, isGraphic c = true) :
    shownFrom b .ground t = t := by
  induction t generalizing b with
  | nil => rfl
  | cons c r ih =>
    have hc : Place.shows b c .ground = true := by simp [Place.shows, h c (List.mem_cons_self ..)]
    rw [shownFrom_cons, if_pos hc, ite_self, ih true fun d hd => h d (List.mem_cons_of_mem c hd)]

/-- a text of graphic characters is shown as it is -/
theorem shown_of_graphic {t : Text} (h : ∀ c ∈ t, isGraphic c = true) : shown t = t :=
  shownFrom_ground false h

end Text
end CoroBridge
