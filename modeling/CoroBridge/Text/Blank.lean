import CoroBridge.Text.Basic

/-!
# Blanks

Blank characters are those with the Unicode property White_Space.

* `isBlank`       the property;
* `Text.trim`     a text without the blanks at its two ends;
* `Text.squeeze`  a text with one space for every run of blanks.
-/

namespace CoroBridge

/-- the Unicode property White_Space -/
def isBlank (c : Char) : Bool :=
  let n := c.toNat
  (9 ≤ n && n ≤ 13) || n == 0x20 || n == 0x85 || n == 0xA0 || n == 0x1680
    || (0x2000 ≤ n && n ≤ 0x200A) || n == 0x2028 || n == 0x2029 || n == 0x202F
    || n == 0x205F || n == 0x3000

theorem isBlank_of_isWhitespace {c : Char} (h : c.isWhitespace = true) : isBlank c = true := by
  simp only [Char.isWhitespace, Bool.or_eq_true, decide_eq_true_eq] at h
  rcases h with ((rfl | rfl) | rfl) | rfl <;> decide

theorem isAlphanum_of_isLower {c : Char} (h : c.isLower = true) : c.isAlphanum = true := by
  unfold Char.isAlphanum Char.isAlpha
  rw [h, Bool.or_true, Bool.true_or]

theorem isAlphanum_of_isDigit {c : Char} (h : c.isDigit = true) : c.isAlphanum = true := by
  unfold Char.isAlphanum
  rw [h, Bool.or_true]

/-- the numbers of the ASCII digits, capitals and small letters -/
theorem toNat_of_isAlphanum {c : Char} (h : c.isAlphanum = true) :
    (48 ≤ c.toNat ∧ c.toNat ≤ 57) ∨ (65 ≤ c.toNat ∧ c.toNat ≤ 90) ∨
      (97 ≤ c.toNat ∧ c.toNat ≤ 122) := by
  unfold Char.isAlphanum Char.isAlpha Char.isUpper Char.isLower Char.isDigit at h
  simp only [Bool.or_eq_true, Bool.and_eq_true, decide_eq_true_eq, ge_iff_le,
    UInt32.le_iff_toNat_le, UInt32.reduceToNat, Char.reduceVal] at h
  unfold Char.toNat
  omega

theorem isBlank_eq_false_of_isAlphanum {c : Char} (h : c.isAlphanum = true) :
    isBlank c = false := by
  have hc := toNat_of_isAlphanum h
  rw [Bool.eq_false_iff]
  intro hb
  simp only [isBlank, Bool.or_eq_true, Bool.and_eq_true, decide_eq_true_eq, beq_iff_eq] at hb
  omega

namespace Text

def trim (t : Text) : Text :=
  ((t.dropWhile isBlank).reverse.dropWhile isBlank).reverse

@[simp] theorem trim_nil : trim [] = [] := rfl

theorem trim_cons_blank {c : Char} (h : isBlank c = true) (t : Text) : trim (c :: t) = trim t := by
  simp [trim, h]

def startsBlank (t : Text) : Bool := t.head?.any isBlank

@[simp] theorem startsBlank_nil : startsBlank [] = false := rfl
@[simp] theorem startsBlank_cons (c : Char) (t : Text) : startsBlank (c :: t) = isBlank c := rfl

/-- one space for every run of blanks: it stands where the last blank of the run stood -/
def squeeze : Text → Text
  | [] => []
  | c :: r =>
    if isBlank c then (if startsBlank r then squeeze r else ' ' :: squeeze r) else c :: squeeze r

@[simp] theorem squeeze_nil : squeeze [] = [] := rfl

theorem squeeze_cons_of_not_blank {c : Char} (h : isBlank c = false) (r : Text) :
    squeeze (c :: r) = c :: squeeze r := by
  simp [squeeze, h]

/-- the only blank that a squeezed text holds is the space -/
theorem eq_space_of_mem_squeeze {c : Char} {t : Text} (h : c ∈ squeeze t)
    (hb : isBlank c = true) : c = ' ' := by
  induction t with
  | nil => cases h
  | cons d r ih =>
    unfold squeeze at h
    split at h
    · split at h
      · exact ih h
      · rcases List.mem_cons.1 h with rfl | h
        · rfl
        · exact ih h
    · next hd =>
      rcases List.mem_cons.1 h with rfl | h
      · exact absurd hb hd
      · exact ih h

end Text

end CoroBridge
