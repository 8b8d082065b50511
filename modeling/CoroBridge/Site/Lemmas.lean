import CoroBridge.Site

/-!
# Sites: the statement that a text begins with

* `Marker.statement?_append`         a well-formed statement is read back from its text, whatever
                                     follows the end of its line;
* `Marker.wellFormed_of_statement?`  what is read is well formed, and stands where it was read;
* `Marker.statement?_eq_some_iff`    the two together.
-/

namespace CoroBridge

theorem isBlank_eq_false_of_isNameChar {c : Char} (h : isNameChar c = true) :
    isBlank c = false := by
  simp only [isNameChar, Bool.or_eq_true, beq_iff_eq] at h
  rcases h with (h | h) | rfl
  · exact isBlank_eq_false_of_isAlphanum (isAlphanum_of_isLower h)
  · exact isBlank_eq_false_of_isAlphanum (isAlphanum_of_isDigit h)
  · decide

/-- whether what follows begins with no element that has a property -/
def StopsAt {α : Type} (p : α → Bool) (b : List α) : Prop := ∀ x ∈ b.head?, p x = false

theorem stopsAt_cons {α : Type} {p : α → Bool} {x : α} (h : p x = false) (b : List α) :
    StopsAt p (x :: b) := by
  intro y hy
  rw [List.head?_cons, Option.mem_some_iff] at hy
  rw [← hy, h]

theorem takeWhile_append_of_stopsAt {α : Type} {p : α → Bool} {a b : List α}
    (ha : ∀ y ∈ a, p y = true) (hb : StopsAt p b) : (a ++ b).takeWhile p = a := by
  rw [List.takeWhile_append_of_pos ha]
  cases b with
  | nil => simp
  | cons x b => rw [List.takeWhile_cons_of_neg (by simp [hb x rfl])]; simp

theorem dropWhile_append_of_stopsAt {α : Type} {p : α → Bool} {a b : List α}
    (ha : ∀ y ∈ a, p y = true) (hb : StopsAt p b) : (a ++ b).dropWhile p = b := by
  rw [List.dropWhile_append_of_pos ha]
  cases b with
  | nil => rfl
  | cons x b => rw [List.dropWhile_cons_of_neg (by simp [hb x rfl])]

theorem bne_of_not_mem {c : Char} {a : Text} (h : c ∉ a) : ∀ d ∈ a, (d != c) = true := by
  intro d hd
  rw [bne_iff_ne]
  rintro rfl
  exact h hd

theorem Marker.stopsAt_word (m : Marker) (r : Text) : StopsAt isBlank (m.word ++ r) := by
  cases m
  · exact stopsAt_cons (x := 'g') (by decide) _
  · exact stopsAt_cons (x := 'c') (by decide) _

theorem stopsAt_name {n : Text} (h : isName n = true) (r : Text) :
    StopsAt isBlank (n ++ r) := by
  cases n with
  | nil => cases h
  | cons c n =>
    have hc := isNameChar_of_isName h c List.mem_cons_self
    exact stopsAt_cons (isBlank_eq_false_of_isNameChar hc) _

theorem Statement.text_append (m : Marker) (s : Statement) (r : Text) :
    s.text m ++ r
      = statusType ++ (s.gap ++ (m.word ++ (s.lead ++ (s.name ++ (['('] ++ (s.args
          ++ ([')', ';'] ++ r))))))) := by
  simp [Statement.text]

namespace Marker

/-- a well-formed statement is read back from its text -/
theorem statement?_append (m : Marker) {s : Statement} (hs : s.WellFormed) {r : Text}
    (hr : endsLine r = true) : m.statement? (s.text m ++ r) = some s := by
  have ha := bne_of_not_mem hs.args_open
  have hn := isNameChar_of_isName hs.name_isName
  have hl := fun r => stopsAt_name hs.name_isName r
  have ho : ∀ r, StopsAt isNameChar (['('] ++ r) := fun r => stopsAt_cons (by decide) r
  have hc : ∀ r, StopsAt (· != ')') ([')', ';'] ++ r) :=
    fun r => stopsAt_cons (by decide) (';' :: r)
  rw [Statement.text_append]
  simp only [Marker.statement?, Text.after?_append, Option.bind_eq_bind, Option.bind_some,
    takeWhile_append_of_stopsAt hs.gap_blank (m.stopsAt_word _),
    dropWhile_append_of_stopsAt hs.gap_blank (m.stopsAt_word _),
    takeWhile_append_of_stopsAt hs.lead_blank (hl _),
    dropWhile_append_of_stopsAt hs.lead_blank (hl _),
    takeWhile_append_of_stopsAt hn (ho _), dropWhile_append_of_stopsAt hn (ho _),
    takeWhile_append_of_stopsAt ha (hc _), dropWhile_append_of_stopsAt ha (hc _),
    hs.name_isName, hr, Bool.and_self, if_true]

/-- what is read is well formed, and stands where it was read -/
theorem wellFormed_of_statement? {m : Marker} {t : Text} {s : Statement}
    (h : m.statement? t = some s) :
    s.WellFormed ∧ ∃ r, t = s.text m ++ r ∧ endsLine r = true := by
  unfold Marker.statement? at h
  simp only [Option.bind_eq_bind, Option.bind_eq_some_iff, Text.after?_eq_some_iff] at h
  obtain ⟨t1, h1, t2, h2, t3, h3, t4, h4, h5⟩ := h
  split at h5
  · next hc =>
    cases h5
    rw [Bool.and_eq_true] at hc
    refine ⟨⟨fun c => List.all_eq_true.1 List.all_takeWhile c,
      fun c => List.all_eq_true.1 List.all_takeWhile c, hc.1, fun h => ?_⟩, t4, ?_, hc.2⟩
    · simpa using List.all_eq_true.1 List.all_takeWhile _ h
    · rw [Statement.text_append, h1, ← h4, List.takeWhile_append_dropWhile, ← h3,
        List.takeWhile_append_dropWhile, List.takeWhile_append_dropWhile, ← h2,
        List.takeWhile_append_dropWhile]
  · cases h5

/-- the statement that a text begins with is the well-formed one whose text it begins with, if
that ends where a line ends -/
theorem statement?_eq_some_iff {m : Marker} {t : Text} {s : Statement} :
    m.statement? t = some s ↔ s.WellFormed ∧ ∃ r, t = s.text m ++ r ∧ endsLine r = true := by
  constructor
  · exact wellFormed_of_statement?
  · rintro ⟨hs, r, rfl, hr⟩
    exact m.statement?_append hs hr

end Marker
end CoroBridge
