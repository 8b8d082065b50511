import CoroBridge.Text.Basic

/-!
# Lines: texts that are put together from lines

* `intercalate_cons`, `intercalate_append`   lists of lines that follow each other;
* `mem_intercalate`         what a text that is put together consists of;
* `Text.chomp`              a line without the carriage return before its line feed;
* `Text.lines_append_feed`  the first line of a text;
* `Text.lines_intercalate`  the lines of a text that ends in the middle of a line.
-/

namespace CoroBridge

theorem intercalate_cons {α : Type} (sep l : List α) (ls : List (List α)) :
    sep.intercalate (l :: ls) = l ++ ls.flatMap (sep ++ ·) := by
  induction ls generalizing l with
  | nil => rw [List.intercalate_singleton, List.flatMap_nil, List.append_nil]
  | cons k ls ih => rw [List.intercalate_cons_cons, ih, List.flatMap_cons, List.append_assoc,
      List.append_assoc]

theorem intercalate_append {α : Type} (sep : List α) {a b : List (List α)} (ha : a ≠ [])
    (hb : b ≠ []) :
    sep.intercalate (a ++ b) = sep.intercalate a ++ (sep ++ sep.intercalate b) := by
  obtain ⟨x, xs, rfl⟩ := List.exists_cons_of_ne_nil ha
  obtain ⟨y, ys, rfl⟩ := List.exists_cons_of_ne_nil hb
  rw [List.cons_append, intercalate_cons, intercalate_cons, intercalate_cons, List.flatMap_append,
    List.flatMap_cons]
  simp only [List.append_assoc]

theorem intercalate_append_flatMap {α β : Type} (sep : List α) {a : List (List α)} (ha : a ≠ [])
    (l : List β) (f : β → List (List α)) (hf : ∀ x ∈ l, f x ≠ []) :
    sep.intercalate (a ++ l.flatMap f)
      = sep.intercalate a ++ l.flatMap fun x => sep ++ sep.intercalate (f x) := by
  induction l generalizing a with
  | nil => simp
  | cons x l ih =>
    have hx := hf x List.mem_cons_self
    have hne : a ++ f x ≠ [] := fun h => ha (List.append_eq_nil_iff.1 h).1
    rw [List.flatMap_cons, List.flatMap_cons, ← List.append_assoc,
      ih hne fun y hy => hf y (List.mem_cons_of_mem x hy), intercalate_append sep ha hx]
    simp only [List.append_assoc]

/-- a text that is put together from lines ends like the last one, if that is not empty -/
theorem getLast?_intercalate {α : Type} (sep : List α) {ls : List (List α)} {z : List α}
    (hlast : ls.getLast? = some z) (hne : z ≠ []) : (sep.intercalate ls).getLast? = z.getLast? := by
  induction ls with
  | nil => cases hlast
  | cons l ls ih =>
    cases ls with
    | nil =>
      obtain rfl : l = z := Option.some.inj hlast
      rw [List.intercalate_singleton]
    | cons k ls =>
      rw [List.getLast?_cons_cons] at hlast
      rw [List.intercalate_cons_cons, List.getLast?_append, ih hlast,
        List.getLast?_eq_some_getLast hne, Option.some_or]

theorem mem_intercalate {α : Type} {sep : List α} {ls : List (List α)} {x : α}
    (h : x ∈ sep.intercalate ls) : x ∈ sep ∨ ∃ l ∈ ls, x ∈ l := by
  cases ls with
  | nil => exact absurd h (by simp)
  | cons l ls =>
    rw [intercalate_cons, List.mem_append, List.mem_flatMap] at h
    rcases h with h | ⟨k, hk, h⟩
    · exact .inr ⟨l, List.mem_cons_self, h⟩
    · rcases List.mem_append.1 h with h | h
      · exact .inl h
      · exact .inr ⟨k, List.mem_cons_of_mem l hk, h⟩

namespace Text

/-- a line without the carriage return that belongs to the line feed after it -/
def chomp (l : Text) : Text := if l.getLast? = some '\r' then l.dropLast else l

theorem chomp_of_ne {l : Text} (h : l.getLast? ≠ some '\r') : chomp l = l := if_neg h

theorem chomp_prefix (l : Text) : chomp l <+: l := by
  unfold chomp
  split
  · exact List.dropLast_prefix l
  · exact List.prefix_refl l

theorem chomp_cons (c : Char) {l : Text} (h : l ≠ []) : chomp (c :: l) = c :: chomp l := by
  obtain ⟨d, r, rfl⟩ := List.exists_cons_of_ne_nil h
  unfold chomp
  rw [List.getLast?_cons_cons, List.dropLast_cons_cons]
  split <;> rfl

theorem lines_cons {c : Char} {r : Text} (hc : c ≠ '\n')
    (hr : ¬ (c = '\r' ∧ r.head? = some '\n')) : lines (c :: r) = onto c (lines r) := by
  rw [lines]
  · exact hc
  · rintro s rfl rfl
    exact hr ⟨rfl, rfl⟩

theorem lines_ne_nil {t : Text} (h : t ≠ []) : lines t ≠ [] := by
  unfold lines
  split
  · exact absurd rfl h
  · exact List.cons_ne_nil _ _
  · exact List.cons_ne_nil _ _
  · exact onto_ne_nil _ _

theorem feed_not_mem_of_mem_lines {t l : Text} (h : l ∈ lines t) : '\n' ∉ l := by
  induction t using lines.induct generalizing l with
  | case1 => cases h
  | case2 r ih =>
    rcases List.mem_cons.1 h with rfl | h
    · exact List.not_mem_nil
    · exact ih h
  | case3 r ih =>
    rcases List.mem_cons.1 h with rfl | h
    · exact List.not_mem_nil
    · exact ih h
  | case4 c r hc hcr ih =>
    have hhead : ¬ (c = '\r' ∧ r.head? = some '\n') := by
      rintro ⟨rfl, hr⟩
      obtain ⟨r', rfl⟩ := List.head?_eq_some_iff.1 hr
      exact hcr r' rfl rfl
    rw [lines_cons hc hhead] at h
    cases hl : lines r with
    | nil =>
      rw [hl] at h
      obtain rfl := List.mem_singleton.1 h
      exact fun hm => hc (List.mem_singleton.1 hm).symm
    | cons a ls =>
      rw [hl] at h
      rcases List.mem_cons.1 h with rfl | h
      · have ha := ih (hl ▸ List.mem_cons_self)
        exact fun hm => (List.mem_cons.1 hm).elim (fun he => hc he.symm) ha
      · exact ih (hl ▸ List.mem_cons_of_mem a h)

/-- a text begins with its first line, which a line feed ends -/
theorem lines_append_feed {l : Text} (h : '\n' ∉ l) (r : Text) :
    lines (l ++ '\n' :: r) = chomp l :: lines r := by
  induction l with
  | nil => rfl
  | cons c l ih =>
    obtain ⟨hc, hl⟩ := not_or.1 (mt List.mem_cons.2 h)
    by_cases hne : l = []
    · subst hne
      by_cases hcr : c = '\r'
      · subst hcr; rfl
      · rw [List.singleton_append, lines_cons (Ne.symm hc) (fun h => hcr h.1), lines_feed, onto_cons,
          chomp_of_ne (by simpa using hcr)]
    · have hhead : ¬ (c = '\r' ∧ (l ++ '\n' :: r).head? = some '\n') := by
        rintro ⟨_, hd⟩
        obtain ⟨d, l', rfl⟩ := List.exists_cons_of_ne_nil hne
        cases hd
        exact hl List.mem_cons_self
      rw [List.cons_append, lines_cons (Ne.symm hc) hhead, ih hl, onto_cons, chomp_cons c hne]

theorem lines_of_not_mem {l : Text} (h : '\n' ∉ l) (hne : l ≠ []) : lines l = [l] := by
  induction l with
  | nil => exact absurd rfl hne
  | cons c l ih =>
    obtain ⟨hc, hl⟩ := not_or.1 (mt List.mem_cons.2 h)
    have hhead : ¬ (c = '\r' ∧ l.head? = some '\n') :=
      fun hd => hl (List.mem_of_mem_head? hd.2)
    rw [lines_cons (Ne.symm hc) hhead]
    by_cases hl' : l = []
    · subst hl'; rfl
    · rw [ih hl hl', onto_cons]

/-- the lines of a text that are joined by line feeds, if the last one is not empty and would keep
its last character -/
theorem lines_intercalate {ls : List Text} {z : Text} (h : ∀ l ∈ ls, '\n' ∉ l)
    (hlast : ls.getLast? = some z) (hne : z ≠ []) (hz : chomp z = z) :
    lines (List.intercalate ['\n'] ls) = ls.map chomp := by
  induction ls with
  | nil => cases hlast
  | cons l ls ih =>
    by_cases hls : ls = []
    · subst hls
      obtain rfl : l = z := Option.some.inj hlast
      rw [List.intercalate_singleton, lines_of_not_mem (h l List.mem_cons_self) hne,
        List.map_singleton, hz]
    · obtain ⟨l', ls', rfl⟩ := List.exists_cons_of_ne_nil hls
      rw [List.getLast?_cons_cons] at hlast
      rw [List.intercalate_cons_of_ne_nil hls, List.append_assoc, List.singleton_append,
        lines_append_feed (h l List.mem_cons_self),
        ih (fun x hx => h x (List.mem_cons_of_mem l hx)) hlast]
      rfl

end Text
end CoroBridge
