import Mathlib.Data.List.Infix
import CoroBridge.Proofs.FileText

/-!
# Notices: what a comment keeps of a documentation text

A header shows the notice of a documentation text as lines in the middle of a block comment.  From
these lines the notice can be read back, and they end the comment no earlier than the notice does.

* `Text.LastPlace`             the end of a text from the last place on where a word stands;
* `Text.fromLast?_eq_some_iff`, `Text.fromLast?_eq_none_iff`   the search for it;
* `noticeOf_eq`                what the notice of a documentation text is;
* `Text.lines_eq_map_chomp`    the lines of a text that ends with no blank;
* `commentEnd`                 what ends a block comment;
* `infix_intercalate_iff`      a word without line feeds stands in a text if it stands in a line;
* `uncommentLine?`             what stands on a line of a comment;
* `commentBlock_readable`      the lines of a notice are read back from its comment.
-/

namespace CoroBridge

/-! ## the last place of a word -/

namespace Text
variable {w t s : Text}

/-- `s` is the end of `t` from the last place on where `w` stands -/
structure LastPlace (w t s : Text) : Prop where
  ends : s <:+ t
  begins : w <+: s
  last : ¬ w <:+: s.tail

theorem fromLast?_cons_of_some (c : Char) (h : fromLast? w t = some s) :
    fromLast? w (c :: t) = some s := by
  rw [fromLast?, h]

theorem fromLast?_cons_of_none (c : Char) (h : fromLast? w t = none) :
    fromLast? w (c :: t) = if w.isPrefixOf (c :: t) then some (c :: t) else none := by
  rw [fromLast?, h]

/-- the search fails if and only if the word stands nowhere -/
theorem fromLast?_eq_none_iff (hw : w ≠ []) : fromLast? w t = none ↔ ¬ w <:+: t := by
  induction t with
  | nil => rw [fromLast?_nil, if_neg hw, List.infix_nil]; exact iff_of_true rfl hw
  | cons c r ih =>
    rw [List.infix_cons_iff, not_or, ← ih]
    cases hr : fromLast? w r with
    | some s =>
      rw [fromLast?_cons_of_some c hr]
      exact iff_of_false (Option.some_ne_none s) fun h => Option.some_ne_none s h.2
    | none =>
      rw [fromLast?_cons_of_none c hr, ← List.isPrefixOf_iff_prefix]
      split
      · next hp => exact iff_of_false (Option.some_ne_none _) fun h => h.1 hp
      · next hp => exact iff_of_true rfl ⟨hp, rfl⟩

/-- behind the place that the search finds the word does not stand again -/
theorem not_infix_tail_of_fromLast? (hw : w ≠ []) (h : fromLast? w t = some s) :
    ¬ w <:+: s.tail := by
  induction t with
  | nil =>
    rw [fromLast?_nil, if_neg hw] at h
    cases h
  | cons c r ih =>
    cases hr : fromLast? w r with
    | some s' =>
      rw [fromLast?_cons_of_some c hr] at h
      exact ih (hr.trans h)
    | none =>
      rw [fromLast?_cons_of_none c hr] at h
      split at h
      · cases h
        exact (fromLast?_eq_none_iff hw).1 hr
      · cases h

/-- a search that succeeds finds the last place of the word -/
theorem fromLast?_eq_some_iff (hw : w ≠ []) : fromLast? w t = some s ↔ LastPlace w t s := by
  constructor
  · exact fun h => ⟨isSuffix_of_fromLast? h, prefix_of_fromLast? h, not_infix_tail_of_fromLast? hw h⟩
  · rintro ⟨hends, hbegins, hlast⟩
    induction t with
    | nil =>
      rw [List.suffix_nil.1 hends] at hbegins
      exact absurd (List.prefix_nil.1 hbegins) hw
    | cons c r ih =>
      rcases List.suffix_cons_iff.1 hends with rfl | hends
      · have hnone : fromLast? w r = none := (fromLast?_eq_none_iff hw).2 hlast
        rw [fromLast?_cons_of_none c hnone, if_pos (List.isPrefixOf_iff_prefix.2 hbegins)]
      · exact fromLast?_cons_of_some c (ih hends)

end Text

/-- a notice is the end of a documentation text from its last mention of copyright on, or all of it
if it mentions none, without the blanks at the ends -/
theorem noticeOf_eq (doc : Text) :
    (∃ s, Text.LastPlace "Copyright" doc s ∧ noticeOf doc = s.trim) ∨
    (¬ ("Copyright" : Text) <:+: doc ∧ noticeOf doc = doc.trim) := by
  have hword : ("Copyright" : Text) ≠ [] := by decide
  unfold noticeOf
  cases h : Text.fromLast? "Copyright" doc with
  | some s => exact .inl ⟨s, (Text.fromLast?_eq_some_iff hword).1 h, rfl⟩
  | none => exact .inr ⟨(Text.fromLast?_eq_none_iff hword).1 h, rfl⟩

/-! ## lines -/

/-- the last line of a text ends like the text -/
theorem Text.getLast?_splitOn_feed {t : Text} (hne : t ≠ []) (hfeed : t.getLast? ≠ some '\n') :
    ∃ z, (t.splitOn '\n').getLast? = some z ∧ z ≠ [] ∧ z.getLast? = t.getLast? := by
  have hparts : List.intercalate ['\n'] (t.splitOn '\n') = t := List.intercalate_splitOn '\n'
  obtain ⟨ls, z, hsplit⟩ :=
    (List.eq_nil_or_concat' (t.splitOn '\n')).resolve_left (List.splitOn_ne_nil _ _)
  rw [hsplit] at hparts ⊢
  have hlast : (ls ++ [z]).getLast? = some z := List.getLast?_concat
  have hz : z ≠ [] := by
    rintro rfl
    by_cases hls : ls = []
    · subst hls
      exact hne hparts.symm
    · rw [intercalate_append _ hls (List.cons_ne_nil _ _), List.intercalate_singleton,
        List.append_nil] at hparts
      exact hfeed (hparts ▸ List.getLast?_concat)
  exact ⟨z, hlast, hz, by rw [← getLast?_intercalate ['\n'] hlast hz, hparts]⟩

/-- the lines of a text that ends with no blank are its parts between the line feeds, without the
carriage returns before these -/
theorem Text.lines_eq_map_chomp {t : Text} (hne : t ≠ []) (hend : t.endsBlank = false) :
    t.lines = (t.splitOn '\n').map Text.chomp := by
  have hlast : ∀ c, isBlank c = true → t.getLast? ≠ some c := by
    intro c hc h
    rw [Text.endsBlank, h] at hend
    exact Bool.false_ne_true (hend.symm.trans hc)
  obtain ⟨z, hz, hzne, hzlast⟩ := Text.getLast?_splitOn_feed hne (hlast '\n' (by decide))
  have hchomp : Text.chomp z = z := Text.chomp_of_ne (hzlast ▸ hlast '\r' (by decide))
  have hfeed : ∀ l ∈ t.splitOn '\n', '\n' ∉ l := fun l hl => (mem_splitOn hl).1
  have hlines := Text.lines_intercalate hfeed hz hzne hchomp
  rwa [List.intercalate_splitOn] at hlines

theorem endsBlank_noticeOf (doc : Text) : (noticeOf doc).endsBlank = false := Text.endsBlank_trim _

theorem lines_noticeOf {doc : Text} (h : noticeOf doc ≠ []) :
    (noticeOf doc).lines = ((noticeOf doc).splitOn '\n').map Text.chomp :=
  Text.lines_eq_map_chomp h (endsBlank_noticeOf doc)

/-! ## words in lines -/

section
variable {α : Type} {w a b : List α} {c : α}

theorem prefix_append_cons_iff (hc : c ∉ w) : w <+: a ++ c :: b ↔ w <+: a := by
  constructor
  · intro h
    rcases List.prefix_or_prefix_of_prefix h (List.prefix_append a (c :: b)) with h' | ⟨v, rfl⟩
    · exact h'
    · rw [List.prefix_append_right_inj] at h
      cases v with
      | nil => rw [List.append_nil]
      | cons d v =>
        obtain ⟨rfl, _⟩ := List.cons_prefix_cons.1 h
        exact absurd (List.mem_append_right a List.mem_cons_self) hc
  · exact fun h => h.trans (List.prefix_append a _)

/-- a word stands in a text on one side of a character that it does not have -/
theorem infix_append_cons_iff (hc : c ∉ w) :
    w <:+: a ++ c :: b ↔ w <:+: a ∨ w <:+: b := by
  induction a with
  | nil =>
    rw [List.nil_append, List.infix_cons_iff, List.infix_nil]
    refine or_congr_left ⟨fun h => ?_, fun h => h ▸ List.nil_prefix⟩
    exact List.prefix_nil.1 ((prefix_append_cons_iff (a := []) hc).1 h)
  | cons d a ih =>
    rw [List.cons_append, List.infix_cons_iff, ih, List.infix_cons_iff, or_assoc, ← List.cons_append,
      prefix_append_cons_iff hc]

/-- a word stands in a text that is put together from lines if and only if it stands in a line -/
theorem infix_intercalate_iff (hc : c ∉ w) (hw : w ≠ []) {ls : List (List α)} :
    w <:+: [c].intercalate ls ↔ ∃ l ∈ ls, w <:+: l := by
  induction ls with
  | nil => simp [hw]
  | cons l ls ih =>
    cases ls with
    | nil => simp
    | cons k ls =>
      rw [List.intercalate_cons_cons, List.append_assoc, List.singleton_append,
        infix_append_cons_iff hc, ih]
      simp only [List.mem_cons, exists_eq_or_imp]

end

/-! ## comments -/

/-- what ends a block comment -/
def commentEnd : Text := "*/"

/-- what stands on a line in the middle of a block comment, if that begins as such lines do -/
def uncommentLine? (line : Text) : Option Text :=
  if line = (" *" : Text) then some [] else Text.after? " * " line

theorem uncommentLine?_commentLine (l : Text) : uncommentLine? (commentLine l) = some l := by
  cases l with
  | nil => rfl
  | cons c r => rfl

theorem star_prefix_commentLine (l : Text) : (" *" : Text) <+: commentLine l := by
  cases l with
  | nil => exact List.prefix_refl _
  | cons c r => exact ⟨' ' :: c :: r, rfl⟩

/-- what stands in front of a line ends no comment, with or without the line -/
theorem commentEnd_infix_commentLine {l : Text} (h : commentEnd <:+: commentLine l) :
    commentEnd <:+: l := by
  cases l with
  | nil => exact absurd h (by decide)
  | cons c r =>
    have hfront : commentLine (c :: r) = ' ' :: '*' :: ' ' :: c :: r := rfl
    rw [hfront, List.infix_cons_iff, List.infix_cons_iff, List.infix_cons_iff] at h
    simpa [commentEnd, List.cons_prefix_cons] using h

theorem splitOn_commentBlock {doc : Text} (h : noticeOf doc ≠ []) :
    (commentBlock doc).splitOn '\n' = (noticeOf doc).lines.map commentLine := by
  have hfeed : ∀ l ∈ (noticeOf doc).lines.map commentLine, '\n' ∉ l :=
    List.forall_mem_map.2 fun l hl => feed_not_mem_commentLine (Text.feed_not_mem_of_mem_lines hl)
  have hne : (noticeOf doc).lines.map commentLine ≠ [] := by
    rw [ne_eq, List.map_eq_nil_iff]
    exact Text.lines_ne_nil h
  exact List.splitOn_intercalate '\n' hfeed hne

theorem commentEnd_infix_noticeOf {doc : Text} (h : commentEnd <:+: commentBlock doc) :
    commentEnd <:+: noticeOf doc := by
  have hfeed : '\n' ∉ commentEnd := by decide
  have hword : commentEnd ≠ [] := by decide
  obtain ⟨k, hk, hend⟩ := (infix_intercalate_iff hfeed hword).1 h
  obtain ⟨l, hl, rfl⟩ := List.mem_map.1 hk
  have hnotice : noticeOf doc ≠ [] := by
    intro hnil
    rw [hnil] at hl
    cases hl
  rw [lines_noticeOf hnotice] at hl
  obtain ⟨p, hp, rfl⟩ := List.mem_map.1 hl
  have hpart : commentEnd <:+: p :=
    (commentEnd_infix_commentLine hend).trans (Text.chomp_prefix p).isInfix
  have hwhole := (infix_intercalate_iff hfeed hword).2 ⟨p, hp, hpart⟩
  rwa [List.intercalate_splitOn] at hwhole

/-- **The lines of a notice are read back from its comment.**  The notice is the end of the
documentation text from its last mention of copyright on, or all of the text, without the blanks at
the ends.  If something is left, the comment has one line for each of its lines, which are its parts
between the line feeds without the carriage returns before these.  Every line of the comment begins
with a star, and from each of them a line of the notice is read back, in order.  What ends a block
comment stands in it only if it stands in the notice. -/
theorem commentBlock_readable (doc : Text) :
    ((∃ s, Text.LastPlace "Copyright" doc s ∧ noticeOf doc = s.trim) ∨
      (¬ ("Copyright" : Text) <:+: doc ∧ noticeOf doc = doc.trim)) ∧
    (noticeOf doc ≠ [] →
      (noticeOf doc).lines = ((noticeOf doc).splitOn '\n').map Text.chomp ∧
      ((commentBlock doc).splitOn '\n').length = (noticeOf doc).lines.length ∧
      (∀ l ∈ (commentBlock doc).splitOn '\n', (" *" : Text) <+: l) ∧
      ((commentBlock doc).splitOn '\n').map uncommentLine? = (noticeOf doc).lines.map some) ∧
    (commentEnd <:+: commentBlock doc → commentEnd <:+: noticeOf doc) := by
  refine ⟨noticeOf_eq doc, fun h => ⟨lines_noticeOf h, ?_⟩, commentEnd_infix_noticeOf⟩
  rw [splitOn_commentBlock h]
  refine ⟨List.length_map _, List.forall_mem_map.2 fun l _ => star_prefix_commentLine l, ?_⟩
  rw [List.map_map]
  exact List.map_congr_left fun l _ => uncommentLine?_commentLine l

example : commentBlock "A tool.\nCopyright (c) 2024\r\n\r\nAs is.\n"
    = " * Copyright (c) 2024\n *\n * As is." := by decide +kernel

end CoroBridge
