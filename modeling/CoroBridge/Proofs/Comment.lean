import Mathlib.Data.List.Infix
import CoroBridge.Proofs.BlockText

/-!
# Line comments in a fragment

A line comment runs from two slashes up to the end of its line.  Fragments are read without any
notion of it: two slashes are a part of a type like any other, and a line end is a blank like any
other, which the space that a run of blanks becomes does not keep.  So a comment that ends in the
fragment does not end in the declaration that is read from it.

* `Text.uncomment`          a text without its line comments;
* `Text.beforeComment`, `Text.belowComment`   what stands before the first of them, and below its
                            line;
* `Text.uncomment_eq`       the first comment taken out of a text;
* `Text.tidy_beforeComment_tidy`   what stands before the first comment is the same, but for blanks,
                            in a tidy text;
* `Text.slashes_infix_tidy_iff`   so is whether there is one;
* `Param.uncomment_decl`    what is left of a declaration that is read from a fragment, when
                            the comments are taken out of both.
-/

namespace CoroBridge

/-- a character that ends a line -/
def isLineEnd (c : Char) : Bool := c == '\n' || c == '\r'

namespace Text

/-- what a line comment begins with -/
def slashes : Text := ['/', '/']

/-- whether a line comment begins with a text -/
def opensComment (t : Text) : Bool := slashes.isPrefixOf t

/-- a text without its line comments, where the text begins inside of one or outside -/
def uncommentFrom : Bool → Text → Text
  | _, [] => []
  | true, c :: r => if isLineEnd c then c :: uncommentFrom false r else uncommentFrom true r
  | false, c :: r =>
    if opensComment (c :: r) then uncommentFrom true r else c :: uncommentFrom false r

/-- a text without its line comments; the ends of their lines stay -/
def uncomment (t : Text) : Text := uncommentFrom false t

/-- what stands before the first line comment of a text -/
def beforeComment : Text → Text
  | [] => []
  | c :: r => if opensComment (c :: r) then [] else c :: beforeComment r

/-- what stands below the first line comment of a text, from the end of its line on -/
def belowComment : Text → Text
  | [] => []
  | c :: r => if opensComment (c :: r) then r.dropWhile (!isLineEnd ·) else belowComment r

theorem unbroken_iff {t : Text} : t.Unbroken ↔ ∀ c ∈ t, isLineEnd c = false := by
  constructor
  · rintro ⟨hfeed, hreturn⟩ c hc
    rw [isLineEnd, Bool.or_eq_false_iff, beq_eq_false_iff_ne, beq_eq_false_iff_ne]
    exact ⟨ne_of_mem_of_not_mem hc hfeed, ne_of_mem_of_not_mem hc hreturn⟩
  · intro h
    exact ⟨fun hc => absurd (h _ hc) (by decide), fun hc => absurd (h _ hc) (by decide)⟩

/-! ## the first comment -/

theorem opensComment_cons_iff {c : Char} {r : Text} :
    opensComment (c :: r) = true ↔ c = '/' ∧ r.head? = some '/' := by
  cases r with
  | nil => simp [opensComment, slashes]
  | cons d r =>
    rw [opensComment, slashes, List.isPrefixOf_iff_prefix, List.cons_prefix_cons,
      List.cons_prefix_cons, List.head?_cons, Option.some_inj]
    exact ⟨fun h => ⟨h.1.symm, h.2.1.symm⟩, fun h => ⟨h.1.symm, h.2.symm, List.nil_prefix⟩⟩

theorem opensComment_eq_false {c : Char} (hc : c ≠ '/') (r : Text) :
    opensComment (c :: r) = false :=
  Bool.eq_false_iff.2 fun h => hc (opensComment_cons_iff.1 h).1

theorem slashes_infix_cons_iff {c : Char} {r : Text} :
    slashes <:+: c :: r ↔ opensComment (c :: r) = true ∨ slashes <:+: r := by
  rw [List.infix_cons_iff, opensComment, List.isPrefixOf_iff_prefix]

theorem ne_slash_of_isLineEnd {c : Char} (h : isLineEnd c = true) : c ≠ '/' := by
  rintro rfl
  cases h

theorem ne_slash_of_isBlank {c : Char} (h : isBlank c = true) : c ≠ '/' := by
  rintro rfl
  cases h

/-- inside of a comment a text counts from the end of the line on -/
theorem uncommentFrom_true (t : Text) :
    uncommentFrom true t = uncomment (t.dropWhile (!isLineEnd ·)) := by
  induction t with
  | nil => rfl
  | cons c r ih =>
    by_cases hc : isLineEnd c = true
    · have hopen := opensComment_eq_false (ne_slash_of_isLineEnd hc) r
      have hdrop : (c :: r).dropWhile (!isLineEnd ·) = c :: r :=
        List.dropWhile_cons_of_neg (by simp [hc])
      rw [hdrop, uncomment, uncommentFrom, uncommentFrom, if_pos hc, hopen]
      rfl
    · have hdrop : (c :: r).dropWhile (!isLineEnd ·) = r.dropWhile (!isLineEnd ·) :=
        List.dropWhile_cons_of_pos (by simp [hc])
      rw [hdrop, uncommentFrom, if_neg hc, ih]

/-- the first comment of a text is taken out, and then those below -/
theorem uncomment_eq (t : Text) : t.uncomment = t.beforeComment ++ t.belowComment.uncomment := by
  induction t with
  | nil => rfl
  | cons c r ih =>
    rw [uncomment, uncommentFrom, beforeComment, belowComment]
    split
    · exact uncommentFrom_true r
    · exact congrArg (c :: ·) ih

/-- on one line nothing stands below a comment -/
theorem belowComment_eq_nil {t : Text} (h : t.Unbroken) : t.belowComment = [] := by
  rw [unbroken_iff] at h
  induction t with
  | nil => rfl
  | cons c r ih =>
    rw [List.forall_mem_cons] at h
    rw [belowComment]
    split
    · exact List.dropWhile_eq_nil_iff.2 fun d hd => by simp [h.2 d hd]
    · exact ih h.2

theorem uncomment_eq_beforeComment {t : Text} (h : t.Unbroken) :
    t.uncomment = t.beforeComment := by
  rw [uncomment_eq, belowComment_eq_nil h]
  exact List.append_nil _

theorem uncomment_eq_self {t : Text} (h : ¬ slashes <:+: t) : t.uncomment = t := by
  induction t with
  | nil => rfl
  | cons c r ih =>
    rw [slashes_infix_cons_iff, not_or] at h
    rw [uncomment, uncommentFrom, if_neg h.1]
    exact congrArg (c :: ·) (ih h.2)

theorem beforeComment_eq_self {t : Text} (h : ¬ slashes <:+: t) : t.beforeComment = t := by
  induction t with
  | nil => rfl
  | cons c r ih =>
    rw [slashes_infix_cons_iff, not_or] at h
    rw [beforeComment, if_neg h.1, ih h.2]

/-- where a text has a comment, its two slashes follow what stands before it -/
theorem exists_beforeComment {t : Text} (h : slashes <:+: t) :
    ∃ r, t = t.beforeComment ++ (slashes ++ r) := by
  induction t with
  | nil => cases List.infix_nil.1 h
  | cons c r ih =>
    by_cases hopen : opensComment (c :: r) = true
    · obtain ⟨u, hu⟩ := List.isPrefixOf_iff_prefix.1 hopen
      exact ⟨u, by rw [beforeComment, if_pos hopen, hu]; rfl⟩
    · obtain ⟨u, hu⟩ := ih ((slashes_infix_cons_iff.1 h).resolve_left hopen)
      exact ⟨u, by rw [beforeComment, if_neg hopen, List.cons_append, ← hu]⟩

/-! ## the first comment of a tidy text -/

theorem slashes_infix_blank_append_iff {a : Text} (ha : ∀ c ∈ a, isBlank c = true) {t : Text} :
    slashes <:+: a ++ t ↔ slashes <:+: t := by
  induction a with
  | nil => rfl
  | cons c a ih =>
    rw [List.forall_mem_cons] at ha
    rw [List.cons_append, slashes_infix_cons_iff, ih ha.2,
      opensComment_eq_false (ne_slash_of_isBlank ha.1)]
    simp

theorem slashes_infix_append_blank_iff {b : Text} (hb : ∀ c ∈ b, isBlank c = true) {t : Text} :
    slashes <:+: t ++ b ↔ slashes <:+: t := by
  have hrev : ∀ c ∈ b.reverse, isBlank c = true := fun c hc => hb c (List.mem_reverse.1 hc)
  have hslashes : slashes.reverse = slashes := rfl
  rw [← List.reverse_infix, List.reverse_append, hslashes, slashes_infix_blank_append_iff hrev,
    ← List.reverse_infix, List.reverse_reverse, hslashes]

theorem head?_squeeze_eq_slash_iff (t : Text) :
    (squeeze t).head? = some '/' ↔ t.head? = some '/' := by
  cases t with
  | nil => rfl
  | cons c r =>
    by_cases hc : isBlank c = true
    · have hstart : startsBlank (squeeze (c :: r)) = true := (startsBlank_squeeze _).trans hc
      rw [startsBlank] at hstart
      constructor
      · intro h
        rw [h] at hstart
        cases hstart
      · intro h
        exact absurd (Option.some.inj h) (ne_slash_of_isBlank hc)
    · rw [squeeze_cons_of_not_blank (Bool.not_eq_true _ ▸ hc)]
      rfl

theorem opensComment_cons_squeeze (c : Char) (r : Text) :
    opensComment (c :: squeeze r) = opensComment (c :: r) := by
  rw [Bool.eq_iff_iff, opensComment_cons_iff, opensComment_cons_iff, head?_squeeze_eq_slash_iff]

theorem slashes_infix_squeeze_iff {t : Text} : slashes <:+: squeeze t ↔ slashes <:+: t := by
  induction t with
  | nil => rfl
  | cons c r ih =>
    rw [slashes_infix_cons_iff, squeeze_cons, ← ih]
    split
    · next hc =>
      rw [opensComment_eq_false (ne_slash_of_isBlank hc)]
      split
      · simp
      · rw [slashes_infix_cons_iff, opensComment_eq_false (by decide)]
    · rw [slashes_infix_cons_iff, opensComment_cons_squeeze]

/-- a text has a comment if and only if it has one when its blanks are put in order -/
theorem slashes_infix_tidy_iff {t : Text} : slashes <:+: t.tidy ↔ slashes <:+: t := by
  obtain ⟨a, b, hcut, ha, hb⟩ := exists_trim t
  conv_rhs => rw [hcut]
  rw [tidy, slashes_infix_squeeze_iff, slashes_infix_blank_append_iff ha,
    slashes_infix_append_blank_iff hb]

theorem beforeComment_blank_append {a : Text} (ha : ∀ c ∈ a, isBlank c = true) (t : Text) :
    (a ++ t).beforeComment = a ++ t.beforeComment := by
  induction a with
  | nil => rfl
  | cons c a ih =>
    rw [List.forall_mem_cons] at ha
    rw [List.cons_append, beforeComment, opensComment_eq_false (ne_slash_of_isBlank ha.1), ih ha.2]
    rfl

theorem beforeComment_append {t : Text} (h : slashes <:+: t) (b : Text) :
    (t ++ b).beforeComment = t.beforeComment := by
  induction t with
  | nil => cases List.infix_nil.1 h
  | cons c r ih =>
    have hlen : 2 ≤ r.length + 1 := h.length_le
    have hne : r ≠ [] := List.ne_nil_of_length_pos (by omega)
    have hopens : opensComment (c :: (r ++ b)) = opensComment (c :: r) := by
      rw [Bool.eq_iff_iff, opensComment_cons_iff, opensComment_cons_iff,
        List.head?_append_of_ne_nil r hne]
    rw [List.cons_append, beforeComment, beforeComment, hopens]
    split
    · rfl
    · next hopen => rw [ih ((slashes_infix_cons_iff.1 h).resolve_left hopen)]

/-- blanks at the end of a text are the only ones that may then follow what stands before its
first comment -/
theorem tidy_beforeComment_append_blank (t : Text) {b : Text} (hb : ∀ c ∈ b, isBlank c = true) :
    tidy (t ++ b).beforeComment = tidy t.beforeComment := by
  by_cases h : slashes <:+: t
  · rw [beforeComment_append h]
  · have happend : ¬ slashes <:+: t ++ b := fun hi => h ((slashes_infix_append_blank_iff hb).1 hi)
    rw [beforeComment_eq_self h, beforeComment_eq_self happend, tidy_append_blank t hb]

theorem startsBlank_beforeComment (t : Text) :
    startsBlank t.beforeComment = startsBlank t := by
  cases t with
  | nil => rfl
  | cons c r =>
    rw [beforeComment]
    split
    · next hopen =>
      rw [startsBlank_cons, (opensComment_cons_iff.1 hopen).1]
      rfl
    · rfl

theorem beforeComment_squeeze (t : Text) :
    (squeeze t).beforeComment = squeeze t.beforeComment := by
  induction t with
  | nil => rfl
  | cons c r ih =>
    by_cases hc : isBlank c = true
    · rw [squeeze_cons, if_pos hc, beforeComment,
        opensComment_eq_false (ne_slash_of_isBlank hc), if_neg Bool.false_ne_true, squeeze_cons,
        if_pos hc, startsBlank_beforeComment]
      split
      · exact ih
      · rw [beforeComment, opensComment_eq_false (by decide), if_neg Bool.false_ne_true, ih]
    · rw [Bool.not_eq_true] at hc
      rw [squeeze_cons_of_not_blank hc, beforeComment, beforeComment, opensComment_cons_squeeze]
      split
      · rfl
      · rw [squeeze_cons_of_not_blank hc, ih]

theorem tidy_beforeComment_tidy (t : Text) :
    tidy t.tidy.beforeComment = tidy t.beforeComment := by
  obtain ⟨a, b, hcut, ha, hb⟩ := exists_trim t
  have hsqueeze : t.tidy.beforeComment = squeeze t.trim.beforeComment :=
    beforeComment_squeeze t.trim
  conv_rhs => rw [hcut]
  rw [hsqueeze, tidy_squeeze, beforeComment_blank_append ha, tidy_blank_append ha,
    tidy_beforeComment_append_blank _ hb]

end Text

/-! ## declarations with comments -/

open Text

/-- slashes in the text of a parameter are a part of its type, since there are none in its name -/
theorem Param.Written.slashes_prefix_ty {q : Param} (h : q.Written) {a r : Text}
    (hdecl : q.decl = a ++ slashes ++ r) : a ++ slashes <+: q.ty := by
  rcases List.append_eq_append_iff.1 (h.decl_eq.symm.trans hdecl) with ⟨u, hu, hname⟩ | ⟨u, hty, _⟩
  · rcases List.eq_nil_or_concat' u with rfl | ⟨v, c, rfl⟩
    · exact ⟨[], by rw [hu, List.append_nil, List.append_nil]⟩
    · have hends : (a ++ ['/']) ++ ['/'] = (q.ty ++ v) ++ [c] := by
        rw [List.append_assoc, List.append_assoc, ← hu]
        rfl
      obtain rfl : '/' = c := (List.append_singleton_inj.1 hends).2
      have hchar := h.mem_name (c := '/') (by simp [hname])
      cases hchar
  · exact ⟨u, hty.symm⟩

/-- **Taking the line comments out of a declaration leaves what stands before the first one in the
fragment.**  This is what is left of the fragment if and only if nothing but blanks and further
comments follows there below the line of the first one.  A fragment without comments loses
nothing, and in a declaration with one the end of the type and the name are a part of it. -/
theorem Param.uncomment_decl (f : Text) (q : Param) (h : Param.parse? f = some q) :
    q.decl.uncomment.tidy = f.beforeComment.tidy ∧
    (f.uncomment.tidy = q.decl.uncomment.tidy ↔
      ∀ c ∈ f.belowComment.uncomment, isBlank c = true) ∧
    (¬ slashes <:+: f → f.uncomment = f ∧ q.decl.uncomment = q.decl) ∧
    (slashes <:+: f → q.decl.uncomment ++ slashes <+: q.ty) := by
  obtain ⟨hq, htidy⟩ := Param.parse?_eq_some_iff.1 h
  have hline : q.decl.oneLine = true := oneLine_iff.2 fun c hc hb => hq.eq_space hc hb
  have hdecl : q.decl.uncomment = q.decl.beforeComment :=
    uncomment_eq_beforeComment (unbroken_of_oneLine hline)
  have hleft : q.decl.uncomment.tidy = f.beforeComment.tidy := by
    rw [hdecl, ← htidy, tidy_beforeComment_tidy]
  have hkept : slashes <:+: q.decl ↔ slashes <:+: f := by
    rw [← htidy, slashes_infix_tidy_iff]
  refine ⟨hleft, ?_, fun hnone => ?_, fun hsome => ?_⟩
  · rw [hleft, uncomment_eq f, tidy_append_eq_iff]
  · exact ⟨uncomment_eq_self hnone, uncomment_eq_self (mt hkept.1 hnone)⟩
  · obtain ⟨r, hr⟩ := exists_beforeComment (hkept.2 hsome)
    rw [hdecl]
    exact hq.slashes_prefix_ty (by rw [List.append_assoc, ← hr])

/-- a fragment that has a comment above its type and its name -/
def commentedOffset : Text := "// first byte\n    int64_t offset"

/-- the parameter that it declares -/
def offsetInComment : Param :=
  ⟨"// first byte int64_t offset", "// first byte int64_t ", "offset"⟩

theorem parse?_commentedOffset : Param.parse? commentedOffset = some offsetInComment := by rfl

theorem Param.uncomment_decl_commentedOffset :
    Param.parse? commentedOffset = some offsetInComment ∧
    offsetInComment.decl.uncomment.tidy = commentedOffset.beforeComment.tidy ∧
    (commentedOffset.uncomment.tidy = offsetInComment.decl.uncomment.tidy ↔
      ∀ c ∈ commentedOffset.belowComment.uncomment, isBlank c = true) ∧
    (¬ slashes <:+: commentedOffset →
      commentedOffset.uncomment = commentedOffset ∧
      offsetInComment.decl.uncomment = offsetInComment.decl) ∧
    (slashes <:+: commentedOffset →
      offsetInComment.decl.uncomment ++ slashes <+: offsetInComment.ty) :=
  ⟨parse?_commentedOffset, Param.uncomment_decl _ _ parse?_commentedOffset⟩

/-- type and name stand outside of the comment in the fragment, and inside of it in the declaration
that is read from it -/
theorem offset_moves_into_comment :
    Param.parse? commentedOffset = some offsetInComment ∧
    commentedOffset.uncomment.tidy = "int64_t offset" ∧
    offsetInComment.decl.uncomment.tidy = [] ∧
    ¬ ∀ f q, Param.parse? f = some q → f.uncomment.tidy = q.decl.uncomment.tidy := by
  have hfragment : commentedOffset.uncomment.tidy = "int64_t offset" := by rfl
  have hdecl : offsetInComment.decl.uncomment.tidy = [] := by rfl
  refine ⟨parse?_commentedOffset, hfragment, hdecl, fun h => ?_⟩
  have heq := h commentedOffset offsetInComment parse?_commentedOffset
  rw [hfragment, hdecl] at heq
  exact absurd heq (by decide)

end CoroBridge
