import Mathlib.Data.List.DropRight
import CoroBridge.Text.Blank

/-!
# Spacing: texts with their blanks put in order

A fragment of an argument list is trimmed, and its runs of blanks become single spaces.

* `Text.tidy`            both steps together;
* `Text.endsBlank`       whether a text ends with a blank;
* `Text.trim_eq_self`, `Text.squeeze_squeeze`, `Text.tidy_tidy`   what a text in order is left as;
* `Text.tidy_blank_append`, `Text.tidy_append_blank`   blanks around a text do not count;
* `Text.tidy_squeeze`    nor does it whether its runs of blanks are single spaces before;
* `Text.filter_tidy`     the other characters of a text stay, in their order;
* `Text.tidy_append_eq_iff`   only blanks make no difference when they follow a text;
* `Text.mem_tidy`        nothing but spaces and the other characters of a text is in what remains.
-/

namespace CoroBridge
namespace Text

/-! ## trimmed texts -/

/-- whether a text ends with a blank -/
def endsBlank (t : Text) : Bool := t.getLast?.any isBlank

@[simp] theorem endsBlank_nil : endsBlank [] = false := rfl
@[simp] theorem endsBlank_singleton (c : Char) : endsBlank [c] = isBlank c := rfl

theorem endsBlank_cons (c : Char) {t : Text} (h : t ≠ []) : endsBlank (c :: t) = endsBlank t := by
  obtain ⟨d, r, rfl⟩ := List.exists_cons_of_ne_nil h
  rfl

theorem endsBlank_append (a : Text) {b : Text} (h : b ≠ []) :
    (a ++ b).endsBlank = b.endsBlank := by
  rw [endsBlank, endsBlank, List.getLast?_append, List.getLast?_eq_some_getLast h, Option.some_or]

theorem trim_eq (t : Text) : t.trim = (t.dropWhile isBlank).rdropWhile isBlank := rfl

theorem trim_eq_self {t : Text} (hs : startsBlank t = false) (he : endsBlank t = false) :
    t.trim = t := by
  have hd : t.dropWhile isBlank = t := by
    cases t with
    | nil => rfl
    | cons c r => exact List.dropWhile_cons_of_neg (by simpa using hs)
  rw [trim_eq, hd, List.rdropWhile_eq_self_iff]
  intro hne
  rw [endsBlank, List.getLast?_eq_some_getLast hne] at he
  simpa using he

theorem startsBlank_trim (t : Text) : startsBlank t.trim = false := by
  have hpre : t.trim <+: t.dropWhile isBlank := by
    rw [trim_eq]
    exact List.rdropWhile_prefix _ _
  cases h : t.trim with
  | nil => rfl
  | cons c r =>
    rw [h] at hpre
    obtain ⟨b, hb⟩ := hpre
    have hc := List.head?_dropWhile_not isBlank t
    rw [← hb] at hc
    exact hc

theorem endsBlank_trim (t : Text) : endsBlank t.trim = false := by
  by_cases hne : t.trim = []
  · rw [hne]; rfl
  · have hlast : ¬ isBlank (t.trim.getLast hne) = true :=
      List.rdropWhile_last_not isBlank (t.dropWhile isBlank) hne
    rw [endsBlank, List.getLast?_eq_some_getLast hne]
    simpa using hlast

theorem trim_trim (t : Text) : t.trim.trim = t.trim :=
  trim_eq_self (startsBlank_trim t) (endsBlank_trim t)

theorem trim_ne_nil {t : Text} {c : Char} (hc : c ∈ t) (hb : isBlank c = false) : t.trim ≠ [] := by
  intro h
  rw [trim_eq, List.rdropWhile_eq_nil_iff] at h
  have hnil : t.dropWhile isBlank = [] := by
    cases hd : t.dropWhile isBlank with
    | nil => rfl
    | cons d r =>
      have hhead := List.head?_dropWhile_not isBlank t
      rw [hd] at hhead h
      exact absurd (h d List.mem_cons_self) (by simpa using hhead)
  rw [List.dropWhile_eq_nil_iff.1 hnil c hc] at hb
  cases hb

theorem trim_blank_append {a : Text} (ha : ∀ c ∈ a, isBlank c = true) (t : Text) :
    (a ++ t).trim = t.trim := by
  rw [trim_eq, List.dropWhile_append_of_pos ha, ← trim_eq]

theorem trim_append_blank (t : Text) {b : Text} (hb : ∀ c ∈ b, isBlank c = true) :
    (t ++ b).trim = t.trim := by
  induction t with
  | nil => simpa using trim_blank_append hb []
  | cons c t ih =>
    by_cases hc : isBlank c = true
    · rw [List.cons_append, trim_cons_blank hc, ih, trim_cons_blank hc]
    · have hrev : ∀ d ∈ b.reverse, isBlank d = true := fun d hd => hb d (List.mem_reverse.1 hd)
      rw [trim_eq, trim_eq, List.cons_append, List.dropWhile_cons_of_neg hc,
        List.dropWhile_cons_of_neg hc, ← List.cons_append, List.rdropWhile, List.reverse_append,
        List.dropWhile_append_of_pos hrev, List.rdropWhile]

/-- what is trimmed away are blanks -/
theorem exists_trim (t : Text) : ∃ a b, t = a ++ (t.trim ++ b) ∧ (∀ c ∈ a, isBlank c = true) ∧
    ∀ c ∈ b, isBlank c = true := by
  refine ⟨t.takeWhile isBlank, (t.dropWhile isBlank).rtakeWhile isBlank, ?_,
    fun c => List.all_eq_true.1 List.all_takeWhile c, fun c => List.mem_rtakeWhile_imp⟩
  rw [trim_eq, List.rdropWhile_append_rtakeWhile, List.takeWhile_append_dropWhile]

theorem mem_of_mem_trim {c : Char} {t : Text} (h : c ∈ t.trim) : c ∈ t :=
  (List.dropWhile_sublist isBlank).mem ((List.rdropWhile_prefix isBlank _).mem h)

/-! ## squeezed texts -/

theorem squeeze_cons (c : Char) (r : Text) :
    squeeze (c :: r)
      = if isBlank c then (if startsBlank r then squeeze r else ' ' :: squeeze r)
        else c :: squeeze r := rfl

theorem startsBlank_squeeze (t : Text) : startsBlank (squeeze t) = startsBlank t := by
  induction t with
  | nil => rfl
  | cons c r ih =>
    by_cases hc : isBlank c = true
    · by_cases hr : startsBlank r = true
      · simp [squeeze, hc, hr, ih]
      · simp only [squeeze, hc, hr, if_true, if_false, startsBlank_cons, Bool.false_eq_true]
        decide
    · simp [squeeze, hc]

theorem squeeze_eq_nil_iff {t : Text} : squeeze t = [] ↔ t = [] := by
  induction t with
  | nil => simp
  | cons c r ih =>
    by_cases hc : isBlank c = true
    · by_cases hr : startsBlank r = true
      · have hne : r ≠ [] := by rintro rfl; cases hr
        simp [squeeze, hc, hr, ih, hne]
      · simp [squeeze, hc, hr]
    · simp [squeeze, hc]

theorem endsBlank_squeeze (t : Text) : endsBlank (squeeze t) = endsBlank t := by
  induction t with
  | nil => rfl
  | cons c r ih =>
    by_cases hr : r = []
    · subst hr
      by_cases hc : isBlank c = true
      · simp only [squeeze, hc, if_true, startsBlank_nil, endsBlank_singleton, if_false,
          Bool.false_eq_true]
        decide
      · simp [squeeze, hc]
    · have hne : squeeze r ≠ [] := fun h => hr (squeeze_eq_nil_iff.1 h)
      rw [endsBlank_cons c hr, ← ih, squeeze_cons]
      split
      · split
        · rfl
        · exact endsBlank_cons ' ' hne
      · exact endsBlank_cons c hne

theorem squeeze_squeeze (t : Text) : squeeze (squeeze t) = squeeze t := by
  induction t with
  | nil => rfl
  | cons c r ih =>
    by_cases hc : isBlank c = true
    · by_cases hr : startsBlank r = true
      · simp only [squeeze, hc, hr, if_true, ih]
      · have hsp : isBlank ' ' = true := by decide
        simp only [squeeze, hc, hr, if_true, if_false, Bool.false_eq_true, hsp,
          startsBlank_squeeze, ih]
    · have hnot : isBlank c = false := Bool.eq_false_iff.2 hc
      rw [squeeze_cons_of_not_blank hnot, squeeze_cons_of_not_blank hnot, ih]

theorem squeeze_append {a : Text} (h : endsBlank a = false) (b : Text) :
    squeeze (a ++ b) = squeeze a ++ squeeze b := by
  induction a with
  | nil => rfl
  | cons c a ih =>
    cases a with
    | nil =>
      have hc : isBlank c = false := h
      rw [List.singleton_append, squeeze_cons_of_not_blank hc, squeeze_cons_of_not_blank hc]
      rfl
    | cons d a =>
      rw [endsBlank_cons c (List.cons_ne_nil d a)] at h
      have hstart : startsBlank (d :: a ++ b) = startsBlank (d :: a) := rfl
      rw [List.cons_append, squeeze_cons, squeeze_cons, hstart, ih h]
      split
      · split <;> rfl
      · rfl

theorem mem_squeeze {c : Char} {t : Text} (h : c ∈ squeeze t) : c = ' ' ∨ c ∈ t := by
  induction t with
  | nil => cases h
  | cons d r ih =>
    unfold squeeze at h
    split at h
    · split at h
      · exact (ih h).imp id (List.mem_cons_of_mem d)
      · rcases List.mem_cons.1 h with rfl | h
        · exact .inl rfl
        · exact (ih h).imp id (List.mem_cons_of_mem d)
    · rcases List.mem_cons.1 h with rfl | h
      · exact .inr List.mem_cons_self
      · exact (ih h).imp id (List.mem_cons_of_mem d)

theorem blank_of_mem_squeeze {t : Text} (h : ∀ c ∈ t, isBlank c = true) :
    ∀ c ∈ squeeze t, isBlank c = true := by
  intro c hc
  rcases mem_squeeze hc with rfl | hc
  · decide
  · exact h c hc

/-! ## texts in order -/

/-- a text without blanks at its ends, and with one space for every run of blanks inside -/
def tidy (t : Text) : Text := t.trim.squeeze

theorem tidy_tidy (t : Text) : t.tidy.tidy = t.tidy := by
  have htrim : t.tidy.trim = t.tidy :=
    trim_eq_self ((startsBlank_squeeze _).trans (startsBlank_trim t))
      ((endsBlank_squeeze _).trans (endsBlank_trim t))
  rw [tidy, htrim, tidy, squeeze_squeeze]

theorem tidy_blank_append {a : Text} (ha : ∀ c ∈ a, isBlank c = true) (t : Text) :
    (a ++ t).tidy = t.tidy := by
  rw [tidy, trim_blank_append ha, tidy]

theorem tidy_append_blank (t : Text) {b : Text} (hb : ∀ c ∈ b, isBlank c = true) :
    (t ++ b).tidy = t.tidy := by
  rw [tidy, trim_append_blank t hb, tidy]

theorem tidy_squeeze_blank_append {a : Text} (ha : ∀ c ∈ a, isBlank c = true) (t : Text) :
    tidy (squeeze (a ++ t)) = tidy (squeeze t) := by
  induction a with
  | nil => rfl
  | cons c a ih =>
    rw [List.forall_mem_cons] at ha
    have hspace : ∀ d ∈ [' '], isBlank d = true := List.forall_mem_singleton.2 (by decide)
    rw [List.cons_append, squeeze_cons, if_pos ha.1, ← ih ha.2]
    split
    · rfl
    · exact tidy_blank_append hspace _

theorem tidy_squeeze (t : Text) : tidy (squeeze t) = tidy t := by
  obtain ⟨a, b, hcut, ha, hb⟩ := exists_trim t
  conv_lhs => rw [hcut]
  rw [tidy_squeeze_blank_append ha, squeeze_append (endsBlank_trim t),
    tidy_append_blank _ (blank_of_mem_squeeze hb)]
  exact tidy_tidy t

theorem filter_squeeze (t : Text) :
    (squeeze t).filter (!isBlank ·) = t.filter (!isBlank ·) := by
  induction t with
  | nil => rfl
  | cons c r ih =>
    rw [squeeze_cons]
    split
    · next hc =>
      rw [List.filter_cons_of_neg (by simp [hc]), ← ih]
      split
      · rfl
      · exact List.filter_cons_of_neg (by decide)
    · rw [List.filter_cons, List.filter_cons, ih]

theorem filter_blank {t : Text} (h : ∀ c ∈ t, isBlank c = true) : t.filter (!isBlank ·) = [] :=
  List.filter_eq_nil_iff.2 fun c hc => by simp [h c hc]

/-- putting a text in order leaves its other characters as they are -/
theorem filter_tidy (t : Text) : t.tidy.filter (!isBlank ·) = t.filter (!isBlank ·) := by
  obtain ⟨a, b, hcut, ha, hb⟩ := exists_trim t
  conv_rhs => rw [hcut]
  rw [tidy, filter_squeeze, List.filter_append, List.filter_append, filter_blank ha,
    filter_blank hb, List.nil_append, List.append_nil]

/-- only blanks make no difference when they follow a text -/
theorem tidy_append_eq_iff {a b : Text} :
    (a ++ b).tidy = a.tidy ↔ ∀ c ∈ b, isBlank c = true := by
  constructor
  · intro h
    have hfilter := congrArg (List.filter (!isBlank ·)) h
    rw [filter_tidy, filter_tidy, List.filter_append, List.append_right_eq_self] at hfilter
    intro c hc
    simpa using List.filter_eq_nil_iff.1 hfilter c hc
  · exact tidy_append_blank a

/-- the characters of a text in order are spaces, and characters of the text that are no blanks -/
theorem mem_tidy {c : Char} {t : Text} (h : c ∈ t.tidy) :
    c = ' ' ∨ (c ∈ t ∧ isBlank c = false) := by
  by_cases hb : isBlank c = true
  · exact .inl (eq_space_of_mem_squeeze h hb)
  · rcases mem_squeeze h with rfl | hc
    · exact .inl rfl
    · exact .inr ⟨mem_of_mem_trim hc, by simpa using hb⟩

end Text
end CoroBridge
