import CoroBridge.Proofs.BlockText

/-!
# Type names: which names have the same one

A type name does not show where its name had underscores before digits, at its ends or next to each
other.  Everything else can be read back from it.

* `joinDigits`, `nameKey`   the parts of a name, as far as its type name shows them;
* `camel_eq_flatMap`        the type name is made of these parts, capitalised;
* `cutCapitals`, `shownParts`   a text cut before every capital, and the parts that this shows;
* `shownParts_camel`        the parts of a name are read back from its type name;
* `camel_eq_camel_iff`      two names have the same type name if and only if they have the same parts;
* `PlainName`, `nameKey_of_plainName`   names of which every part begins with a letter show all parts;
* `camel_collision`         the names that have a type name in common, and names that have none.
-/

namespace CoroBridge

/-! ## parts of names -/

/-- whether a text begins with a digit -/
def startsDigit (t : Text) : Bool := t.head?.any Char.isDigit

/-- parts of which each that begins with a digit is put behind the one before it -/
def joinDigits : List Text → List Text
  | [] => []
  | a :: as =>
    match joinDigits as with
    | [] => [a]
    | b :: bs => if startsDigit b then (a ++ b) :: bs else a :: b :: bs

@[simp] theorem joinDigits_nil : joinDigits [] = [] := rfl

theorem joinDigits_cons_of_nil (a : Text) {as : List Text} (h : joinDigits as = []) :
    joinDigits (a :: as) = [a] := by
  rw [joinDigits, h]

theorem joinDigits_cons_of_cons (a : Text) {as bs : List Text} {b : Text}
    (h : joinDigits as = b :: bs) :
    joinDigits (a :: as) = if startsDigit b then (a ++ b) :: bs else a :: b :: bs := by
  rw [joinDigits, h]

/-- the parts of a name between underscores, without the empty ones, where a part that begins with
a digit belongs to the one before it -/
def nameKey (name : Text) : List Text := joinDigits ((name.splitOn '_').filter (· ≠ []))

theorem splitOn_wrapperStem (r : Text) :
    (wrapperStem ++ r).splitOn '_' = ['b', 'd', 'r', 'v'] :: r.splitOn '_' :=
  List.splitOn_append_cons_self_of_not_mem (by decide : '_' ∉ ['b', 'd', 'r', 'v']) r

theorem splitOn_coroutineStem (r : Text) :
    (coroutineStem ++ r).splitOn '_' = ['b', 'd', 'r', 'v'] :: ['c', 'o'] :: r.splitOn '_' := by
  have hco := List.splitOn_append_cons_self_of_not_mem (by decide : '_' ∉ ['c', 'o']) r
  exact (splitOn_wrapperStem ('c' :: 'o' :: '_' :: r)).trans (congrArg _ hco)

/-- a part of a name: small letters and digits, at least one -/
structure NamePart (t : Text) : Prop where
  ne_nil : t ≠ []
  chars : ∀ c ∈ t, c.isLower = true ∨ c.isDigit = true

theorem NamePart.append {a b : Text} (ha : NamePart a) (hb : NamePart b) : NamePart (a ++ b) :=
  ⟨List.append_ne_nil_of_left_ne_nil ha.ne_nil b,
    List.forall_mem_append.2 ⟨ha.chars, hb.chars⟩⟩

theorem namePart_of_mem_joinDigits {as : List Text} (h : ∀ a ∈ as, NamePart a) :
    ∀ p ∈ joinDigits as, NamePart p := by
  induction as with
  | nil => exact h
  | cons a as ih =>
    obtain ⟨ha, has⟩ := List.forall_mem_cons.1 h
    have hrest := ih has
    cases hj : joinDigits as with
    | nil =>
      rw [joinDigits_cons_of_nil a hj]
      exact List.forall_mem_singleton.2 ha
    | cons b bs =>
      rw [hj] at hrest
      obtain ⟨hb, hbs⟩ := List.forall_mem_cons.1 hrest
      rw [joinDigits_cons_of_cons a hj]
      split
      · exact List.forall_mem_cons.2 ⟨ha.append hb, hbs⟩
      · exact List.forall_mem_cons.2 ⟨ha, hrest⟩

/-- of parts that are joined no part but the first begins with a digit -/
theorem startsDigit_of_mem_tail (as : List Text) :
    ∀ p ∈ (joinDigits as).tail, startsDigit p = false := by
  induction as with
  | nil => exact fun p hp => absurd hp List.not_mem_nil
  | cons a as ih =>
    cases hj : joinDigits as with
    | nil =>
      rw [joinDigits_cons_of_nil a hj]
      exact fun p hp => absurd hp List.not_mem_nil
    | cons b bs =>
      rw [hj] at ih
      rw [joinDigits_cons_of_cons a hj]
      split
      · exact ih
      · next hb => exact List.forall_mem_cons.2 ⟨by simpa using hb, ih⟩

theorem namePart_of_mem_splitOn {n : Text} (h : ∀ c ∈ n, isNameChar c = true) :
    ∀ a ∈ (n.splitOn '_').filter (· ≠ []), NamePart a := by
  intro a ha
  obtain ⟨hmem, hne⟩ := List.mem_filter.1 ha
  obtain ⟨hscore, hchars⟩ := mem_splitOn hmem
  refine ⟨of_decide_eq_true hne, fun c hc => ?_⟩
  have hname := h c (hchars c hc)
  have hne : c ≠ '_' := ne_of_mem_of_not_mem hc hscore
  simpa [isNameChar, hne] using hname

theorem namePart_of_mem_nameKey {n : Text} (h : ∀ c ∈ n, isNameChar c = true) :
    ∀ p ∈ nameKey n, NamePart p :=
  namePart_of_mem_joinDigits (namePart_of_mem_splitOn h)

/-! ## capitals -/

theorem isAlphanum_of_lower_or_digit {c : Char} (h : c.isLower = true ∨ c.isDigit = true) :
    c.isAlphanum = true :=
  h.elim isAlphanum_of_isLower isAlphanum_of_isDigit

theorem toUpper_of_isDigit {c : Char} (h : c.isDigit = true) : c.toUpper = c := by
  exact of_forall_ascii (P := fun c => c.isDigit = true → c.toUpper = c) (by decide)
    (toNat_lt_of_isAlphanum (isAlphanum_of_isDigit h)) h

theorem isUpper_toUpper {c : Char} (h : c.isLower = true) : c.toUpper.isUpper = true := by
  exact of_forall_ascii (P := fun c => c.isLower = true → c.toUpper.isUpper = true)
    (by decide) (toNat_lt_of_isAlphanum (isAlphanum_of_isLower h)) h

theorem isUpper_eq_false {c : Char} (h : c.isLower = true ∨ c.isDigit = true) :
    c.isUpper = false := by
  exact of_forall_ascii (P := fun c => c.isLower = true ∨ c.isDigit = true → c.isUpper = false)
    (by decide) (toNat_lt_of_isAlphanum (isAlphanum_of_lower_or_digit h)) h

theorem toLower_toUpper {c : Char} (h : c.isLower = true ∨ c.isDigit = true) :
    c.toUpper.toLower = c := by
  exact of_forall_ascii
    (P := fun c => c.isLower = true ∨ c.isDigit = true → c.toUpper.toLower = c)
    (by decide) (toNat_lt_of_isAlphanum (isAlphanum_of_lower_or_digit h)) h

theorem NamePart.capital_eq {c : Char} {r : Text} (h : NamePart (c :: r)) :
    Text.capital (c :: r) = c.toUpper :: r := by
  have hc := isAlphanum_of_lower_or_digit (h.chars c List.mem_cons_self)
  rw [Text.capital_cons, Text.upper_of_ascii (toNat_lt_of_isAlphanum hc), List.singleton_append]

theorem NamePart.capital_of_startsDigit {a : Text} (h : NamePart a) (hd : startsDigit a = true) :
    a.capital = a := by
  cases a with
  | nil => rfl
  | cons c r => rw [h.capital_eq, toUpper_of_isDigit hd]

theorem NamePart.capital_append {a : Text} (h : NamePart a) (b : Text) :
    (a ++ b).capital = a.capital ++ b := by
  obtain ⟨c, r, rfl⟩ := List.exists_cons_of_ne_nil h.ne_nil
  rw [List.cons_append, Text.capital_cons, Text.capital_cons, List.append_assoc]

/-- a text with its first character as a small letter -/
def uncapital : Text → Text
  | [] => []
  | c :: r => c.toLower :: r

/-- a part can be read back from its capitalised form -/
theorem NamePart.uncapital_capital {a : Text} (h : NamePart a) : uncapital a.capital = a := by
  obtain ⟨c, r, rfl⟩ := List.exists_cons_of_ne_nil h.ne_nil
  rw [h.capital_eq, uncapital, toLower_toUpper (h.chars c List.mem_cons_self)]

/-! ## type names -/

theorem flatMap_capital_joinDigits {as : List Text} (h : ∀ a ∈ as, NamePart a) :
    (joinDigits as).flatMap Text.capital = as.flatMap Text.capital := by
  induction as with
  | nil => rfl
  | cons a as ih =>
    obtain ⟨ha, has⟩ := List.forall_mem_cons.1 h
    have hparts := namePart_of_mem_joinDigits has
    rw [List.flatMap_cons, ← ih has]
    cases hj : joinDigits as with
    | nil => rw [joinDigits_cons_of_nil a hj, List.flatMap_singleton, List.flatMap_nil,
        List.append_nil]
    | cons b bs =>
      rw [hj] at hparts
      rw [joinDigits_cons_of_cons a hj]
      split
      · next hb =>
        have hcap := (hparts b List.mem_cons_self).capital_of_startsDigit hb
        rw [List.flatMap_cons, ha.capital_append, List.flatMap_cons, hcap, List.append_assoc]
      · rw [List.flatMap_cons]

/-- a type name is made of the parts that it shows -/
theorem camel_eq_flatMap {n : Text} (h : ∀ c ∈ n, isNameChar c = true) :
    camel n = (nameKey n).flatMap Text.capital := by
  have hfilter : ∀ as : List Text,
      (as.filter (· ≠ [])).flatMap Text.capital = as.flatMap Text.capital := by
    intro as
    induction as with
    | nil => rfl
    | cons a as ih =>
      cases a with
      | nil => exact ih
      | cons c r => exact congrArg (Text.capital (c :: r) ++ ·) ih
  rw [nameKey, flatMap_capital_joinDigits (namePart_of_mem_splitOn h), hfilter, camel]

/-! ## reading type names -/

/-- whether a text begins with a capital -/
def startsUpper (t : Text) : Bool := t.head?.any Char.isUpper

/-- a text cut before every capital -/
def cutCapitals : Text → List Text
  | [] => []
  | c :: r =>
    match cutCapitals r with
    | [] => [[c]]
    | b :: bs => if startsUpper b then [c] :: b :: bs else (c :: b) :: bs

/-- a part without capitals after its first character is cut off, if a capital follows or nothing -/
theorem cutCapitals_append {c : Char} {r t : Text} (hr : ∀ d ∈ r, d.isUpper = false)
    (ht : ∀ b ∈ (cutCapitals t).head?, startsUpper b = true) :
    cutCapitals (c :: r ++ t) = (c :: r) :: cutCapitals t := by
  induction r generalizing c with
  | nil =>
    rw [List.singleton_append, cutCapitals]
    cases h : cutCapitals t with
    | nil => rfl
    | cons b bs =>
      rw [h] at ht
      exact if_pos (ht b rfl)
  | cons d r ih =>
    obtain ⟨hd, hr⟩ := List.forall_mem_cons.1 hr
    have hlow : ¬ startsUpper (d :: r) = true := by simpa [startsUpper] using hd
    rw [List.cons_append, cutCapitals, ih hr]
    exact if_neg hlow

theorem NamePart.startsUpper_capital {a : Text} (h : NamePart a) (hd : startsDigit a = false) :
    startsUpper a.capital = true := by
  obtain ⟨c, r, rfl⟩ := List.exists_cons_of_ne_nil h.ne_nil
  have hnot : c.isDigit = false := hd
  have hlow : c.isLower = true := (h.chars c List.mem_cons_self).resolve_right (by simp [hnot])
  rw [h.capital_eq]
  exact isUpper_toUpper hlow

/-- capitalised parts, of which no but the first begins with a digit, are read back from the text
that they make up -/
theorem cutCapitals_flatMap {ps : List Text} (h : ∀ p ∈ ps, NamePart p)
    (htail : ∀ p ∈ ps.tail, startsDigit p = false) :
    cutCapitals (ps.flatMap Text.capital) = ps.map Text.capital := by
  induction ps with
  | nil => rfl
  | cons p ps ih =>
    obtain ⟨hp, hps⟩ := List.forall_mem_cons.1 h
    have hrest := ih hps fun q hq => htail q (List.mem_of_mem_tail hq)
    obtain ⟨c, r, rfl⟩ := List.exists_cons_of_ne_nil hp.ne_nil
    have hr : ∀ d ∈ r, d.isUpper = false := fun d hd =>
      isUpper_eq_false (hp.chars d (List.mem_cons_of_mem c hd))
    have hnext : ∀ b ∈ (cutCapitals (ps.flatMap Text.capital)).head?, startsUpper b = true := by
      intro b hb
      rw [hrest] at hb
      cases ps with
      | nil => cases hb
      | cons q ps =>
        cases hb
        exact (hps q List.mem_cons_self).startsUpper_capital (htail q List.mem_cons_self)
    rw [List.flatMap_cons, List.map_cons, hp.capital_eq, cutCapitals_append hr hnext, hrest]

/-- the parts that a type name shows -/
def shownParts (typeName : Text) : List Text := (cutCapitals typeName).map uncapital

/-- the parts of a name are read back from its type name -/
theorem shownParts_camel {n : Text} (h : ∀ c ∈ n, isNameChar c = true) :
    shownParts (camel n) = nameKey n := by
  have hparts := namePart_of_mem_nameKey h
  rw [shownParts, camel_eq_flatMap h, cutCapitals_flatMap hparts (startsDigit_of_mem_tail _),
    List.map_map]
  exact (List.map_congr_left fun p hp => (hparts p hp).uncapital_capital).trans (List.map_id _)

/-- two names have the same type name if and only if they have the same parts -/
theorem camel_eq_camel_iff {a b : Text} (ha : ∀ c ∈ a, isNameChar c = true)
    (hb : ∀ c ∈ b, isNameChar c = true) : camel a = camel b ↔ nameKey a = nameKey b := by
  constructor
  · intro h
    rw [← shownParts_camel ha, h, shownParts_camel hb]
  · intro h
    rw [camel_eq_flatMap ha, camel_eq_flatMap hb, h]

/-! ## names that show all of their parts -/

/-- whether a text begins with a small letter -/
def startsLower (t : Text) : Bool := t.head?.any Char.isLower

/-- every part of the name between underscores begins with a letter, and so none is empty -/
def PlainName (n : Text) : Prop := ∀ p ∈ n.splitOn '_', startsLower p = true

theorem startsDigit_of_startsLower {t : Text} (h : startsLower t = true) :
    startsDigit t = false := by
  cases t with
  | nil => rfl
  | cons c r =>
    have hlow : c.isLower = true := h
    have hc := toNat_lt_of_isAlphanum (isAlphanum_of_isLower hlow)
    exact of_forall_ascii (P := fun c => c.isLower = true → c.isDigit = false) (by decide) hc hlow

/-- parts stay as they are if none but the first begins with a digit -/
theorem joinDigits_eq_self {as : List Text} (h : ∀ a ∈ as.tail, startsDigit a = false) :
    joinDigits as = as := by
  induction as with
  | nil => rfl
  | cons a as ih =>
    have hrest := ih fun b hb => h b (List.mem_of_mem_tail hb)
    cases as with
    | nil => rfl
    | cons b bs =>
      rw [joinDigits_cons_of_cons a hrest, h b List.mem_cons_self, if_neg Bool.false_ne_true]

theorem nameKey_of_plainName {n : Text} (h : PlainName n) : nameKey n = n.splitOn '_' := by
  have hne : ∀ p ∈ n.splitOn '_', decide (p ≠ []) = true := by
    intro p hp
    refine decide_eq_true ?_
    rintro rfl
    cases h _ hp
  rw [nameKey, List.filter_eq_self.2 hne]
  exact joinDigits_eq_self fun p hp => startsDigit_of_startsLower (h p (List.mem_of_mem_tail hp))

/-- a plain name is read back from its type name -/
theorem eq_intercalate_shownParts {n : Text} (h : ∀ c ∈ n, isNameChar c = true) (hn : PlainName n) :
    n = List.intercalate ['_'] (shownParts (camel n)) := by
  rw [shownParts_camel h, nameKey_of_plainName hn, List.intercalate_splitOn]

/-- **Two names have the same type name if and only if they have the same parts**: the parts between
underscores that are not empty, each that begins with a digit behind the one before it.  These are
read back from the type name.  So names of which every part begins with a letter have different type
names unless they are the same. -/
theorem camel_collision {a b : Text} (ha : ∀ c ∈ a, isNameChar c = true)
    (hb : ∀ c ∈ b, isNameChar c = true) :
    (camel a = camel b ↔ nameKey a = nameKey b) ∧ shownParts (camel a) = nameKey a ∧
    (PlainName a → PlainName b → (camel a = camel b ↔ a = b)) := by
  refine ⟨camel_eq_camel_iff ha hb, shownParts_camel ha, fun hpa hpb => ⟨fun h => ?_, ?_⟩⟩
  · rw [eq_intercalate_shownParts ha hpa, h, ← eq_intercalate_shownParts hb hpb]
  · rintro rfl
    rfl

/-- underscores that are doubled, at the ends or before a digit do not show, others do -/
theorem camel_collision_scattered :
    camel "_bdrv__co_read_2_" = camel "bdrv_co_read2" ∧
    camel "bdrv_co_readv" ≠ camel "bdrv_coreadv" := by
  have hchars : ∀ n : Text, n.all isNameChar = true → ∀ c ∈ n, isNameChar c = true :=
    fun n h => List.all_eq_true.1 h
  have hplain : ∀ n : Text, (n.splitOn '_').all startsLower = true → PlainName n :=
    fun n h => List.all_eq_true.1 h
  obtain ⟨hsame, _⟩ := camel_collision (hchars "_bdrv__co_read_2_" (by decide))
    (hchars "bdrv_co_read2" (by decide))
  obtain ⟨_, _, hdiffer⟩ := camel_collision (hchars "bdrv_co_readv" (by decide))
    (hchars "bdrv_coreadv" (by decide))
  refine ⟨hsame.2 (by decide +kernel), fun h => ?_⟩
  have heq := (hdiffer (hplain _ (by decide +kernel)) (hplain _ (by decide +kernel))).1 h
  exact absurd heq (by decide)

end CoroBridge
