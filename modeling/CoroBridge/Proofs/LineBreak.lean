import CoroBridge.Proofs.Lines
import CoroBridge.Proofs.Outcome
import CoroBridge.Proofs.Parameter

/-!
# Line breaks: texts with other line ends

A line ends with a line feed, with a carriage return, or with both.  Every step of the reader passes
over these characters in the same way, so that it makes no difference which of them a text is
written with.

* `LineBreak`, `rebreak`    a text with other characters for its line feeds;
* `takeWhile_rebreak`, `dropWhile_rebreak`, `after?_rebreak`, `tidy_rebreak`, `splitOn_rebreak`
                            what the steps of the reader make of it;
* `Marker.statement?_rebreak`   the statement that it begins with;
* `offset`                  the place in it that a place of the text becomes;
* `Marker.occursAt_rebreak` the occurrences in it are those of the text;
* `Marker.sites_rebreak`    so are its sites;
* `Decl.read_rebreak`, `Marker.decls_rebreak`   so are its declarations, but for the text of a
                            malformed parameter;
* `generate_rebreak`        so is the outcome of a run.
-/

namespace CoroBridge
open Text

/-- what a text may have instead of a line feed: a carriage return before it, or one alone -/
inductive LineBreak where
  | returnFeed
  | lone
  deriving DecidableEq, Repr

/-- the characters of a line break -/
def LineBreak.text : LineBreak → Text
  | returnFeed => ['\r', '\n']
  | lone => ['\r']

/-- a text with a line break for each of its line feeds -/
def rebreak (k : LineBreak) (t : Text) : Text :=
  t.flatMap fun c => if c = '\n' then k.text else [c]

variable (k : LineBreak)

theorem LineBreak.text_eq_cons : ∃ r, k.text = '\r' :: r := by
  cases k
  · exact ⟨['\n'], rfl⟩
  · exact ⟨[], rfl⟩

theorem LineBreak.mem_text {c : Char} (h : c ∈ k.text) : c = '\r' ∨ c = '\n' := by
  cases k
  · simpa [text] using h
  · exact .inl (by simpa [text] using h)

@[simp] theorem rebreak_nil : rebreak k [] = [] := rfl

@[simp] theorem rebreak_feed (t : Text) : rebreak k ('\n' :: t) = k.text ++ rebreak k t := rfl

theorem rebreak_cons {c : Char} (hc : c ≠ '\n') (t : Text) :
    rebreak k (c :: t) = c :: rebreak k t := by
  simp [rebreak, hc]

theorem rebreak_singleton_ne_nil (c : Char) : rebreak k [c] ≠ [] := by
  by_cases hc : c = '\n'
  · subst hc
    cases k <;> exact List.cons_ne_nil _ _
  · rw [rebreak_cons k hc]
    exact List.cons_ne_nil _ _

@[simp] theorem rebreak_append (a b : Text) : rebreak k (a ++ b) = rebreak k a ++ rebreak k b :=
  List.flatMap_append

theorem rebreak_of_not_mem {t : Text} (h : '\n' ∉ t) : rebreak k t = t := by
  induction t with
  | nil => rfl
  | cons c t ih =>
    rw [List.mem_cons, not_or] at h
    rw [rebreak_cons k (Ne.symm h.1), ih h.2]

theorem mem_rebreak {c : Char} {t : Text} (h : c ∈ rebreak k t) : c ∈ t ∨ c = '\r' ∨ c = '\n' := by
  obtain ⟨d, hd, hc⟩ := List.mem_flatMap.1 h
  split at hc
  · exact .inr (k.mem_text hc)
  · rw [List.mem_singleton] at hc
    exact .inl (hc ▸ hd)

/-! ## walks along a text -/

section
variable {p : Char → Bool} (hp : p '\r' = p '\n')
include hp

theorem takeWhile_rebreak (t : Text) :
    (rebreak k t).takeWhile p = rebreak k (t.takeWhile p) := by
  induction t with
  | nil => rfl
  | cons c t ih =>
    by_cases hc : c = '\n'
    · subst hc
      cases hf : p '\n' with
      | true =>
        have hall : ∀ c ∈ k.text, p c = true := fun c hc => by
          rcases k.mem_text hc with rfl | rfl
          · exact hp.trans hf
          · exact hf
        rw [rebreak_feed, List.takeWhile_append_of_pos hall, ih,
          List.takeWhile_cons_of_pos hf, rebreak_feed]
      | false =>
        obtain ⟨r, hr⟩ := k.text_eq_cons
        rw [rebreak_feed, hr, List.cons_append, List.takeWhile_cons_of_neg (by simp [hp, hf]),
          List.takeWhile_cons_of_neg (by simp [hf]), rebreak_nil]
    · rw [rebreak_cons k hc]
      by_cases hpc : p c = true
      · rw [List.takeWhile_cons_of_pos hpc, List.takeWhile_cons_of_pos hpc, ih, rebreak_cons k hc]
      · rw [List.takeWhile_cons_of_neg hpc, List.takeWhile_cons_of_neg hpc, rebreak_nil]

theorem dropWhile_rebreak (t : Text) :
    (rebreak k t).dropWhile p = rebreak k (t.dropWhile p) := by
  have hcut : (rebreak k t).takeWhile p ++ (rebreak k t).dropWhile p
      = rebreak k (t.takeWhile p) ++ rebreak k (t.dropWhile p) := by
    rw [List.takeWhile_append_dropWhile, ← rebreak_append, List.takeWhile_append_dropWhile]
  rw [takeWhile_rebreak k hp] at hcut
  exact List.append_cancel_left hcut

end

theorem after?_rebreak {w : Text} (hfeed : '\n' ∉ w) (hreturn : '\r' ∉ w) (t : Text) :
    after? w (rebreak k t) = (after? w t).map (rebreak k) := by
  induction w generalizing t with
  | nil => simp
  | cons d w ih =>
    rw [List.mem_cons, not_or] at hfeed hreturn
    cases t with
    | nil => rfl
    | cons c t =>
      by_cases hc : c = '\n'
      · subst hc
        obtain ⟨r, hr⟩ := k.text_eq_cons
        rw [rebreak_feed, hr, List.cons_append, after?, after?, if_neg (Ne.symm hreturn.1),
          if_neg (Ne.symm hfeed.1), Option.map_none]
      · rw [rebreak_cons k hc, after?, after?]
        split
        · exact ih hfeed.2 hreturn.2 t
        · rfl

theorem endsLine_rebreak (t : Text) : endsLine (rebreak k t) = endsLine t := by
  cases t with
  | nil => rfl
  | cons c t =>
    by_cases hc : c = '\n'
    · subst hc
      cases k <;> rfl
    · rw [rebreak_cons k hc]
      rfl

/-- a statement with line breaks for the line feeds among its blanks and arguments -/
def Statement.rebreak (k : LineBreak) (s : Statement) : Statement :=
  ⟨CoroBridge.rebreak k s.gap, CoroBridge.rebreak k s.lead, s.name, CoroBridge.rebreak k s.args⟩

theorem Marker.statement?_rebreak (m : Marker) (t : Text) :
    m.statement? (rebreak k t) = (m.statement? t).map (Statement.rebreak k) := by
  have hname : ∀ t : Text, (rebreak k t).takeWhile isNameChar = t.takeWhile isNameChar := by
    intro t
    rw [takeWhile_rebreak k (by decide), rebreak_of_not_mem]
    intro hmem
    exact absurd (List.all_eq_true.1 List.all_takeWhile _ hmem) (by decide)
  have hint : ∀ t, after? statusType (rebreak k t) = (after? statusType t).map (rebreak k) :=
    after?_rebreak k (by decide) (by decide)
  have hword : ∀ t, after? m.word (rebreak k t) = (after? m.word t).map (rebreak k) :=
    after?_rebreak k (by cases m <;> decide) (by cases m <;> decide)
  have hopen : ∀ t, after? ['('] (rebreak k t) = (after? ['('] t).map (rebreak k) :=
    after?_rebreak k (by decide) (by decide)
  have hclose : ∀ t, after? [')', ';'] (rebreak k t) = (after? [')', ';'] t).map (rebreak k) :=
    after?_rebreak k (by decide) (by decide)
  have hblank : isBlank '\r' = isBlank '\n' := by decide
  have hchar : isNameChar '\r' = isNameChar '\n' := by decide
  have hargs : ∀ t, (rebreak k t).takeWhile (· != ')') = rebreak k (t.takeWhile (· != ')')) :=
    takeWhile_rebreak k (by decide)
  have hrest : ∀ t, (rebreak k t).dropWhile (· != ')') = rebreak k (t.dropWhile (· != ')')) :=
    dropWhile_rebreak k (by decide)
  unfold statement?
  simp only [Option.bind_eq_bind, hint, hword, hopen, hclose, hname, endsLine_rebreak,
    takeWhile_rebreak k hblank, dropWhile_rebreak k hblank, dropWhile_rebreak k hchar,
    hargs, hrest, Option.bind_map, Option.map_bind, Function.comp_def,
    apply_ite (Option.map (Statement.rebreak k)), Option.map_some, Option.map_none]
  rfl

/-! ## occurrences -/

theorem Statement.text_rebreak (m : Marker) (s : Statement) (hs : s.WellFormed) :
    (s.rebreak k).text m = CoroBridge.rebreak k (s.text m) := by
  have hname : '\n' ∉ s.name := fun h =>
    absurd (isNameChar_of_isName hs.name_isName _ h) (by decide)
  have hword : '\n' ∉ m.word := by cases m <;> decide
  simp only [text, rebreak, List.append_assoc, rebreak_append, rebreak_of_not_mem k hname,
    rebreak_of_not_mem k hword, rebreak_of_not_mem k (t := statusType) (by decide),
    rebreak_of_not_mem k (t := [')', ';']) (by decide), rebreak_cons k (c := '(') (by decide)]

/-- the place that a place of the text becomes -/
def offset (t : Text) (i : Nat) : Nat := (rebreak k (t.take i)).length

theorem offset_length_append (a b : Text) : offset k (a ++ b) a.length = (rebreak k a).length := by
  rw [offset, List.take_left]

theorem offset_lt_offset {t : Text} {i j : Nat} (hij : i < j) (hi : i < t.length) :
    offset k t i < offset k t j := by
  obtain ⟨n, rfl⟩ := Nat.exists_eq_add_of_lt hij
  obtain ⟨c, r, hr⟩ := List.exists_cons_of_ne_nil (List.drop_eq_nil_iff.not.2 (Nat.not_le.2 hi))
  have hpos := List.length_pos_of_ne_nil (rebreak_singleton_ne_nil k c)
  have htake : t.take (i + n + 1) = t.take i ++ ([c] ++ r.take n) := by
    rw [Nat.add_assoc, List.take_add, hr]
    rfl
  simp only [offset, htake, rebreak_append, List.length_append]
  omega

theorem offset_le_offset_iff {t : Text} {i j : Nat} (hi : i ≤ t.length) :
    offset k t i ≤ offset k t j ↔ i ≤ j := by
  constructor
  · intro h
    by_contra hji
    have hlt := offset_lt_offset k (Nat.not_le.1 hji) (Nat.lt_of_lt_of_le (Nat.not_le.1 hji) hi)
    omega
  · intro h
    rcases Nat.eq_or_lt_of_le h with rfl | hij
    · exact Nat.le_refl _
    rcases Nat.eq_or_lt_of_le hi with rfl | hlt
    · rw [offset, offset, List.take_length, List.take_of_length_le h]
    · exact (offset_lt_offset k hij hlt).le

/-- a cut that no line feed follows does not go through a line break -/
theorem rebreak_eq_append_cons {t a r : Text} {c : Char} (hc : c ≠ '\n')
    (h : rebreak k t = a ++ c :: r) :
    ∃ u v, t = u ++ v ∧ a = rebreak k u ∧ c :: r = rebreak k v := by
  induction t generalizing a with
  | nil => exact absurd h.symm (by simp)
  | cons d t ih =>
    cases a with
    | nil => exact ⟨[], d :: t, rfl, rfl, h.symm⟩
    | cons x a =>
      by_cases hd : d = '\n'
      · subst hd
        have hlater : ∀ b, rebreak k t = b ++ c :: r → x :: a = k.text ++ b →
            ∃ u v, '\n' :: t = u ++ v ∧ x :: a = rebreak k u ∧ c :: r = rebreak k v := by
          intro b hb hxa
          obtain ⟨u, v, rfl, rfl, hv⟩ := ih hb
          exact ⟨'\n' :: u, v, rfl, hxa, hv⟩
        cases k with
        | lone =>
          have hcut : '\r' :: rebreak .lone t = x :: (a ++ c :: r) := h
          rw [List.cons.injEq] at hcut
          obtain ⟨rfl, hrest⟩ := hcut
          exact hlater a hrest rfl
        | returnFeed =>
          have hcut : '\r' :: '\n' :: rebreak .returnFeed t = x :: (a ++ c :: r) := h
          rw [List.cons.injEq] at hcut
          obtain ⟨rfl, hrest⟩ := hcut
          cases a with
          | nil => exact absurd (List.cons.inj hrest).1.symm hc
          | cons y a =>
            rw [List.cons_append, List.cons.injEq] at hrest
            obtain ⟨rfl, hrest⟩ := hrest
            exact hlater a hrest rfl
      · rw [rebreak_cons k hd, List.cons_append, List.cons.injEq] at h
        obtain ⟨rfl, hrest⟩ := h
        obtain ⟨u, v, rfl, rfl, hv⟩ := ih hrest
        exact ⟨d :: u, v, rfl, (rebreak_cons k hd u).symm, hv⟩

/-- where no line feed follows, a line begins after any of the characters of a line break -/
theorem startsLine_cons {c : Char} (hc : c ≠ '\n') (left : Option Char) (r : Text) :
    startsLine left (c :: r) = left.all fun d => d == '\n' || d == '\r' := by
  unfold startsLine
  split
  · rfl
  · rfl
  · simpa using hc
  · simp_all

theorem startsLine_rebreak {c : Char} (hc : c ≠ '\n') (a r : Text) :
    startsLine (rebreak k a).getLast? (rebreak k (c :: r)) = startsLine a.getLast? (c :: r) := by
  rw [rebreak_cons k hc, startsLine_cons hc, startsLine_cons hc]
  rcases List.eq_nil_or_concat a with rfl | ⟨b, d, rfl⟩
  · rfl
  rw [List.concat_eq_append, List.getLast?_concat, rebreak_append]
  by_cases hd : d = '\n'
  · subst hd
    cases k <;> simp [LineBreak.text]
  · rw [rebreak_cons k hd, rebreak_nil, List.getLast?_concat]

namespace Marker
variable {m : Marker} {t : Text}

theorem exists_cons_of_statement? {t : Text} {s : Statement} (h : m.statement? t = some s) :
    ∃ r, t = 'i' :: r := by
  obtain ⟨_, r, rfl, _⟩ := wellFormed_of_statement? h
  exact ⟨_, s.text_append m r⟩

/-- the occurrences in a text with other line breaks are those of the text -/
theorem occursAt_rebreak {j : Nat} {s' : Statement} :
    m.OccursAt (rebreak k t) j s'
      ↔ ∃ i s, m.OccursAt t i s ∧ offset k t i = j ∧ s.rebreak k = s' := by
  have hiff : ∀ u v : Text, m.OccursAt (rebreak k (u ++ v)) (rebreak k u).length s'
      ↔ ∃ s, m.OccursAt (u ++ v) u.length s ∧ s.rebreak k = s' := by
    intro u v
    simp only [rebreak_append, occursAt_iff, statement?_rebreak, Option.map_eq_some_iff]
    constructor
    · rintro ⟨hl, s, hs, rfl⟩
      obtain ⟨r, rfl⟩ := exists_cons_of_statement? hs
      exact ⟨s, ⟨(startsLine_rebreak k (by decide) u r).symm.trans hl, hs⟩, rfl⟩
    · rintro ⟨s, ⟨hl, hs⟩, rfl⟩
      obtain ⟨r, rfl⟩ := exists_cons_of_statement? hs
      exact ⟨(startsLine_rebreak k (by decide) u r).trans hl, s, hs, rfl⟩
  constructor
  · intro h
    obtain ⟨_, a, b, e, rfl, _⟩ := id h
    obtain ⟨u, v, rfl, rfl, _⟩ := rebreak_eq_append_cons k (c := 'i') (by decide)
      (e.trans (congrArg (a ++ ·) (s'.text_append m b)))
    obtain ⟨s, hs, rfl⟩ := (hiff u v).1 h
    exact ⟨u.length, s, hs, offset_length_append k u v, rfl⟩
  · rintro ⟨i, s, h, rfl, rfl⟩
    obtain ⟨_, a, b, rfl, rfl, _⟩ := id h
    rw [offset_length_append]
    exact (hiff a _).2 ⟨s, h, rfl⟩

end Marker

/-! ## the search -/

/-- a site in a text with other line breaks -/
def Site.rebreak (t : Text) (x : Site) : Site := ⟨offset k t x.start, x.statement.rebreak k⟩

namespace Marker
variable {m : Marker} {t : Text}

theorem offset_stop {i : Nat} {s : Statement} (h : m.OccursAt t i s) :
    offset k t (i + (s.text m).length) = offset k t i + ((s.rebreak k).text m).length := by
  obtain ⟨hs, a, b, rfl, rfl, _⟩ := h
  rw [offset_length_append, ← List.append_assoc, ← List.length_append, offset_length_append,
    rebreak_append, List.length_append, s.text_rebreak k m hs]

theorem sites_rebreak (m : Marker) (t : Text) :
    m.sites (CoroBridge.rebreak k t) = (m.sites t).map (Site.rebreak k t) := by
  have hscan := Scan.map (fun n _ hn => offset_le_offset_iff k hn)
    (fun j s' _ => occursAt_rebreak k) (fun n s hs => offset_stop k hs) (m.scan_sites t)
    (Nat.zero_le _)
  exact (scan_iff.1 hscan).symm

end Marker

/-! ## parameters -/

theorem blank_of_mem_rebreak {t : Text} (h : ∀ c ∈ t, isBlank c = true) :
    ∀ c ∈ rebreak k t, isBlank c = true := by
  intro c hc
  rcases mem_rebreak k hc with hc | rfl | rfl
  · exact h c hc
  · decide
  · decide

theorem startsBlank_rebreak (t : Text) : startsBlank (rebreak k t) = startsBlank t := by
  cases t with
  | nil => rfl
  | cons c t =>
    by_cases hc : c = '\n'
    · subst hc
      cases k <;> rfl
    · rw [rebreak_cons k hc]
      rfl

theorem endsBlank_rebreak (t : Text) : endsBlank (rebreak k t) = endsBlank t := by
  rcases List.eq_nil_or_concat t with rfl | ⟨b, c, rfl⟩
  · rfl
  rw [List.concat_eq_append, rebreak_append, endsBlank_append _ (rebreak_singleton_ne_nil k c),
    endsBlank_append _ (List.cons_ne_nil c [])]
  by_cases hc : c = '\n'
  · subst hc
    cases k <;> rfl
  · rw [rebreak_cons k hc, rebreak_nil]

theorem trim_rebreak (t : Text) : (rebreak k t).trim = rebreak k t.trim := by
  obtain ⟨a, b, hcut, ha, hb⟩ := exists_trim t
  have hkept : (rebreak k t.trim).trim = rebreak k t.trim :=
    trim_eq_self ((startsBlank_rebreak k _).trans (startsBlank_trim t))
      ((endsBlank_rebreak k _).trans (endsBlank_trim t))
  conv_lhs => rw [hcut]
  rw [rebreak_append, rebreak_append, trim_blank_append (blank_of_mem_rebreak k ha),
    trim_append_blank _ (blank_of_mem_rebreak k hb), hkept]

theorem squeeze_rebreak (t : Text) : squeeze (rebreak k t) = squeeze t := by
  induction t with
  | nil => rfl
  | cons c t ih =>
    by_cases hc : c = '\n'
    · subst hc
      have hfeed : squeeze ('\n' :: rebreak k t) = squeeze ('\n' :: t) := by
        rw [squeeze_cons, squeeze_cons, startsBlank_rebreak, ih]
      cases k <;> exact hfeed
    · rw [rebreak_cons k hc, squeeze_cons, squeeze_cons, startsBlank_rebreak, ih]

theorem tidy_rebreak (t : Text) : (rebreak k t).tidy = t.tidy := by
  rw [tidy, trim_rebreak, squeeze_rebreak, tidy]

theorem rebreak_intercalate {sep : Text} (hsep : '\n' ∉ sep) (fs : List Text) :
    rebreak k (List.intercalate sep fs) = List.intercalate sep (fs.map (rebreak k)) := by
  cases fs with
  | nil => rfl
  | cons f fs =>
    have hflat : rebreak k (fs.flatMap fun g => sep ++ g)
        = fs.flatMap fun g => sep ++ rebreak k g := by
      rw [rebreak, List.flatMap_assoc]
      refine List.flatMap_congr fun g _ => ?_
      exact (rebreak_append k sep g).trans (by rw [rebreak_of_not_mem k hsep])
    rw [List.map_cons, intercalate_cons, intercalate_cons, rebreak_append, hflat, List.flatMap_map]

theorem splitOn_rebreak (t : Text) :
    (rebreak k t).splitOn ',' = (t.splitOn ',').map (rebreak k) := by
  have hcomma : ∀ f ∈ (t.splitOn ',').map (rebreak k), ',' ∉ f := by
    refine List.forall_mem_map.2 fun g hg hc => ?_
    rcases mem_rebreak k hc with hc | hc | hc
    · exact (mem_splitOn hg).1 hc
    · exact absurd hc (by decide)
    · exact absurd hc (by decide)
  have hne : (t.splitOn ',').map (rebreak k) ≠ [] := by
    rw [Ne, List.map_eq_nil_iff]
    exact List.splitOn_ne_nil ',' t
  have hjoin : rebreak k t = List.intercalate [','] ((t.splitOn ',').map (rebreak k)) := by
    rw [← rebreak_intercalate k (by decide), List.intercalate_splitOn]
  rw [hjoin, List.splitOn_intercalate ',' hcomma hne]

theorem Param.parse?_rebreak (f : Text) : Param.parse? (rebreak k f) = Param.parse? f := by
  rw [parse?_eq, parse?_eq, tidy_rebreak]

theorem Param.parseAll_rebreak (fs : List Text) :
    parseAll (fs.map (rebreak k)) = (parseAll fs).mapError (rebreak k) := by
  induction fs with
  | nil => rfl
  | cons f fs ih =>
    rw [List.map_cons, parseAll, parseAll, parse?_rebreak, ih]
    cases parse? f with
    | none => rfl
    | some q => cases parseAll fs <;> rfl

/-! ## declarations -/

/-- a fault with line breaks for the line feeds in the text of a malformed parameter -/
def Fault.rebreak : Fault → Fault
  | malformed function fragment => malformed function (CoroBridge.rebreak k fragment)
  | fault => fault

theorem Decl.read_rebreak (result name args : Text) :
    read result name (rebreak k args) = (read result name args).mapError (Fault.rebreak k) := by
  unfold read
  rw [splitOn_rebreak, Param.parseAll_rebreak]
  cases Param.parseAll (args.splitOn ',') with
  | ok ps => rfl
  | error f =>
    show Except.error (Fault.malformed name.trim (rebreak k f).trim) = _
    rw [trim_rebreak]
    rfl

theorem Marker.decls_rebreak (m : Marker) (t : Text) :
    m.decls (rebreak k t) = (m.decls t).map (Except.mapError (Fault.rebreak k)) := by
  rw [decls, decls, sites_rebreak, List.map_map, List.map_map]
  refine List.map_congr_left fun x _ => ?_
  exact Decl.read_rebreak k statusType x.statement.name x.statement.args

/-! ## runs -/

theorem known_rebreak (config : Config) (t : Text) :
    config.known (rebreak k t) = config.known t := by
  have hread : ∀ x : Except Fault Decl, (x.mapError (Fault.rebreak k)).toOption = x.toOption := by
    rintro (_ | _) <;> rfl
  unfold Config.known
  rw [Marker.decls_rebreak, List.filterMap_map]
  simp only [Function.comp_def, hread]

/-- the faults of a declaration that can be read have no malformed parameter in them -/
theorem Decl.blockAmong_mapError (known : List Decl) (d : Decl) :
    (d.blockAmong known).mapError (Fault.rebreak k) = d.blockAmong known := by
  unfold blockAmong plan
  cases d.plan? with
  | error breach => rfl
  | ok p =>
    show Except.mapError _ (p.checkAmong known >>= _) = p.checkAmong known >>= _
    unfold Plan.checkAmong
    cases counterpart? known p.coroutine with
    | none => rfl
    | some c =>
      show Except.mapError _ (p.checkAgainst c >>= _) = p.checkAgainst c >>= _
      unfold Plan.checkAgainst
      cases p.wrapper.mismatch? c <;> rfl

section
variable {α β ε : Type} (f : ε → ε)

theorem mapError_bind (x : Except ε α) (g : α → Except ε β) :
    (x >>= g).mapError f = x.mapError f >>= fun a => (g a).mapError f := by
  cases x <;> rfl

theorem mapError_mapM (g : α → Except ε β) (l : List α) :
    (l.mapM g).mapError f = l.mapM fun a => (g a).mapError f := by
  induction l with
  | nil => rfl
  | cons a l ih =>
    simp only [List.mapM_cons, mapError_bind, ih]
    rfl

end

theorem outcome_generate_rebreak (config : Config) (t : Text) :
    (generate config (rebreak k t)).outcome
      = (generate config t).outcome.mapError (Fault.rebreak k) := by
  simp only [outcome_generate_decls, known_rebreak, Marker.decls_rebreak, List.mapM_map,
    mapError_bind, mapError_mapM, Decl.blockAmong_mapError, Function.comp_def]
  rfl

/-- **Line ends make no difference.**  If a text is written with carriage returns and line feeds, or
with carriage returns alone, instead of its line feeds, the same is declared in it, but for the line
breaks in the text of a malformed parameter.  The same file comes of it, or the same fault, but for
these line breaks.  Carriage returns that the text has already do no harm. -/
theorem generate_rebreak (t : Text) :
    (∀ m : Marker,
      m.decls (rebreak k t) = (m.decls t).map (Except.mapError (Fault.rebreak k))) ∧
    ∀ config : Config,
      (∀ out, (generate config (rebreak k t)).outcome = .ok out
        ↔ (generate config t).outcome = .ok out) ∧
      ∀ fault, (generate config (rebreak k t)).outcome = .error fault
        ↔ ∃ fault', (generate config t).outcome = .error fault' ∧ fault = fault'.rebreak k := by
  refine ⟨fun m => m.decls_rebreak k t, fun config => ?_⟩
  rw [outcome_generate_rebreak]
  cases (generate config t).outcome with
  | ok out => simp [Except.mapError]
  | error fault => simp [Except.mapError, eq_comm]

example : Marker.wrapper.decls
      (rebreak .returnFeed "int generated_co_wrapper bdrv_flush(unsigned\n 3);\n")
    = [.error (.malformed "bdrv_flush" "unsigned\r\n 3")] := by decide +kernel

end CoroBridge
