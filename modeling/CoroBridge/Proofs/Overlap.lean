import CoroBridge.Proofs.FileText

/-!
# Overlaps: statements inside of a site

The arguments of a statement go on to the next closing parenthesis.  If a declaration is left open,
they take in the statement after it, which is then no site of its own.  This is the one way in which
a marked declaration can get lost when a file is generated.

* `Statement.head`          the text of a statement up to its arguments;
* `split_after_solid`, `split_among_blanks`   where a line can begin in the middle of a text;
* `Marker.cut_of_endsBlank`   where a line can end in the middle of a statement;
* `Marker.OccursAt.inside`  a statement that begins inside of another one ends its arguments;
* `Site.Holds`              a site has a statement at the end of its arguments;
* `Kept`                    a statement has a block of its own;
* `kept_iff_not_held`       the statements that are kept are those that no site holds.
-/

namespace CoroBridge
open Text

/-! ## line starts in the middle of a text -/

theorem not_blank_of_any {t : Text} (h : t.any isBlank = false) : ∀ c ∈ t, isBlank c = false :=
  fun c hc => by simpa using List.any_eq_false.1 h c hc

theorem exists_blank_of_endsBlank {t : Text} (h : t.endsBlank = true) :
    ∃ c ∈ t, isBlank c = true := by
  rw [endsBlank, Option.any_eq_true] at h
  obtain ⟨c, hc, hb⟩ := h
  exact ⟨c, List.mem_of_getLast? hc, hb⟩

/-- a part of a text that ends with a blank goes beyond the characters that are none -/
theorem split_after_solid {a b u v : Text} (ha : ∀ c ∈ a, isBlank c = false)
    (h : a ++ b = u ++ v) (hu : u.endsBlank = true) :
    ∃ w, u = a ++ w ∧ b = w ++ v ∧ w.endsBlank = true := by
  have hsolid : ∀ {r : Text}, a = u ++ r → False := by
    rintro r rfl
    obtain ⟨c, hc, hb⟩ := exists_blank_of_endsBlank hu
    rw [ha c (List.mem_append_left r hc)] at hb
    cases hb
  rcases List.append_eq_append_iff.1 h with ⟨w, rfl, hb⟩ | ⟨w, hw, _⟩
  · have hne : w ≠ [] := by
      rintro rfl
      exact hsolid (r := []) (by simp)
    exact ⟨w, rfl, hb, (endsBlank_append a hne).symm.trans hu⟩
  · exact (hsolid hw).elim

/-- a part of a text that ends with a blank ends among the first blanks, or goes beyond these -/
theorem split_among_blanks {a b u v : Text} (h : a ++ b = u ++ v) (hu : u.endsBlank = true) :
    (∃ w, a = u ++ w ∧ v = w ++ b) ∨ ∃ w, u = a ++ w ∧ b = w ++ v ∧ w.endsBlank = true := by
  rcases List.append_eq_append_iff.1 h with ⟨w, rfl, hb⟩ | ⟨w, ha, hv⟩
  · by_cases hne : w = []
    · subst hne
      exact .inl ⟨[], by simp, hb.symm⟩
    · exact .inr ⟨w, rfl, hb, (endsBlank_append a hne).symm.trans hu⟩
  · exact .inl ⟨w, ha, hv⟩

/-- a text is cut in one way before the first place of a character -/
theorem eq_of_append_cons {c : Char} {a b r s : Text} (ha : c ∉ a) (hb : c ∉ b)
    (h : a ++ c :: r = b ++ c :: s) : a = b := by
  have hstop : ∀ r, StopsAt (· != c) (c :: r) := fun r => stopsAt_cons (by simp) r
  have htake := congrArg (List.takeWhile (· != c)) h
  rwa [takeWhile_append_of_stopsAt (bne_of_not_mem ha) (hstop r),
    takeWhile_append_of_stopsAt (bne_of_not_mem hb) (hstop s)] at htake

/-! ## statements inside of statements -/

namespace Statement

/-- the text of a statement up to its arguments -/
def head (m : Marker) (s : Statement) : Text :=
  statusType ++ (s.gap ++ (m.word ++ (s.lead ++ (s.name ++ ['(']))))

theorem text_eq (m : Marker) (s : Statement) : s.text m = s.head m ++ (s.args ++ [')', ';']) := by
  simp [text, head]

theorem WellFormed.close_not_mem {s : Statement} (hs : s.WellFormed) (m : Marker) :
    ')' ∉ s.head m ++ s.args := by
  have hblank : ∀ a : Text, (∀ c ∈ a, isBlank c = true) → ')' ∉ a := fun a ha hc =>
    absurd (ha _ hc) (by decide)
  have hname : ')' ∉ s.name := fun hc =>
    absurd (isNameChar_of_isName hs.name_isName _ hc) (by decide)
  have hword : ')' ∉ m.word := by cases m <;> decide
  have hint : ')' ∉ statusType := by decide
  simp [head, hint, hword, hname, hblank _ hs.gap_blank, hblank _ hs.lead_blank, hs.args_open]

theorem open_mem_head (m : Marker) (s : Statement) : '(' ∈ s.head m := by
  simp [head]

end Statement

namespace Marker

theorem not_blank_of_mem_word (m : Marker) : ∀ c ∈ m.word, isBlank c = false :=
  not_blank_of_any (by cases m <;> rfl)

/-- a part of a statement that ends with a blank ends before the marker, before the name, or among
the arguments -/
theorem cut_of_endsBlank {m : Marker} {x : Statement} (hx : x.WellFormed) {u v : Text}
    (h : x.text m = u ++ v) (hu : u.endsBlank = true) :
    (∃ g w, u = statusType ++ g ∧ x.gap = g ++ w ∧
      v = w ++ (m.word ++ (x.lead ++ (x.name ++ ['('] ++ (x.args ++ [')', ';']))))) ∨
    (∃ g w, u = statusType ++ (x.gap ++ (m.word ++ g)) ∧ x.lead = g ++ w ∧
      v = w ++ (x.name ++ ['('] ++ (x.args ++ [')', ';']))) ∨
    ∃ w z, u = x.head m ++ w ∧ x.args = w ++ z ∧ v = z ++ [')', ';'] := by
  have hint : ∀ c ∈ statusType, isBlank c = false := not_blank_of_any (by rfl)
  have hopen : ∀ c ∈ x.name ++ ['('], isBlank c = false := by
    refine List.forall_mem_append.2 ⟨fun c hc => ?_, not_blank_of_any (by rfl)⟩
    exact isBlank_eq_false_of_isNameChar (isNameChar_of_isName hx.name_isName c hc)
  have hclose : ∀ c ∈ ([')', ';'] : Text), isBlank c = false := not_blank_of_any (by rfl)
  have htext : x.text m = statusType ++ (x.gap ++ (m.word ++ (x.lead
      ++ (x.name ++ ['('] ++ (x.args ++ [')', ';']))))) := by
    simp [Statement.text]
  rw [htext] at h
  obtain ⟨w1, rfl, h1, hw1⟩ := split_after_solid hint h hu
  rcases split_among_blanks h1 hw1 with ⟨w, hgap, rfl⟩ | ⟨w2, rfl, h2, hw2⟩
  · exact .inl ⟨w1, w, rfl, hgap, rfl⟩
  obtain ⟨w3, rfl, h3, hw3⟩ := split_after_solid m.not_blank_of_mem_word h2 hw2
  rcases split_among_blanks h3 hw3 with ⟨w, hlead, rfl⟩ | ⟨w4, rfl, h4, hw4⟩
  · exact .inr (.inl ⟨w3, w, rfl, hlead, rfl⟩)
  obtain ⟨w5, rfl, h5, hw5⟩ := split_after_solid hopen h4 hw4
  have hhead : statusType ++ (x.gap ++ (m.word ++ (x.lead ++ (x.name ++ ['('] ++ w5))))
      = x.head m ++ w5 := by
    simp only [Statement.head, List.append_assoc]
  rcases split_among_blanks h5 hw5 with ⟨z, hargs, rfl⟩ | ⟨z, _, hz, hzb⟩
  · exact .inr (.inr ⟨w5, z, hhead, hargs, rfl⟩)
  · obtain ⟨c, hc, hb⟩ := exists_blank_of_endsBlank hzb
    rw [hclose c (hz ▸ List.mem_append_left v hc)] at hb
    cases hb

/-- a part of a statement that ends with a blank, before the letter that a statement begins with,
goes on into the arguments, unless the name begins with that letter -/
theorem args_of_endsBlank {m : Marker} {x : Statement} (hx : x.WellFormed)
    (hname : x.name.head? ≠ some 'i') {u v : Text} (h : x.text m = u ++ v)
    (hu : u.endsBlank = true) (hv : v.head? = some 'i') :
    ∃ w z, u = x.head m ++ w ∧ x.args = w ++ z ∧ v = z ++ [')', ';'] := by
  have hword : ∀ r : Text, (m.word ++ r).head? ≠ some 'i' := by
    intro r
    cases m <;> exact fun h => absurd (Option.some.inj h) (by decide)
  have hnext : ∀ r : Text, (x.name ++ ['('] ++ r).head? ≠ some 'i' := by
    intro r
    obtain ⟨c, n, hn⟩ := List.exists_cons_of_ne_nil fun hnil : x.name = [] => by
      simpa [hnil] using hx.name_isName
    rw [hn] at hname ⊢
    exact hname
  have hblank : ∀ {g w r : Text}, (∀ c ∈ g ++ w, isBlank c = true) → r.head? ≠ some 'i' →
      (w ++ r).head? ≠ some 'i' := by
    intro g w r hw hr
    cases w with
    | nil => exact hr
    | cons c w =>
      intro hc
      cases hc
      exact absurd (hw 'i' (List.mem_append_right g List.mem_cons_self)) (by decide)
  rcases cut_of_endsBlank hx h hu with ⟨g, w, _, hgap, rfl⟩ | ⟨g, w, _, hlead, rfl⟩ | hargs
  · exact absurd hv (hblank (hgap ▸ hx.gap_blank) (hword _))
  · exact absurd hv (hblank (hlead ▸ hx.lead_blank) (hnext _))
  · exact hargs

variable {m : Marker} {t : Text} {i j : Nat} {x s : Statement}

/-- a statement that begins inside of another one stands at the end of its arguments, unless the
name of the other one begins like a statement -/
theorem OccursAt.inside (hx : m.OccursAt t i x) (hs : m.OccursAt t j s) (hi : i < j)
    (hj : j < i + (x.text m).length) (hname : x.name.head? ≠ some 'i') :
    ∃ u, x.args = u ++ (s.head m ++ s.args) ∧ j = i + ((x.head m).length + u.length) := by
  obtain ⟨hxw, a, b, rfl, rfl, _, _⟩ := hx
  obtain ⟨hsw, a', b', e, rfl, hline, _⟩ := hs
  obtain ⟨u, rfl, hu⟩ : ∃ u, a' = a ++ u ∧ x.text m ++ b = u ++ (s.text m ++ b') := by
    rcases List.append_eq_append_iff.1 e with h | ⟨r, rfl, _⟩
    · exact h
    · simp only [List.length_append] at hi
      omega
  rw [List.length_append] at hi hj
  have hune : u ≠ [] := by
    rintro rfl
    exact absurd hi (by simp)
  have hends : u.endsBlank = true := by
    have hlast : (a ++ u).getLast? = u.getLast? := by
      rw [List.getLast?_append, List.getLast?_eq_some_getLast hune, Option.some_or]
    unfold LineStart at hline
    rw [hlast] at hline
    rcases hline with hnil | hfeed | ⟨hreturn, _⟩
    · exact absurd (List.append_eq_nil_iff.1 hnil).2 hune
    · rw [endsBlank, hfeed]
      decide
    · rw [endsBlank, hreturn]
      decide
  obtain ⟨v, hxv, hv⟩ : ∃ v, x.text m = u ++ v ∧ s.text m ++ b' = v ++ b := by
    rcases List.append_eq_append_iff.1 hu with ⟨r, rfl, _⟩ | h
    · simp only [List.length_append] at hj
      omega
    · exact h
  have hvne : v ≠ [] := by
    rintro rfl
    rw [List.append_nil] at hxv
    rw [hxv] at hj
    omega
  have hfirst : v.head? = some 'i' := by
    have hhead := congrArg List.head? hv
    rw [List.head?_append_of_ne_nil _ hvne, Statement.text_append] at hhead
    exact hhead.symm
  obtain ⟨w, z, rfl, hargs, rfl⟩ := args_of_endsBlank hxw hname hxv hends hfirst
  have hz : z = s.head m ++ s.args := by
    have hcut : (s.head m ++ s.args) ++ ')' :: (';' :: b') = z ++ ')' :: (';' :: b) := by
      rw [s.text_eq] at hv
      simpa using hv
    have hclose : ')' ∉ z := fun hc => hxw.args_open (hargs ▸ List.mem_append_right w hc)
    exact (eq_of_append_cons (hsw.close_not_mem m) hclose hcut).symm
  refine ⟨w, hz ▸ hargs, ?_⟩
  simp only [List.length_append]

/-- two sites of which one begins inside of the other are the same -/
theorem Scan.eq_of_start {l : List Site} (h : m.Scan t i l) :
    ∀ x ∈ l, ∀ y ∈ l, x.start ≤ y.start → y.start < x.stop m → x = y := by
  induction h with
  | done _ => intro x hx; cases hx
  | @found i y l _ _ _ hl ih =>
    have hlater := hl.le_start
    have hpos := y.statement.length_text_pos m
    have hstop : y.stop m = y.start + (y.statement.text m).length := rfl
    intro x hx z hz hle hlt
    rcases List.mem_cons.1 hx with rfl | hxl
    · rcases List.mem_cons.1 hz with rfl | hzl
      · rfl
      · exact absurd hlt (Nat.not_lt.2 (hlater z hzl))
    · rcases List.mem_cons.1 hz with rfl | hzl
      · have hzx := hlater x hxl
        omega
      · exact ih x hxl z hzl hle hlt

end Marker

/-! ## lost statements -/

/-- the arguments of the site `x` end with the statement `s`, which begins at the offset `j` -/
def Site.Holds (m : Marker) (x : Site) (j : Nat) (s : Statement) : Prop :=
  ∃ u, x.statement.args = u ++ (s.head m ++ s.args) ∧
    j = x.start + ((x.statement.head m).length + u.length)

theorem Site.Holds.open_mem {m : Marker} {x : Site} {j : Nat} {s : Statement}
    (h : x.Holds m j s) : '(' ∈ x.statement.args := by
  obtain ⟨u, hargs, _⟩ := h
  rw [hargs]
  exact List.mem_append_right u (List.mem_append_left s.args (s.open_mem_head m))

theorem Site.Holds.inside {m : Marker} {x : Site} {j : Nat} {s : Statement}
    (h : x.Holds m j s) : x.start < j ∧ j < x.stop m := by
  obtain ⟨u, hargs, rfl⟩ := h
  have hpos := List.length_pos_of_mem (x.statement.open_mem_head m)
  rw [Site.stop, Site.text, Statement.text_eq, hargs]
  simp only [List.length_append, List.length_cons]
  omega

/-- the statement `s` at the offset `j` of `t` is a site, and the block in the same place of
`blocks` is that of its declaration -/
def Kept (t : Text) (blocks : List Text) (j : Nat) (s : Statement) : Prop :=
  ∃ (k : Nat) (d : Decl) (b : Text), (Marker.wrapper.sites t)[k]? = some ⟨j, s⟩ ∧
    blocks[k]? = some b ∧ s.decl = .ok d ∧ d.block = .ok b

section
variable {config : Config} {t : Text} {blocks : List Text}

/-- every site of a run that succeeds has a block in its own place -/
theorem kept_of_mem_sites (h : List.Forall₂ (Bridged config t) (Marker.wrapper.decls t) blocks)
    {x : Site} (hx : x ∈ Marker.wrapper.sites t) : Kept t blocks x.start x.statement := by
  obtain ⟨k, hk⟩ := List.mem_iff_getElem?.1 hx
  obtain ⟨hlen, hall⟩ := List.forall₂_iff_get.1 h
  obtain ⟨hlt, hget⟩ := List.getElem?_eq_some_iff.1 hk
  have hdecls : k < (Marker.wrapper.decls t).length := by
    rwa [Marker.decls, List.length_map]
  have hblocks : k < blocks.length := hlen ▸ hdecls
  have hb := hall k hdecls hblocks
  have hdecl : (Marker.wrapper.decls t).get ⟨k, hdecls⟩ = x.decl := by
    simp only [Marker.decls, List.get_eq_getElem, List.getElem_map, hget]
  rw [hdecl] at hb
  generalize hd : x.decl = y at hb
  generalize hblock : blocks.get ⟨k, hblocks⟩ = b at hb
  cases hb with
  | @intro d p r b hplan hbridge _ _ =>
    exact ⟨k, d, b, hk, List.getElem?_eq_some_iff.2 ⟨hblocks, hblock⟩, hd, hbridge⟩

/-- the name at a site of a run that succeeds begins like the name of a bridge -/
theorem head?_name_of_bridged {x : Site} (hx : Marker.wrapper.OccursAt t x.start x.statement)
    {b : Text} (hb : Bridged config t x.decl b) : x.statement.name.head? = some 'b' := by
  generalize hd : x.decl = y at hb
  cases hb with
  | @intro d p r b _ _ hname _ =>
    have hread := (Decl.read_eq_ok_iff.1 hd).2.1
    rw [trim_of_isName hx.1.name_isName] at hread
    rw [← hread, hname]
    rfl

end

/-- **A marked declaration gets lost inside of another one, and nowhere else.**  If a file comes of
a text, every site has a block in its own place.  A statement that stands in the text on lines of
its own is such a site if and only if no site holds it at the end of its arguments; a site that does
has an opening parenthesis among them. -/
theorem kept_iff_not_held {config : Config} {t out : Text}
    (h : (generate config t).outcome = .ok out) :
    ∃ blocks, out = assemble config.generator blocks ∧
      blocks.length = (Marker.wrapper.sites t).length ∧
      ∀ j s, Marker.wrapper.OccursAt t j s →
        (Kept t blocks j s ↔ ∀ x ∈ Marker.wrapper.sites t, ¬ x.Holds .wrapper j s) ∧
        ∀ x ∈ Marker.wrapper.sites t, x.Holds .wrapper j s → '(' ∈ x.statement.args := by
  obtain ⟨blocks, hblocks, hout⟩ := outcome_generate_ok_iff.1 h
  have hscan := Marker.scan_sites .wrapper t
  have hlen : (Marker.wrapper.decls t).length = (Marker.wrapper.sites t).length := List.length_map _
  refine ⟨blocks, hout, hblocks.length_eq.symm.trans hlen, fun j s hs =>
    ⟨⟨?_, fun hfree => ?_⟩, fun x _ hx => hx.open_mem⟩⟩
  · rintro ⟨k, _, _, hk, _⟩ x hx hheld
    have hmem := List.mem_of_getElem? hk
    obtain ⟨hlt, hstop⟩ := hheld.inside
    have heq := hscan.eq_of_start x hx _ hmem (Nat.le_of_lt hlt) hstop
    rw [heq] at hlt
    exact Nat.lt_irrefl j hlt
  · obtain ⟨x, hx, hle, hlt⟩ := hscan.covers (Nat.zero_le j) hs
    have hocc := hscan.occursAt x hx
    rcases Nat.eq_or_lt_of_le hle with rfl | hinside
    · rw [hs.unique hocc]
      exact kept_of_mem_sites hblocks hx
    · obtain ⟨b, hb⟩ := forall₂_exists_iff.1 ⟨blocks, hblocks⟩ x.decl (List.mem_map_of_mem hx)
      have hname : x.statement.name.head? ≠ some 'i' := by
        rw [head?_name_of_bridged hocc hb]
        decide
      exact absurd (hocc.inside hs hinside hlt hname) (hfree x hx)

/-- a line that begins a declaration and does not end it -/
def openLine : Text := "int generated_co_wrapper bdrv_pause(BlockDriverState *bs,\n"

/-- a line that declares a bridge -/
def closedLine : Text := "int generated_co_wrapper bdrv_flush(BlockDriverState *file);\n"

/-- the statement on the closed line -/
def closedStatement : Statement := ⟨" ", " ", "bdrv_flush", "BlockDriverState *file"⟩

/-- the statement that begins on the open line, if the closed line follows -/
def openStatement : Statement :=
  ⟨" ", " ", "bdrv_pause",
    "BlockDriverState *bs,\nint generated_co_wrapper bdrv_flush(BlockDriverState *file"⟩

/-- the plan for its declaration -/
def openPlan : Plan :=
  ⟨⟨"int", "bdrv_pause", [⟨"BlockDriverState *bs", "BlockDriverState *", "bs"⟩,
    ⟨"int generated_co_wrapper bdrv_flush(BlockDriverState *file",
      "int generated_co_wrapper bdrv_flush(BlockDriverState *", "file"⟩]⟩,
    "bdrv_co_pause", .direct, "bs"⟩

theorem sites_openLine :
    Marker.wrapper.sites (openLine ++ closedLine) = [⟨0, openStatement⟩] := by
  rfl

theorem outcome_generate_openLine :
    (generate {} (openLine ++ closedLine)).outcome
      = .ok (assemble "co-wrapper" [openPlan.block]) := by
  have hread : openStatement.decl = .ok openPlan.wrapper := by rfl
  have hdecls : Marker.wrapper.decls (openLine ++ closedLine) = [.ok openPlan.wrapper] := by
    rw [Marker.decls, sites_openLine, List.map_singleton, Site.decl, hread]
  have hnone : Marker.coroutine.sites (openLine ++ closedLine) = [] := by rfl
  have hplan : openPlan.wrapper.plan = .ok openPlan := by rfl
  exact outcome_generate_of_plans [openPlan] hdecls (List.forall_mem_singleton.2 hplan)
    (ok_not_mem_decls hnone)

theorem occursAt_closedLine :
    Marker.wrapper.OccursAt (openLine ++ closedLine) 58 closedStatement := by
  have hstart : startsLine openLine.getLast? closedLine = true := by rfl
  have hread : Marker.wrapper.statement? closedLine = some closedStatement := by rfl
  exact (Marker.occursAt_iff .wrapper openLine closedLine closedStatement).2 ⟨hstart, hread⟩

theorem kept_iff_not_held_openLine :
    (generate {} (openLine ++ closedLine)).outcome
      = .ok (assemble "co-wrapper" [openPlan.block]) ∧
    Marker.wrapper.OccursAt (openLine ++ closedLine) 58 closedStatement ∧
    ∃ blocks, assemble "co-wrapper" [openPlan.block] = assemble "co-wrapper" blocks ∧
      blocks.length = (Marker.wrapper.sites (openLine ++ closedLine)).length ∧
      ∀ j s, Marker.wrapper.OccursAt (openLine ++ closedLine) j s →
        (Kept (openLine ++ closedLine) blocks j s
          ↔ ∀ x ∈ Marker.wrapper.sites (openLine ++ closedLine), ¬ x.Holds .wrapper j s) ∧
        ∀ x ∈ Marker.wrapper.sites (openLine ++ closedLine),
          x.Holds .wrapper j s → '(' ∈ x.statement.args := by
  refine ⟨outcome_generate_openLine, occursAt_closedLine, ?_⟩
  have hkept := kept_iff_not_held outcome_generate_openLine
  exact hkept

/-- a file comes of the open and the closed line, but the declaration on the closed line is no site
and has no block in it -/
theorem not_kept_closedLine :
    (generate {} (openLine ++ closedLine)).outcome
      = .ok (assemble "co-wrapper" [openPlan.block]) ∧
    Marker.wrapper.OccursAt (openLine ++ closedLine) 58 closedStatement ∧
    (∀ x ∈ Marker.wrapper.sites (openLine ++ closedLine), x.start ≠ 58) ∧
    ∀ blocks, ¬ Kept (openLine ++ closedLine) blocks 58 closedStatement := by
  have hstarts : ∀ x ∈ Marker.wrapper.sites (openLine ++ closedLine), x.start ≠ 58 := by
    rw [sites_openLine]
    exact List.forall_mem_singleton.2 (by decide)
  refine ⟨outcome_generate_openLine, occursAt_closedLine, hstarts, ?_⟩
  rintro blocks ⟨k, _, _, hk, _⟩
  exact hstarts _ (List.mem_of_getElem? hk) rfl

end CoroBridge
