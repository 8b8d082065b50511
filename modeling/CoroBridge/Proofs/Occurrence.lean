import CoroBridge.Site.Lemmas

/-!
# Occurrences: what the search for statements finds

The search walks through a text with the character on its left and the number of characters that
still belong to the last statement.  Here it is compared with the places where the grammar allows
a statement at all:

* `LineStart`, `LineEnd`   whether a line begins or ends between two parts of a text;
* `Marker.OccursAt`        a well-formed statement stands at an offset, from a line start to a line
                           end;
* `Site.stop`              the offset where a site ends;
* `Marker.Scan`            a list of sites is what a reader finds who starts at an offset, takes the
                           first occurrence, and goes on where it ends;
* `Marker.Scan.map`        what a reader finds in a text whose occurrences stand in other places;
* `Marker.decls`           the declarations of a text, in order;
* `Marker.scan_sitesFrom`  the invariant of the search;
* `Marker.sites_eq_leftmost`   the sites of a text are its leftmost occurrences that do not
                           overlap.
-/

namespace CoroBridge

/-! ## line boundaries -/

/-- a line begins between `a` and `b`: at the start of the text, after a line feed, or after a
carriage return that no line feed follows -/
def LineStart (a b : Text) : Prop :=
  a = [] ∨ a.getLast? = some '\n' ∨ (a.getLast? = some '\r' ∧ b.head? ≠ some '\n')

/-- a line ends between `a` and `b`: at the end of the text, before a carriage return, or before a
line feed that follows no carriage return -/
def LineEnd (a b : Text) : Prop :=
  b = [] ∨ b.head? = some '\r' ∨ (b.head? = some '\n' ∧ a.getLast? ≠ some '\r')

theorem startsLine_iff (a b : Text) : startsLine a.getLast? b = true ↔ LineStart a b := by
  unfold LineStart
  rw [← List.getLast?_eq_none_iff]
  unfold startsLine
  split <;> simp_all

theorem endsLine_iff {a : Text} (ha : a.getLast? ≠ some '\r') (b : Text) :
    endsLine b = true ↔ LineEnd a b := by
  unfold LineEnd
  cases b with
  | nil => simp [endsLine]
  | cons c r => simp [endsLine, ha, or_comm]

/-! ## occurrences -/

/-- the statement `s` stands in `t` after `i` characters, on lines of its own -/
def Marker.OccursAt (m : Marker) (t : Text) (i : Nat) (s : Statement) : Prop :=
  s.WellFormed ∧ ∃ a b, t = a ++ (s.text m ++ b) ∧ a.length = i ∧
    LineStart a (s.text m ++ b) ∧ LineEnd (a ++ s.text m) b

/-- the offset after the last character of a site -/
def Site.stop (m : Marker) (x : Site) : Nat := x.start + (x.text m).length

theorem Statement.getLast?_text (m : Marker) (s : Statement) (a : Text) :
    (a ++ s.text m).getLast? = some ';' := by
  have e : a ++ s.text m
      = (a ++ (statusType ++ s.gap ++ m.word ++ s.lead ++ s.name ++ '(' :: s.args ++ [')']))
        ++ [';'] := by
    simp [Statement.text]
  rw [e, List.getLast?_concat]

theorem Statement.length_text_pos (m : Marker) (s : Statement) : 0 < (s.text m).length := by
  simp only [Statement.text, List.length_append, List.length_cons]
  omega

namespace Marker

/-- an occurrence is what the reader of statements reads where a line begins -/
theorem occursAt_iff (m : Marker) (a r : Text) (s : Statement) :
    m.OccursAt (a ++ r) a.length s
      ↔ startsLine a.getLast? r = true ∧ m.statement? r = some s := by
  rw [startsLine_iff, statement?_eq_some_iff]
  have hend : ∀ b, endsLine b = true ↔ LineEnd (a ++ s.text m) b :=
    endsLine_iff (by rw [s.getLast?_text]; decide)
  constructor
  · rintro ⟨hw, a', b, e, hl, hs, he⟩
    obtain ⟨rfl, rfl⟩ := List.append_inj e hl.symm
    exact ⟨hs, hw, b, rfl, (hend b).2 he⟩
  · rintro ⟨hs, hw, b, rfl, he⟩
    exact ⟨hw, a, b, rfl, rfl, hs, (hend b).1 he⟩

theorem OccursAt.stop_le {m : Marker} {t : Text} {i : Nat} {s : Statement}
    (h : m.OccursAt t i s) : i + (s.text m).length ≤ t.length := by
  obtain ⟨_, a, b, rfl, rfl, _⟩ := h
  simp only [List.length_append]
  omega

theorem OccursAt.start_lt {m : Marker} {t : Text} {i : Nat} {s : Statement}
    (h : m.OccursAt t i s) : i < t.length := by
  have h1 := h.stop_le
  have h2 := s.length_text_pos m
  omega

/-- from an offset at most one statement can be read -/
theorem OccursAt.unique {m : Marker} {t : Text} {i : Nat} {s s' : Statement}
    (h : m.OccursAt t i s) (h' : m.OccursAt t i s') : s = s' := by
  have h0 := h
  obtain ⟨_, a, b, rfl, rfl, _⟩ := h0
  rw [occursAt_iff] at h h'
  exact Option.some.inj (h.2.symm.trans h'.2)

/-! ## leftmost first -/

/-- what a reader finds in `t` from an offset on who takes the first occurrence and goes on where
it ends -/
inductive Scan (m : Marker) (t : Text) : Nat → List Site → Prop
  | done {i : Nat} (hnone : ∀ j s, i ≤ j → ¬ m.OccursAt t j s) : Scan m t i []
  | found {i : Nat} {x : Site} {l : List Site} (hi : i ≤ x.start)
      (hfirst : ∀ j s, i ≤ j → j < x.start → ¬ m.OccursAt t j s)
      (hx : m.OccursAt t x.start x.statement) (hl : Scan m t (x.stop m) l) : Scan m t i (x :: l)

variable {m : Marker} {t : Text} {i : Nat} {l : List Site}

/-- offsets without an occurrence may be left out -/
theorem Scan.of_le {k : Nat} (hk : i ≤ k) (hnone : ∀ j s, i ≤ j → j < k → ¬ m.OccursAt t j s)
    (h : m.Scan t k l) : m.Scan t i l := by
  have hskip : ∀ j s, i ≤ j → (k ≤ j → ¬ m.OccursAt t j s) → ¬ m.OccursAt t j s := by
    intro j s hj hlater
    rcases Nat.lt_or_ge j k with hlt | hle
    · exact hnone j s hj hlt
    · exact hlater hle
  cases h with
  | done hlater => exact .done fun j s hj => hskip j s hj (hlater j s)
  | found hi hfirst hx hl =>
    exact .found (Nat.le_trans hk hi)
      (fun j s hj hlt => hskip j s hj fun hj' => hfirst j s hj' hlt) hx hl

theorem Scan.le_start (h : m.Scan t i l) : ∀ x ∈ l, i ≤ x.start := by
  induction h with
  | done _ => intro x hx; cases hx
  | @found i x l hi _ _ _ ih =>
    intro y hy
    rcases List.mem_cons.1 hy with rfl | hy
    · exact hi
    · have hxy := ih y hy
      unfold Site.stop at hxy
      omega

theorem Scan.occursAt (h : m.Scan t i l) : ∀ x ∈ l, m.OccursAt t x.start x.statement := by
  induction h with
  | done _ => intro x hx; cases hx
  | found _ _ hx _ ih =>
    intro y hy
    rcases List.mem_cons.1 hy with rfl | hy
    · exact hx
    · exact ih y hy

theorem Scan.pairwise (h : m.Scan t i l) : l.Pairwise fun x y => x.stop m ≤ y.start := by
  induction h with
  | done _ => exact List.Pairwise.nil
  | found _ _ _ hl ih => exact List.pairwise_cons.2 ⟨hl.le_start, ih⟩

/-- an occurrence that is passed over begins inside one that is not -/
theorem Scan.covers (h : m.Scan t i l) {j : Nat} {s : Statement} (hj : i ≤ j)
    (hs : m.OccursAt t j s) : ∃ x ∈ l, x.start ≤ j ∧ j < x.stop m := by
  induction h with
  | done hnone => exact absurd hs (hnone j s hj)
  | @found i x l _ hfirst _ _ ih =>
    by_cases hlt : j < x.start
    · exact absurd hs (hfirst j s hj hlt)
    · by_cases hstop : j < x.stop m
      · exact ⟨x, List.mem_cons_self, Nat.not_lt.1 hlt, hstop⟩
      · obtain ⟨y, hy, hin⟩ := ih (Nat.not_lt.1 hstop)
        exact ⟨y, List.mem_cons_of_mem _ hy, hin⟩

/-- from an offset there is one way to read on -/
theorem Scan.unique {l' : List Site} (h : m.Scan t i l) (h' : m.Scan t i l') : l = l' := by
  induction h generalizing l' with
  | done hnone =>
    cases h' with
    | done _ => rfl
    | found hi _ hx _ => exact absurd hx (hnone _ _ hi)
  | @found i x l hi hfirst hx _ ih =>
    cases h' with
    | done hnone => exact absurd hx (hnone _ _ hi)
    | @found _ y l' hi' hfirst' hy hl' =>
      have hstart : x.start = y.start := by
        rcases Nat.lt_trichotomy x.start y.start with hlt | heq | hlt
        · exact absurd hx (hfirst' _ _ hi hlt)
        · exact heq
        · exact absurd hy (hfirst _ _ hi' hlt)
      have hxy : x = y := by
        obtain ⟨n, s⟩ := x
        obtain ⟨n', s'⟩ := y
        obtain rfl : n = n' := hstart
        obtain rfl : s = s' := hx.unique hy
        rfl
      subst hxy
      rw [ih hl']

/-- a map of places that keeps their order, and takes the occurrences in one text to those in another
one, takes along what a reader finds -/
theorem Scan.map {u : Text} {f : Nat → Nat} {g : Statement → Statement}
    (hf : ∀ n k, n ≤ t.length → (f n ≤ f k ↔ n ≤ k))
    (hocc : ∀ j s', f 0 ≤ j →
      (m.OccursAt u j s' ↔ ∃ n s, m.OccursAt t n s ∧ f n = j ∧ g s = s'))
    (hstop : ∀ n s, m.OccursAt t n s → f (n + (s.text m).length) = f n + ((g s).text m).length)
    (h : m.Scan t i l) (hi : i ≤ t.length) :
    m.Scan u (f i) (l.map fun x => ⟨f x.start, g x.statement⟩) := by
  have hzero : ∀ n, f 0 ≤ f n := fun n => (hf 0 n (Nat.zero_le _)).2 (Nat.zero_le n)
  induction h with
  | @done i hnone =>
    refine .done fun j s' hj hs => ?_
    obtain ⟨n, s, hns, rfl, rfl⟩ := (hocc j s' (Nat.le_trans (hzero i) hj)).1 hs
    exact hnone n s ((hf i n hi).1 hj) hns
  | @found i x l hx hfirst hxs _ ih =>
    refine .found ((hf i x.start hi).2 hx) (fun j s' hj hlt hs => ?_)
      ((hocc _ _ (hzero _)).2 ⟨x.start, x.statement, hxs, rfl, rfl⟩) ?_
    · obtain ⟨n, s, hns, rfl, rfl⟩ := (hocc j s' (Nat.le_trans (hzero i) hj)).1 hs
      refine hfirst n s ((hf i n hi).1 hj) (Nat.not_le.1 fun hle => ?_) hns
      exact Nat.not_le.2 hlt ((hf x.start n (Nat.le_of_lt hxs.start_lt)).2 hle)
    · have hend := hstop x.start x.statement hxs
      rw [show Site.stop m ⟨f x.start, g x.statement⟩ = f (x.stop m) from hend.symm]
      exact ih hxs.stop_le

/-! ## the search -/

theorem sitesFrom_found {left : Option Char} {c : Char} {r : Text} {s : Statement}
    (hl : startsLine left (c :: r) = true) (hs : m.statement? (c :: r) = some s) :
    m.sitesFrom i left 0 (c :: r)
      = ⟨i, s⟩ :: m.sitesFrom (i + 1) (some c) ((s.text m).length - 1) r := by
  simp only [sitesFrom, hl, if_true, hs]

theorem sitesFrom_missed {left : Option Char} {c : Char} {r : Text}
    (h : ∀ s, ¬ (startsLine left (c :: r) = true ∧ m.statement? (c :: r) = some s)) :
    m.sitesFrom i left 0 (c :: r) = m.sitesFrom (i + 1) (some c) 0 r := by
  have hnone : (if startsLine left (c :: r) then m.statement? (c :: r) else none) = none := by
    split
    · next hl => exact Option.eq_none_iff_forall_ne_some.2 fun s hs => h s ⟨hl, hs⟩
    · rfl
  simp only [sitesFrom, hnone]

/-- the search in what is left of a text reads it like a reader who begins where the last statement
ends -/
theorem scan_sitesFrom (m : Marker) (a r : Text) (skip : Nat) :
    m.Scan (a ++ r) (a.length + skip) (m.sitesFrom a.length a.getLast? skip r) := by
  induction r generalizing a skip with
  | nil =>
    refine .done fun j s hj h => ?_
    have hlt := h.start_lt
    rw [List.append_nil] at hlt
    omega
  | cons c r ih =>
    have ih' := fun k => ih (a ++ [c]) k
    rw [List.append_assoc, List.singleton_append, List.length_append, List.length_singleton,
      List.getLast?_concat] at ih'
    cases skip with
    | succ k =>
      rw [show a.length + (k + 1) = a.length + 1 + k by omega]
      exact ih' k
    | zero =>
      by_cases h : ∃ s, startsLine a.getLast? (c :: r) = true ∧ m.statement? (c :: r) = some s
      · obtain ⟨s, hl, hs⟩ := h
        rw [sitesFrom_found hl hs]
        refine .found (Nat.le_refl _) (fun j s hj hlt => absurd hlt (Nat.not_lt.2 hj))
          ((m.occursAt_iff a (c :: r) s).2 ⟨hl, hs⟩) ?_
        have hpos := s.length_text_pos m
        have hstop : (⟨a.length, s⟩ : Site).stop m
            = a.length + 1 + ((s.text m).length - 1) := by
          show a.length + (s.text m).length = _
          omega
        rw [hstop]
        exact ih' _
      · rw [sitesFrom_missed fun s hs => h ⟨s, hs⟩]
        refine Scan.of_le (Nat.le_succ _) (fun j s hj hlt hs => ?_) (ih' 0)
        obtain rfl : j = a.length := Nat.le_antisymm (Nat.le_of_lt_succ hlt) hj
        exact h ⟨s, (m.occursAt_iff a (c :: r) s).1 hs⟩

theorem scan_sites (m : Marker) (t : Text) : m.Scan t 0 (m.sites t) :=
  scan_sitesFrom m [] t 0

theorem scan_iff {l : List Site} : m.Scan t 0 l ↔ l = m.sites t := by
  constructor
  · intro h
    exact h.unique (scan_sites m t)
  · rintro rfl
    exact scan_sites m t

/-- the declarations of a text, or why they cannot be read, in order -/
def decls (m : Marker) (t : Text) : List (Except Fault Decl) := (m.sites t).map Site.decl

/-- **The sites of a text are its leftmost occurrences that do not overlap.**  From an offset one
statement can be read at most; a reader who always takes the first occurrence finds the sites and
nothing else; the sites follow each other, each is an occurrence with its own text, no other
occurrence begins outside of them, and the declaration of each is read from its own name and
arguments. -/
theorem sites_eq_leftmost (m : Marker) (t : Text) :
    (∀ i s s', m.OccursAt t i s → m.OccursAt t i s' → s = s') ∧
    (∀ l, m.Scan t 0 l ↔ l = m.sites t) ∧
    ((m.sites t).Pairwise fun x y => x.stop m ≤ y.start) ∧
    (∀ x ∈ m.sites t, m.OccursAt t x.start x.statement ∧ x.start < x.stop m ∧
      (t.drop x.start).take (x.stop m - x.start) = x.text m) ∧
    (∀ j s, m.OccursAt t j s → ∃ x ∈ m.sites t, x.start ≤ j ∧ j < x.stop m) ∧
    m.decls t = (m.sites t).map fun x => Decl.read "int" x.statement.name x.statement.args := by
  have hscan := scan_sites m t
  refine ⟨fun i s s' h h' => h.unique h', fun l => scan_iff, hscan.pairwise, ?_,
    fun j s h => hscan.covers (Nat.zero_le j) h, rfl⟩
  intro x hx
  have hocc := hscan.occursAt x hx
  have hpos := x.statement.length_text_pos m
  have hlen : x.stop m - x.start = (x.text m).length := Nat.add_sub_cancel_left ..
  refine ⟨hocc, Nat.lt_add_of_pos_right hpos, ?_⟩
  obtain ⟨_, a, b, e, ha, _⟩ := hocc
  rw [hlen, e, ← ha, List.drop_left]
  exact List.take_left ..

end Marker
end CoroBridge
