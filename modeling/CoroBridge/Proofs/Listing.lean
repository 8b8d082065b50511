import CoroBridge.Proofs.BlockText

/-!
# Listings: texts of statements on lines of their own

How the search goes through a text whose parts are known, and what it finds in a text that was
written as a list of statements.

* `Marker.sitesFrom_skip`       what belongs to the last statement is passed over;
* `Marker.sitesFrom_statement`  a statement on lines of its own is found;
* `Marker.sitesFrom_quiet`      nothing begins in the middle of a line;
* `Marker.sitesFrom_line`       a line that begins with no statement is passed over;
* `Marker.listing`              statements, each with a line feed after it;
* `Marker.statements_listing`   the statements of a listing are found again, all and in order;
* `Marker.sites_listing_of_ne`  in a listing no statement with the other marker is found.
-/

namespace CoroBridge

/-! ## parts of a text -/

/-- the character before a part of a text, when another part has been passed -/
theorem getLast?_cons_or {α : Type} (c : α) (a : List α) (left : Option α) :
    (c :: a).getLast?.or left = a.getLast?.or (some c) := by
  cases a with
  | nil => rfl
  | cons d a =>
    rw [List.getLast?_cons_cons, List.getLast?_eq_some_getLast (List.cons_ne_nil d a)]
    rfl

namespace Marker

/-- what belongs to the last statement is passed over -/
theorem sitesFrom_skip (m : Marker) (i : Nat) (left : Option Char) (a r : Text) :
    m.sitesFrom i left a.length (a ++ r)
      = m.sitesFrom (i + a.length) (a.getLast?.or left) 0 r := by
  induction a generalizing i left with
  | nil => rfl
  | cons c a ih =>
    rw [List.cons_append, List.length_cons, sitesFrom, ih, getLast?_cons_or,
      Nat.add_assoc, Nat.add_comm 1]

/-- a statement on lines of its own is found, and the search goes on behind it -/
theorem sitesFrom_statement {m : Marker} {s : Statement} (hs : s.WellFormed) (i : Nat)
    {left : Option Char} {r : Text} (hl : startsLine left (s.text m ++ r) = true)
    (hr : endsLine r = true) :
    m.sitesFrom i left 0 (s.text m ++ r)
      = ⟨i, s⟩ :: m.sitesFrom (i + (s.text m).length) (some ';') 0 r := by
  have hread := m.statement?_append hs hr
  obtain ⟨c, a, htext⟩ := List.exists_cons_of_length_pos (s.length_text_pos m)
  have hlast : a.getLast?.or (some c) = some ';' := by
    rw [← getLast?_cons_or c a none, ← htext, ← List.nil_append (s.text m), s.getLast?_text]
    rfl
  rw [htext, List.cons_append] at hl hread ⊢
  rw [sitesFrom_found hl hread, htext, List.length_cons, Nat.add_sub_cancel, sitesFrom_skip,
    hlast, Nat.add_assoc, Nat.add_comm 1]

/-- in the middle of a line nothing begins -/
theorem sitesFrom_quiet (m : Marker) (i : Nat) {c : Char} {a : Text}
    (h : Text.Unbroken (c :: a)) (r : Text) :
    m.sitesFrom i (some c) 0 (a ++ r)
      = m.sitesFrom (i + a.length) (a.getLast?.or (some c)) 0 r := by
  induction a generalizing i c with
  | nil => rfl
  | cons d a ih =>
    have hfeed : c ≠ '\n' := by
      rintro rfl
      exact h.1 List.mem_cons_self
    have hreturn : c ≠ '\r' := by
      rintro rfl
      exact h.2 List.mem_cons_self
    have htail : Text.Unbroken (d :: a) :=
      ⟨fun hc => h.1 (List.mem_cons_of_mem c hc), fun hc => h.2 (List.mem_cons_of_mem c hc)⟩
    have hmissed : ¬ startsLine (some c) (d :: (a ++ r)) = true := by
      unfold startsLine
      split <;> simp_all
    rw [List.cons_append, sitesFrom_missed fun s hs => hmissed hs.1, ih (i + 1) htail,
      getLast?_cons_or, List.length_cons, Nat.add_assoc, Nat.add_comm 1]

theorem sitesFrom_feed (m : Marker) (i : Nat) (left : Option Char) (r : Text) :
    m.sitesFrom i left 0 ('\n' :: r) = m.sitesFrom (i + 1) (some '\n') 0 r :=
  sitesFrom_missed fun s hs => by cases hs.2

/-- a line that begins with no statement is passed over -/
theorem sitesFrom_line {m : Marker} (i : Nat) (left : Option Char) {a r : Text}
    (ha : a.Unbroken) (h : m.statement? (a ++ '\n' :: r) = none) :
    m.sitesFrom i left 0 (a ++ '\n' :: r)
      = m.sitesFrom (i + a.length + 1) (some '\n') 0 r := by
  cases a with
  | nil => exact sitesFrom_feed m i left r
  | cons c a =>
    rw [List.cons_append] at h ⊢
    have hmissed : ∀ s, m.statement? (c :: (a ++ '\n' :: r)) ≠ some s := by
      rw [h]
      exact fun _ hs => by cases hs
    rw [sitesFrom_missed fun s hs => hmissed s hs.2, sitesFrom_quiet m (i + 1) ha,
      sitesFrom_feed, List.length_cons, Nat.add_assoc i, Nat.add_comm 1]

/-! ## listings -/

/-- statements with a mark, each with a line feed after it -/
def listing (m : Marker) (ss : List Statement) : Text := ss.flatMap fun s => s.text m ++ ['\n']

theorem listing_cons (m : Marker) (s : Statement) (ss : List Statement) :
    m.listing (s :: ss) = s.text m ++ '\n' :: m.listing ss := by
  simp [listing]

/-- the statements of a listing are found again, all and in order -/
theorem statements_sitesFrom_listing (m : Marker) {ss : List Statement}
    (h : ∀ s ∈ ss, s.WellFormed) (i : Nat) {left : Option Char}
    (hl : left = none ∨ left = some '\n') :
    (m.sitesFrom i left 0 (m.listing ss)).map Site.statement = ss := by
  induction ss generalizing i left with
  | nil => rfl
  | cons s ss ih =>
    have hline : startsLine left (s.text m ++ '\n' :: m.listing ss) = true := by
      rcases hl with rfl | rfl <;> rfl
    rw [listing_cons, sitesFrom_statement (h s List.mem_cons_self) i hline rfl, sitesFrom_feed,
      List.map_cons, ih (fun x hx => h x (List.mem_cons_of_mem s hx)) _ (.inr rfl)]

theorem statements_listing (m : Marker) {ss : List Statement} (h : ∀ s ∈ ss, s.WellFormed) :
    (m.sites (m.listing ss)).map Site.statement = ss :=
  m.statements_sitesFrom_listing h 0 (.inl rfl)

theorem decls_listing (m : Marker) {ss : List Statement} (h : ∀ s ∈ ss, s.WellFormed) :
    m.decls (m.listing ss) = ss.map Statement.decl := by
  have hmap := congrArg (List.map Statement.decl) (m.statements_listing h)
  rwa [List.map_map] at hmap

/-- a text that begins with a statement does not begin with one that has another marker -/
theorem statement?_text_of_ne {m m' : Marker} (hne : m' ≠ m) {s : Statement} (hs : s.WellFormed)
    (r : Text) : m'.statement? (s.text m ++ r) = none := by
  have hword : ∀ t, m'.word.after? (m.word ++ t) = none := by
    intro t
    cases m <;> cases m' <;> first | exact absurd rfl hne | rfl
  rw [Statement.text_append]
  simp only [statement?, Text.after?_append, Option.bind_eq_bind, Option.bind_some,
    dropWhile_append_of_stopsAt hs.gap_blank (m.stopsAt_word _), hword, Option.bind_none]

/-- in a listing no statement with another marker is found, if every statement is on one line -/
theorem sites_listing_of_ne {m m' : Marker} (hne : m' ≠ m) {ss : List Statement}
    (h : ∀ s ∈ ss, s.WellFormed) (hline : ∀ s ∈ ss, (s.text m).oneLine = true) :
    m'.sites (m.listing ss) = [] := by
  suffices H : ∀ i left, m'.sitesFrom i left 0 (m.listing ss) = [] from H 0 none
  induction ss with
  | nil => intro i left; rfl
  | cons s ss ih =>
    intro i left
    rw [listing_cons, sitesFrom_line i left (Text.unbroken_of_oneLine (hline s List.mem_cons_self))
      (statement?_text_of_ne hne (h s List.mem_cons_self) _)]
    exact ih (fun x hx => h x (List.mem_cons_of_mem s hx))
      (fun x hx => hline x (List.mem_cons_of_mem s hx)) _ _

end Marker
end CoroBridge
