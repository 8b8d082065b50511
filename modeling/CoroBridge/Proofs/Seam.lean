import Mathlib.Data.List.Infix
import CoroBridge.Proofs.Overlap

/-!
# Seams: texts behind each other

Several files are read as one text.  Where the first text ends with a line, and leaves neither the
head of a statement nor an argument list open, the search goes through the second text as if nothing
stood before it.

* `Text.Sealed`            nothing that begins in a text goes on behind it;
* `Text.Sealed.not_cut`    no statement begins in such a text and ends behind it;
* `Marker.occursAt_append_left`, `Marker.occursAt_append_right`   the occurrences in two texts behind
                           each other are those of the two texts;
* `Marker.Scan.append`     so are the ways in which a reader goes through them;
* `Marker.sites_append`, `Marker.decls_append`   so are the sites and the declarations;
* `generate_append`        the file of two texts is the file of the first one, and the file of the
                           second one without its header.
-/

namespace CoroBridge
open Text

/-! ## sealed texts -/

/-- nothing that begins in the text goes on behind it: the text is empty or ends with a line, every
opening parenthesis has a closing one after it, and the last word is none after which a statement
may go on behind blanks -/
structure Text.Sealed (a : Text) : Prop where
  line_ended : a = [] ∨ a.getLast? = some '\n'
  closed : ∀ r, '(' :: r <:+ a → ')' ∈ r
  no_type : ¬ statusType <:+ a.rdropWhile isBlank
  no_marker : ∀ m : Marker, ¬ m.word <:+ a.rdropWhile isBlank

namespace Text.Sealed
variable {u v : Text}

theorem getLast? (h : (u ++ v).Sealed) (hv : v ≠ []) : v.getLast? = some '\n' := by
  have hlast : (u ++ v).getLast? = v.getLast? := by
    rw [List.getLast?_append, List.getLast?_eq_some_getLast hv, Option.some_or]
  rw [← hlast]
  exact h.line_ended.resolve_left (List.append_ne_nil_of_right_ne_nil u hv)

/-- a word with blanks behind it is the last word of the text -/
theorem suffix_rdropWhile (u : Text) {w g : Text} (hw : ∀ c ∈ w, isBlank c = false) (hne : w ≠ [])
    (hg : ∀ c ∈ g, isBlank c = true) : w <:+ (u ++ (w ++ g)).rdropWhile isBlank := by
  have hkeep : (u ++ w).rdropWhile isBlank = u ++ w := by
    rw [List.rdropWhile_eq_self_iff]
    intro hl
    rw [List.getLast_append_of_ne_nil hl hne]
    simpa using hw _ (List.getLast_mem hne)
  have hdrop : (u ++ (w ++ g)).rdropWhile isBlank = (u ++ w).rdropWhile isBlank := by
    rw [← List.append_assoc, List.rdropWhile, List.reverse_append,
      List.dropWhile_append_of_pos fun c hc => hg c (List.mem_reverse.1 hc), List.rdropWhile]
  rw [hdrop, hkeep]
  exact List.suffix_append u w

/-- no statement begins in the text and ends behind it -/
theorem not_cut (h : (u ++ v).Sealed) (hv : v ≠ []) {m : Marker} {s : Statement} (hs : s.WellFormed)
    {w : Text} (he : s.text m = v ++ w) : False := by
  have hint : ∀ c ∈ statusType, isBlank c = false := not_blank_of_any (by rfl)
  have hends : v.endsBlank = true := by
    rw [endsBlank, h.getLast? hv]
    decide
  rcases Marker.cut_of_endsBlank hs he hends with
    ⟨g, g', rfl, hgap, _⟩ | ⟨g, g', rfl, hlead, _⟩ | ⟨z, z', rfl, hargs, _⟩
  · have hg : ∀ c ∈ g, isBlank c = true := fun c hc =>
      hs.gap_blank c (hgap ▸ List.mem_append_left g' hc)
    exact h.no_type (suffix_rdropWhile u hint (by decide) hg)
  · have hg : ∀ c ∈ g, isBlank c = true := fun c hc =>
      hs.lead_blank c (hlead ▸ List.mem_append_left g' hc)
    have hword : m.word ≠ [] := by cases m <;> decide
    have hlast := suffix_rdropWhile (u ++ (statusType ++ s.gap)) m.not_blank_of_mem_word hword hg
    simp only [List.append_assoc] at hlast
    exact h.no_marker m hlast
  · have hopen : '(' :: z <:+ u ++ (s.head m ++ z) := by
      refine ⟨u ++ (statusType ++ (s.gap ++ (m.word ++ (s.lead ++ s.name)))), ?_⟩
      simp [Statement.head]
    exact hs.args_open (hargs ▸ List.mem_append_left z' (h.closed z hopen))

end Text.Sealed

/-! ## occurrences -/

/-- a site in a text that `n` characters are put before -/
def Site.shift (n : Nat) (x : Site) : Site := ⟨n + x.start, x.statement⟩

namespace Marker
variable {m : Marker} {a : Text}

/-- a statement that begins before the seam is read as if nothing stood behind it -/
theorem statement?_append_right {u v : Text} (h : (u ++ v).Sealed) (hv : v ≠ []) (b : Text) :
    m.statement? (v ++ b) = m.statement? v := by
  have hlast := h.getLast? hv
  have hend : ∀ r : Text, r ≠ [] → endsLine (r ++ b) = endsLine r := by
    intro r hr
    obtain ⟨c, r, rfl⟩ := List.exists_cons_of_ne_nil hr
    rfl
  have hne : ∀ (s : Statement) (r : Text), v = s.text m ++ r → r ≠ [] := by
    intro s r hw hr
    have hsemi := s.getLast?_text m []
    rw [List.nil_append] at hsemi
    rw [hw, hr, List.append_nil, hsemi] at hlast
    cases hlast
  ext s
  rw [statement?_eq_some_iff, statement?_eq_some_iff]
  constructor
  · rintro ⟨hs, r, e, hr⟩
    rcases List.append_eq_append_iff.1 e with ⟨w, hw, _⟩ | ⟨w, hw, rfl⟩
    · exact (h.not_cut hv hs hw).elim
    · exact ⟨hs, w, hw, (hend w (hne s w hw)).symm.trans hr⟩
  · rintro ⟨hs, r, rfl, hr⟩
    exact ⟨hs, r ++ b, List.append_assoc .., (hend r (hne s r rfl)).trans hr⟩

variable {b : Text} {i : Nat} {s : Statement} {l l' : List Site}

theorem occursAt_append_left (ha : a.Sealed) (b : Text) (hi : i < a.length) :
    m.OccursAt (a ++ b) i s ↔ m.OccursAt a i s := by
  obtain ⟨u, v, rfl, rfl⟩ : ∃ u v, a = u ++ v ∧ u.length = i :=
    ⟨a.take i, a.drop i, (List.take_append_drop i a).symm, List.length_take_of_le hi.le⟩
  have hv : v ≠ [] := by
    rintro rfl
    rw [List.append_nil] at hi
    exact Nat.lt_irrefl _ hi
  have hstart : startsLine u.getLast? (v ++ b) = startsLine u.getLast? v := by
    rw [Bool.eq_iff_iff, startsLine_iff, startsLine_iff, LineStart, LineStart,
      List.head?_append_of_ne_nil v hv]
  rw [List.append_assoc, occursAt_iff, occursAt_iff, hstart, statement?_append_right ha hv b]

theorem occursAt_append_right (ha : a.Sealed) (k : Nat) :
    m.OccursAt (a ++ b) (a.length + k) s ↔ m.OccursAt b k s := by
  have hiff : ∀ u v : Text,
      m.OccursAt (a ++ (u ++ v)) (a.length + u.length) s ↔ m.OccursAt (u ++ v) u.length s := by
    intro u v
    have hstart : startsLine (a ++ u).getLast? v = startsLine u.getLast? v := by
      rw [List.getLast?_append]
      cases u.getLast? with
      | some c => rfl
      | none =>
        rcases ha.line_ended with rfl | hfeed
        · rfl
        · rw [hfeed]
          rfl
    rw [← List.append_assoc, ← List.length_append, occursAt_iff, occursAt_iff, hstart]
  constructor
  · intro h
    have hk := h.start_lt
    rw [List.length_append, Nat.add_lt_add_iff_left] at hk
    have hb := hiff (b.take k) (b.drop k)
    rw [List.take_append_drop, List.length_take_of_le hk.le] at hb
    exact hb.1 h
  · intro h
    have hb := hiff (b.take k) (b.drop k)
    rw [List.take_append_drop, List.length_take_of_le h.start_lt.le] at hb
    exact hb.2 h

/-! ## the search -/

/-- behind the seam a reader finds what he finds in the second text -/
theorem Scan.shift (ha : a.Sealed) {k : Nat} (h : m.Scan b k l) (hk : k ≤ b.length) :
    m.Scan (a ++ b) (a.length + k) (l.map (Site.shift a.length)) := by
  refine Scan.map (f := fun n => a.length + n) (g := id) (fun n k _ => Nat.add_le_add_iff_left)
    (fun j s hj => ?_) (fun n s _ => (Nat.add_assoc ..).symm) h hk
  obtain ⟨n, rfl⟩ := Nat.exists_eq_add_of_le hj
  rw [Nat.add_zero, occursAt_append_right ha n]
  constructor
  · intro hs
    exact ⟨n, s, hs, rfl, rfl⟩
  · rintro ⟨n', s', hs, hn, rfl⟩
    rwa [← Nat.add_left_cancel hn]

/-- a reader goes through the second text from its start, whatever he found last in the first one -/
theorem Scan.append (ha : a.Sealed) (h : m.Scan a i l) (hi : i ≤ a.length)
    (h' : m.Scan b 0 l') : m.Scan (a ++ b) i (l ++ l'.map (Site.shift a.length)) := by
  induction h with
  | done hnone =>
    exact (h'.shift ha (Nat.zero_le _)).of_le hi fun j s hj hlt hs =>
      hnone j s hj ((occursAt_append_left ha b hlt).1 hs)
  | found hj hfirst hx _ ih =>
    have hlt := hx.start_lt
    refine .found hj (fun j s hij hjx hs => ?_) ((occursAt_append_left ha b hlt).2 hx)
      (ih hx.stop_le)
    exact hfirst j s hij hjx ((occursAt_append_left ha b (hjx.trans hlt)).1 hs)

theorem sites_append (ha : a.Sealed) (b : Text) :
    m.sites (a ++ b) = m.sites a ++ (m.sites b).map (Site.shift a.length) := by
  have hscan := (m.scan_sites a).append ha (Nat.zero_le _) (m.scan_sites b)
  exact (scan_iff.1 hscan).symm

theorem decls_append (ha : a.Sealed) (b : Text) :
    m.decls (a ++ b) = m.decls a ++ m.decls b := by
  rw [decls, sites_append ha, List.map_append, List.map_map]
  rfl

end Marker

/-! ## the file -/

variable {config : Config}

theorem assemble_append (generator : Text) (bs bs' : List Text) :
    assemble generator (bs ++ bs')
      = assemble generator bs ++ (assemble generator bs').drop (header generator).length := by
  rw [assemble, assemble, assemble, List.drop_left, List.flatMap_append, List.append_assoc]

/-- the outcome of two texts behind each other, from the outcomes of the texts -/
theorem outcome_generate_append {a : Text} (ha : a.Sealed) (b : Text)
    (h : config.crossCheck = false) :
    (generate config (a ++ b)).outcome
      = (generate config a).outcome >>= fun x => (generate config b).outcome >>= fun y =>
          .ok (x ++ y.drop (header config.generator).length) := by
  simp only [outcome_generate_unchecked h, Marker.decls_append ha, List.mapM_append, bind_assoc,
    pure_bind, ok_bind, assemble_append]

/-- **Texts behind each other are files behind each other.**  If nothing that begins in the text `a`
goes on behind it, the declarations of `a ++ b` are those of `a` and those of `b`.  If nothing is
compared, a file comes of `a ++ b` if and only if one comes of `a` and one of `b`, and it is the
file of `a` with what the file of `b` has behind its header; otherwise the run reports the fault of
`a`, or the fault of `b` if there is none. -/
theorem generate_append {a : Text} (ha : a.Sealed) (b : Text) :
    (∀ m : Marker, m.decls (a ++ b) = m.decls a ++ m.decls b) ∧
    ∀ config : Config, config.crossCheck = false →
      ((∃ out, (generate config (a ++ b)).outcome = .ok out)
        ↔ (∃ x, (generate config a).outcome = .ok x) ∧
          ∃ y, (generate config b).outcome = .ok y) ∧
      (∀ x y, (generate config a).outcome = .ok x → (generate config b).outcome = .ok y →
        header config.generator <+: y ∧
        (generate config (a ++ b)).outcome
          = .ok (x ++ y.drop (header config.generator).length)) ∧
      ∀ fault, (generate config (a ++ b)).outcome = .error fault
        ↔ (generate config a).outcome = .error fault ∨
          (∃ x, (generate config a).outcome = .ok x) ∧
            (generate config b).outcome = .error fault := by
  refine ⟨fun m => Marker.decls_append ha b, fun config h => ?_⟩
  rw [outcome_generate_append ha b h]
  refine ⟨?_, fun x y hx hy => ⟨?_, ?_⟩, fun fault => ?_⟩
  · simp only [bind_eq_ok_iff]
    constructor
    · rintro ⟨_, x, hx, y, hy, _⟩
      exact ⟨⟨x, hx⟩, y, hy⟩
    · rintro ⟨⟨x, hx⟩, y, hy⟩
      exact ⟨_, x, hx, y, hy, rfl⟩
  · obtain ⟨blocks, _, rfl⟩ := outcome_generate_ok_iff.1 hy
    exact List.prefix_append ..
  · rw [hx, hy]
    rfl
  · simp only [bind_eq_error_iff]
    constructor
    · rintro (ha | ⟨x, hx, hb | ⟨_, _, hnone⟩⟩)
      · exact .inl ha
      · exact .inr ⟨⟨x, hx⟩, hb⟩
      · cases hnone
    · rintro (ha | ⟨⟨x, hx⟩, hb⟩)
      · exact .inl ha
      · exact .inr ⟨x, hx, .inl hb⟩

/-- a line that declares a bridge and ends with a carriage return and a line feed -/
def returnLine : Text := "int generated_co_wrapper bdrv_pause(BlockDriverState *bs);\r\n"

/-- the plan for that bridge -/
def returnPlan : Plan :=
  ⟨⟨"int", "bdrv_pause", [⟨"BlockDriverState *bs", "BlockDriverState *", "bs"⟩]⟩,
    "bdrv_co_pause", .direct, "bs"⟩

/-- the plan for the bridge of the closed line -/
def closedPlan : Plan :=
  ⟨⟨"int", "bdrv_flush", [⟨"BlockDriverState *file", "BlockDriverState *", "file"⟩]⟩,
    "bdrv_co_flush", .direct, "file"⟩

/-- the run that compares nothing -/
def uncompared : Config := ⟨"co-wrapper", false⟩

theorem sealed_returnLine : returnLine.Sealed where
  line_ended := .inr (by rfl)
  closed := by
    have hall : ∀ t ∈ returnLine.tails, t.head? = some '(' → ')' ∈ t.tail := by decide +kernel
    intro r hr
    exact hall _ ((List.mem_tails _ _).2 hr) rfl
  no_type := by decide +kernel
  no_marker := by rintro (_ | _) <;> decide +kernel

theorem outcome_generate_returnLine :
    (generate uncompared returnLine).outcome = .ok (assemble "co-wrapper" [returnPlan.block]) := by
  have hdecls : Marker.wrapper.decls returnLine = [.ok returnPlan.wrapper] := by rfl
  have hnone : Marker.coroutine.sites returnLine = [] := by rfl
  have hplan : returnPlan.wrapper.plan = .ok returnPlan := by rfl
  exact outcome_generate_of_plans [returnPlan] hdecls (List.forall_mem_singleton.2 hplan)
    (ok_not_mem_decls hnone)

theorem outcome_generate_closedLine :
    (generate uncompared closedLine).outcome = .ok (assemble "co-wrapper" [closedPlan.block]) := by
  have hdecls : Marker.wrapper.decls closedLine = [.ok closedPlan.wrapper] := by rfl
  have hnone : Marker.coroutine.sites closedLine = [] := by rfl
  have hplan : closedPlan.wrapper.plan = .ok closedPlan := by rfl
  exact outcome_generate_of_plans [closedPlan] hdecls (List.forall_mem_singleton.2 hplan)
    (ok_not_mem_decls hnone)

theorem generate_append_returnLine :
    returnLine.Sealed ∧ uncompared.crossCheck = false ∧
    (generate uncompared returnLine).outcome = .ok (assemble "co-wrapper" [returnPlan.block]) ∧
    (generate uncompared closedLine).outcome = .ok (assemble "co-wrapper" [closedPlan.block]) ∧
    (∀ m : Marker,
      m.decls (returnLine ++ closedLine) = m.decls returnLine ++ m.decls closedLine) ∧
    (generate uncompared (returnLine ++ closedLine)).outcome
      = .ok (assemble "co-wrapper" [returnPlan.block]
          ++ (assemble "co-wrapper" [closedPlan.block]).drop (header "co-wrapper").length) := by
  obtain ⟨hdecls, hruns⟩ := generate_append sealed_returnLine closedLine
  obtain ⟨_, hboth, _⟩ := hruns uncompared rfl
  exact ⟨sealed_returnLine, rfl, outcome_generate_returnLine, outcome_generate_closedLine, hdecls,
    (hboth _ _ outcome_generate_returnLine outcome_generate_closedLine).2⟩

end CoroBridge
