import CoroBridge.Proofs.FileText
import CoroBridge.Proofs.Listing
import CoroBridge.Proofs.Overlap

/-!
# Inert files: nothing is declared in a generated file

A generated file holds texts from the input, which may have markers and parentheses in them, and
lines that begin with the result type of a declaration.  Still no statement begins on a line of it.

* `Marker.statement?_eq_none_of_head?`   a statement begins with the result type;
* `Marker.sites_intercalate_eq_nil`      in lines on which no statement begins nothing is found;
* `unbroken_of_mem_headerLines`          a header's lines are unbroken, as the generator's name is;
* `Planned.statement?_signature`         on a signature no statement begins;
* `generate_of_sites_eq_nil`             where nothing is found, the file is a header;
* `generate_generated`                   a file that is generated from a generated file is one.
-/

namespace CoroBridge

/-! ## lines without statements -/

namespace Marker
variable {m : Marker}

/-- a text that begins with another letter begins with no statement -/
theorem statement?_eq_none_of_head? {t : Text} (h : t.head? ≠ some 'i') :
    m.statement? t = none := by
  have hint : Text.after? statusType t = none := Text.after?_eq_none_of_head? h
  rw [statement?, hint]
  rfl

/-- nothing is found in lines on which no statement begins -/
theorem sitesFrom_intercalate_eq_nil {ls : List Text} (hline : ∀ l ∈ ls, l.Unbroken)
    (hnone : ∀ l ∈ ls, ∀ r, endsLine r = true → m.statement? (l ++ r) = none)
    (i : Nat) (left : Option Char) : m.sitesFrom i left 0 (List.intercalate ['\n'] ls) = [] := by
  induction ls generalizing i left with
  | nil => rfl
  | cons l ls ih =>
    rw [List.forall_mem_cons] at hline hnone
    cases ls with
    | nil =>
      rw [List.intercalate_singleton]
      cases l with
      | nil => rfl
      | cons c a =>
        have hc : m.statement? (c :: a) = none := by simpa using hnone.1 [] rfl
        have hmissed : ∀ s, ¬ (startsLine left (c :: a) = true ∧
            m.statement? (c :: a) = some s) := by
          rintro s ⟨_, hs⟩
          rw [hc] at hs
          cases hs
        have hquiet := sitesFrom_quiet m (i + 1) hline.1 []
        rw [List.append_nil] at hquiet
        rw [sitesFrom_missed hmissed, hquiet]
        rfl
    | cons k ls =>
      rw [List.intercalate_cons_cons, List.append_assoc, List.singleton_append,
        sitesFrom_line i left hline.1 (hnone.1 _ rfl)]
      exact ih hline.2 hnone.2 _ _

theorem sites_intercalate_eq_nil {ls : List Text} (hline : ∀ l ∈ ls, l.Unbroken)
    (hnone : ∀ l ∈ ls, ∀ r, endsLine r = true → m.statement? (l ++ r) = none) :
    m.sites (List.intercalate ['\n'] ls) = [] :=
  sitesFrom_intercalate_eq_nil hline hnone 0 none

/-- no statement begins on a line that begins with another letter -/
theorem statement?_line_eq_none {l : Text} (h : l.head? ≠ some 'i') (r : Text)
    (hr : endsLine r = true) : m.statement? (l ++ r) = none := by
  refine statement?_eq_none_of_head? fun hi => ?_
  cases l with
  | cons c a => exact h hi
  | nil =>
    obtain ⟨r', rfl⟩ := List.head?_eq_some_iff.1 hi
    cases hr

end Marker

/-! ## the lines of a file -/

/-- the lines of a text are made of its characters -/
theorem Text.flatten_lines_sublist (t : Text) : t.lines.flatten.Sublist t := by
  induction t using lines.induct with
  | case1 => exact List.Sublist.refl _
  | case2 r ih => exact ih.cons '\n'
  | case3 r ih => exact (ih.cons '\n').cons '\r'
  | case4 c r hc hcr ih =>
    have hhead : ¬ (c = '\r' ∧ r.head? = some '\n') := by
      rintro ⟨rfl, hr⟩
      obtain ⟨r', rfl⟩ := List.head?_eq_some_iff.1 hr
      exact hcr r' rfl rfl
    rw [lines_cons hc hhead, flatten_onto]
    exact ih.cons_cons c

theorem mem_of_mem_noticeOf {doc : Text} {c : Char} (h : c ∈ noticeOf doc) : c ∈ doc := by
  have hc := Text.mem_of_mem_trim h
  cases hlast : Text.fromLast? "Copyright" doc with
  | none =>
    rw [hlast] at hc
    exact hc
  | some s =>
    rw [hlast] at hc
    exact (Text.isSuffix_of_fromLast? hlast).mem hc

/-- a notice is shown with no carriage returns but those of the documentation text -/
theorem return_not_mem_comment {doc : Text} (h : '\r' ∉ doc) :
    ∀ l ∈ (noticeOf doc).lines.map commentLine, '\r' ∉ l := by
  refine List.forall_mem_map.2 fun l hl hc => ?_
  have hreturn : '\r' ∉ l := fun hr => h <| mem_of_mem_noticeOf <|
    (Text.flatten_lines_sublist _).mem (List.mem_flatten.2 ⟨l, hl, hr⟩)
  unfold commentLine at hc
  split at hc
  · exact absurd hc (by decide)
  · simp [hreturn] at hc

/-- the characters of a string, told from a list that it is made of -/
theorem not_mem_toList {s : String} {t : Text} {c : Char} (hs : s = String.ofList t) (h : c ∉ t) :
    c ∉ s.toList := by
  rwa [hs, String.toList_ofList]

theorem return_not_mem_toolDoc : '\r' ∉ toolDoc := by
  have hlines : ∀ l ∈ toolDocLines, '\r' ∉ l := by
    unfold toolDocLines
    repeat refine List.forall_mem_cons.2 ⟨not_mem_toList rfl (by decide), ?_⟩
    exact fun _ h => absurd h List.not_mem_nil
  intro h
  obtain ⟨l, hl, h⟩ := List.mem_flatMap.1 h
  rcases List.mem_append.1 h with h | h
  · exact hlines l hl h
  · exact absurd h (by decide)

theorem unbroken_of_mem_headerLines {generator : Text} (h : generator.Unbroken) :
    ∀ l ∈ headerLines generator, l.Unbroken := by
  have htitle : ∀ l ∈ headingLines generator, '\r' ∉ l := by simp [headingLines, h.2]
  have hclosing : ∀ l ∈ closingLines, '\r' ∉ l := by simp [closingLines, includeLines]
  have hreturn : ∀ l ∈ headerLines generator, '\r' ∉ l := List.forall_mem_append.2
    ⟨htitle, List.forall_mem_append.2
      ⟨return_not_mem_comment return_not_mem_toolDoc, hclosing⟩⟩
  exact fun l hl => ⟨feed_not_mem_headerLines h.1 l hl, hreturn l hl⟩

/-- a line of a file is a line of its header, an empty one, or a line of a block -/
theorem mem_fileLines {generator l : Text} {ps : List Plan} (h : l ∈ fileLines generator ps) :
    l ∈ headerLines generator ∨ l = [] ∨ ∃ p ∈ ps, l ∈ p.lines := by
  rcases List.mem_append.1 h with h | h
  · exact .inl h
  obtain ⟨p, hp, h⟩ := List.mem_flatMap.1 h
  simp only [List.mem_cons] at h
  rcases h with rfl | rfl | h
  · exact .inr (.inl rfl)
  · exact .inr (.inl rfl)
  · exact .inr (.inr ⟨p, hp, h⟩)

namespace Planned
variable {d : Decl} {p : Plan}

/-- after the result type of a bridge its name follows, and no marker -/
theorem statement?_signature (h : Planned d p) (m : Marker) (r : Text) :
    m.statement? (p.signature ++ r) = none := by
  obtain ⟨rest, hname, _⟩ := h.stem
  obtain ⟨u, hu⟩ : ∃ u, p.signature ++ r = statusType ++ ([' '] ++ 'b' :: u) := by
    refine ⟨"drv_" ++ (rest ++ ("(" ++ (Plan.commas p.fields ++ (")" ++ r)))), ?_⟩
    rw [Plan.signature, h.wrapper_eq, hname]
    simp only [List.append_assoc]
    rfl
  have hspace : ∀ c ∈ [' '], isBlank c = true := List.forall_mem_singleton.2 (by decide)
  have hdrop : ([' '] ++ 'b' :: u).dropWhile isBlank = 'b' :: u :=
    dropWhile_append_of_stopsAt hspace (stopsAt_cons (by decide) u)
  have hword : m.word.after? ('b' :: u) = none := by cases m <;> rfl
  rw [hu, Marker.statement?, Text.after?_append]
  simp only [Option.bind_eq_bind, Option.bind_some, hdrop, hword, Option.bind_none]

/-- no statement begins on a line of a block -/
theorem statement?_lines (h : Planned d p) (m : Marker) :
    ∀ l ∈ p.lines, ∀ r, endsLine r = true → m.statement? (l ++ r) = none := by
  rw [p.lines_eq]
  refine List.forall_mem_append.2 ⟨fun l hl => ?_, List.forall_mem_cons.2 ⟨fun r _ => ?_, ?_⟩⟩
  · exact Marker.statement?_line_eq_none (p.head?_of_mem_linesAbove l hl)
  · exact h.statement?_signature m r
  · exact fun l hl => Marker.statement?_line_eq_none (p.head?_of_mem_linesBelow l hl)

end Planned

/-- no statement begins on a line of a header -/
theorem statement?_headerLines (generator : Text) (m : Marker) :
    ∀ l ∈ headerLines generator, ∀ r, endsLine r = true → m.statement? (l ++ r) = none :=
  fun l hl => Marker.statement?_line_eq_none fun hi =>
    absurd (head?_of_mem_headerLines generator l hl _ hi) (by decide)

/-- nothing is found in a file -/
theorem sites_assemble_eq_nil {generator : Text} {ps : List Plan} (hgen : generator.Unbroken)
    (hplanned : ∀ p ∈ ps, Planned p.wrapper p) (hfound : ∀ p ∈ ps, p.wrapper.Found) (m : Marker) :
    m.sites (assemble generator (ps.map Plan.block)) = [] := by
  rw [assemble_eq]
  refine Marker.sites_intercalate_eq_nil (fun l hl => ?_) fun l hl => ?_
  · rcases mem_fileLines hl with hl | rfl | ⟨p, hp, hl⟩
    · exact unbroken_of_mem_headerLines hgen l hl
    · exact ⟨List.not_mem_nil, List.not_mem_nil⟩
    · exact Text.unbroken_of_oneLine ((hplanned p hp).oneLine_of_mem_lines (hfound p hp) l hl)
  · rcases mem_fileLines hl with hl | rfl | ⟨p, hp, hl⟩
    · exact statement?_headerLines generator m l hl
    · exact Marker.statement?_line_eq_none (by simp)
    · exact (hplanned p hp).statement?_lines m l hl

/-! ## runs -/

/-- of a text without sites comes a header, and nothing is logged -/
theorem generate_of_sites_eq_nil {t : Text} (h : ∀ m : Marker, m.sites t = []) (config : Config) :
    generate config t = ⟨[], .ok (header config.generator)⟩ := by
  have hknown : counterparts t = pure [] := by
    rw [counterparts, h]
    rfl
  simp only [generate, hknown, h, ite_self, List.mapM_nil, pure_bind, assemble_nil]
  rfl

/-- **Nothing is declared in a generated file.**  If the name of the generator does not break its
line, no bridge and no coroutine is declared in the file that comes of a text.  Of that file, taken
as a text, comes nothing but a header, and the run logs nothing. -/
theorem generate_generated {config : Config} {t out : Text} (hgen : config.generator.Unbroken)
    (h : (generate config t).outcome = .ok out) :
    (∀ m : Marker, m.decls out = []) ∧
    ∀ config' : Config, generate config' out = ⟨[], .ok (header config'.generator)⟩ := by
  obtain ⟨blocks, hblocks, rfl⟩ := outcome_generate_ok_iff.1 h
  obtain ⟨ps, hdecls, rfl, hplanned⟩ := plans_of_bridged hblocks
  have hfound : ∀ p ∈ ps, p.wrapper.Found := fun p hp =>
    Marker.found_of_mem_decls (t := t) (hdecls ▸ List.mem_map_of_mem hp)
  have hsites := sites_assemble_eq_nil hgen hplanned hfound
  exact ⟨fun m => by rw [Marker.decls, hsites m, List.map_nil], generate_of_sites_eq_nil hsites⟩

/-- the file of the open and the closed line has a marked declaration in the type of a parameter -/
theorem generate_generated_openLine :
    Text.Unbroken ({} : Config).generator ∧
    (generate {} (openLine ++ closedLine)).outcome
      = .ok (assemble "co-wrapper" [openPlan.block]) ∧
    (∀ m : Marker, m.decls (assemble "co-wrapper" [openPlan.block]) = []) ∧
    ∀ config' : Config, generate config' (assemble "co-wrapper" [openPlan.block])
      = ⟨[], .ok (header config'.generator)⟩ := by
  have hgen : Text.Unbroken ({} : Config).generator := ⟨by decide, by decide⟩
  exact ⟨hgen, outcome_generate_openLine, generate_generated hgen outcome_generate_openLine⟩

end CoroBridge
