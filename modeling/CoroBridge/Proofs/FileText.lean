import CoroBridge.Proofs.BlockText
import CoroBridge.Proofs.Outcome

/-!
# File texts: the lines of a generated file

* `noticeOf_ne_nil`            a documentation text that is not blank has a notice;
* `headerLines`, `fileLines`   the lines of a header, and of a header with blocks behind it;
* `header_eq`, `assemble_eq`   a header and a file are put together from them;
* `head?_of_mem_headerLines`   what the lines of a header begin with;
* `lines_assemble`             they are the lines that a reader of the file finds;
* `filterMap_splitOn_assemble`, `filterMap_splitOn_header`   what is read from the lines of a file one
                               by one, and from those of its header;
* `plans_of_bridged`           the declarations and the blocks of a run that succeeds, plan by plan;
* `outcome_generate_of_plans`  the file for a text that declares the bridges of a list of plans.
-/

namespace CoroBridge

/-! ## notices -/

theorem prefix_of_fromLast? {w t s : Text} (h : Text.fromLast? w t = some s) : w <+: s := by
  induction t with
  | nil =>
    rw [Text.fromLast?_nil] at h
    split at h
    · next hw => rw [hw]; exact List.nil_prefix
    · cases h
  | cons c r ih =>
    unfold Text.fromLast? at h
    split at h
    · next hs => cases h; exact ih hs
    · split at h
      · next hw => cases h; exact List.isPrefixOf_iff_prefix.1 hw
      · cases h

/-- a documentation text that is not blank has a notice -/
theorem noticeOf_ne_nil {doc : Text} {c : Char} (hc : c ∈ doc) (hb : isBlank c = false) :
    noticeOf doc ≠ [] := by
  unfold noticeOf
  cases h : Text.fromLast? "Copyright" doc with
  | none => exact Text.trim_ne_nil hc hb
  | some s =>
    have hC : 'C' ∈ ("Copyright" : Text) := List.mem_cons_self
    exact Text.trim_ne_nil ((prefix_of_fromLast? h).mem hC) (by decide)

/-- the lines of the licence as a header shows them -/
def licenceComment : List Text := (noticeOf toolDoc).lines.map commentLine

theorem licenceComment_ne_nil : licenceComment ≠ [] := by
  have hG : 'G' ∈ toolDoc := List.mem_cons_self
  unfold licenceComment
  rw [ne_eq, List.map_eq_nil_iff]
  exact Text.lines_ne_nil (noticeOf_ne_nil hG (by decide))

/-! ## headers -/

/-- the lines of a header above its licence -/
def headingLines (generator : Text) : List Text :=
  ["/*", " * File is generated by " ++ generator, " *"]

/-- the lines of a header below its licence -/
def closingLines : List Text := (" */" : Text) :: [] :: includeLines

/-- the lines that every generated file begins with -/
def headerLines (generator : Text) : List Text :=
  headingLines generator ++ (licenceComment ++ closingLines)

theorem intercalate_headingLines (generator : Text) :
    List.intercalate ['\n'] (headingLines generator) ++ ['\n']
      = "/*\n * File is generated by " ++ generator ++ "\n *\n" := by
  have hopen : ("/*\n * File is generated by " : Text)
      = "/*" ++ (['\n'] ++ " * File is generated by ") := rfl
  have hstar : ("\n *\n" : Text) = ['\n'] ++ (" *" ++ ['\n']) := rfl
  rw [headingLines, List.intercalate_cons_cons, List.intercalate_cons_cons,
    List.intercalate_singleton, hopen, hstar]
  simp only [List.append_assoc]

theorem intercalate_closingLines :
    ['\n'] ++ List.intercalate ['\n'] closingLines
      = "\n */\n\n" ++ List.intercalate ['\n'] includeLines := by
  have hclose : ("\n */\n\n" : Text) = ['\n'] ++ (" */" ++ (['\n'] ++ ['\n'])) := rfl
  have hincludes : includeLines ≠ [] := List.cons_ne_nil _ _
  rw [closingLines, List.intercalate_cons_cons, List.intercalate_cons_of_ne_nil hincludes,
    List.nil_append, hclose]
  simp only [List.append_assoc]

theorem header_eq (generator : Text) :
    header generator = List.intercalate ['\n'] (headerLines generator) := by
  have htitle : headingLines generator ≠ [] := List.cons_ne_nil _ _
  have hclosing : closingLines ≠ [] := List.cons_ne_nil _ _
  have hbelow : licenceComment ++ closingLines ≠ [] :=
    List.append_ne_nil_of_right_ne_nil _ hclosing
  rw [headerLines, intercalate_append _ htitle hbelow,
    intercalate_append _ licenceComment_ne_nil hclosing, intercalate_closingLines,
    ← List.append_assoc, intercalate_headingLines]
  unfold header
  rw [commentBlock, ← licenceComment]
  simp only [List.append_assoc]

theorem feed_not_mem_commentLine {l : Text} (h : '\n' ∉ l) : '\n' ∉ commentLine l := by
  unfold commentLine
  split
  · decide
  · simp [h]

theorem feed_not_mem_headerLines {generator : Text} (h : '\n' ∉ generator) :
    ∀ l ∈ headerLines generator, '\n' ∉ l := by
  have htitle : ∀ l ∈ headingLines generator, '\n' ∉ l := by simp [headingLines, h]
  have hlicence : ∀ l ∈ licenceComment, '\n' ∉ l := List.forall_mem_map.2 fun l hl =>
    feed_not_mem_commentLine (Text.feed_not_mem_of_mem_lines hl)
  have hclosing : ∀ l ∈ closingLines, '\n' ∉ l := by simp [closingLines, includeLines]
  rw [headerLines]
  exact List.forall_mem_append.2 ⟨htitle, List.forall_mem_append.2 ⟨hlicence, hclosing⟩⟩

theorem head?_commentLine (l : Text) : (commentLine l).head? = some ' ' := by
  unfold commentLine
  split <;> rfl

/-- the lines of a header are those of a comment and of includes -/
theorem head?_of_mem_headerLines (generator : Text) :
    ∀ l ∈ headerLines generator, ∀ c ∈ l.head?, c ∈ ['/', ' ', '#'] := by
  have htitle : ∀ l ∈ headingLines generator, ∀ c ∈ l.head?, c ∈ ['/', ' ', '#'] := by
    simp [headingLines]
  have hlicence : ∀ l ∈ licenceComment, ∀ c ∈ l.head?, c ∈ ['/', ' ', '#'] :=
    List.forall_mem_map.2 fun l _ => by simp [head?_commentLine]
  have hclosing : ∀ l ∈ closingLines, ∀ c ∈ l.head?, c ∈ ['/', ' ', '#'] := by
    simp [closingLines, includeLines]
  exact List.forall_mem_append.2 ⟨htitle, List.forall_mem_append.2 ⟨hlicence, hclosing⟩⟩

/-! ## files -/

/-- the lines of a header with two empty lines and a block behind it, for each plan -/
def fileLines (generator : Text) (ps : List Plan) : List Text :=
  headerLines generator ++ ps.flatMap fun p => [] :: [] :: p.lines

theorem assemble_eq (generator : Text) (ps : List Plan) :
    assemble generator (ps.map Plan.block) = List.intercalate ['\n'] (fileLines generator ps) := by
  have hheader : headerLines generator ≠ [] :=
    List.append_ne_nil_of_left_ne_nil (List.cons_ne_nil _ _) _
  have hlines : ∀ p : Plan, p.lines ≠ [] := fun p =>
    List.ne_nil_of_length_pos (by rw [p.length_lines]; omega)
  have hblock : ∀ p : Plan, ['\n'] ++ List.intercalate ['\n'] ([] :: [] :: p.lines)
      = ['\n', '\n', '\n'] ++ p.block := by
    intro p
    rw [List.intercalate_cons_cons, List.intercalate_cons_of_ne_nil (hlines p), Plan.block]
    rfl
  rw [fileLines, intercalate_append_flatMap _ hheader _ _ fun p _ => List.cons_ne_nil _ _,
    ← header_eq, assemble, List.flatMap_map]
  simp only [hblock]

theorem getLast?_lines (p : Plan) : p.lines.getLast? = some "\x7d" := by
  unfold Plan.lines Plan.bridgeLines
  rw [List.getLast?_append, List.getLast?_append]
  rfl

/-- what is read from the lines of a file is read from its header, then from its blocks -/
theorem filterMap_splitOn_assemble {α : Type} {f : Text → Option α} (hf : f [] = none)
    (generator : Text) (blocks : List Text) :
    ((assemble generator blocks).splitOn '\n').filterMap f
      = ((header generator).splitOn '\n').filterMap f
        ++ blocks.flatMap fun b => (b.splitOn '\n').filterMap f := by
  have hfeed : ∀ a b : Text, ((a ++ '\n' :: b).splitOn '\n').filterMap f
      = (a.splitOn '\n').filterMap f ++ (b.splitOn '\n').filterMap f := fun a b => by
    rw [List.splitOn_append_cons_self, List.filterMap_append]
  have hnil : (([] : Text).splitOn '\n').filterMap f = [] := by
    rw [List.splitOn_nil, List.filterMap_cons_none hf, List.filterMap_nil]
  have hblocks : ∀ a : Text,
      ((a ++ blocks.flatMap (['\n', '\n', '\n'] ++ ·)).splitOn '\n').filterMap f
        = (a.splitOn '\n').filterMap f
          ++ blocks.flatMap fun b => (b.splitOn '\n').filterMap f := by
    induction blocks with
    | nil => intro a; rw [List.flatMap_nil, List.flatMap_nil, List.append_nil, List.append_nil]
    | cons b bs ih =>
      intro a
      have hfeeds : a ++ (b :: bs).flatMap (['\n', '\n', '\n'] ++ ·)
          = a ++ '\n' :: ([] ++ '\n' :: ([] ++ '\n' ::
            (b ++ bs.flatMap (['\n', '\n', '\n'] ++ ·)))) := rfl
      rw [hfeeds, hfeed, hfeed, hfeed, hnil, ih, List.nil_append, List.nil_append,
        List.flatMap_cons]
  exact hblocks (header generator)

/-- nothing is read from a header by a reader of lines that begin otherwise -/
theorem filterMap_splitOn_header {α : Type} {f : Text → Option α} {generator : Text}
    (hgen : '\n' ∉ generator) (hf : ∀ l, (∀ c ∈ l.head?, c ∈ ['/', ' ', '#']) → f l = none) :
    ((header generator).splitOn '\n').filterMap f = [] := by
  have hne : headerLines generator ≠ [] :=
    List.append_ne_nil_of_left_ne_nil (List.cons_ne_nil _ _) _
  rw [header_eq, List.splitOn_intercalate '\n' (feed_not_mem_headerLines hgen) hne,
    List.filterMap_eq_nil_iff]
  exact fun l hl => hf l (head?_of_mem_headerLines generator l hl)

/-- the last line of a file is the last include or the closing brace of a bridge -/
theorem getLast?_fileLines (generator : Text) (ps : List Plan) :
    ∃ z, (fileLines generator ps).getLast? = some z ∧ z ≠ [] ∧ Text.chomp z = z ∧
      z.getLast? ≠ some '\n' := by
  rcases List.eq_nil_or_concat' ps with rfl | ⟨qs, q, rfl⟩
  · refine ⟨"#include \"block/block-gen.h\"", ?_, by simp, rfl, by decide⟩
    rw [fileLines, List.flatMap_nil, List.append_nil, headerLines, List.getLast?_append,
      List.getLast?_append]
    rfl
  · refine ⟨"\x7d", ?_, by simp, rfl, by decide⟩
    have hcat : [] :: [] :: q.lines = [[], []] ++ q.lines := rfl
    rw [fileLines, List.flatMap_append, List.flatMap_singleton, ← List.append_assoc,
      List.getLast?_append, hcat, List.getLast?_append, getLast?_lines]
    rfl

/-- a file ends in the middle of a line -/
theorem getLast?_assemble (generator : Text) (ps : List Plan) :
    (assemble generator (ps.map Plan.block)).getLast? ≠ some '\n' := by
  obtain ⟨z, hlast, hne, _, hfeed⟩ := getLast?_fileLines generator ps
  rw [assemble_eq, getLast?_intercalate _ hlast hne]
  exact hfeed

/-- the lines of a file as a reader finds them -/
theorem lines_assemble {generator : Text} {ps : List Plan} (hgen : '\n' ∉ generator)
    (hps : ∀ p ∈ ps, ∀ l ∈ p.lines, '\n' ∉ l) :
    (assemble generator (ps.map Plan.block)).lines
      = (fileLines generator ps).map Text.chomp := by
  have hfeed : ∀ l ∈ fileLines generator ps, '\n' ∉ l := by
    refine List.forall_mem_append.2 ⟨feed_not_mem_headerLines hgen, fun l hl => ?_⟩
    obtain ⟨p, hp, hl⟩ := List.mem_flatMap.1 hl
    rcases List.mem_cons.1 hl with rfl | hl
    · exact List.not_mem_nil
    rcases List.mem_cons.1 hl with rfl | hl
    · exact List.not_mem_nil
    · exact hps p hp l hl
  obtain ⟨z, hlast, hne, hz, _⟩ := getLast?_fileLines generator ps
  rw [assemble_eq, Text.lines_intercalate hfeed hlast hne hz]

/-- the declarations and the blocks of a run that succeeds are those of a list of plans -/
theorem plans_of_bridged {config : Config} {t : Text} {xs : List (Except Fault Decl)}
    {blocks : List Text} (h : List.Forall₂ (Bridged config t) xs blocks) :
    ∃ ps : List Plan, xs = ps.map (fun p => .ok p.wrapper) ∧ blocks = ps.map Plan.block ∧
      ∀ p ∈ ps, Planned p.wrapper p := by
  induction h with
  | nil => exact ⟨[], rfl, rfl, fun _ hp => absurd hp List.not_mem_nil⟩
  | cons hb _ ih =>
    obtain ⟨ps, rfl, rfl, hps⟩ := ih
    cases hb with
    | @intro d p r b hplan hblock _ _ =>
      have hp := Decl.plan_eq_ok_iff.1 hplan
      obtain rfl := hp.wrapper_eq
      rw [Decl.block_eq_of_plan hplan] at hblock
      cases hblock
      refine ⟨p :: ps, rfl, rfl, fun q hq => ?_⟩
      rcases List.mem_cons.1 hq with rfl | hq
      · exact hp
      · exact hps q hq

theorem getLast?_of_generate {config : Config} {t out : Text}
    (h : (generate config t).outcome = .ok out) : out.getLast? ≠ some '\n' := by
  obtain ⟨blocks, hblocks, rfl⟩ := outcome_generate_ok_iff.1 h
  obtain ⟨ps, _, rfl, _⟩ := plans_of_bridged hblocks
  exact getLast?_assemble config.generator ps

/-- the file for a text that declares the bridges of a list of plans, and no coroutine that can be
read -/
theorem outcome_generate_of_plans {config : Config} {t : Text} (ps : List Plan)
    (hdecls : Marker.wrapper.decls t = ps.map fun p => .ok p.wrapper)
    (hplan : ∀ p ∈ ps, p.wrapper.plan = .ok p)
    (hnone : ∀ d, .ok d ∉ Marker.coroutine.decls t) :
    (generate config t).outcome = .ok (assemble config.generator (ps.map Plan.block)) := by
  refine outcome_generate_ok_iff.2 ⟨ps.map Plan.block, ?_, rfl⟩
  rw [hdecls, List.forall₂_map_left_iff, List.forall₂_map_right_iff, List.forall₂_same]
  intro p hp
  obtain ⟨r, hname, _⟩ := (Decl.plan_eq_ok_iff.1 (hplan p hp)).stem
  exact .intro (hplan p hp) (Decl.block_eq_of_plan (hplan p hp)) hname fun _ c hc =>
    absurd hc (not_firstKnown hnone _ c)

end CoroBridge
