import CoroBridge.Proofs.Redeclare

/-!
# File ends: the line feeds at the end of a file

A generated text ends in the middle of a line.  What a formatter makes of it may end with any number
of line feeds, and the file gets one only if there is none.

* `Text.FeedsAtEnd`           how many line feeds a text ends with;
* `Text.exists_feedsAtEnd`, `Text.FeedsAtEnd.unique`   every text ends with one number of them;
* `Text.FeedsAtEnd.endLine`   a line feed is added to a text without one, and none is taken away;
* `outcome_generateFile_ok_iff`   the file of a text, step by step;
* `Formatter.behind`          the formatter that puts something behind the code;
* `feedsAtEnd_file`           a file ends with one line feed if and only if the text that the
                              formatter made ends with one at most.
-/

namespace CoroBridge

/-! ## line feeds at the end of a text -/

namespace Text
variable {n k : Nat} {t : Text}

/-- the text ends with `n` line feeds, and with no more -/
def FeedsAtEnd (n : Nat) (t : Text) : Prop :=
  ∃ body : Text, t = body ++ List.replicate n '\n' ∧ body.getLast? ≠ some '\n'

theorem feedsAtEnd_zero_iff : FeedsAtEnd 0 t ↔ t.getLast? ≠ some '\n' := by
  constructor
  · rintro ⟨body, rfl, hbody⟩
    rwa [List.replicate_zero, List.append_nil]
  · exact fun h => ⟨t, (List.append_nil t).symm, h⟩

theorem FeedsAtEnd.concat (h : FeedsAtEnd n t) : FeedsAtEnd (n + 1) (t ++ ['\n']) := by
  obtain ⟨body, rfl, hbody⟩ := h
  exact ⟨body, by rw [List.replicate_succ', List.append_assoc], hbody⟩

theorem getLast?_append_feeds (body : Text) (n : Nat) :
    (body ++ List.replicate (n + 1) '\n').getLast? = some '\n' := by
  rw [List.replicate_succ', ← List.append_assoc, List.getLast?_concat]

theorem FeedsAtEnd.getLast?_eq_iff (h : FeedsAtEnd n t) : t.getLast? = some '\n' ↔ n ≠ 0 := by
  obtain ⟨body, rfl, hbody⟩ := h
  cases n with
  | zero =>
    rw [List.replicate_zero, List.append_nil]
    exact iff_of_false hbody fun h => h rfl
  | succ n => exact iff_of_true (getLast?_append_feeds body n) (Nat.succ_ne_zero n)

/-- every text ends with some number of line feeds -/
theorem exists_feedsAtEnd (t : Text) : ∃ n, FeedsAtEnd n t := by
  induction t using List.reverseRecOn with
  | nil => exact ⟨0, feedsAtEnd_zero_iff.2 (by decide)⟩
  | append_singleton t c ih =>
    by_cases hc : c = '\n'
    · obtain ⟨n, hn⟩ := ih
      exact ⟨n + 1, hc ▸ hn.concat⟩
    · refine ⟨0, feedsAtEnd_zero_iff.2 fun h => hc ?_⟩
      rw [List.getLast?_concat] at h
      exact Option.some.inj h

/-- a text ends with one number of line feeds only -/
theorem FeedsAtEnd.unique (h : FeedsAtEnd n t) (h' : FeedsAtEnd k t) : n = k := by
  obtain ⟨a, rfl, ha⟩ := h
  obtain ⟨b, hb, hblast⟩ := h'
  induction n generalizing k with
  | zero =>
    cases k with
    | zero => rfl
    | succ k =>
      rw [List.replicate_zero, List.append_nil] at hb
      exact absurd (hb ▸ getLast?_append_feeds b k) ha
  | succ n ih =>
    cases k with
    | zero =>
      rw [List.replicate_zero, List.append_nil] at hb
      exact absurd (hb ▸ getLast?_append_feeds a n) hblast
    | succ k =>
      rw [List.replicate_succ', List.replicate_succ', ← List.append_assoc, ← List.append_assoc] at hb
      rw [ih (List.append_cancel_right hb)]

theorem FeedsAtEnd.endLine_eq (h : FeedsAtEnd n t) :
    endLine t = if n = 0 then t ++ ['\n'] else t := by
  unfold endLine
  by_cases hn : n = 0
  · rw [if_pos hn, if_neg fun hlast => h.getLast?_eq_iff.1 hlast hn]
  · rw [if_neg hn, if_pos (h.getLast?_eq_iff.2 hn)]

/-- a line feed is added to a text that ends with none, and none is taken away -/
theorem FeedsAtEnd.endLine (h : FeedsAtEnd n t) : FeedsAtEnd (max 1 n) (endLine t) := by
  rw [h.endLine_eq]
  cases n with
  | zero => exact h.concat
  | succ n =>
    rw [if_neg (Nat.succ_ne_zero n), Nat.max_eq_right (Nat.le_add_left 1 n)]
    exact h

end Text

/-! ## files -/

/-- the file of a text: the generated code, what the formatter makes of it, and a line feed at its
end if there is none -/
theorem outcome_generateFile_ok_iff {config : Config} {formatter : Formatter} {t file : Text} :
    (generateFile config formatter t).outcome = .ok file
      ↔ ∃ code made, (generate config t).outcome = .ok code ∧
        (formatter code).outcome = .ok made ∧ file = endLine made := by
  unfold generateFile
  simp only [Run.outcome_bind, bind_eq_ok_iff, Run.outcome_pure, Except.ok.injEq, @eq_comm _ file]
  constructor
  · rintro ⟨code, hcode, made, hmade, hfile⟩
    exact ⟨code, made, hcode, hmade, hfile⟩
  · rintro ⟨code, made, hcode, hmade, hfile⟩
    exact ⟨code, hcode, made, hmade, hfile⟩

/-- the formatter that puts something behind the code -/
def Formatter.behind (t : Text) : Formatter := fun code => pure (code ++ t)

/-- **A file ends with one line feed if and only if the text that the formatter made ends with one at
most.**  If the formatter changes nothing, this is so, as generated code ends with none.  Otherwise
the file keeps as many line feeds at its end as the formatter put there. -/
theorem feedsAtEnd_file {config : Config} {formatter : Formatter} {t file : Text}
    (h : (generateFile config formatter t).outcome = .ok file) :
    ∃ code made n, (generate config t).outcome = .ok code ∧ (formatter code).outcome = .ok made ∧
      Text.FeedsAtEnd 0 code ∧ Text.FeedsAtEnd n made ∧
      (file = if n = 0 then made ++ ['\n'] else made) ∧ Text.FeedsAtEnd (max 1 n) file ∧
      (Text.FeedsAtEnd 1 file ↔ n ≤ 1) ∧ (made = code → Text.FeedsAtEnd 1 file) := by
  obtain ⟨code, made, hcode, hmade, rfl⟩ := outcome_generateFile_ok_iff.1 h
  obtain ⟨n, hn⟩ := Text.exists_feedsAtEnd made
  have hnone : Text.FeedsAtEnd 0 code := Text.feedsAtEnd_zero_iff.2 (getLast?_of_generate hcode)
  have hfile := hn.endLine
  have hone : Text.FeedsAtEnd 1 (endLine made) ↔ n ≤ 1 := by
    constructor
    · intro h1
      have hmax := hfile.unique h1
      omega
    · intro hle
      rwa [Nat.max_eq_left hle] at hfile
  refine ⟨code, made, n, hcode, hmade, hnone, hn, hn.endLine_eq, hfile, hone, ?_⟩
  rintro rfl
  exact hone.2 (hn.unique hnone ▸ Nat.zero_le 1)

/-- a text that declares one bridge, which takes no more than its handle -/
def flushText : Text := "int generated_co_wrapper bdrv_flush(BlockDriverState *bs);"

/-- the code for it -/
def flushCode : Text := assemble "co-wrapper" [flushPlan.block]

theorem outcome_generate_flushText : (generate {} flushText).outcome = .ok flushCode := by
  have hdecls : Marker.wrapper.decls flushText = [.ok flushPlan.wrapper] := by decide +kernel
  have hnone : Marker.coroutine.sites flushText = [] := by decide +kernel
  have hplan : flushPlan.wrapper.plan = .ok flushPlan := by decide +kernel
  exact outcome_generate_of_plans [flushPlan] hdecls (List.forall_mem_singleton.2 hplan)
    (ok_not_mem_decls hnone)

theorem feedsAtEnd_flushCode : Text.FeedsAtEnd 0 flushCode :=
  Text.feedsAtEnd_zero_iff.2 (getLast?_of_generate outcome_generate_flushText)

/-- line feeds that a formatter puts behind the code stay at the end of the file -/
theorem outcome_generateFile_behind (feeds : Text) (h : feeds.getLast? = some '\n') :
    (generateFile {} (Formatter.behind feeds) flushText).outcome = .ok (flushCode ++ feeds) := by
  refine outcome_generateFile_ok_iff.2 ⟨_, _, outcome_generate_flushText, rfl, (if_pos ?_).symm⟩
  rw [List.getLast?_append, h, Option.some_or]

/-- with a line feed behind the code nothing is added to the file -/
theorem feedsAtEnd_file_flushCode :
    (generateFile {} (Formatter.behind ['\n']) flushText).outcome = .ok (flushCode ++ ['\n']) ∧
    Text.FeedsAtEnd 1 (flushCode ++ ['\n']) := by
  have hfile := outcome_generateFile_behind ['\n'] rfl
  obtain ⟨code, made, n, hcode, hmade, _, hn, _, _, hone, _⟩ := feedsAtEnd_file hfile
  rw [outcome_generate_flushText] at hcode
  cases hcode
  cases hmade
  exact ⟨hfile, hone.2 (Nat.le_of_eq (hn.unique feedsAtEnd_flushCode.concat))⟩

/-- with an empty line behind the code the file ends with two line feeds -/
theorem two_feeds_at_end_of_flushCode :
    (generateFile {} (Formatter.behind ['\n', '\n']) flushText).outcome
      = .ok (flushCode ++ ['\n', '\n']) ∧
    Text.FeedsAtEnd 2 (flushCode ++ ['\n', '\n']) ∧
    ¬ ∀ (config : Config) (formatter : Formatter) (t file : Text),
      (generateFile config formatter t).outcome = .ok file → Text.FeedsAtEnd 1 file := by
  have hfile := outcome_generateFile_behind ['\n', '\n'] rfl
  have htwo : Text.FeedsAtEnd 2 (flushCode ++ ['\n', '\n']) := by
    have h := feedsAtEnd_flushCode.concat.concat
    rwa [List.append_assoc] at h
  refine ⟨hfile, htwo, fun hone => ?_⟩
  have h := (hone _ _ _ _ hfile).unique htwo
  cases h

end CoroBridge
