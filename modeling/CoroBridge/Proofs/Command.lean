import CoroBridge.Cli
import CoroBridge.Proofs.Encoding
import CoroBridge.Proofs.Log
import CoroBridge.Proofs.Redeclare

/-!
# The command: a whole file or a report

The replies to an input where no code formatter is found, with a log that shows nothing but warnings.

* `Cli.indented`, `Cli.unindented`   the lines of a text moved to the right, and back;
* `Cli.unindented_indented`, `Cli.splitOn_indented`   no line is lost on the way;
* `warnings`                         the warnings about a text, one for each coroutine that cannot be
                                     read;
* `filter_log_generate`              no other warning is logged;
* `Host.formatter_usualProgram`      a host without the code formatter leaves the code as it is;
* `Cli.run_input`                    an input is replied to with the whole file, or with the report
                                     of what was being done and why it failed; the warnings come
                                     first.
-/

namespace CoroBridge

/-! ## reports -/

namespace Cli

/-- what stands in front of every line of a cause -/
def margin : Text := "    "

/-- a text with the margin in front of each of its lines -/
def indented (t : Text) : Text := List.intercalate ['\n'] ((t.splitOn '\n').map (margin ++ ·))

/-- a text without the first four characters of each of its lines -/
def unindented (t : Text) : Text := List.intercalate ['\n'] ((t.splitOn '\n').map (List.drop 4))

theorem report_eq (doing cause : Text) :
    report doing cause = "Error: " ++ doing ++ "\n\nCaused by:\n" ++ indented cause ++ "\n" := rfl

theorem splitOn_indented (t : Text) :
    (indented t).splitOn '\n' = (t.splitOn '\n').map (margin ++ ·) := by
  have hline : ∀ l ∈ (t.splitOn '\n').map (margin ++ ·), '\n' ∉ l := by
    refine List.forall_mem_map.2 fun l hl hmem => ?_
    rcases List.mem_append.1 hmem with hspace | hfeed
    · exact absurd hspace (by decide)
    · exact (mem_splitOn hl).1 hfeed
  exact List.splitOn_intercalate '\n' hline (by simp [List.splitOn_ne_nil])

/-- no line is lost when a text is moved to the right -/
theorem unindented_indented (t : Text) : unindented (indented t) = t := by
  have hdrop : List.drop 4 ∘ (margin ++ ·) = id := funext fun l => rfl
  rw [unindented, splitOn_indented, List.map_map, hdrop, List.map_id, List.intercalate_splitOn]

end Cli

/-! ## warnings -/

/-- the warning about the site of a coroutine, if the declaration cannot be read -/
def Site.warning? (s : Site) : Option (Level × Text) :=
  match s.decl with
  | .ok _ => none
  | .error fault => some (.warn, "not cross-checking against coroutine: " ++ fault.message)

/-- the warnings about the coroutines of a text -/
def warnings (t : Text) : List (Level × Text) :=
  (Marker.coroutine.sites t).filterMap Site.warning?

theorem warnings_eq_nil_iff {t : Text} :
    warnings t = [] ↔ ∀ s ∈ Marker.coroutine.sites t, ∃ d, s.decl = .ok d := by
  rw [warnings, List.filterMap_eq_nil_iff]
  refine forall₂_congr fun s _ => ?_
  unfold Site.warning?
  cases s.decl <;> simp

theorem Site.filter_counterpartLog (s : Site) :
    s.counterpartLog.filter (·.1 = .warn) = s.warning?.toList := by
  unfold counterpartLog warning? foundEntry
  cases s.decl <;> rfl

theorem Site.filter_bridgeLog (s : Site) : s.bridgeLog.filter (·.1 = .warn) = [] := by
  unfold bridgeLog foundEntry
  cases s.decl >>= Decl.plan <;> rfl

/-- the warnings of a run are those about the coroutines, however it ends -/
theorem filter_log_generate (t : Text) :
    (Run.log (generate {} t)).filter (·.1 = .warn) = warnings t := by
  have hbridges : (Run.log ((Marker.wrapper.sites t).mapM (bridge (Config.known {} t)))).filter
      (·.1 = .warn) = [] := by
    refine List.filter_eq_nil_iff.2 fun e he hwarn => ?_
    obtain ⟨s, _, he⟩ := Run.mem_log_mapM he
    rw [log_bridge] at he
    exact List.not_mem_nil (s.filter_bridgeLog ▸ List.mem_filter.2 ⟨he, hwarn⟩)
  have hcheck : Config.counterpartLog {} t
      = (Marker.coroutine.sites t).flatMap Site.counterpartLog := rfl
  rw [log_generate_eq, List.filter_append, hbridges, List.append_nil, hcheck, List.filter_flatMap,
    warnings, List.filterMap_eq_flatMap_toList]
  simp only [Site.filter_counterpartLog]

theorem Cli.Logger.write_filter {logger : Logger} (h : ∀ v, logger.shows v = true → v = .warn)
    (log : List (Level × Text)) : logger.write (log.filter (·.1 = .warn)) = logger.write log := by
  have hshows : ∀ e : Level × Text,
      (logger.shows e.1 && decide (e.1 = .warn)) = logger.shows e.1 := by
    intro e
    cases hv : logger.shows e.1 with
    | false => rfl
    | true => simp [h _ hv]
  unfold write
  rw [List.filter_filter]
  simp only [hshows]

/-! ## without a code formatter -/

theorem Host.find?_usualProgram {host : Host} (h : host.commands.lookup usualProgram = none) :
    host.find? usualProgram = .error .notFound := by
  have hzero : '\x00' ∉ usualProgram := by decide
  have hname : usualProgram ≠ [] := by decide
  have hpath : ¬ ('/' ∈ usualProgram ∨ usualProgram = ['.'] ∨ usualProgram = ['.', '.']) := by
    decide
  have hlength : ¬ longestName < (Utf8.encode usualProgram).length := by decide
  rw [find?, if_neg hzero, if_neg hname, if_neg hpath, if_neg hlength, h]

theorem Host.formatter_usualProgram {host : Host} (h : host.commands.lookup usualProgram = none)
    (code : Text) : host.formatter usualProgram code = ⟨[.unformatted usualProgram], .ok code⟩ := by
  have hlaunch : ∀ args input, host.launch usualProgram args input = .failed .notFound := by
    intro args input
    rw [launch, find?_usualProgram h]
  rw [formatter, Formatter.ofLaunch, hlaunch]
  rfl

theorem endLine_of_generate {config : Config} {t out : Text}
    (h : (generate config t).outcome = .ok out) : endLine out = out ++ ['\n'] :=
  if_neg (getLast?_of_generate h)

section
variable {formatter : Formatter} {event : Event} {t : Text}

/-- the file after a formatter that says something, but changes nothing -/
theorem outcome_generateFile (h : ∀ code, formatter code = ⟨[event], .ok code⟩) (t : Text) :
    (generateFile {} formatter t).outcome = (generate {} t).outcome.map endLine := by
  rw [generateFile]
  cases hcode : (generate {} t).outcome with
  | error fault => rw [Run.bind_of_error hcode]; rfl
  | ok code => rw [Run.bind_of_ok hcode, h]; rfl

theorem log_generateFile (h : ∀ code, formatter code = ⟨[event], .ok code⟩)
    (hlevel : event.level ≠ .warn) (t : Text) :
    (Run.log (generateFile {} formatter t)).filter (·.1 = .warn) = warnings t := by
  rw [← filter_log_generate, generateFile]
  cases hcode : (generate {} t).outcome with
  | error fault => rw [Run.log_bind_of_error hcode]
  | ok code =>
    have hlog : Run.log (formatter code >>= fun made => pure (endLine made)) = [event.entry] := by
      rw [h]
      rfl
    have hentry : [event.entry].filter (·.1 = .warn) = [] := by simp [Event.entry, hlevel]
    rw [Run.log_bind_of_ok hcode, hlog, List.filter_append, hentry, List.append_nil]

end

/-! ## replies -/

namespace Cli
variable {host : Host} {logger : Logger} {read : ArgumentReader}

/-- the reply to bytes that are no text -/
theorem run_of_not_encoded (hread : read [] = none) {input : Bytes}
    (h : ∀ t, input ≠ Utf8.encode t) :
    run host [] input logger read
      = ⟨1, [], report "Failed to read declarations from stdin"
          "stream did not contain valid UTF-8"⟩ := by
  unfold run generateReply
  rw [hread]
  cases hinput : Utf8.decode input with
  | ok t => exact absurd (Utf8.decode_eq_ok_iff.1 hinput) (h t)
  | error fault => rfl

section
variable (hread : read [] = none) (hlogger : ∀ v, logger.shows v = true → v = .warn)
  (hhost : host.commands.lookup usualProgram = none) {t : Text}
include hread hlogger hhost

theorem run_encode :
    run host [] (Utf8.encode t) logger read
      = match (generate {} t).outcome with
        | .ok out => ⟨0, out ++ ['\n'], logger.write (warnings t)⟩
        | .error fault =>
          ⟨1, [], logger.write (warnings t)
            ++ report "Failed to generate coroutine wrappers" fault.message⟩ := by
  have hdecode : Utf8.decode (Utf8.encode t) = .ok t := Utf8.decode_eq_ok_iff.2 rfl
  have hformatter := Host.formatter_usualProgram hhost
  have hwrite := Logger.write_filter hlogger (Run.log (generateFile {} (host.formatter usualProgram) t))
  rw [log_generateFile hformatter (by decide)] at hwrite
  unfold run generateReply
  rw [hread, hdecode]
  simp only [outcome_generateFile hformatter, ← hwrite]
  cases hout : (generate {} t).outcome with
  | ok out => simp only [Except.map, endLine_of_generate hout]
  | error fault => rfl

/-- the reply to a text for which there is a file -/
theorem run_encode_of_ok {out : Text} (h : (generate {} t).outcome = .ok out) :
    run host [] (Utf8.encode t) logger read = ⟨0, out ++ ['\n'], logger.write (warnings t)⟩ := by
  rw [run_encode hread hlogger hhost, h]

/-- the reply to a text for which there is none -/
theorem run_encode_of_error {fault : CoroBridge.Fault} (h : (generate {} t).outcome = .error fault) :
    run host [] (Utf8.encode t) logger read
      = ⟨1, [], logger.write (warnings t)
          ++ report "Failed to generate coroutine wrappers" fault.message⟩ := by
  rw [run_encode hread hlogger hhost, h]

end

/-- **An input is replied to with the whole file, or with nothing but a report.**  The report says
whether the input could not be read or not be bridged, and has the cause in it, line by line.  Where
the log shows warnings, those about the coroutines that cannot be read come first; without such
coroutines nothing is written beside the file. -/
theorem run_input (hread : read [] = none) (hlogger : ∀ v, logger.shows v = true → v = .warn)
    (hhost : host.commands.lookup usualProgram = none) (input : Bytes) :
    (∀ t out, input = Utf8.encode t → (generate {} t).outcome = .ok out →
      run host [] input logger read = ⟨0, out ++ ['\n'], logger.write (warnings t)⟩) ∧
    ((¬ ∃ t out, input = Utf8.encode t ∧ (generate {} t).outcome = .ok out) →
      ∃ shown doing cause body : Text,
        run host [] input logger read
          = ⟨1, [], shown ++ "Error: " ++ doing ++ "\n\nCaused by:\n" ++ body ++ "\n"⟩ ∧
        body.splitOn '\n' = (cause.splitOn '\n').map (margin ++ ·) ∧
        unindented body = cause ∧
        (doing = "Failed to read declarations from stdin" ↔ ∀ t, input ≠ Utf8.encode t) ∧
        ((∀ t, input ≠ Utf8.encode t) →
          shown = [] ∧ cause = "stream did not contain valid UTF-8") ∧
        ∀ t, input = Utf8.encode t →
          shown = logger.write (warnings t) ∧ doing = "Failed to generate coroutine wrappers" ∧
          ∃ fault, (generate {} t).outcome = .error fault ∧ cause = fault.message) ∧
    ∀ t, (∀ s ∈ Marker.coroutine.sites t, ∃ d, s.decl = .ok d) → logger.write (warnings t) = [] := by
  refine ⟨?_, fun hnone => ?_, fun t ht => ?_⟩
  · rintro t out rfl hout
    exact run_encode_of_ok hread hlogger hhost hout
  · by_cases htext : ∃ t, input = Utf8.encode t
    · obtain ⟨t, rfl⟩ := htext
      obtain ⟨fault, hfault⟩ : ∃ fault, (generate {} t).outcome = .error fault := by
        cases hout : (generate {} t).outcome with
        | ok out => exact absurd ⟨t, out, rfl, hout⟩ hnone
        | error fault => exact ⟨fault, rfl⟩
      refine ⟨logger.write (warnings t), "Failed to generate coroutine wrappers", fault.message,
        indented fault.message, ?_, splitOn_indented _, unindented_indented _, ?_, ?_, ?_⟩
      · rw [run_encode_of_error hread hlogger hhost hfault, report_eq]
        simp only [List.append_assoc]
      · exact ⟨fun hdoing => absurd hdoing (by decide), fun hall => absurd rfl (hall t)⟩
      · exact fun hall => absurd rfl (hall t)
      · intro u hu
        obtain rfl := Utf8.encode_inj.1 hu
        exact ⟨rfl, rfl, fault, hfault, rfl⟩
    · have hall : ∀ t, input ≠ Utf8.encode t := not_exists.1 htext
      refine ⟨[], "Failed to read declarations from stdin", _,
        indented "stream did not contain valid UTF-8", run_of_not_encoded hread hall,
        splitOn_indented _, unindented_indented _, ?_, ?_, ?_⟩
      · exact ⟨fun _ => hall, fun _ => rfl⟩
      · exact fun _ => ⟨rfl, rfl⟩
      · exact fun t ht => absurd ht (hall t)
  · rw [warnings_eq_nil_iff.2 ht]
    rfl

/-- a line of a log that was written at noon -/
def noonLine (_ : Nat) (entry : Level × Text) : Text :=
  "[2020-06-01T12:00:00Z WARN  co_wrapper_codegen] " ++ entry.2 ++ "\n"

/-- a text that declares a coroutine with a parameter that has no name -/
def unnamedText : Text := "int coroutine_fn bdrv_co_flush(BlockDriverState *);\n"

/-- the same, and a bridge with a parameter that is none, on three lines -/
def brokenText : Text :=
  unnamedText ++ "int generated_co_wrapper bdrv_flush(BlockDriverState *bs, int\n\n8);"

/-- the warning about the coroutine -/
def unnamedWarning : Level × Text :=
  (.warn, "not cross-checking against coroutine: malformed declaration of `bdrv_co_flush`: "
    ++ "wrong parameter declaration \"BlockDriverState *\"")

theorem warnings_unnamedText : warnings unnamedText = [unnamedWarning] := by decide +kernel

theorem warnings_brokenText : warnings brokenText = [unnamedWarning] := by decide +kernel

theorem outcome_generate_unnamedText :
    (generate {} unnamedText).outcome = .ok (header "co-wrapper") := by
  have hnone : Marker.coroutine.decls unnamedText
      = [.error (.malformed "bdrv_co_flush" "BlockDriverState *")] := by decide +kernel
  have hdecls : Marker.wrapper.decls unnamedText = [] := by decide +kernel
  have hfile : (generate {} unnamedText).outcome = .ok (assemble "co-wrapper" []) :=
    outcome_generate_of_plans [] hdecls (List.forall_mem_nil _) (by simp [hnone])
  rwa [assemble_nil] at hfile

theorem outcome_generate_brokenText :
    (generate {} brokenText).outcome = .error (.malformed "bdrv_flush" "int\n\n8") := by
  decide +kernel

/-- on a host without the code formatter, at noon: a text with a file, one without, both with a
warning, and bytes that are no text -/
theorem run_input_plain :
    readArguments [] = none ∧
    (∀ v, (Logger.warnings noonLine).shows v = true → v = .warn) ∧
    Host.plain.commands.lookup usualProgram = none ∧
    run .plain [] (Utf8.encode unnamedText) (.warnings noonLine) readArguments
      = ⟨0, header "co-wrapper" ++ ['\n'], noonLine 0 unnamedWarning⟩ ∧
    (∃ body, run .plain [] (Utf8.encode brokenText) (.warnings noonLine) readArguments
        = ⟨1, [], noonLine 0 unnamedWarning ++ "Error: "
            ++ ("Failed to generate coroutine wrappers" : Text) ++ "\n\nCaused by:\n" ++ body
            ++ "\n"⟩ ∧
      unindented body = Fault.message (.malformed "bdrv_flush" "int\n\n8")) ∧
    ∃ body, run .plain [] [0xFF] (.warnings noonLine) readArguments
        = ⟨1, [], "Error: " ++ "Failed to read declarations from stdin" ++ "\n\nCaused by:\n"
            ++ body ++ "\n"⟩ ∧
      unindented body = "stream did not contain valid UTF-8" := by
  have hread : readArguments [] = none := rfl
  have hlogger : ∀ v, (Logger.warnings noonLine).shows v = true → v = .warn :=
    fun v => of_decide_eq_true
  have hplain : Host.plain.commands.lookup usualProgram = none := by decide
  have hshown : (Logger.warnings noonLine).write [unnamedWarning] = noonLine 0 unnamedWarning :=
    List.append_nil _
  refine ⟨hread, hlogger, hplain, ?_, ?_, ?_⟩
  · rw [← hshown, ← warnings_unnamedText]
    exact (run_input hread hlogger hplain _).1 _ _ rfl outcome_generate_unnamedText
  · have hnone : ¬ ∃ t out, Utf8.encode brokenText = Utf8.encode t ∧
        (generate {} t).outcome = .ok out := by
      rintro ⟨t, out, ht, hout⟩
      obtain rfl := Utf8.encode_inj.1 ht
      rw [outcome_generate_brokenText] at hout
      cases hout
    obtain ⟨shown, doing, cause, body, hrun, _, hback, _, _, hcause⟩ :=
      (run_input hread hlogger hplain _).2.1 hnone
    obtain ⟨rfl, rfl, fault, hfault, rfl⟩ := hcause brokenText rfl
    rw [outcome_generate_brokenText] at hfault
    cases hfault
    rw [warnings_brokenText, hshown] at hrun
    exact ⟨body, hrun, hback⟩
  · have hall : ∀ t, [0xFF] ≠ Utf8.encode t := by
      intro t ht
      cases Utf8.decode_eq_ok_iff.2 ht
    have hnone : ¬ ∃ t out, [0xFF] = Utf8.encode t ∧ (generate {} t).outcome = .ok out :=
      fun ⟨t, _, ht, _⟩ => hall t ht
    obtain ⟨shown, doing, cause, body, hrun, _, hback, hdoing, hcause, _⟩ :=
      (run_input hread hlogger hplain _).2.1 hnone
    obtain rfl := hdoing.2 hall
    obtain ⟨rfl, rfl⟩ := hcause hall
    exact ⟨body, hrun, hback⟩

/-- where the log shows warnings, one about a coroutine is written beside a file -/
theorem warning_beside_file :
    (generate {} unnamedText).outcome = .ok (header "co-wrapper") ∧
    (∀ line, run .plain [] (Utf8.encode unnamedText) (.warnings line)
      = ⟨0, header "co-wrapper" ++ ['\n'], line 0 unnamedWarning⟩) ∧
    ¬ ∀ t out : Text, (generate {} t).outcome = .ok out →
      run .plain [] (Utf8.encode t) (.warnings noonLine) = ⟨0, out ++ ['\n'], []⟩ := by
  have hplain : Host.plain.commands.lookup usualProgram = none := by decide
  have hrun : ∀ line, run .plain [] (Utf8.encode unnamedText) (.warnings line)
      = ⟨0, header "co-wrapper" ++ ['\n'], line 0 unnamedWarning⟩ := by
    intro line
    have hshown : (Logger.warnings line).write [unnamedWarning] = line 0 unnamedWarning :=
      List.append_nil _
    rw [← hshown, ← warnings_unnamedText]
    exact run_encode_of_ok rfl (fun v => of_decide_eq_true) hplain outcome_generate_unnamedText
  refine ⟨outcome_generate_unnamedText, hrun, fun hempty => ?_⟩
  have hreply := (hrun noonLine).symm.trans (hempty _ _ outcome_generate_unnamedText)
  have hline : noonLine 0 unnamedWarning = [] := congrArg Reply.complaint hreply
  cases hline

end Cli
end CoroBridge
