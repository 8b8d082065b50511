import CoroBridge.Proofs.CrossCheck

/-!
# Logs: what a run says before it ends

A run goes through the sites of a text one by one, and says what it finds.  What it has said by its
end shows how far it came.

* `Run.log_bind_of_ok`, `Run.log_bind_of_error`   one run after another;
* `Run.log_mapM_append`, `Run.log_mapM_cons_of_error`   a walk along a list goes on behind elements
                             that succeed, and says no more behind one that does not;
* `Site.counterpartLog`, `Site.bridgeLog`   what is said at the site of a coroutine and at that of a
                             bridge;
* `log_counterparts`, `log_bridge`   the same of the steps of a run;
* `Refused.exists_plan_iff`  of the declarations that are refused, those that drift have a plan;
* `log_generate`             the log of a whole run.
-/

namespace CoroBridge

/-! ## the log of a run -/

namespace Run
variable {α β : Type}

theorem log_pure (a : α) : log (Pure.pure a) = [] := rfl

theorem log_ofExcept (x : Except Fault α) : log (ofExcept x) = [] := rfl

theorem log_bind_of_ok {x : Run α} {a : α} (h : x.outcome = .ok a) (f : α → Run β) :
    log (x >>= f) = log x ++ log (f a) := by
  rw [bind_of_ok h]
  exact List.map_append

theorem log_bind_of_error {x : Run α} {fault : Fault} (h : x.outcome = .error fault)
    (f : α → Run β) : log (x >>= f) = log x := by
  rw [bind_of_error h]
  rfl

theorem log_note_bind (event : Event) (f : Unit → Run β) :
    log (note event >>= f) = event.entry :: log (f ()) := rfl

/-- nothing is said when a result is put into another form -/
theorem log_bind_pure (x : Run α) (g : α → β) : log (x >>= fun a => Pure.pure (g a)) = log x := by
  cases h : x.outcome with
  | ok a => rw [log_bind_of_ok h, log_pure, List.append_nil]
  | error fault => rw [log_bind_of_error h]

variable {f : α → Run β} {xs ys : List α}

/-- a walk along a list goes on behind elements that succeed -/
theorem log_mapM_append (h : ∀ x ∈ xs, ∃ b, (f x).outcome = .ok b) :
    log ((xs ++ ys).mapM f) = xs.flatMap (fun x => log (f x)) ++ log (ys.mapM f) := by
  induction xs with
  | nil => rfl
  | cons x xs ih =>
    obtain ⟨⟨b, hb⟩, hxs⟩ := List.forall_mem_cons.1 h
    rw [List.cons_append, List.mapM_cons, log_bind_of_ok hb, log_bind_pure, ih hxs,
      List.flatMap_cons, List.append_assoc]

theorem log_mapM_of_ok (h : ∀ x ∈ xs, ∃ b, (f x).outcome = .ok b) :
    log (xs.mapM f) = xs.flatMap fun x => log (f x) := by
  have hwalk : log ((xs ++ []).mapM f)
      = xs.flatMap (fun x => log (f x)) ++ log (([] : List α).mapM f) := log_mapM_append h
  rwa [List.append_nil, List.mapM_nil, log_pure, List.append_nil] at hwalk

/-- a walk along a list says no more behind an element that fails -/
theorem log_mapM_cons_of_error {a : α} {fault : Fault} (h : (f a).outcome = .error fault)
    (l : List α) : log ((a :: l).mapM f) = log (f a) := by
  rw [List.mapM_cons, log_bind_of_error h]

theorem mem_log_mapM {e : Level × Text} (h : e ∈ log (xs.mapM f)) : ∃ x ∈ xs, e ∈ log (f x) := by
  induction xs with
  | nil => cases h
  | cons x xs ih =>
    rw [List.mapM_cons] at h
    cases hx : (f x).outcome with
    | ok b =>
      rw [log_bind_of_ok hx, log_bind_pure, List.mem_append] at h
      rcases h with h | h
      · exact ⟨x, List.mem_cons_self, h⟩
      · obtain ⟨y, hy, he⟩ := ih h
        exact ⟨y, List.mem_cons_of_mem x hy, he⟩
    | error fault =>
      rw [log_bind_of_error hx] at h
      exact ⟨x, List.mem_cons_self, h⟩

end Run

/-! ## what is said at a site -/

namespace Site

/-- that a statement was found -/
def foundEntry (m : Marker) (s : Site) : Level × Text :=
  (.trace, "matched declaration: " ++ s.text m)

/-- what is said at the site of a coroutine: its text, and that no bridge is compared with it, if it
cannot be read -/
def counterpartLog (s : Site) : List (Level × Text) :=
  s.foundEntry .coroutine ::
    match s.decl with
    | .ok _ => []
    | .error fault => [(.warn, "not cross-checking against coroutine: " ++ fault.message)]

/-- what is said at the site of a bridge: its text, and what it is made of, if it can be read and
keeps the rules -/
def bridgeLog (s : Site) : List (Level × Text) :=
  s.foundEntry .wrapper ::
    match s.decl >>= Decl.plan with
    | .ok p =>
      [(.debug, "wrapping " ++ p.wrapper.name ++ " around " ++ p.coroutine ++ " ("
        ++ Text.ofNat p.wrapper.params.length ++ " parameters)")]
    | .error _ => []

/-- more than the text is said at the site of a bridge if and only if it has a plan -/
theorem debug_mem_bridgeLog_iff {s : Site} :
    (∃ e ∈ s.bridgeLog, e.1 = .debug) ↔ ∃ p, s.decl >>= Decl.plan = .ok p := by
  unfold bridgeLog foundEntry
  cases h : s.decl >>= Decl.plan with
  | ok p => simp
  | error fault => simp

end Site

theorem log_noteCounterpart (s : Site) : Run.log (noteCounterpart s) = s.counterpartLog := by
  unfold noteCounterpart Site.counterpartLog
  rw [Run.log_note_bind]
  cases s.decl with
  | ok d => rfl
  | error fault => rfl

theorem log_counterparts (t : Text) :
    Run.log (counterparts t) = (Marker.coroutine.sites t).flatMap Site.counterpartLog := by
  have hok : ∀ s ∈ Marker.coroutine.sites t, ∃ d, (noteCounterpart s).outcome = .ok d :=
    fun s _ => ⟨_, outcome_noteCounterpart s⟩
  unfold counterparts
  rw [Run.log_bind_pure, Run.log_mapM_of_ok hok]
  simp only [log_noteCounterpart]

/-- the coroutines that are known make no difference to what is said -/
theorem log_bridge (known : List Decl) (s : Site) : Run.log (bridge known s) = s.bridgeLog := by
  unfold bridge Site.bridgeLog
  rw [Run.log_note_bind]
  refine congrArg (_ :: ·) ?_
  cases hd : s.decl with
  | error fault => rfl
  | ok d =>
    rw [Run.ofExcept_ok_bind, ok_bind]
    cases hp : d.plan with
    | error fault => rfl
    | ok p =>
      obtain rfl := (Decl.plan_eq_ok_iff.1 hp).wrapper_eq
      rw [Run.ofExcept_ok_bind, Run.log_note_bind, Run.log_bind_pure, Run.log_ofExcept]
      rfl

/-! ## the log of a whole run -/

/-- the text of a site is what stands there -/
theorem Marker.text_of_mem_sites {m : Marker} {t : Text} {s : Site} (h : s ∈ m.sites t) :
    s.text m = (t.drop s.start).take (s.stop m - s.start) := by
  obtain ⟨_, a, b, ht, ha, _⟩ := (Marker.scan_sites m t).occursAt s h
  have hlength : s.stop m - s.start = (s.text m).length := Nat.add_sub_cancel_left ..
  rw [hlength, ht, ← ha, List.drop_left]
  exact (List.take_left ..).symm

variable {config : Config} {t : Text}

/-- of the declarations that are refused, those that drift have a plan -/
theorem Refused.exists_plan_iff {x : Except Fault Decl} {fault : Fault}
    (h : Refused config t x fault) (hx : x ∈ Marker.wrapper.decls t) :
    (∃ p, x >>= Decl.plan = .ok p) ↔ ∃ f c m, fault = .drift f c m := by
  have hblock : x >>= Decl.block = .error fault → ¬ ∃ f c m, fault = .drift f c m := by
    rintro herr ⟨f, c, m, rfl⟩
    rcases Decl.fault_of_block hx herr with ⟨_, _, h⟩ | ⟨_, _, h⟩ <;> cases h
  cases h with
  | unread =>
    refine iff_of_false ?_ (hblock rfl)
    rintro ⟨p, hp⟩
    cases hp
  | @unruly d _ hplan =>
    refine iff_of_false ?_ (hblock ?_)
    · rintro ⟨p, hp⟩
      rw [ok_bind, hplan] at hp
      cases hp
    · rw [ok_bind, Decl.block, hplan]
      rfl
  | drifted hplan _ _ _ hdrift =>
    obtain ⟨m, _, rfl⟩ := Plan.checkAgainst_eq_error_iff.1 hdrift
    exact iff_of_true ⟨_, hplan⟩ ⟨_, _, m, rfl⟩

/-- what is said of the coroutines of a text, if bridges are compared with them -/
def Config.counterpartLog (config : Config) (t : Text) : List (Level × Text) :=
  if config.crossCheck then (Marker.coroutine.sites t).flatMap Site.counterpartLog else []

theorem log_generate_eq (config : Config) (t : Text) :
    Run.log (generate config t)
      = config.counterpartLog t
        ++ Run.log ((Marker.wrapper.sites t).mapM (bridge (config.known t))) := by
  unfold generate Config.counterpartLog Config.known
  by_cases h : config.crossCheck = true
  · simp only [h, if_true]
    rw [Run.log_bind_of_ok (outcome_counterparts t), log_counterparts, Run.log_bind_pure]
  · simp only [h, if_false, Bool.false_eq_true, pure_bind]
    rw [Run.log_bind_pure, List.nil_append]

/-- **A run says what it finds, as far as it comes.**  First, if bridges are compared with their
coroutines, the text of every coroutine's site, each with a warning right behind it if the
declaration cannot be read.  Then the text of every bridge's site up to the first that is refused,
each with what the bridge is made of if the declaration can be read and keeps the rules.  Of the sites
behind that one nothing is said, and of the refused one there is more than its text if and only if it
drifts. -/
theorem log_generate (config : Config) (t : Text) :
    (∀ m : Marker, ∀ s ∈ m.sites t, s.text m = (t.drop s.start).take (s.stop m - s.start)) ∧
    ∃ reached ahead, Marker.wrapper.sites t = reached ++ ahead ∧
      Run.log (generate config t)
        = config.counterpartLog t ++ reached.flatMap Site.bridgeLog ∧
      ((ahead = [] ∧ (∀ s ∈ reached, ∃ b, Bridged config t s.decl b) ∧
          ∃ out, (generate config t).outcome = .ok out) ∨
        ∃ passed s fault, reached = passed ++ [s] ∧
          (∀ x ∈ passed, ∃ b, Bridged config t x.decl b) ∧ Refused config t s.decl fault ∧
          (generate config t).outcome = .error fault ∧
          ((∃ e ∈ s.bridgeLog, e.1 = .debug) ↔ ∃ f c m, fault = .drift f c m)) := by
  refine ⟨fun m s hs => Marker.text_of_mem_sites hs, ?_⟩
  have hlog := log_generate_eq config t
  have hrun := outcome_generate_eq config t
  cases hwalk : (Marker.wrapper.sites t).mapM (fun s => (bridge (config.known t) s).outcome) with
  | ok blocks =>
    have hblocks := mapM_eq_ok_iff.1 hwalk
    have hok : ∀ s ∈ Marker.wrapper.sites t,
        ∃ b, (bridge (config.known t) s).outcome = .ok b := forall₂_exists_iff.1 ⟨_, hblocks⟩
    refine ⟨_, [], (List.append_nil _).symm, ?_, .inl ⟨rfl, fun s hs => ?_, ?_⟩⟩
    · rw [hlog, Run.log_mapM_of_ok hok]
      simp only [log_bridge]
    · obtain ⟨b, hb⟩ := hok s hs
      exact ⟨b, outcome_bridge_ok_iff.1 hb⟩
    · rw [hwalk] at hrun
      exact ⟨_, hrun⟩
  | error fault =>
    obtain ⟨passed, s, ahead, hsites, hpassed, hs⟩ := mapM_eq_error_iff.1 hwalk
    have hrefused := outcome_bridge_error_iff.1 hs
    have hmem : s.decl ∈ Marker.wrapper.decls t :=
      List.mem_map_of_mem (hsites ▸ List.mem_append_right passed List.mem_cons_self)
    refine ⟨passed ++ [s], ahead, by rw [hsites, List.append_assoc, List.singleton_append], ?_,
      .inr ⟨passed, s, fault, rfl, fun x hx => ?_, hrefused, ?_, ?_⟩⟩
    · rw [hlog, hsites, Run.log_mapM_append hpassed, Run.log_mapM_cons_of_error hs,
        List.flatMap_append, List.flatMap_singleton]
      simp only [log_bridge]
    · obtain ⟨b, hb⟩ := hpassed x hx
      exact ⟨b, outcome_bridge_ok_iff.1 hb⟩
    · rw [hwalk] at hrun
      exact hrun
    · rw [Site.debug_mem_bridgeLog_iff]
      exact hrefused.exists_plan_iff hmem

/-- a bridge that drifts ends the run before the malformed one below is found -/
example : Run.log (generate {} (("int coroutine_fn bdrv_co_a(BdrvChild *c);\n" : Text)
      ++ ("int generated_co_wrapper bdrv_a(BlockDriverState *b);\n" : Text)
      ++ ("int generated_co_wrapper bdrv_b(void);\n" : Text)))
    = ([(.trace, "matched declaration: int coroutine_fn bdrv_co_a(BdrvChild *c);"),
      (.trace, "matched declaration: int generated_co_wrapper bdrv_a(BlockDriverState *b);"),
      (.debug, "wrapping bdrv_a around bdrv_co_a (1 parameters)")] : List (Level × Text)) := by
  decide +kernel

end CoroBridge
