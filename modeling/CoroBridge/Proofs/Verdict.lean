import CoroBridge.Proofs.Rules

/-!
# Verdicts: the rule that a declaration breaks first

`plan?` tests the rules for bridges one after the other, and reports the first one that is broken.
Here every verdict is said by itself: which rules are kept, and which one is not.

* `Reserved`, `FreeNames`    the names that the generated code declares itself, and lists of names
                             that it can carry;
* `NameBreach`               what is wrong with a name behind other names;
* `nameBreach?_eq_some_iff`  the search among names stops at the first one that something is wrong
                             with;
* `FirstBreach`              the rule that a declaration breaks while it keeps those before;
* `Decl.plan?_of_firstBreach`, `Decl.firstBreach_of_plan?`   this is the rule that is reported;
* `Breach.Worded`            the text of the reason that a report gives;
* `Decl.plan_or_first_breach`   a declaration has a plan, and which one, or breaks a first rule.
-/

namespace CoroBridge

/-! ## names of parameters -/

/-- a name that the generated code declares itself -/
def Reserved (n : Text) : Prop := n = "s" ∨ n = "poll_state"

theorem reserved_iff {n : Text} : Reserved n ↔ n ∈ reservedNames := by
  rw [Reserved, reservedNames, List.mem_cons, List.mem_singleton]

/-- distinct names, of which the generated code declares none -/
def FreeNames (ns : List Text) : Prop := ns.Nodup ∧ ∀ n ∈ ns, ¬ Reserved n

theorem freeNames_iff {ns : List Text} : FreeNames ns ↔ nameBreach? [] ns = none := by
  rw [nameBreach?_eq_none_iff, FreeNames]
  simp only [reserved_iff, List.not_mem_nil, not_false_eq_true, and_true]

/-- what is wrong with the name `n` behind some others: it is reserved, or else one of them -/
inductive NameBreach (before : List Text) (n : Text) : Breach → Prop
  | reserved (h : Reserved n) : NameBreach before n (.reserved n)
  | repeated (hfree : ¬ Reserved n) (h : n ∈ before) : NameBreach before n (.repeated n)

theorem NameBreach.of_mem {a b : List Text} {n : Text} {breach : Breach} (hn : n ∈ a → n ∈ b)
    (h : NameBreach a n breach) : NameBreach b n breach := by
  cases h with
  | reserved hr => exact .reserved hr
  | repeated hfree hm => exact .repeated hfree (hn hm)

theorem NameBreach.congr {a b : List Text} {n : Text} {breach : Breach} (h : n ∈ a ↔ n ∈ b) :
    NameBreach a n breach ↔ NameBreach b n breach :=
  ⟨.of_mem h.1, .of_mem h.2⟩

/-- one step of the search -/
theorem nameBreach?_cons (seen : List Text) (n : Text) (ns : List Text) :
    (∃ breach, NameBreach seen n breach ∧ nameBreach? seen (n :: ns) = some breach) ∨
    ((∀ breach, ¬ NameBreach seen n breach) ∧
      nameBreach? seen (n :: ns) = nameBreach? (n :: seen) ns) := by
  rw [nameBreach?]
  by_cases hr : n ∈ reservedNames
  · rw [if_pos hr]
    exact .inl ⟨_, .reserved (reserved_iff.2 hr), rfl⟩
  rw [if_neg hr]
  have hfree : ¬ Reserved n := fun h => hr (reserved_iff.1 h)
  by_cases hs : n ∈ seen
  · rw [if_pos hs]
    exact .inl ⟨_, .repeated hfree hs, rfl⟩
  · rw [if_neg hs]
    refine .inr ⟨fun breach h => ?_, rfl⟩
    cases h with
    | reserved h => exact hfree h
    | repeated _ h => exact hs h

theorem NameBreach.unique {before : List Text} {n : Text} {a b : Breach}
    (ha : NameBreach before n a) (hb : NameBreach before n b) : a = b := by
  cases ha with
  | reserved hr =>
    cases hb with
    | reserved _ => rfl
    | repeated hfree _ => exact absurd hr hfree
  | repeated hfree _ =>
    cases hb with
    | reserved hr => exact absurd hr hfree
    | repeated _ _ => rfl

/-- the search stops at the first name that something is wrong with -/
theorem nameBreach?_eq_some_iff {seen ns : List Text} {breach : Breach} :
    nameBreach? seen ns = some breach
      ↔ ∃ xs n ys, ns = xs ++ n :: ys ∧ nameBreach? seen xs = none ∧
        NameBreach (xs.reverse ++ seen) n breach := by
  induction ns generalizing seen with
  | nil =>
    constructor
    · intro h
      cases h
    · rintro ⟨xs, n, ys, h, _⟩
      exact absurd h (by simp)
  | cons m ns ih =>
    rcases nameBreach?_cons seen m ns with ⟨b, hb, hstep⟩ | ⟨hnone, hstep⟩
    · rw [hstep, Option.some_inj]
      constructor
      · rintro rfl
        exact ⟨[], m, ns, rfl, rfl, hb⟩
      · rintro ⟨_ | ⟨x, xs⟩, n, ys, h, hxs, hn⟩
        · cases h
          exact hb.unique hn
        · cases h
          rcases nameBreach?_cons seen m xs with ⟨b', _, hstep'⟩ | ⟨hnone', _⟩
          · rw [hstep'] at hxs
            cases hxs
          · exact absurd hb (hnone' b)
    · rw [hstep, ih]
      have hpast : ∀ xs, nameBreach? seen (m :: xs) = nameBreach? (m :: seen) xs := by
        intro xs
        rcases nameBreach?_cons seen m xs with ⟨b, hb, _⟩ | ⟨_, h⟩
        · exact absurd hb (hnone b)
        · exact h
      have hbefore : ∀ xs : List Text, (m :: xs).reverse ++ seen = xs.reverse ++ m :: seen := by
        intro xs
        rw [List.reverse_cons, List.append_assoc, List.singleton_append]
      constructor
      · rintro ⟨xs, n, ys, rfl, hxs, hn⟩
        exact ⟨m :: xs, n, ys, rfl, (hpast xs).trans hxs, hbefore xs ▸ hn⟩
      · rintro ⟨_ | ⟨x, xs⟩, n, ys, h, hxs, hn⟩
        · cases h
          exact absurd hn (hnone breach)
        · cases h
          exact ⟨xs, n, ys, rfl, (hpast xs).symm.trans hxs, hbefore xs ▸ hn⟩

/-- the first parameter with a name that the generated code cannot carry behind the ones before -/
theorem nameBreach?_names_eq_some_iff {ps : List Param} {breach : Breach} :
    nameBreach? [] (ps.map Param.name) = some breach
      ↔ ∃ xs p ys, ps = xs ++ p :: ys ∧ FreeNames (xs.map Param.name) ∧
        NameBreach (xs.map Param.name) p.name breach := by
  rw [nameBreach?_eq_some_iff]
  constructor
  · rintro ⟨ns, n, ms, hcut, hns, hn⟩
    obtain ⟨xs, zs, rfl, rfl, hzs⟩ := List.map_eq_append_iff.1 hcut
    obtain ⟨p, ys, rfl, rfl, rfl⟩ := List.map_eq_cons_iff.1 hzs
    refine ⟨xs, p, ys, rfl, freeNames_iff.2 hns, (NameBreach.congr ?_).1 hn⟩
    rw [List.append_nil, List.mem_reverse]
  · rintro ⟨xs, p, ys, rfl, hxs, hp⟩
    refine ⟨xs.map Param.name, p.name, ys.map Param.name, ?_, freeNames_iff.1 hxs,
      (NameBreach.congr ?_).2 hp⟩
    · rw [List.map_append, List.map_cons]
    · rw [List.append_nil, List.mem_reverse]

/-! ## names of functions and types of handles -/

/-- the name of a function with the stem of bridges, but not with the stem of coroutines -/
def NamesBridge (name : Text) : Prop :=
  ("bdrv_" : Text) <+: name ∧ ¬ ("bdrv_co_" : Text) <+: name

/-- the type of a block driver state or of a child that points to one -/
def HandleType (ty : Text) : Prop := ty = "BlockDriverState *" ∨ ty = "BdrvChild *"

theorem isPrefixOf_coroutineStem_iff {name : Text} :
    coroutineStem.isPrefixOf name = true ↔ ("bdrv_co_" : Text) <+: name :=
  List.isPrefixOf_iff_prefix

theorem exists_coroutineName?_iff {name : Text} :
    (∃ co, coroutineName? name = some co) ↔ ("bdrv_" : Text) <+: name := by
  constructor
  · rintro ⟨co, hco⟩
    obtain ⟨r, hr, _⟩ := coroutineName?_eq_some_iff.1 hco
    exact ⟨r, hr.symm⟩
  · rintro ⟨r, hr⟩
    exact ⟨_, coroutineName?_eq_some_iff.2 ⟨r, hr.symm, rfl⟩⟩

theorem coroutineName?_eq_none_iff {name : Text} :
    coroutineName? name = none ↔ ¬ ("bdrv_" : Text) <+: name := by
  rw [← exists_coroutineName?_iff, Option.eq_none_iff_forall_ne_some]
  exact not_exists.symm

theorem exists_ofType?_iff {ty : Text} : (∃ h, Handle.ofType? ty = some h) ↔ HandleType ty := by
  simp only [Handle.ofType?_eq_some_iff]
  constructor
  · rintro ⟨_ | _, h⟩
    · exact .inl h
    · exact .inr h
  · rintro (h | h)
    · exact ⟨.direct, h⟩
    · exact ⟨.child, h⟩

theorem ofType?_eq_none_iff {ty : Text} : Handle.ofType? ty = none ↔ ¬ HandleType ty := by
  rw [← exists_ofType?_iff, Option.eq_none_iff_forall_ne_some]
  exact not_exists.symm

/-! ## declarations -/

/-- the rule for bridges that the declaration `d` breaks, while it keeps the rules before -/
inductive FirstBreach (d : Decl) : Breach → Prop
  | resultType (h : d.result ≠ "int") : FirstBreach d (.resultType d.result)
  | namesCoroutine (hresult : d.result = "int") (h : ("bdrv_co_" : Text) <+: d.name) :
      FirstBreach d .namesCoroutine
  | namesNoWrapper (hresult : d.result = "int") (hco : ¬ ("bdrv_co_" : Text) <+: d.name)
      (h : ¬ ("bdrv_" : Text) <+: d.name) : FirstBreach d .namesNoWrapper
  | noHandle (hresult : d.result = "int") (hname : NamesBridge d.name) (h : d.params = []) :
      FirstBreach d .noHandle
  | handleType {q : Param} {qs : List Param} (hresult : d.result = "int")
      (hname : NamesBridge d.name) (hparams : d.params = q :: qs) (h : ¬ HandleType q.ty) :
      FirstBreach d (.handleType q.ty)
  | paramName {q p : Param} {qs xs ys : List Param} {breach : Breach} (hresult : d.result = "int")
      (hname : NamesBridge d.name) (hparams : d.params = q :: qs) (hhandle : HandleType q.ty)
      (hcut : d.params = xs ++ p :: ys) (hbefore : FreeNames (xs.map Param.name))
      (h : NameBreach (xs.map Param.name) p.name breach) : FirstBreach d breach

/-! ## texts of reasons -/

/-- the text that says which rule is broken -/
inductive Breach.Worded : Breach → Text → Prop
  | resultType (found : Text) :
      Worded (.resultType found) ("return type must be `int`, found `" ++ found ++ "`")
  | namesCoroutine :
      Worded .namesCoroutine "`bdrv_co_` names the coroutine itself, not a wrapper"
  | namesNoWrapper : Worded .namesNoWrapper "name must start with `bdrv_`"
  | noHandle : Worded .noHandle "missing the block driver handle parameter"
  | handleType (found : Text) :
      Worded (.handleType found)
        ("first parameter must be `BlockDriverState *` or `BdrvChild *`, found `" ++ found ++ "`")
  | reserved (n : Text) :
      Worded (.reserved n) ("parameter name `" ++ n ++ "` is used by the generated code")
  | repeated (n : Text) : Worded (.repeated n) ("duplicate parameter `" ++ n ++ "`")

theorem Breach.worded_message (breach : Breach) : Worded breach breach.message := by
  cases breach with
  | resultType found =>
    have hfound : ("return type must be " : Text) ++ quoted statusType ++ ", found " ++ "`"
        = "return type must be `int`, found `" := by decide +kernel
    have htext := Worded.resultType found
    rwa [← hfound, List.append_assoc, List.append_assoc] at htext
  | namesCoroutine =>
    have htext : message namesCoroutine = "`bdrv_co_` names the coroutine itself, not a wrapper" := by
      decide +kernel
    exact htext ▸ .namesCoroutine
  | namesNoWrapper =>
    have htext : message namesNoWrapper = "name must start with `bdrv_`" := by decide +kernel
    exact htext ▸ .namesNoWrapper
  | noHandle => exact .noHandle
  | handleType found =>
    have hfound : ("first parameter must be " : Text) ++ quoted Handle.direct.typeText ++ " or "
          ++ quoted Handle.child.typeText ++ ", found " ++ "`"
        = "first parameter must be `BlockDriverState *` or `BdrvChild *`, found `" := by
      decide +kernel
    have htext := Worded.handleType found
    rwa [← hfound, List.append_assoc, List.append_assoc] at htext
  | reserved n =>
    have hname : ("parameter name " : Text) ++ ("`" : Text) = "parameter name `" := by decide +kernel
    have hused : ("`" : Text) ++ (" is used by the generated code" : Text)
        = "` is used by the generated code" := by decide +kernel
    have htext := Worded.reserved n
    rwa [← hname, ← hused, ← List.append_assoc] at htext
  | repeated n =>
    have hname : ("duplicate parameter " : Text) ++ ("`" : Text) = "duplicate parameter `" := by
      decide +kernel
    have htext := Worded.repeated n
    rwa [← hname, List.append_assoc, List.append_assoc] at htext

theorem Fault.message_unsupported (f : Text) (breach : Breach) : (Fault.unsupported f breach).message
    = "unsupported signature of `" ++ f ++ "`: " ++ breach.message := by
  have hname : ("unsupported signature of " : Text) ++ ("`" : Text) = "unsupported signature of `" :=
    by decide +kernel
  have hreason : ("`" : Text) ++ (": " : Text) = "`: " := by decide +kernel
  rewrite [← hname, ← hreason]
  unfold message quoted
  simp only [List.append_assoc]

namespace Decl
variable {d : Decl}

theorem firstBreach_of_plan? {breach : Breach} (h : d.plan? = .error breach) :
    FirstBreach d breach := by
  unfold plan? at h
  split at h
  · next hres =>
    cases h
    exact .resultType hres
  next hres =>
  have hresult : d.result = "int" := Decidable.not_not.1 hres
  split at h
  · next hco =>
    cases h
    exact .namesCoroutine hresult (isPrefixOf_coroutineStem_iff.1 hco)
  next hco =>
  have hnot : ¬ ("bdrv_co_" : Text) <+: d.name := mt isPrefixOf_coroutineStem_iff.2 hco
  split at h
  · next hstem =>
    cases h
    exact .namesNoWrapper hresult hnot (coroutineName?_eq_none_iff.1 hstem)
  · next hstem hparams =>
    cases h
    exact .noHandle hresult ⟨exists_coroutineName?_iff.1 ⟨_, hstem⟩, hnot⟩ hparams
  next q qs hstem hparams =>
  have hname : NamesBridge d.name := ⟨exists_coroutineName?_iff.1 ⟨_, hstem⟩, hnot⟩
  split at h
  · next hty =>
    cases h
    exact .handleType hresult hname hparams (ofType?_eq_none_iff.1 hty)
  next handle hty =>
  split at h
  · next hnames =>
    cases h
    obtain ⟨xs, p, ys, hcut, hbefore, hp⟩ := nameBreach?_names_eq_some_iff.1 hnames
    exact .paramName hresult hname hparams (exists_ofType?_iff.1 ⟨handle, hty⟩) hcut hbefore hp
  · cases h

theorem plan?_of_firstBreach {breach : Breach} (h : FirstBreach d breach) :
    d.plan? = .error breach := by
  have hint : d.result = "int" → ¬ d.result ≠ statusType := fun hresult hne => hne hresult
  have hco : ¬ ("bdrv_co_" : Text) <+: d.name → ¬ coroutineStem.isPrefixOf d.name = true :=
    mt isPrefixOf_coroutineStem_iff.1
  unfold plan?
  cases h with
  | resultType h => exact if_pos h
  | namesCoroutine hresult h =>
    rw [if_neg (hint hresult), if_pos (isPrefixOf_coroutineStem_iff.2 h)]
  | namesNoWrapper hresult hnot h =>
    rw [if_neg (hint hresult), if_neg (hco hnot), coroutineName?_eq_none_iff.2 h]
  | noHandle hresult hname h =>
    obtain ⟨co, hstem⟩ := exists_coroutineName?_iff.2 hname.1
    rw [if_neg (hint hresult), if_neg (hco hname.2), hstem, h]
  | handleType hresult hname hparams h =>
    obtain ⟨co, hstem⟩ := exists_coroutineName?_iff.2 hname.1
    rw [if_neg (hint hresult), if_neg (hco hname.2), hstem, hparams]
    simp only [ofType?_eq_none_iff.2 h]
  | paramName hresult hname hparams hhandle hcut hbefore h =>
    obtain ⟨co, hstem⟩ := exists_coroutineName?_iff.2 hname.1
    obtain ⟨handle, hty⟩ := exists_ofType?_iff.2 hhandle
    have hnames := nameBreach?_names_eq_some_iff.2 ⟨_, _, _, hcut, hbefore, h⟩
    rw [if_neg (hint hresult), if_neg (hco hname.2), hstem, hnames, hparams]
    simp only [hty]

/-- the rule that is reported is the first one that is broken -/
theorem plan_eq_error_iff {fault : Fault} :
    d.plan = .error fault
      ↔ ∃ breach, FirstBreach d breach ∧ fault = .unsupported d.name breach := by
  constructor
  · intro h
    rw [plan] at h
    cases hplan : d.plan? with
    | ok p =>
      rw [hplan] at h
      cases h
    | error breach =>
      rw [hplan] at h
      cases h
      exact ⟨breach, firstBreach_of_plan? hplan, rfl⟩
  · rintro ⟨breach, h, rfl⟩
    rw [plan, plan?_of_firstBreach h]
    rfl

/-- a declaration has a plan if and only if it keeps all the rules -/
theorem exists_plan_iff :
    (∃ p, d.plan = .ok p)
      ↔ d.result = "int" ∧ NamesBridge d.name ∧
        (∃ q qs, d.params = q :: qs ∧ HandleType q.ty) ∧ FreeNames (d.params.map Param.name) := by
  simp only [plan_eq_ok_iff, FreeNames, reserved_iff, List.forall_mem_map]
  constructor
  · rintro ⟨p, h⟩
    obtain ⟨r, hname, _⟩ := h.stem
    obtain ⟨q, qs, hparams, hty, _⟩ := h.first
    have hhandle := exists_ofType?_iff.1 ⟨p.handle, Handle.ofType?_eq_some_iff.2 hty⟩
    have hbridge : NamesBridge d.name := ⟨⟨r, hname.symm⟩, h.no_coroutine⟩
    exact ⟨h.result_eq, hbridge, ⟨q, qs, hparams, hhandle⟩, h.nodup, h.free⟩
  · rintro ⟨hresult, ⟨⟨r, hname⟩, hnot⟩, ⟨q, qs, hparams, hhandle⟩, hnodup, hfree⟩
    obtain ⟨handle, hty⟩ := exists_ofType?_iff.2 hhandle
    exact ⟨⟨d, coroutineStem ++ r, handle, q.name⟩, {
      wrapper_eq := rfl
      result_eq := hresult
      no_coroutine := hnot
      stem := ⟨r, hname.symm, rfl⟩
      first := ⟨q, qs, hparams, Handle.ofType?_eq_some_iff.1 hty, rfl⟩
      nodup := hnodup
      free := hfree }⟩

/-- what follows from a plan for the coroutine and the block driver state -/
theorem owner_of_plan {p : Plan} (h : d.plan = .ok p) :
    p.wrapper = d ∧ ∃ r q qs, d.name = "bdrv_" ++ r ∧ p.coroutine = "bdrv_co_" ++ r ∧
      d.params = q :: qs ∧
      ((q.ty = "BlockDriverState *" ∧ p.handle = .direct ∧ p.owner = q.name) ∨
        (q.ty = "BdrvChild *" ∧ p.handle = .child ∧ p.owner = q.name ++ "->bs")) := by
  have hplanned := plan_eq_ok_iff.1 h
  obtain ⟨r, hname, hco⟩ := hplanned.stem
  obtain ⟨q, qs, hparams, hty, hsubject⟩ := hplanned.first
  refine ⟨hplanned.wrapper_eq, r, q, qs, hname, hco, hparams, ?_⟩
  rw [Plan.owner, hsubject]
  cases hhandle : p.handle with
  | direct =>
    rw [hhandle] at hty
    exact .inl ⟨hty, rfl, rfl⟩
  | child =>
    rw [hhandle] at hty
    exact .inr ⟨hty, rfl, rfl⟩

/-- **A declaration has a plan, or there is a first rule for bridges that it breaks.**  The plan has
the name of the coroutine, which is that of the bridge under the other stem, and the block driver
state: the first parameter, or what it points to.  Otherwise the declaration is unsupported for the
first rule that it breaks, and the text of the fault names the declaration and says which rule;
among the names of its parameters this is the first one that is reserved or stands before, and a name
that is both counts as reserved. -/
theorem plan_or_first_breach (d : Decl) :
    ((∃ p, d.plan = .ok p)
      ↔ d.result = "int" ∧ NamesBridge d.name ∧
        (∃ q qs, d.params = q :: qs ∧ HandleType q.ty) ∧ FreeNames (d.params.map Param.name)) ∧
    (∀ p, d.plan = .ok p →
      p.wrapper = d ∧ ∃ r q qs, d.name = "bdrv_" ++ r ∧ p.coroutine = "bdrv_co_" ++ r ∧
        d.params = q :: qs ∧
        ((q.ty = "BlockDriverState *" ∧ p.handle = .direct ∧ p.owner = q.name) ∨
          (q.ty = "BdrvChild *" ∧ p.handle = .child ∧ p.owner = q.name ++ "->bs"))) ∧
    ∀ fault, d.plan = .error fault
      ↔ ∃ breach, FirstBreach d breach ∧ fault = .unsupported d.name breach ∧
        Breach.Worded breach breach.message ∧
        fault.message = "unsupported signature of `" ++ d.name ++ "`: " ++ breach.message := by
  refine ⟨exists_plan_iff, fun p h => ?_, fun fault => ?_⟩
  · exact owner_of_plan h
  · rw [plan_eq_error_iff]
    constructor
    · rintro ⟨breach, hbreach, rfl⟩
      exact ⟨breach, hbreach, rfl, breach.worded_message, Fault.message_unsupported _ _⟩
    · rintro ⟨breach, hbreach, hfault, -, -⟩
      exact ⟨breach, hbreach, hfault⟩

/-- a declaration that can be bridged -/
def readDecl : Decl :=
  ⟨"int", "bdrv_pread", [⟨"BdrvChild *child", "BdrvChild *", "child"⟩,
    ⟨"int64_t offset", "int64_t ", "offset"⟩]⟩

/-- a declaration with a name twice, and a reserved name behind it -/
def twiceDecl : Decl :=
  ⟨"int", "bdrv_pread", [⟨"BdrvChild *child", "BdrvChild *", "child"⟩,
    ⟨"int64_t offset", "int64_t ", "offset"⟩, ⟨"int offset", "int ", "offset"⟩,
    ⟨"int s", "int ", "s"⟩]⟩

theorem plan_or_first_breach_readDecl :
    (∃ p, readDecl.plan = .ok p ∧ p.coroutine = "bdrv_co_pread" ∧ p.owner = "child->bs") ∧
    FirstBreach twiceDecl (.repeated "offset") ∧
    twiceDecl.plan = .error (.unsupported "bdrv_pread" (.repeated "offset")) ∧
    Breach.Worded (.repeated "offset") "duplicate parameter `offset`" := by
  constructor
  · have h : readDecl.plan = .ok ⟨readDecl, "bdrv_co_pread", .child, "child"⟩ := by rfl
    refine ⟨_, h, rfl, ?_⟩
    obtain ⟨_, r, q, qs, _, _, hparams, hkind⟩ := (plan_or_first_breach readDecl).2.1 _ h
    cases hparams
    rcases hkind with ⟨hty, _⟩ | ⟨_, _, howner⟩
    · exact absurd hty (by decide)
    · exact howner
  · have h : twiceDecl.plan = .error (.unsupported "bdrv_pread" (.repeated "offset")) := by rfl
    have htext : Breach.message (.repeated "offset") = "duplicate parameter `offset`" := by
      decide +kernel
    obtain ⟨breach, hbreach, heq, hworded, _⟩ := ((plan_or_first_breach twiceDecl).2.2 _).1 h
    cases heq
    rw [htext] at hworded
    exact ⟨hbreach, h, hworded⟩

end Decl
end CoroBridge
