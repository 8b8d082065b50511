import CoroBridge.Proofs.Camel
import CoroBridge.Proofs.Readback

/-!
# Scopes: what the identifiers in a bridge refer to

A bridge names its parameters, a context that it declares itself, and things that are declared
elsewhere.  The rules for bridges keep the first two apart from each other; whether a parameter hides
one of the others is left to who writes the declaration.

* `words`                  the words on a line of code, members apart;
* `Referent`, `Scope`      what a name may refer to, and the names that are declared in a place;
* `Scope.refer_iff`        when a name refers to what is meant;
* `Plan.directUses`, `Plan.contextUses`   the names that the two branches of a bridge use, with what
                           is meant by them;
* `Planned.directIdentifiers_block`, `Planned.contextIdentifiers_block`   they are the identifiers in
                           the text of a block;
* `identifiers_refer`      which of them refer to what is meant.
-/

namespace CoroBridge

/-! ## identifiers -/

/-- a character of a word in code -/
def isWordPart (c : Char) : Bool := c.isAlphanum || c == '_'

/-- the words that the language keeps for itself -/
def keywords : List Text :=
  ["auto", "break", "case", "char", "const", "continue", "default", "do", "double", "else", "enum",
    "extern", "float", "for", "goto", "if", "inline", "int", "long", "register", "restrict",
    "return", "short", "signed", "sizeof", "static", "struct", "switch", "typedef", "union",
    "unsigned", "void", "volatile", "while"]

theorem return_mem_keywords : ("return" : Text) ∈ keywords := by decide

/-- the words that are no keywords -/
def withoutKeywords (ws : List Text) : List Text := ws.filter fun w => !keywords.contains w

theorem withoutKeywords_append_cons {w : Text} (h : w ∈ keywords) (a b : List Text) :
    withoutKeywords (a ++ w :: b) = withoutKeywords (a ++ b) := by
  have hdrop : (w :: b).filter (fun w => !keywords.contains w) = withoutKeywords b :=
    List.filter_cons_of_neg (by simp [h])
  rw [withoutKeywords, List.filter_append, hdrop]
  exact (List.filter_append a b).symm

/-- a word that counts, if `before` is the character before it: numbers do not, and a word after a
point or an arrow is the name of a member -/
def wordOf (before : Char) (word : Text) : List Text :=
  if word.head?.all Char.isDigit ∨ before = '.' ∨ before = '>' then [] else [word]

/-- the words of a text that continues a word, which the character `before` stands before -/
def wordsFrom (before : Char) (word : Text) : Text → List Text
  | [] => wordOf before word
  | c :: r =>
    if isWordPart c then wordsFrom before (word ++ [c]) r
    else wordOf before word ++ wordsFrom c [] r

/-- the words on a line of code, in order, but for the names of members -/
def words (line : Text) : List Text := wordsFrom '\n' [] line

/-- a character that belongs to no word cuts a line in two -/
theorem wordsFrom_append_cons {c : Char} (hc : isWordPart c = false) (before : Char)
    (word a r : Text) : wordsFrom before word (a ++ c :: r)
      = wordsFrom before word a ++ wordsFrom c [] r := by
  induction a generalizing before word with
  | nil => simp only [List.nil_append, wordsFrom, hc, Bool.false_eq_true, if_false]
  | cons d a ih =>
    rw [List.cons_append, wordsFrom, wordsFrom, ih, ih]
    split
    · rfl
    · rw [List.append_assoc]

/-- a text is cut in two before a character that belongs to no word -/
theorem wordsFrom_append_of_head? {r : Text} {e : Char} (hr : r.head? = some e)
    (he : isWordPart e = false) (before : Char) (word a : Text) :
    wordsFrom before word (a ++ r) = wordsFrom before word a ++ words r := by
  obtain ⟨t, rfl⟩ := List.head?_eq_some_iff.1 hr
  have hwords : words (e :: t) = wordsFrom e [] t := wordsFrom_append_cons he '\n' [] [] t
  rw [wordsFrom_append_cons he, hwords]

/-- a line is cut in two after a character that belongs to no word -/
theorem words_append_of_getLast? {a : Text} {c : Char} (ha : a.getLast? = some c)
    (hc : isWordPart c = false) (r : Text) : words (a ++ r) = words a ++ wordsFrom c [] r := by
  obtain ⟨t, rfl⟩ := List.getLast?_eq_some_iff.1 ha
  have hwords : words (t ++ [c]) = words t := by
    rw [words, wordsFrom_append_cons hc]
    exact List.append_nil _
  rw [hwords, List.append_assoc]
  exact wordsFrom_append_cons hc '\n' [] t r

theorem wordsFrom_of_word {n : Text} (h : ∀ c ∈ n, isWordPart c = true) (before : Char)
    (word : Text) : wordsFrom before word n = wordOf before (word ++ n) := by
  induction n generalizing word with
  | nil => rw [List.append_nil, wordsFrom]
  | cons c n ih =>
    obtain ⟨hc, hn⟩ := List.forall_mem_cons.1 h
    rw [wordsFrom, if_pos hc, ih hn, List.append_assoc, List.singleton_append]

/-- a word that does not begin with a digit -/
structure IsWord (n : Text) : Prop where
  head : n.head?.all Char.isDigit = false
  chars : ∀ c ∈ n, isWordPart c = true

theorem isDigit_eq_false_of_isLower {c : Char} (h : c.isLower = true) : c.isDigit = false := by
  exact of_forall_ascii (P := fun c => c.isLower = true → c.isDigit = false) (by decide)
    (toNat_lt_of_isAlphanum (isAlphanum_of_isLower h)) h

theorem isWord_of_isName {n : Text} (h : isName n = true) : IsWord n := by
  constructor
  · cases n with
    | nil => cases h
    | cons c r =>
      rw [isName_cons, Bool.and_eq_true] at h
      exact isDigit_eq_false_of_isLower h.1
  · intro c hc
    by_cases hscore : c = '_'
    · rw [hscore]
      rfl
    · rw [isWordPart, isAlphanum_of_isNameChar (isNameChar_of_isName h c hc) hscore]
      rfl

theorem IsWord.wordsFrom {n : Text} (h : IsWord n) {before : Char} (hdot : before ≠ '.')
    (harrow : before ≠ '>') : wordsFrom before [] n = [n] := by
  rw [wordsFrom_of_word h.chars, List.nil_append, wordOf]
  simp [h.head, hdot, harrow]

/-- the name of a member is left out -/
theorem IsWord.wordsFrom_point {n : Text} (h : IsWord n) : CoroBridge.wordsFrom '.' [] n = [] := by
  rw [wordsFrom_of_word h.chars, wordOf, if_pos (.inr (.inl rfl))]

/-- a word on a line, between characters that belong to no word -/
theorem words_append_append {a n r : Text} (h : IsWord n) {c e : Char} (ha : a.getLast? = some c)
    (hc : isWordPart c = false ∧ c ≠ '.' ∧ c ≠ '>') (hr : r.head? = some e)
    (he : isWordPart e = false) : words (a ++ n ++ r) = words a ++ n :: words r := by
  rw [List.append_assoc, words_append_of_getLast? ha hc.1, wordsFrom_append_of_head? hr he,
    h.wordsFrom hc.2.1 hc.2.2]
  rfl

theorem wordsFrom_commas {ts : List Text} (h : ∀ t ∈ ts, IsWord t) {before : Char}
    (hdot : before ≠ '.') (harrow : before ≠ '>') : wordsFrom before [] (Plan.commas ts) = ts := by
  induction ts generalizing before with
  | nil =>
    rw [Plan.commas, List.intercalate_nil]
    rfl
  | cons t ts ih =>
    obtain ⟨ht, hts⟩ := List.forall_mem_cons.1 h
    by_cases hnil : ts = []
    · subst hnil
      rw [Plan.commas, List.intercalate_singleton, ht.wordsFrom hdot harrow]
    · have hline : Plan.commas (t :: ts) = t ++ ([',', ' '] ++ Plan.commas ts) := by
        rw [Plan.commas, List.intercalate_cons_of_ne_nil hnil, List.append_assoc]
        rfl
      rw [hline, wordsFrom_append_of_head? (e := ',') rfl (by decide), ht.wordsFrom hdot harrow,
        words_append_of_getLast? (c := ' ') rfl (by decide), ih hts (by decide) (by decide)]
      rfl

/-! ## scopes -/

/-- what a name may refer to: a parameter, by its position, the context, or what is declared outside
of the bridge -/
inductive Referent where
  | param (i : Nat)
  | context
  | outside
  deriving DecidableEq, Repr

/-- names with what they refer to; in a place where the names are declared, the innermost comes
first -/
abbrev Scope := List (Text × Referent)

/-- what a name refers to in the place of a scope -/
def Scope.refer (s : Scope) (n : Text) : Referent := (s.lookup n).getD .outside

/-- the names that are declared in the place of a scope -/
def Scope.names (s : Scope) : List Text := s.map Prod.fst

theorem Scope.lookup_of_mem {s : Scope} (hnd : s.names.Nodup) {u : Text × Referent} (hu : u ∈ s) :
    s.lookup u.1 = some u.2 := by
  obtain ⟨a, b, rfl⟩ := List.mem_iff_append.1 hu
  refine List.lookup_eq_some_iff.2 ⟨a, b, rfl, fun v hv => ?_⟩
  rw [Scope.names, List.map_append, List.nodup_append] at hnd
  have hne := hnd.2.2 v.1 (List.mem_map_of_mem hv) u.1 (List.mem_map_of_mem List.mem_cons_self)
  exact bne_iff_ne.2 (Ne.symm hne)

/-- **Where names are declared once**, a name of the scope refers to what is meant, and a name that is
meant to be declared outside does so if and only if it is none of them. -/
theorem Scope.refer_iff {s : Scope} (hnd : s.names.Nodup) (hin : ∀ v ∈ s, v.2 ≠ .outside)
    {u : Text × Referent} (hu : u ∈ s ∨ u.2 = .outside) :
    s.refer u.1 = u.2 ↔ (u.2 = .outside → u.1 ∉ s.names) := by
  rcases hu with hu | hu
  · refine ⟨fun _ he => absurd he (hin u hu), fun _ => ?_⟩
    rw [refer, lookup_of_mem hnd hu, Option.getD_some]
  · rw [hu]
    constructor
    · rintro h _ hmem
      obtain ⟨v, hv, hvu⟩ := List.mem_map.1 hmem
      rw [refer, ← hvu, lookup_of_mem hnd hv, Option.getD_some] at h
      exact hin v hv h
    · intro h
      have hnone : s.lookup u.1 = none := List.lookup_eq_none_iff.2 fun v hv =>
        bne_iff_ne.2 fun he => h rfl (he ▸ List.mem_map_of_mem hv)
      rw [refer, hnone, Option.getD_none]

/-! ## bridges -/

namespace Plan

/-- the scope of a bridge: its parameters -/
def paramScope (p : Plan) : Scope := p.params.zipIdx.map fun q => (q.1.name, .param q.2)

/-- the scope of the branch that fills a context: there, the context is declared as well -/
def contextScope (p : Plan) : Scope := ("s", .context) :: p.paramScope

/-- the names that the bridge uses before and in the branch for a running coroutine, with what is
meant by them -/
def directUses (p : Plan) : Scope :=
  ("qemu_in_coroutine", .outside) :: (p.coroutine, .outside) :: p.paramScope

/-- the names that the bridge uses to fill a context and to create the coroutine, with what is meant
by them -/
def fillUses (p : Plan) : Scope :=
  (p.context, .outside) :: ("s", .context) :: (p.subject, .param 0) :: ("true", .outside)
    :: (p.paramScope
      ++ ([("s", .context), ("qemu_coroutine_create", .outside), (p.entry, .outside),
        ("s", .context)] : Scope))

/-- the names that the bridge uses to wait for the coroutine, with what is meant by them -/
def pollUses : Scope := [("bdrv_poll_co", .outside), ("s", .context)]

/-- the names that the bridge uses in the branch that fills a context, with what is meant by them -/
def contextUses (p : Plan) : Scope := p.fillUses ++ pollUses

theorem names_paramScope (p : Plan) : p.paramScope.names = p.params.map Param.name := by
  have hnames : (Prod.fst ∘ fun q : Param × Nat => (q.1.name, Referent.param q.2))
      = Param.name ∘ Prod.fst := rfl
  rw [Scope.names, paramScope, List.map_map, hnames, ← List.map_map, List.zipIdx_map_fst]

theorem ne_outside_of_mem_paramScope (p : Plan) : ∀ v ∈ p.paramScope, v.2 ≠ .outside :=
  List.forall_mem_map.2 fun _ _ => Referent.noConfusion

theorem ne_outside_of_mem_contextScope (p : Plan) : ∀ v ∈ p.contextScope, v.2 ≠ .outside :=
  List.forall_mem_cons.2 ⟨Referent.noConfusion, p.ne_outside_of_mem_paramScope⟩

end Plan

namespace Planned
variable {d : Decl} {p : Plan}

theorem nodup_paramScope (h : Planned d p) : p.paramScope.names.Nodup := by
  rw [p.names_paramScope, h.params_eq]
  exact h.nodup

theorem nodup_contextScope (h : Planned d p) : p.contextScope.names.Nodup := by
  refine List.nodup_cons.2 ⟨fun hs => ?_, h.nodup_paramScope⟩
  have hs : ("s" : Text) ∈ p.paramScope.names := hs
  rw [p.names_paramScope, h.params_eq] at hs
  obtain ⟨q, hq, hname⟩ := List.mem_map.1 hs
  exact h.free q hq (by rw [hname]; decide)

theorem mem_paramScope_subject (h : Planned d p) : (p.subject, .param 0) ∈ p.paramScope := by
  obtain ⟨q, qs, hparams, _, hsub⟩ := h.first
  rw [Plan.paramScope, h.params_eq, hparams, hsub, List.zipIdx_cons]
  exact List.mem_cons_self

/-- the type name of a coroutine -/
theorem exists_context_eq (h : Planned d p) : ∃ r, p.context = ("BdrvCo" : Text) ++ r := by
  obtain ⟨r, _, hco⟩ := h.stem
  refine ⟨camel r, ?_⟩
  rw [Plan.context, hco, camel, splitOn_coroutineStem]
  rfl

/-- what is said of a use in the branch for a running coroutine -/
theorem refer_directUses (h : Planned d p) : ∀ u ∈ p.directUses,
    p.paramScope.refer u.1 = u.2 ↔ (u.2 = .outside → u.1 ∉ d.params.map Param.name) := by
  intro u hu
  rw [← h.params_eq, ← p.names_paramScope]
  refine Scope.refer_iff h.nodup_paramScope p.ne_outside_of_mem_paramScope ?_
  rcases List.mem_cons.1 hu with rfl | hu
  · exact .inr rfl
  rcases List.mem_cons.1 hu with rfl | hu
  · exact .inr rfl
  exact .inl hu

/-- a name in the branch that fills a context, the entry point apart, is declared there or is meant
to be declared outside, and then it is not that of the context -/
theorem mem_contextUses (h : Planned d p) : ∀ u ∈ p.contextUses, u ≠ (p.entry, .outside) →
    u ∈ p.contextScope ∨ u.2 = .outside ∧ u.1 ≠ "s" := by
  have hs : (("s" : Text), Referent.context) ∈ p.contextScope := List.mem_cons_self
  have hparam : ∀ u ∈ p.paramScope, u ∈ p.contextScope := fun u hu => List.mem_cons_of_mem _ hu
  have hcontext : p.context ≠ "s" := by
    obtain ⟨r, hr⟩ := h.exists_context_eq
    rw [hr]
    exact fun he => absurd (List.cons.inj he).1 (by decide)
  simp only [Plan.contextUses, Plan.fillUses, Plan.pollUses, List.forall_mem_cons,
    List.forall_mem_append, List.not_mem_nil, false_implies, implies_true, and_true]
  refine ⟨⟨fun _ => .inr ⟨trivial, hcontext⟩, fun _ => .inl hs,
    fun _ => .inl (hparam _ h.mem_paramScope_subject), fun _ => .inr ⟨trivial, by decide⟩,
    fun u hu _ => .inl (hparam u hu), fun _ => .inl hs, fun _ => .inr ⟨trivial, by decide⟩,
    fun he => absurd rfl he, fun _ => .inl hs⟩, fun _ => .inr ⟨trivial, by decide⟩,
    fun _ => .inl hs⟩

/-- what is said of a use in the branch that fills a context; the entry point is left out -/
theorem refer_contextUses (h : Planned d p) : ∀ u ∈ p.contextUses, u ≠ (p.entry, .outside) →
    (p.contextScope.refer u.1 = u.2 ↔ (u.2 = .outside → u.1 ∉ d.params.map Param.name)) := by
  intro u hu hentry
  have hnames : p.contextScope.names = ("s" : Text) :: d.params.map Param.name := by
    rw [← h.params_eq, ← p.names_paramScope]
    rfl
  have huse := h.mem_contextUses u hu hentry
  have hrefer : u ∈ p.contextScope ∨ u.2 = .outside := huse.imp_right And.left
  rw [Scope.refer_iff h.nodup_contextScope p.ne_outside_of_mem_contextScope hrefer, hnames]
  rcases huse with hin | ⟨_, hne⟩
  · have hout := p.ne_outside_of_mem_contextScope u hin
    exact ⟨fun _ he => absurd he hout, fun _ he => absurd he hout⟩
  · rw [List.mem_cons, not_or]
    exact ⟨fun hn he => (hn he).2, fun hn he => ⟨hne, hn he⟩⟩

end Planned

/-! ## blocks -/

/-- the line that opens the branch of a bridge that fills a context -/
def elseLine : Text := "    \x7d else \x7b"

/-- the lines of a block from the first branch of its bridge on -/
def branchLines (block : Text) : List Text :=
  (block.splitOn '\n').dropWhile (· != branchLine)

/-- the identifiers that the bridge in a block uses before and in the branch for a running
coroutine, in order -/
def directIdentifiers (block : Text) : List Text :=
  withoutKeywords (((branchLines block).takeWhile (· != elseLine)).flatMap words)

/-- the identifiers that the bridge in a block uses in the branch that fills a context, in order -/
def contextIdentifiers (block : Text) : List Text :=
  withoutKeywords (((branchLines block).dropWhile (· != elseLine)).flatMap words)

/-- the value of an initialiser has all words that count, if its field is a member -/
theorem words_initLine {f v : Text} (hf : wordsFrom '.' [] f = []) :
    words (Plan.initLine (f, v)) = wordsFrom ' ' [] v := by
  have hlead : words "            ." = [] := by rfl
  have hequals : words " = " = [] := by rfl
  have hcomma : words "," = [] := by rfl
  have hlast : ("            ." ++ f ++ " = ").getLast? = some ' ' := by
    rw [List.getLast?_append]
    rfl
  unfold Plan.initLine
  rw [words, wordsFrom_append_of_head? (e := ',') rfl (by decide), hcomma, List.append_nil,
    ← words, words_append_of_getLast? hlast (by decide), words,
    wordsFrom_append_of_head? (e := ' ') rfl (by decide), hequals, ← words,
    words_append_of_getLast? (c := '.') rfl (by decide), hlead, hf]
  rfl

namespace Planned
variable {d : Decl} {p : Plan}

theorem isWord_of_mem_params (h : Planned d p) (hd : d.Found) : ∀ q ∈ p.params, IsWord q.name :=
  fun q hq => isWord_of_isName (hd.written q (h.params_eq ▸ hq)).name_isName

theorem isWord_coroutine (h : Planned d p) (hd : d.Found) : IsWord p.coroutine := by
  obtain ⟨r, _, hco⟩ := h.stem
  have hchars := h.mem_coroutine hd
  refine isWord_of_isName ?_
  rw [hco] at hchars ⊢
  exact Bool.and_eq_true_iff.2 ⟨rfl, List.all_eq_true.2 (List.forall_mem_cons.1 hchars).2⟩

theorem isWord_entry (h : Planned d p) (hd : d.Found) : IsWord p.entry := by
  obtain ⟨r, _, hco⟩ := h.stem
  have hentry : ("_entry" : Text).all isWordPart = true := by rfl
  refine ⟨?_, List.forall_mem_append.2 ⟨(h.isWord_coroutine hd).chars, List.all_eq_true.1 hentry⟩⟩
  rw [Plan.entry, hco]
  rfl

theorem isWord_context (h : Planned d p) (hd : d.Found) : IsWord p.context := by
  obtain ⟨r, hr⟩ := h.exists_context_eq
  constructor
  · rw [hr]
    rfl
  · intro c hc
    rw [isWordPart, isAlphanum_of_mem_camel (h.mem_coroutine hd) c hc]
    rfl

/-- the line that calls the coroutine with the parameters of the bridge -/
theorem words_callLine (h : Planned d p) (hd : d.Found) :
    words ("        return " ++ p.coroutine ++ ['('] ++ Plan.commas p.directArgs ++ [')', ';'])
      = ("return" : Text) :: p.coroutine :: p.directArgs := by
  have hargs : ∀ a ∈ p.directArgs, IsWord a := List.forall_mem_map.2 (h.isWord_of_mem_params hd)
  have hreturn : words "        return " = [("return" : Text)] := by rfl
  have hend : words [')', ';'] = [] := by rfl
  have hlast : ("        return " ++ p.coroutine ++ ['(']).getLast? = some '(' :=
    List.getLast?_concat
  rw [words, wordsFrom_append_of_head? (e := ')') rfl (by decide), ← words,
    words_append_of_getLast? hlast (by decide), wordsFrom_commas hargs (by decide) (by decide),
    words_append_append (h.isWord_coroutine hd) (c := ' ') rfl (by decide) (e := '(') rfl
      (by decide), hreturn, hend, List.append_nil]
  rfl

/-- the line that declares the context -/
theorem words_contextLine (h : Planned d p) (hd : d.Found) :
    words ("        " ++ p.context ++ " s = \x7b") = [p.context, "s"] := by
  have hindent : words "        " = [] := by rfl
  have hself : words " s = \x7b" = [("s" : Text)] := by rfl
  rw [words_append_append (h.isWord_context hd) (c := ' ') rfl (by decide) (e := ' ') rfl
    (by decide), hindent, hself]
  rfl

/-- the line that names the block driver state -/
theorem words_ownerLine (h : Planned d p) (hd : d.Found) :
    words (Plan.initLine ("poll_state.bs", p.owner)) = [p.subject] := by
  obtain ⟨q, qs, hparams, _, hsub⟩ := h.first
  have hword : IsWord p.subject := hsub ▸
    h.isWord_of_mem_params hd q (by rw [h.params_eq, hparams]; exact List.mem_cons_self)
  have hsubject : wordsFrom ' ' [] p.subject = [p.subject] :=
    hword.wordsFrom (by decide) (by decide)
  rw [words_initLine (by rfl), Plan.owner]
  cases p.handle with
  | direct => exact hsubject
  | child =>
    have hmember : wordsFrom '-' [] ['>', 'b', 's'] = [] := by rfl
    have hcat : Handle.child.owner p.subject = p.subject ++ '-' :: ['>', 'b', 's'] := rfl
    rw [hcat, wordsFrom_append_cons (by decide), hsubject, hmember, List.append_nil]

theorem words_paramInits (h : Planned d p) (hd : d.Found) :
    (p.paramInits.map Plan.initLine).flatMap words = p.params.map Param.name := by
  have hinit : ∀ q ∈ p.params, words (Plan.initLine (q.name, q.name)) = [q.name] := by
    intro q hq
    have hword := h.isWord_of_mem_params hd q hq
    rw [words_initLine hword.wordsFrom_point, hword.wordsFrom (by decide) (by decide)]
  rw [Plan.paramInits, List.map_map, List.flatMap_map, List.map_eq_flatMap]
  exact List.flatMap_congr hinit

/-- the line that creates the coroutine -/
theorem words_createLine (h : Planned d p) (hd : d.Found) :
    words ("        s.poll_state.co = qemu_coroutine_create(" ++ p.entry ++ ", &s);")
      = [("s" : Text), "qemu_coroutine_create", p.entry, "s"] := by
  have hcreate : words "        s.poll_state.co = qemu_coroutine_create("
      = [("s" : Text), "qemu_coroutine_create"] := by rfl
  have hself : words ", &s);" = [("s" : Text)] := by rfl
  rw [words_append_append (h.isWord_entry hd) (c := '(') rfl (by decide) (e := ',') rfl
    (by decide), hcreate, hself]
  rfl

theorem words_bridgeTail (h : Planned d p) (hd : d.Found) :
    p.bridgeTail.flatMap words
      = [("s" : Text), "qemu_coroutine_create", p.entry, "s"]
        ++ ("return" : Text) :: Plan.pollUses.names := by
  have hclose : words "        \x7d;" = [] := by rfl
  have hpoll : words "        return bdrv_poll_co(&s.poll_state);"
      = [("return" : Text), "bdrv_poll_co", "s"] := by rfl
  have hend : words "    \x7d" = [] := by rfl
  rw [Plan.bridgeTail]
  simp only [List.flatMap_cons, List.flatMap_nil, h.words_createLine hd, hclose, hpoll, hend]
  rfl

/-- the lines of a block from the branch on, cut where the other one begins -/
theorem branchLines_block (h : Planned d p) (hd : d.Found) : branchLines p.block
    = [branchLine,
        "        return " ++ p.coroutine ++ ['('] ++ Plan.commas p.directArgs ++ [')', ';']]
      ++ elseLine :: ("        " ++ p.context ++ " s = \x7b")
        :: (p.pollInits.map Plan.initLine ++ [] :: (p.paramInits.map Plan.initLine
          ++ p.bridgeTail)) := by
  rw [branchLines, h.splitOn_block hd, dropWhile_lines]
  unfold Plan.linesBelow Plan.bridgeHead
  simp only [List.tail_cons, List.drop_succ_cons, List.drop_zero, List.append_assoc,
    List.cons_append, List.nil_append]
  rfl

theorem ne_elseLine (p : Plan) : ∀ l ∈ [branchLine,
    "        return " ++ p.coroutine ++ ['('] ++ Plan.commas p.directArgs ++ [')', ';']],
    (l != elseLine) = true := by
  refine List.forall_mem_cons.2 ⟨by decide, List.forall_mem_singleton.2 ?_⟩
  rfl

theorem stopsAt_elseLine (ls : List Text) : StopsAt (· != elseLine) (elseLine :: ls) :=
  stopsAt_cons (by simp) ls

/-- the identifiers in the branch for a running coroutine are the names that the plan has there -/
theorem directIdentifiers_block (h : Planned d p) (hd : d.Found) :
    directIdentifiers p.block = withoutKeywords p.directUses.names := by
  have hbranch : words branchLine = [("if" : Text), "qemu_in_coroutine"] := by rfl
  have hif : ("if" : Text) ∈ keywords := by decide
  have hnames : p.directUses.names
      = [("qemu_in_coroutine" : Text)] ++ p.coroutine :: p.directArgs := by
    rw [Plan.directArgs, ← p.names_paramScope]
    rfl
  have hwords : ([branchLine,
      "        return " ++ p.coroutine ++ ['('] ++ Plan.commas p.directArgs ++ [')', ';']]).flatMap
        words = [] ++ ("if" : Text) :: ([("qemu_in_coroutine" : Text)]
          ++ ("return" : Text) :: p.coroutine :: p.directArgs) := by
    rw [List.flatMap_cons, List.flatMap_singleton, hbranch, h.words_callLine hd]
    rfl
  rw [directIdentifiers, h.branchLines_block hd,
    takeWhile_append_of_stopsAt (ne_elseLine p) (stopsAt_elseLine _), hwords, hnames,
    withoutKeywords_append_cons hif, List.nil_append,
    withoutKeywords_append_cons return_mem_keywords]

/-- the identifiers in the branch that fills a context are the names that the plan has there -/
theorem contextIdentifiers_block (h : Planned d p) (hd : d.Found) :
    contextIdentifiers p.block = withoutKeywords p.contextUses.names := by
  have helse : words elseLine = [("else" : Text)] := by rfl
  have hnil : words [] = [] := by rfl
  have hprogress : words (Plan.initLine ("poll_state.in_progress", "true"))
      = [("true" : Text)] := by rfl
  have hkelse : ("else" : Text) ∈ keywords := by decide
  have hnames : p.fillUses.names = p.context :: ("s" : Text) :: p.subject :: ("true" : Text)
      :: (p.params.map Param.name ++ [("s" : Text), "qemu_coroutine_create", p.entry, "s"]) := by
    rw [← p.names_paramScope]
    simp only [Scope.names, Plan.fillUses, List.map_cons, List.map_append, List.map_nil]
  have huses : p.contextUses.names = p.fillUses.names ++ Plan.pollUses.names := List.map_append
  have hwords : (elseLine :: ("        " ++ p.context ++ " s = \x7b")
      :: (p.pollInits.map Plan.initLine ++ [] :: (p.paramInits.map Plan.initLine
        ++ p.bridgeTail))).flatMap words
      = [] ++ ("else" : Text) :: (p.fillUses.names ++ ("return" : Text) :: Plan.pollUses.names) := by
    simp only [List.flatMap_cons, List.flatMap_append, Plan.pollInits, List.map_cons, List.map_nil,
      helse, hnil, hprogress, h.words_contextLine hd, h.words_ownerLine hd, h.words_paramInits hd,
      h.words_bridgeTail hd, hnames]
    simp only [List.flatMap_nil, List.cons_append, List.nil_append, List.append_assoc]
  rw [contextIdentifiers, h.branchLines_block hd,
    dropWhile_append_of_stopsAt (ne_elseLine p) (stopsAt_elseLine _), hwords, huses,
    withoutKeywords_append_cons hkelse, List.nil_append,
    withoutKeywords_append_cons return_mem_keywords]

/-- the type of the context has the name of no parameter: names have no capitals -/
theorem context_not_mem_names (h : Planned d p) (hd : d.Found) :
    p.context ∉ d.params.map Param.name := by
  intro hmem
  obtain ⟨q, hq, hname⟩ := List.mem_map.1 hmem
  obtain ⟨r, hr⟩ := h.exists_context_eq
  have hB : 'B' ∈ q.name := by
    rw [hname, hr]
    exact List.mem_cons_self
  exact absurd ((hd.written q hq).mem_name hB) (by decide)

end Planned

/-- **What the identifiers in a bridge refer to.**  In a declaration that keeps the rules the names of
the parameters are distinct, and none of them is that of the context or of its first field.  So in
the body of the bridge the name of a parameter always refers to it, and that of the context to the
context.  A name that is meant to be declared outside of the bridge does so if and only if no
parameter has it; nothing is said here of the entry point.  The body of the bridge in the block of a
declaration that was found in a text has these identifiers and no others, and no parameter has the
name of the type that the block defines. -/
theorem identifiers_refer {d : Decl} {p : Plan} (hp : d.plan = .ok p) :
    ((d.params.map Param.name).Nodup ∧ ∀ q ∈ d.params, q.name ≠ "s" ∧ q.name ≠ "poll_state") ∧
    (∀ u ∈ p.directUses,
      p.paramScope.refer u.1 = u.2 ↔ (u.2 = .outside → u.1 ∉ d.params.map Param.name)) ∧
    (∀ u ∈ p.contextUses, u ≠ (p.entry, .outside) →
      (p.contextScope.refer u.1 = u.2 ↔ (u.2 = .outside → u.1 ∉ d.params.map Param.name))) ∧
    ∀ t, .ok d ∈ Marker.wrapper.decls t →
      directIdentifiers p.block = withoutKeywords p.directUses.names ∧
      contextIdentifiers p.block = withoutKeywords p.contextUses.names ∧
      p.context ∉ d.params.map Param.name := by
  have h := Decl.plan_eq_ok_iff.1 hp
  have hfree : ∀ q ∈ d.params, q.name ≠ "s" ∧ q.name ≠ "poll_state" := fun q hq => by
    simpa [reservedNames] using h.free q hq
  refine ⟨⟨h.nodup, hfree⟩, h.refer_directUses, h.refer_contextUses, fun t ht => ?_⟩
  have hd := Marker.found_of_mem_decls ht
  exact ⟨h.directIdentifiers_block hd, h.contextIdentifiers_block hd, h.context_not_mem_names hd⟩

/-- a text that declares one bridge, with a parameter that hides a function which the bridge calls -/
def hidingText : Text :=
  "int generated_co_wrapper bdrv_flush(BlockDriverState *bs, int qemu_in_coroutine);"

/-- the plan for that bridge -/
def hidingPlan : Plan :=
  ⟨⟨"int", "bdrv_flush", [⟨"BlockDriverState *bs", "BlockDriverState *", "bs"⟩,
    ⟨"int qemu_in_coroutine", "int ", "qemu_in_coroutine"⟩]⟩, "bdrv_co_flush", .direct, "bs"⟩

theorem plan_hidingPlan : hidingPlan.wrapper.plan = .ok hidingPlan := by rfl

theorem decls_hidingText : Marker.wrapper.decls hidingText = [.ok hidingPlan.wrapper] := by rfl

theorem identifiers_refer_hidingPlan :
    hidingPlan.wrapper.plan = .ok hidingPlan ∧
    ((hidingPlan.wrapper.params.map Param.name).Nodup ∧
      ∀ q ∈ hidingPlan.wrapper.params, q.name ≠ "s" ∧ q.name ≠ "poll_state") ∧
    (∀ u ∈ hidingPlan.directUses, hidingPlan.paramScope.refer u.1 = u.2
      ↔ (u.2 = .outside → u.1 ∉ hidingPlan.wrapper.params.map Param.name)) ∧
    (∀ u ∈ hidingPlan.contextUses, u ≠ (hidingPlan.entry, .outside) →
      (hidingPlan.contextScope.refer u.1 = u.2
        ↔ (u.2 = .outside → u.1 ∉ hidingPlan.wrapper.params.map Param.name))) ∧
    ∀ t, .ok hidingPlan.wrapper ∈ Marker.wrapper.decls t →
      directIdentifiers hidingPlan.block = withoutKeywords hidingPlan.directUses.names ∧
      contextIdentifiers hidingPlan.block = withoutKeywords hidingPlan.contextUses.names ∧
      hidingPlan.context ∉ hidingPlan.wrapper.params.map Param.name :=
  ⟨plan_hidingPlan, identifiers_refer plan_hidingPlan⟩

/-- the rules for bridges let a parameter have the name of a function that the bridge calls; in the
bridge, the name refers to the parameter -/
theorem hidden_qemu_in_coroutine :
    .ok hidingPlan.wrapper ∈ Marker.wrapper.decls hidingText ∧
    hidingPlan.wrapper.plan = .ok hidingPlan ∧
    ("qemu_in_coroutine" : Text) ∈ hidingPlan.wrapper.params.map Param.name ∧
    ("qemu_in_coroutine" : Text) ∈ directIdentifiers hidingPlan.block ∧
    (("qemu_in_coroutine" : Text), Referent.outside) ∈ hidingPlan.directUses ∧
    hidingPlan.paramScope.refer "qemu_in_coroutine" = .param 1 := by
  have hmem : .ok hidingPlan.wrapper ∈ Marker.wrapper.decls hidingText := by
    rw [decls_hidingText]
    exact List.mem_cons_self
  have hd := Marker.found_of_mem_decls hmem
  have h := Decl.plan_eq_ok_iff.1 plan_hidingPlan
  have hread : ("qemu_in_coroutine" : Text) ∈ directIdentifiers hidingPlan.block := by
    rw [h.directIdentifiers_block hd]
    decide
  exact ⟨hmem, plan_hidingPlan, by decide, hread, List.mem_cons_self, by rfl⟩

end CoroBridge
