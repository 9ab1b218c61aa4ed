import TemplateLint.Proofs.Fixing
import TemplateLint.Proofs.Muting
/-!
# Settling — one pass of fixing is enough

What a pass leaves is what comments mute, and it stays muted in the text
that the pass gives back. So the next pass finds nothing to fix, and what
is on the lines of the text is as it was (`Linter.autofix_settles`).
-/

namespace TemplateLint

namespace Linter

open Text Newlines

variable {l : Linter} {s t : Text} {fileName : Option String}

/-! ## What is left to the rules about newlines -/

/-- The document that a linter with the library's parser reads, or with
none. -/
def document (l : Linter) (source : Text) : Document :=
  if l.parse.isSome then .parse source else .ofText source

@[simp] theorem source_document (l : Linter) (source : Text) :
    (l.document source).source = source := by
  unfold document
  split <;> rfl

theorem read?_eq (hparse : l.parse = none ∨ l.parse = some fun source => .ok (.parse source))
    (source : Text) : l.read? source = .ok (l.document source) := by
  rcases hparse with hparse | hparse <;> rw [read?, document, hparse] <;> rfl

/-- **An offense is left to its rule if no comment mutes it**, whatever its
severity. -/
theorem left_iff {o : Offense} {name : String} (severity : Severity) (hname : o.rule = name)
    (hrule : ¬ DisableComments.namePrefix.toList <+: name.toList) :
    (l.ignoresComments ∨ ¬ (l.document s).Suppresses l.scope (o.bind severity)) ↔
      ¬ l.Mutes s name o.start.line := by
  subst hname
  rw [← rule_bind o severity] at hrule
  rw [← rule_bind o severity, ← start_bind o severity]
  unfold Mutes
  cases hparse : l.parse.isSome with
  | false =>
    rw [document, hparse]
    simp [Document.not_suppresses_ofText]
  | true =>
    rw [document, hparse, if_pos rfl, Document.suppresses_parse_iff]
    cases l.ignoresComments with
    | true => simp
    | false => simp [hrule, Offense.start]

/-- Whether a rule about newlines is active does not depend on the document. -/
theorem isActive_congr {b : BoundRule} (hb : b.rule = blankLines ∨ b.rule = endOfFile)
    (d d' : Document) (context : Context) : isActive d context b = isActive d' context b := by
  rcases hb with hb | hb
  · simp [isActive, hasInput, hb, Rule.isWilling, blankLines]
  · simp [isActive, hasInput, hb, Rule.isWilling, endOfFile]

section Kept

variable (p : l.Lineup) {context : Context}

theorem offensesOf_blank (s : Text) :
    offensesOf (l.document s) context p.blank =
      offensesAt s p.blank.settings.severity (excess s) := by
  have hcheck : p.blank.rule.check (p.blank.rule.input (l.document s)) context =
      .ok (blankLinesOffenses s) := by
    rw [p.blank_rule]
    exact congrArg (fun t => Except.ok (blankLinesOffenses t)) (source_document l s)
  rw [offensesOf, hcheck]
  exact List.map_map

theorem offensesOf_last (s : Text) :
    offensesOf (l.document s) context p.last =
      (if context.fileName.isSome then endOfFileOffenses s else []).map fun o =>
        o.bind p.last.settings.severity := by
  have hcheck : p.last.rule.check (p.last.rule.input (l.document s)) context =
      .ok (if context.fileName.isSome then endOfFileOffenses s else []) := by
    rw [p.last_rule]
    exact congrArg
      (fun t => Except.ok (if context.fileName.isSome then endOfFileOffenses t else []))
      (source_document l s)
  rw [offensesOf, hcheck]

/-- The offense of a range is left to its rule if it is not muted. -/
theorem left_blank_iff (s : Text) (severity : Severity) (range : Nat × Nat) :
    (l.ignoresComments ∨ ¬ (l.document s).Suppresses l.scope
      ((blankLinesOffense s range.1 range.2).bind severity)) ↔
      ¬ l.Mutes s blankLinesName ((s.take range.1).count '\n' + 1) := by
  rw [left_iff severity (reportedBy_blankLinesOffense _ _ _).1 (by decide), line_blankLinesOffense]

/-- The offense at the end is left to its rule if it is not muted. -/
theorem left_last_iff {s : Text} {o : Offense} (severity : Severity)
    (ho : o ∈ endOfFileOffenses s) :
    (l.ignoresComments ∨ ¬ (l.document s).Suppresses l.scope (o.bind severity)) ↔
      ¬ l.Mutes s endOfFileName (s.count '\n' + 1) := by
  rw [left_iff severity (reportedBy_endOfFile ho).1 (by decide), line_of_mem_endOfFileOffenses ho]

/-- The offenses of the part of a text in which none is muted are left. -/
theorem kept_blank_of_split {x y : Text} (hy : y.head? ≠ some '\n')
    (hactive : isActive (l.document (x ++ y)) context p.blank)
    (hsplit : ∀ range ∈ excess (x ++ y),
      l.Mutes (x ++ y) blankLinesName (((x ++ y).take range.1).count '\n' + 1) ↔
        x.length < range.1) :
    kept l (l.document (x ++ y)) context p.blank =
      offensesAt (x ++ y) p.blank.settings.severity (excessAt 0 x) := by
  have hexcess : excess (x ++ y) = excessAt 0 x ++ excessAt x.length y := by
    rw [excess, ← excessAt, excessAt_append hy, Nat.zero_add]
  -- Of the ranges in `x` none is muted, of those in `y` all are.
  rw [hexcess] at hsplit
  rw [kept, if_pos hactive, offensesOf_blank, offensesAt, hexcess, List.map_append,
    List.filter_append, List.filter_eq_self.2, List.filter_eq_nil_iff.2, List.append_nil,
    offensesAt]
  · intro o ho
    obtain ⟨range, hrange, rfl⟩ := List.mem_map.1 ho
    rw [decide_eq_true_iff, left_blank_iff, not_not, hsplit range (List.mem_append_right _ hrange)]
    exact (lt_of_mem_excessAt hrange).1
  · intro o ho
    obtain ⟨range, hrange, rfl⟩ := List.mem_map.1 ho
    have hend := (lt_of_mem_excessAt hrange).2
    rw [decide_eq_true_iff, left_blank_iff, hsplit range (List.mem_append_left _ hrange)]
    omega

theorem kept_blank_eq_nil {s : Text}
    (h : isActive (l.document s) context p.blank → l.MutesExcess s) :
    kept l (l.document s) context p.blank = [] := by
  rw [kept]
  split
  · rename_i hactive
    rw [offensesOf_blank, List.filter_eq_nil_iff]
    intro o ho
    obtain ⟨range, hrange, rfl⟩ := List.mem_map.1 ho
    rw [decide_eq_true_iff, left_blank_iff, not_not]
    exact h hactive range hrange
  · rfl

theorem kept_last_eq_nil_iff {s : Text} :
    kept l (l.document s) context p.last = [] ↔
      (isActive (l.document s) context p.last → context.fileName.isSome →
        endOfFileOffenses s = [] ∨ l.Mutes s endOfFileName (s.count '\n' + 1)) := by
  rw [kept]
  by_cases hactive : isActive (l.document s) context p.last
  · by_cases hfile : context.fileName.isSome
    · rw [if_pos hactive, offensesOf_last, if_pos hfile, List.filter_eq_nil_iff]
      constructor
      · intro h _ _
        rw [or_iff_not_imp_left]
        intro hne
        obtain ⟨o, ho⟩ := List.exists_mem_of_ne_nil _ hne
        have hleft := h _ (List.mem_map_of_mem ho)
        rwa [decide_eq_true_iff, left_last_iff _ ho, not_not] at hleft
      · intro h o ho
        obtain ⟨found, hfound, rfl⟩ := List.mem_map.1 ho
        rw [decide_eq_true_iff, left_last_iff _ hfound, not_not]
        exact (h hactive hfile).resolve_left (List.ne_nil_of_mem hfound)
    · simp [hactive, offensesOf_last, hfile]
  · simp [hactive]

/-- There is at most one offense at the end. -/
theorem kept_last_eq (context : Context) (s : Text) :
    kept l (l.document s) context p.last = [] ∨
      ∃ o, kept l (l.document s) context p.last = [o] ∧ endOfFileOffenses s ≠ [] := by
  have hlength : (kept l (l.document s) context p.last).length ≤ 1 := by
    rw [kept]
    split
    · refine (List.length_filter_le _ _).trans ?_
      rw [offensesOf_last, List.length_map]
      split
      · exact length_endOfFileOffenses s
      · exact Nat.zero_le 1
    · exact Nat.zero_le 1
  rcases hkept : kept l (l.document s) context p.last with _ | ⟨o, _ | ⟨o', rest⟩⟩
  · exact .inl rfl
  · refine .inr ⟨o, rfl, fun hnone => ?_⟩
    have hnil : kept l (l.document s) context p.last = [] :=
      (kept_last_eq_nil_iff p).2 fun _ _ => .inl hnone
    rw [hkept] at hnil
    cases hnil
  · rw [hkept] at hlength
    simp at hlength

end Kept

/-! ## The two phases of a pass -/

/-- What the first fixer makes of a text, if its rule is active: the shape is
as it was, what is too much still is muted, and the end of the file is as
much in order, or as much muted, as it was. -/
structure Squeezed (l : Linter) (active : Prop) (s t : Text) : Prop where
  shape_eq : shape t = shape s
  mutes : active → l.MutesExcess t
  orderly : endOfFileOffenses s = [] → endOfFileOffenses t = []
  muted : l.Mutes s endOfFileName (s.count '\n' + 1) →
    l.Mutes t endOfFileName (t.count '\n' + 1)

/-- A text is settled if nothing is left to the rules about newlines. -/
structure Settled (p : l.Lineup) (context : Context) (t : Text) : Prop where
  blank : kept l (l.document t) context p.blank = []
  last : kept l (l.document t) context p.last = []

section Phases

variable (p : l.Lineup) {context : Context} {state : FixState Text}

theorem squeezed_fixGroup (hs : state.input = s) :
    Squeezed l (isActive (l.document s) context p.blank) s
      (fixGroup .text takeText context state
        ⟨p.blank, kept l (l.document s) context p.blank⟩).input := by
  by_cases hactive : isActive (l.document s) context p.blank
  · obtain ⟨x, y, rfl, hy, hsplit, hend⟩ := exists_split l s
    rw [kept_blank_of_split p hy hactive hsplit, input_fixGroup_blankLines p.blank_rule hy _ hs]
    exact ⟨shape_squeeze_append x y, fun _ => mutesExcess_squeeze hy hend,
      endOfFileOffenses_squeeze_append hy, Mutes.squeeze_append⟩
  · rw [kept, if_neg hactive, fixGroup_nil, hs]
    exact ⟨rfl, fun h => absurd h hactive, id, id⟩

/-- **After both fixers nothing is left to either rule**, and the text has the
shape it had. -/
theorem settled_fixGroup (h : Squeezed l (isActive (l.document s) context p.blank) s t)
    (ht : state.input = t) :
    let result := (fixGroup .text takeText context state
      ⟨p.last, kept l (l.document s) context p.last⟩).input
    shape result = shape s ∧ Settled p context result := by
  intro result
  have hactive : ∀ t, isActive (l.document t) context p.blank =
      isActive (l.document s) context p.blank := fun t =>
    isActive_congr (.inl p.blank_rule) _ _ context
  have hactive' : ∀ t, isActive (l.document t) context p.last =
      isActive (l.document s) context p.last := fun t =>
    isActive_congr (.inr p.last_rule) _ _ context
  rcases kept_last_eq p context s with hnone | ⟨o, hone, hne⟩
  · -- The second fixer is not called: what it left alone is left alone again.
    have hresult : result = t := by rw [← ht, ← fixGroup_nil p.last state, ← hnone]
    rw [hresult]
    refine ⟨h.shape_eq, kept_blank_eq_nil p fun hblank => h.mutes (hactive t ▸ hblank),
      (kept_last_eq_nil_iff p).2 fun hlast hfile => ?_⟩
    rcases (kept_last_eq_nil_iff p).1 hnone (hactive' t ▸ hlast) hfile with hnil | hmuted
    · exact .inl (h.orderly hnil)
    · exact .inr (h.muted hmuted)
  · -- It is: the text ends with one newline behind something else.
    have hink : ink t ≠ 0 := by
      rw [← ink_shape, h.shape_eq, ink_shape]
      exact fun hink => hne (endOfFileOffenses_eq_nil_iff.2 (.inl hink))
    obtain ⟨body, c, count, rfl, hc⟩ := exists_append_newlines hink
    have hresult : result = body ++ [c] ++ ['\n'] := by
      have hfix : (fixOne .text takeText context p.last state o).input =
          (endWithNewline? state.input).getD state.input := input_fixOne_endOfFile p.last_rule o
      rw [ht, endWithNewline?_append body hc count] at hfix
      rw [← fixGroup_singleton, ← hone] at hfix
      exact hfix
    rw [hresult]
    refine ⟨?_, kept_blank_eq_nil p fun hblank => ?_, (kept_last_eq_nil_iff p).2 fun _ _ => ?_⟩
    · rw [← h.shape_eq, shape_append_newlines body hc count, List.append_assoc]
      exact shape_append_newlines body hc 1
    · exact (h.mutes (hactive _ ▸ hblank)).append_newline hc
    · exact .inl (endOfFileOffenses_eq_nil_iff.2 (.inr ⟨body, c, rfl, hc⟩))

end Phases

/-! ## One pass, and the next -/

/-- Linting reports nothing about newlines. -/
def Quiet (l : Linter) (d : Document) (fileName : Option String) : Prop :=
  ∀ o ∈ (l.lint d fileName []).offenses, IsOther o

theorem quiet_of_isExcluded {d : Document} (hexcluded : isExcluded d) : l.Quiet d fileName := by
  intro o ho
  rw [lint, if_pos hexcluded] at ho
  cases ho

theorem RunsBuiltins.quiet_of_settled (h : l.RunsBuiltins) (p : l.Lineup)
    (hsettled : Settled p (l.context fileName []) t) : l.Quiet (l.document t) fileName := by
  by_cases hexcluded : isExcluded (l.document t)
  · exact quiet_of_isExcluded hexcluded
  · obtain ⟨rest, hlint, hrest⟩ := h.offenses_lint p hexcluded
    intro o ho
    rw [hlint, hsettled.blank, hsettled.last] at ho
    exact hrest o ho

/-- **A pass over a quiet document does nothing.** -/
theorem RunsBuiltins.autofix_of_quiet (h : l.RunsBuiltins) {d : Document}
    (hquiet : l.Quiet d fileName) :
    (l.autofix d fileName []).source = d.source ∧ (l.autofix d fileName []).fixed = [] ∧
      (l.lint? d fileName [] = .ok (l.lint d fileName []) →
        l.autofix? d fileName [] = .ok (l.autofix d fileName [])) := by
  obtain ⟨p⟩ := h.nonempty_lineup
  have hlint : (l.lint d fileName []).offenses =
      [] ++ ([] ++ (l.lint d fileName []).offenses) := rfl
  obtain ⟨state, hinput, hfixed, hsource, hresult, hok⟩ :=
    h.autofix_eq p hlint nofun nofun hquiet
  rw [fixGroup_nil, fixGroup_nil] at hsource hresult
  exact ⟨hsource.trans hinput, hresult.trans hfixed, hok⟩

/-- **A pass leaves a quiet text**, of the shape that the text had. -/
theorem RunsBuiltins.quiet_autofix (h : l.RunsBuiltins) (s : Text) (fileName : Option String) :
    let result := l.autofix (l.document s) fileName []
    shape result.source = shape s ∧ l.Quiet (l.document result.source) fileName ∧
      (isExcluded (l.document s) → result.source = s) := by
  intro result
  obtain ⟨p⟩ := h.nonempty_lineup
  by_cases hexcluded : isExcluded (l.document s)
  · have hsame : result.source = s :=
      (h.autofix_of_quiet (quiet_of_isExcluded hexcluded)).1.trans (source_document l s)
    rw [hsame]
    exact ⟨rfl, quiet_of_isExcluded hexcluded, fun _ => rfl⟩
  · obtain ⟨state, hinput, hsource, -⟩ := h.autofix_kept p fileName [] hexcluded
    obtain ⟨hshape, hsettled⟩ := settled_fixGroup p
      (squeezed_fixGroup p (hinput.trans (source_document l s))) rfl
    rw [← hsource] at hshape hsettled
    exact ⟨hshape, h.quiet_of_settled p hsettled, fun h => absurd h hexcluded⟩

/-! ## Breaking off -/

/-- Every enabled rule can say whether it applies to a file. -/
def Answers (l : Linter) (fileName : Option String) : Prop :=
  ∀ b ∈ l.rules, b.settings.isEnabled → (b.settings.appliesTo? fileName).isSome

theorem mem_disabled_iff {b : BoundRule} (hb : b ∈ l.rules) :
    b.name ∈ (l.context fileName []).disabled ↔ ¬ b.settings.isEnabled := by
  have hmem : b.name ∈ (l.context fileName []).disabled ↔
      ∃ b' ∈ l.rules, ¬ b'.settings.isEnabled ∧ b'.name = b.name := by
    simp [context, and_assoc]
  rw [hmem]
  constructor
  · rintro ⟨b', hb', hdisabled, hname⟩
    rwa [← List.inj_on_of_nodup_map l.distinct hb' hb hname]
  · exact fun hdisabled => ⟨b, hb, hdisabled, rfl⟩

/-- **Linting breaks off only where a rule cannot answer**, whatever the
document is. -/
theorem RunsBuiltins.lint?_ok_iff (h : l.RunsBuiltins) {d : Document} (included : ¬ isExcluded d) :
    l.lint? d fileName [] = .ok (l.lint d fileName []) ↔ l.Answers fileName := by
  rw [h.lint?_eq_ok_iff_applies included]
  refine forall₂_congr fun b hb => ?_
  rw [mem_disabled_iff hb, imp_iff_not_or]

theorem RunsBuiltins.lint?_of_answers (h : l.RunsBuiltins) (hanswers : l.Answers fileName)
    (d : Document) : l.lint? d fileName [] = .ok (l.lint d fileName []) := by
  by_cases hexcluded : isExcluded d
  · exact lint?_of_isExcluded hexcluded
  · exact (h.lint?_ok_iff hexcluded).2 hanswers

/-- A pass does not break off where linting does not. -/
theorem RunsBuiltins.autofix?_eq (h : l.RunsBuiltins) {d : Document}
    (hlint : l.lint? d fileName [] = .ok (l.lint d fileName [])) :
    l.autofix? d fileName [] = .ok (l.autofix d fileName []) := by
  obtain ⟨p⟩ := h.nonempty_lineup
  by_cases hexcluded : isExcluded d
  · exact (h.autofix_of_quiet (quiet_of_isExcluded hexcluded)).2.2 hlint
  · obtain ⟨_, _, _, hfix⟩ := h.autofix_kept p fileName [] hexcluded
    exact hfix hlint

theorem lint?_of_autofix? {d : Document} {result : AutofixResult}
    (hresult : l.autofix? d fileName [] = .ok result) :
    l.lint? d fileName [] = .ok (l.lint d fileName []) := by
  simp only [autofix?, bind, Except.bind] at hresult
  split at hresult
  · cases hresult
  · rename_i linted hlinted
    rw [hlinted, eq_lint_of_lint? hlinted]

/-! ## Repeated passes -/

/-- If the pass after the first fixes nothing, repeated fixing ends at what the
first one gives. -/
theorem source_fixSource {first second : AutofixResult} {passes : Int}
    (hfirst : l.autofixSource? s fileName = .ok first) (hnone : first.fixed = [] → first.source = s)
    (hsecond : l.autofixSource? first.source fileName = .ok second) (hsettled : second.fixed = [])
    (hpasses : 1 ≤ passes) :
    (l.fixSource s fileName passes).source = first.source ∧
      (l.fixSource s fileName passes).failure = none := by
  -- The first pass is the last if it fixes nothing, or no other is allowed.
  rcases passes with (_ | count) | count
  · exact absurd hpasses (by decide)
  · simp only [fixSource, fixPasses, hfirst]
    split
    · rename_i hstop
      rw [Bool.or_eq_true, List.isEmpty_iff, decide_eq_true_iff] at hstop
      exact ⟨(hstop.elim hnone id).symm, rfl⟩
    · rcases count with _ | count
      · exact ⟨rfl, rfl⟩
      · simp only [fixPasses, hsecond, hsettled]
        exact ⟨rfl, rfl⟩
  · exact absurd hpasses (by omega)

/-- Linting what a pass gives back breaks off no more than linting what it was
given. -/
theorem RunsBuiltins.lint?_autofix (h : l.RunsBuiltins)
    (hlint : l.lint? (l.document s) fileName [] = .ok (l.lint (l.document s) fileName [])) :
    let t := (l.autofix (l.document s) fileName []).source
    l.lint? (l.document t) fileName [] = .ok (l.lint (l.document t) fileName []) := by
  intro t
  by_cases hexcluded : isExcluded (l.document s)
  · have hsame : t = s := (h.quiet_autofix s fileName).2.2 hexcluded
    rw [hsame]
    exact hlint
  · exact h.lint?_of_answers ((h.lint?_ok_iff hexcluded).1 hlint) _

/-- **Fixing with the library's rules settles in one pass, and loses
nothing.** Whatever the rules are set to, and whether comments are read or
not: a pass comes to a result if the enabled rules can say whether they apply
to the file. On its text, linting reports nothing about newlines, the next
pass fixes nothing, and repeated passes end there, however many are allowed.
The lines that something stands on are those of the source. -/
theorem autofix_settles {change : String → RuleSettings → Except OverrideError RuleSettings}
    {equipment : Equipment} (hl : ofRules? Rule.builtins change equipment = .ok l)
    (hparse : equipment.parse = none ∨
      equipment.parse = some fun source => .ok (Document.parse source))
    (source : Text) (fileName : Option String) :
    (l.Answers fileName → ∃ first, l.autofixSource? source fileName = .ok first) ∧
    ∀ first, l.autofixSource? source fileName = .ok first →
      (∃ again, l.lintSource? first.source fileName [] = .ok again ∧
        ∀ o ∈ again.offenses, o.rule ≠ blankLinesName ∧ o.rule ≠ endOfFileName) ∧
      (∃ second, l.autofixSource? first.source fileName = .ok second ∧
        second.fixed = [] ∧ second.source = first.source) ∧
      (∀ passes : Int, 1 ≤ passes →
        (l.fixSource source fileName passes).source = first.source ∧
          (l.fixSource source fileName passes).failure = none) ∧
      filledLines first.source = filledLines source := by
  obtain ⟨h, hequipment⟩ := runsBuiltins_of_ofRules? hl
  have hread : ∀ t, l.read? t = .ok (l.document t) := read?_eq (hequipment ▸ hparse)
  have hpass : ∀ t, l.autofixSource? t fileName = l.autofix? (l.document t) fileName [] := by
    intro t
    rw [autofixSource?, hread]
  refine ⟨fun hanswers => ?_, fun first hfirst => ?_⟩
  · exact ⟨_, (hpass source).trans (h.autofix?_eq (h.lint?_of_answers hanswers _))⟩
  · rw [hpass] at hfirst
    have hlint := lint?_of_autofix? hfirst
    have heq := eq_autofix_of_autofix? hfirst
    subst heq
    obtain ⟨hshape, hquiet, -⟩ := h.quiet_autofix source fileName
    have hlint' := h.lint?_autofix hlint
    have hsecond := h.autofix?_eq hlint'
    obtain ⟨hsource, hfixed, -⟩ := h.autofix_of_quiet hquiet
    rw [source_document] at hsource
    refine ⟨⟨_, by rw [lintSource?, hread]; exact hlint', hquiet⟩,
      ⟨_, (hpass _).trans hsecond, hfixed, hsource⟩, fun passes hpasses => ?_, ?_⟩
    · refine source_fixSource ((hpass source).trans hfirst) (fun hnone => ?_)
        ((hpass _).trans hsecond) hfixed hpasses
      rw [source_autofix_of_fixed_eq_nil hnone, source_document]
    · rw [← filledLines_shape, hshape, filledLines_shape]

/-- Blank lines in front of the comment go, those behind it stay, and the file
ends with a newline: one pass does it, and no more are needed. -/
theorem autofix_settles_mutedTail :
    let l := standard { parse := some fun source => .ok (Document.parse source) }
    let source := "a\n\n\n\n\n<%# herb:disable erb-no-extra-newline %>\n\n\n\n\nb".toList
    ∃ first, l.autofixSource? source (some "a.erb") = .ok first ∧
      first.source =
        "a\n\n\n<%# herb:disable erb-no-extra-newline %>\n\n\n\n\nb\n".toList ∧
      (l.fixSource source (some "a.erb") 10).source = first.source ∧
      filledLines first.source = filledLines source := by
  intro l source
  have hl : ofRules? Rule.builtins (fun _ settings => .ok settings)
      { parse := some fun source => .ok (Document.parse source) } = .ok l := rfl
  obtain ⟨hreturns, hsettles⟩ := autofix_settles hl (.inr rfl) source (some "a.erb")
  have hanswers : l.Answers (some "a.erb") := by
    unfold Answers
    decide +kernel
  have htext : (l.autofixSource? source (some "a.erb")).toOption.map (·.source) =
      some "a\n\n\n<%# herb:disable erb-no-extra-newline %>\n\n\n\n\nb\n".toList := by
    decide +kernel
  obtain ⟨first, hfirst⟩ := hreturns hanswers
  obtain ⟨-, -, hrepeated, hlines⟩ := hsettles first hfirst
  rw [hfirst] at htext
  exact ⟨first, hfirst, Option.some.inj htext, (hrepeated 10 (by decide)).1, hlines⟩

end Linter

end TemplateLint
