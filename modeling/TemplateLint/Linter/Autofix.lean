import TemplateLint.Linter.Basic
/-!
# Linter — fixing

One pass of fixing lints a document and hands every offense to the fixer
of its rule: first the rules on documents, then, on the printed source,
the rules on plain source. Within a rule the last offense comes first, so
that the places of the others stay right. A fixer that crashes, or gives
back something of the wrong kind, changes nothing. `fixSource` repeats
the pass until it changes nothing, or as often as it is allowed to.
-/

namespace TemplateLint

/-- What one pass of fixing comes to. -/
structure AutofixResult where
  source : Text
  fixed : List Offense := []
  unfixed : List Offense := []
  log : Log := []
  deriving Repr

namespace Linter

/-- The offenses, the one that starts last first. -/
def bottomUp (offenses : List Offense) : List Offense :=
  offenses.mergeSort fun a b => decide (b.start ≤ a.start)

/-- The rule whose fixer an offense is handed to. -/
def fixable? (l : Linter) (o : Offense) : Option BoundRule :=
  (l.rule? o.rule).filter fun b => b.rule.isAutocorrectable

/-- The offenses of one rule that has a fixer. -/
structure FixGroup where
  bound : BoundRule
  offenses : List Offense

/-- The offenses with a fixer, grouped by rule, in the order in which the
rules come first. -/
def fixGroups (l : Linter) (offenses : List Offense) : List FixGroup :=
  let names := (offenses.filter fun o => (l.fixable? o).isSome).map (·.rule) |>.eraseDups
  names.filterMap fun name =>
    (l.rule? name).map fun b => ⟨b, offenses.filter fun o => o.rule == name⟩

/-- How far a phase of fixing has come: the present input, and what became
of the offenses so far. -/
structure FixState (α : Type) where
  input : α
  fixed : List Offense
  unfixed : List Offense
  log : Log

/-- What a fixer gives back for an offense, and what is logged. -/
def callFixer (b : BoundRule) (o : Offense) (input : RuleInput) (context : Context) :
    Replacement × Log :=
  match b.rule.fixer with
  | none => (.nothing, [])
  | some fixer =>
    match fixer o input context with
    | .ok replacement => (replacement, [])
    | .error _ => (.nothing, [⟨.error, .linter, s!"Autofix for rule {b.rule.shownName} crashed"⟩])

/-- One offense handed to a fixer, whose answer is taken if it is a new
input of the right kind. -/
def fixOne {α : Type} (give : α → RuleInput) (take : Replacement → Option α) (context : Context)
    (b : BoundRule) (s : FixState α) (o : Offense) : FixState α :=
  let (replacement, log) := callFixer b o (give s.input) context
  match take replacement with
  | some input => { s with input, fixed := s.fixed ++ [o], log := s.log ++ log }
  | none => { s with unfixed := s.unfixed ++ [o], log := s.log ++ log }

/-- The offenses of a group handed to its fixer, the last one first. -/
def fixGroup {α : Type} (give : α → RuleInput) (take : Replacement → Option α)
    (context : Context) (s : FixState α) (group : FixGroup) : FixState α :=
  (bottomUp group.offenses).foldl (fixOne give take context group.bound) s

/-- The document that a replacement is. -/
def takeDocument : Replacement → Option Document
  | .document d => some d
  | _ => none

/-- The text that a replacement is. -/
def takeText : Replacement → Option Text
  | .text t => some t
  | _ => none

/-- The phase of the rules on documents. Without a printer none of them is
run. -/
def fixDocument (l : Linter) (context : Context) (groups : List FixGroup)
    (s : FixState Document) : FixState Document :=
  let groups := groups.filter fun g => g.bound.rule.kind = .parser
  if l.print.isNone then { s with unfixed := s.unfixed ++ groups.flatMap (·.offenses) }
  else groups.foldl (fixGroup .document takeDocument context) s

/-- The phase of the rules on plain source. -/
def fixText (context : Context) (groups : List FixGroup) (s : FixState Text) : FixState Text :=
  (groups.filter fun g => g.bound.rule.kind = .source).foldl
    (fixGroup .text takeText context) s

/-- The source after the phase of the rules on documents: printed if any
of them fixed something. -/
def printed? (l : Linter) (s : FixState Document) : Except Crash Text :=
  match l.print with
  | some print => if s.fixed.isEmpty then .ok s.input.source else print s.input
  | none => .ok s.input.source

/-- The source after the phase of the rules on documents. If it cannot be
printed it is the source that the last document came with. -/
def printed (l : Linter) (s : FixState Document) : Text :=
  (l.printed? s).toOption.getD s.input.source

/-- What the phase of the rules on documents comes to, from the result of
linting. -/
def fixedDocument (l : Linter) (d : Document) (context : Context) (result : LintResult) :
    FixState Document :=
  let unfixable := result.offenses.filter fun o => (l.fixable? o).isNone
  l.fixDocument context (l.fixGroups result.offenses) ⟨d, [], unfixable, result.log⟩

/-- The end of a pass: the phase of the rules on plain source, over the
printed source. -/
def finish (l : Linter) (context : Context) (result : LintResult) (parsed : FixState Document)
    (source : Text) : AutofixResult :=
  let fixed := fixText context (l.fixGroups result.offenses)
    ⟨source, parsed.fixed, parsed.unfixed, parsed.log⟩
  ⟨fixed.input, fixed.fixed, fixed.unfixed, fixed.log⟩

/-- **One pass of fixing.** -/
def autofix (l : Linter) (d : Document) (fileName : Option String) (disabled : List String) :
    AutofixResult :=
  let result := l.lint d fileName disabled
  if result.offenses.isEmpty then { source := d.source, log := result.log }
  else
    let context := l.context fileName disabled
    let parsed := l.fixedDocument d context result
    l.finish context result parsed (l.printed parsed)

/-! ## Breaking off -/

/-- One pass of fixing, unless that breaks off: the linting does, a rule
with something to fix has no kind, or the document cannot be printed. -/
def autofix? (l : Linter) (d : Document) (fileName : Option String) (disabled : List String) :
    Except Breakdown AutofixResult := do
  let result ← l.lint? d fileName disabled
  if result.offenses.isEmpty then return { source := d.source, log := result.log }
  if (l.fixGroups result.offenses).any fun g => g.bound.rule.kind = .missing then
    throw { crash := .of "AttributeError" "a rule has to have a kind", log := result.log }
  let context := l.context fileName disabled
  let parsed := l.fixedDocument d context result
  match l.printed? parsed with
  | .error crash => throw { crash, log := parsed.log }
  | .ok source => return l.finish context result parsed source

/-- **A pass that does not break off is a pass.** -/
theorem eq_autofix_of_autofix? {l : Linter} {d : Document} {fileName : Option String}
    {disabled : List String} {result : AutofixResult}
    (h : l.autofix? d fileName disabled = .ok result) :
    result = l.autofix d fileName disabled := by
  simp only [autofix?, bind, Except.bind] at h
  split at h
  · cases h
  · rename_i linted hlint
    rw [autofix, ← eq_lint_of_lint? hlint]
    split at h
    · simp_all [pure, Except.pure]
    · simp only [pure, Except.pure, throw, throwThe, MonadExceptOf.throw] at h
      split at h
      · cases h
      · split at h
        · cases h
        · simp_all [printed, Except.toOption]

/-- One pass over a source, unless that breaks off. -/
def autofixSource? (l : Linter) (source : Text) (fileName : Option String) :
    Except Breakdown AutofixResult :=
  match l.read? source with
  | .error crash => .error { crash }
  | .ok d => l.autofix? d fileName []

/-! ## Repeated passes -/

/-- What repeated fixing comes to: the source, and the number of offenses
that the last pass left. -/
structure FixOutcome where
  source : Text
  unfixed : Nat := 0
  log : Log := []
  /-- How it broke off, if it did. -/
  failure : Option Crash := none
  deriving Repr

/-- What a log calls a file that is fixed. -/
def fixedName (name : Option String) : String :=
  name.getD "None"

/-- What is logged when the passes that are allowed did not suffice. -/
def unsettled (name : Option String) (passes : Int) : LogRecord :=
  ⟨.warning, .runner, s!"{fixedName name}: autofix did not settle after {passes} passes"⟩

/-- Passes over a source, at most `left` more of them, after `done`. -/
def fixPasses (l : Linter) (name : Option String) : Nat → Nat → Nat → Text → FixOutcome
  | done, 0, unfixed, source => { source, unfixed, log := [unsettled name done] }
  | done, left + 1, unfixed, source =>
    match l.autofixSource? source name with
    | .error b => { source, unfixed, log := b.log, failure := some b.crash }
    | .ok result =>
      let unfixed := result.unfixed.length
      if result.fixed.isEmpty || result.source = source then { source, unfixed, log := result.log }
      else
        let count := result.fixed.length
        let note : LogRecord :=
          ⟨.debug, .runner, s!"{fixedName name}: pass {done + 1} fixed {count} offenses"⟩
        let rest := l.fixPasses name (done + 1) left unfixed result.source
        { rest with log := result.log ++ note :: rest.log }

/-- **Fixing until nothing changes**, in at most so many passes. A number
below zero allows none. -/
def fixSource (l : Linter) (source : Text) (name : Option String) (passes : Int) : FixOutcome :=
  match passes with
  | .ofNat count => l.fixPasses name 0 count 0 source
  | .negSucc _ => { source, log := [unsettled name passes] }

end Linter

end TemplateLint
