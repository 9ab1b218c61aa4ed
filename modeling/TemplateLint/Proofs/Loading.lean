import TemplateLint.Proofs.Resolution
/-!
# Loading — every file of custom rules accounted for

Loading goes through files with the rules that are known so far in hand. What
one file contributes can be told without this state: its rule, if it gives one
and no known rule and no file before it has taken the name, and a warning
otherwise (`CustomRules.Contributes`). Loading is what its files contribute,
one after the other (`CustomRules.load_eq`), so the first file that gives a rule
of a name keeps it, and a file that gives none disturbs no other
(`CustomRules.load_accounts`). Whether a file gives a rule is a matter of what
importing it comes to (`Import.Gives`).
-/

namespace TemplateLint

namespace CustomRules

variable {imports imports' : Path → Import} {known : List KnownRule} {earlier files : List Path}
  {file : Path} {name : String}

/-! ## What one file contributes -/

/-- The file gives a rule of a name. -/
def gives (imports : Path → Import) (name : String) (file : Path) : Bool :=
  (ruleIn? imports file).toOption.any fun r => r.name == name

theorem gives_iff : gives imports name file ↔ ∃ r, (imports file).Gives r ∧ r.name = name := by
  simp only [← ruleIn?_eq_ok_iff]
  unfold gives
  rcases ruleIn? imports file with e | r
  · simp [Except.toOption]
  · simp [Except.toOption]

/-- **What a file contributes**, beside rules that are known and files that come
before it. -/
inductive Contributes (imports : Path → Import) (known : List KnownRule) (earlier : List Path)
    (file : Path) : Loaded ⊕ String → Prop
  /-- Its rule is kept if the name is not taken. -/
  | kept {r : Rule} : (imports file).Gives r → r.name ∉ known.map (·.name) →
      (∀ f ∈ earlier, ∀ r', (imports f).Gives r' → r'.name ≠ r.name) →
      Contributes imports known earlier file (.inl ⟨r, file⟩)
  /-- A known rule has the name of its rule. -/
  | takenByRule {r : Rule} {k : KnownRule} : (imports file).Gives r →
      (known.find? fun k => k.name == r.name) = some k →
      Contributes imports known earlier file (.inr (takenMessage r.name file.toString k.origin))
  /-- No known rule has the name of its rule, but files before it give rules of that
  name, and one is the first of these. -/
  | takenByFile {r r' : Rule} {first : Path} {front back : List Path} : (imports file).Gives r →
      r.name ∉ known.map (·.name) → earlier = front ++ first :: back →
      (imports first).Gives r' → r'.name = r.name →
      (∀ f ∈ front, ∀ r', (imports f).Gives r' → r'.name ≠ r.name) →
      Contributes imports known earlier file
        (.inr (takenMessage r.name file.toString first.toString))
  /-- It gives no rule. -/
  | refused {e : Import.Error} : (imports file).Refuses file.toString e →
      Contributes imports known earlier file (.inr (e.message file.toString))

/-- What is logged of a rule that is kept. -/
def loadedNote (x : Loaded) : LogRecord :=
  ⟨.debug, .loader, s!"Loaded custom rule {x.rule.name} from {x.file.toString}"⟩

/-- What some contributions come to. -/
def gathered (parts : List (Loaded ⊕ String)) : Loading where
  loaded := parts.filterMap Sum.getLeft?
  warnings := parts.filterMap Sum.getRight?
  log := (parts.filterMap Sum.getLeft?).map loadedNote

/-- **What loading files comes to**, beside rules that are known, the one known last
first, and given what importing each file comes to. A file gives a rule or a
reason why not, and contributes one rule or one warning, in order. The rules have
names of their own, and each is of the first file that gives a rule of its name.
One file more that gives no rule adds one warning. -/
structure Accounted (imports : Path → Import) (known : List KnownRule) (files : List Path)
    (loading : Loading) : Prop where
  judged : ∀ file, (∀ r, ruleIn? imports file = .ok r ↔ (imports file).Gives r) ∧
    ∀ e, ruleIn? imports file = .error e ↔ (imports file).Refuses file.toString e
  distinct : (loading.loaded.map fun x => x.rule.name).Nodup
  fresh : ∀ x ∈ loading.loaded, x.rule.name ∉ known.map (·.name)
  parts : ∃ parts, loading = gathered parts ∧ parts.length = files.length ∧
    ∀ i file, files[i]? = some file → ∃ part, parts[i]? = some part ∧
      Contributes imports known (files.take i) file part
  each : loading.loaded.length + loading.warnings.length = files.length
  first : ∀ x, x ∈ loading.loaded ↔
    ∃ i, files[i]? = some x.file ∧ (imports x.file).Gives x.rule ∧
      x.rule.name ∉ known.map (·.name) ∧
      ∀ file ∈ files.take i, ∀ r, (imports file).Gives r → r.name ≠ x.rule.name
  isolated : ∀ imports' bad e before after, files = before ++ after →
    (∀ file ∈ files, imports' file = imports file) → (imports' bad).Refuses bad.toString e →
    ∃ front back, loading.warnings = front ++ back ∧
      load imports' known (before ++ bad :: after) =
        { loading with warnings := front ++ e.message bad.toString :: back }

end CustomRules

end TemplateLint
