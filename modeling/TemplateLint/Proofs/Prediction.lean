import TemplateLint.CommandLine.Response
import TemplateLint.Proofs.Resolution
import TemplateLint.Proofs.Scanning
import TemplateLint.Proofs.Utf8
/-!
# Prediction — what a check tells of a fix

A fix that is asked to check comes to the same changes as one that is not, and
leaves them unwritten. Changes are to different files that have texts
(`FileChange.Concern`), and each is to another text, so that to write them
changes the octets of as many files as there are changes
(`FileChange.Concern.changed_perm`). So where nothing breaks off, a check exits
with one exactly when the fix changes some file (`CommandLine.fix_foretold`).
-/

namespace TemplateLint

/-- The files of a tree that have other octets in another tree. -/
def FileTree.changed (before after : FileTree) : List (List Text) :=
  before.files.filter fun names =>
    (before.octets? ⟨.root, names⟩).toOption ≠ (after.octets? ⟨.root, names⟩).toOption

/-- **A file with a text holds the octets of that text.** -/
theorem FileTree.leads_of_text? {root : FileTree} {file : Path} {text : Text} (hroot : root.Proper)
    (hfile : file.names ∈ root.files) (htext : root.text? file = .ok text) :
    root.Leads file.names (.file (Text.encode text)) := by
  obtain ⟨e, hleads, -⟩ := hroot.mem_files_iff.1 hfile
  rw [text?] at htext
  rcases hoctets : root.octets? file with error | octets
  · rw [hoctets] at htext
    cases htext
  · rw [hoctets] at htext
    have hdecode : Text.decode octets = .ok text := ok_of_mapError htext
    rw [Text.encode_of_decode hdecode]
    exact (octets?_eq_ok_iff (hroot.down_of_leads hleads)).1 hoctets

/-- Paths from the root are told apart by their names. -/
theorem Path.eq_of_names_eq {p q : Path} (hp : p.start = .root) (hq : q.start = .root)
    (h : p.names = q.names) : p = q := by
  show Path.mk p.start p.names = Path.mk q.start q.names
  rw [hp, hq, h]

theorem FileTree.changed_self (root : FileTree) : root.changed root = [] :=
  List.filter_eq_nil_iff.2 fun _ _ hne => of_decide_eq_true hne rfl

/-! ## Changes -/

namespace FileChange

open FileTree

/-- **Changes that concern a tree**: to its files, at most one to each, from the
text there to another. -/
structure Concern (root : FileTree) (changes : List FileChange) : Prop where
  distinct : (changes.map (·.file)).Nodup
  placed : ∀ c ∈ changes, c.file.start = .root ∧ c.file.names ∈ root.files
  old : ∀ c ∈ changes, root.text? c.file = .ok c.old
  new : ∀ c ∈ changes, c.new ≠ c.old

variable {root : FileTree} {changes : List FileChange} {names : List Text} {octets : List UInt8}

/-- A change is to a file that can be read. -/
theorem Concern.exists_leads (h : Concern root changes) (hroot : root.Proper) :
    ∀ c ∈ changes, ∃ octets, root.Leads c.file.names (.file octets) :=
  fun c hc => ⟨_, leads_of_text? hroot (h.placed c hc).2 (h.old c hc)⟩

theorem Concern.distinct_names (h : Concern root changes) :
    (changes.map (·.file.names)).Nodup := by
  have hfiles := List.pairwise_map.1 h.distinct
  refine List.pairwise_map.2 (hfiles.imp_of_mem fun {c c'} hc hc' hne hnames => hne ?_)
  exact Path.eq_of_names_eq (h.placed c hc).1 (h.placed c' hc').1 hnames

/-- What is read in a file once the changes are written. -/
theorem Concern.octets?_writeAll (h : Concern root changes) (hroot : root.Proper)
    (hfile : names ∈ root.files) :
    (writeAll changes root).octets? ⟨.root, names⟩ =
      (root.octets? ⟨.root, names⟩).map (octetsAfter changes names) := by
  obtain ⟨e, hleads, -⟩ := hroot.mem_files_iff.1 hfile
  rw [writeAll_eq_mapOctets hroot (h.exists_leads hroot)]
  exact octets?_mapOctets (hroot.down_of_leads hleads) hleads

/-- **The files that change are those that are changed.** -/
theorem Concern.mem_changed_iff (h : Concern root changes) (hroot : root.Proper) :
    names ∈ root.changed (writeAll changes root) ↔ ∃ c ∈ changes, c.file.names = names := by
  rw [changed, List.mem_filter, decide_eq_true_iff]
  constructor
  · rintro ⟨hmem, hne⟩
    by_contra hnone
    have hother : ∀ c ∈ changes, names ≠ c.file.names :=
      fun c hc heq => hnone ⟨c, hc, heq.symm⟩
    have hsame : octetsAfter changes names = id :=
      funext fun octets => octetsAfter_of_forall_ne hother
    rw [h.octets?_writeAll hroot hmem, hsame, Except.map_id] at hne
    exact hne rfl
  · rintro ⟨c, hc, rfl⟩
    obtain ⟨hstart, hmem⟩ := h.placed c hc
    refine ⟨hmem, ?_⟩
    have hleads := leads_of_text? hroot hmem (h.old c hc)
    have hbefore := (octets?_eq_ok_iff (hroot.down_of_leads hleads)).2 hleads
    rw [h.octets?_writeAll hroot hmem, hbefore, Except.map, octetsAfter_of_mem h.distinct_names hc]
    -- No two texts have the same octets.
    intro heq
    exact h.new c hc (Text.encode_inj (Option.some.inj heq).symm)

/-- **As many files change as there are changes.** -/
theorem Concern.changed_perm (h : Concern root changes) (hroot : root.Proper) :
    (root.changed (writeAll changes root)).Perm (changes.map (·.file.names)) := by
  refine (List.perm_ext_iff_of_nodup (hroot.nodup_files.filter _) h.distinct_names).2 fun names => ?_
  rw [List.mem_map]
  exact h.mem_changed_iff hroot

end FileChange

/-! ## Runs -/

namespace Setup

open FileTree FileChange

variable {s : Setup} {w : Workspace} {p : Project} {paths : List Path} {file : Path}

/-- The changes that fixing the files of some paths comes to. -/
def changes (s : Setup) (w : Workspace) (p : Project) (paths : List Path) : List FileChange :=
  (s.fixes w p paths).filterMap FileFix.change?

/-- The text that a text is fixed to, in a file. -/
def fixedText (s : Setup) (w : Workspace) (p : Project) (file : Path) (text : Text) : Text :=
  (s.linter.fixSource text (some (w.nameOf p file)) p.settings.passes).source

/-- **A change to a file** is from its text to what that is fixed to. -/
theorem change?_fixFile_eq_some_iff {c : FileChange} :
    (s.fixFile w p file).change? = some c ↔
      c.file = file ∧ w.root.text? file = .ok c.old ∧ c.new = s.fixedText w p file c.old ∧
        c.new ≠ c.old := by
  obtain ⟨file', old, new⟩ := c
  rw [fixFile]
  rcases w.root.text? file with e | text
  · exact iff_of_false nofun fun h => nomatch h.2.1
  · rw [FileFix.change?]
    split
    · rename_i hsame
      refine iff_of_false nofun ?_
      rintro ⟨-, hold, hnew, hother⟩
      cases hold
      exact hother (hnew.trans hsame)
    · rename_i hother
      constructor
      · intro h
        cases h
        exact ⟨rfl, rfl, rfl, hother⟩
      · rintro ⟨hfile, hold, hnew, -⟩
        dsimp only at hfile hold hnew
        subst hfile
        cases hold
        rw [hnew]
        rfl

theorem mem_changes_iff {c : FileChange} : c ∈ s.changes w p paths ↔
    c.file ∈ Discovery.files w.root w.here p.settings paths ∧ w.root.text? c.file = .ok c.old ∧
      c.new = s.fixedText w p c.file c.old ∧ c.new ≠ c.old := by
  simp only [changes, fixes, List.mem_filterMap, List.mem_map, exists_exists_and_eq_and,
    change?_fixFile_eq_some_iff]
  constructor
  · rintro ⟨file, hfile, rfl, hchange⟩
    exact ⟨hfile, hchange⟩
  · rintro ⟨hfile, hchange⟩
    exact ⟨c.file, hfile, rfl, hchange⟩

/-- **The changes of a run concern its files.** -/
theorem concern_changes (hroot : w.root.Proper) (hhere : w.here.isAbsolute) :
    Concern w.root (s.changes w p paths) where
  distinct := by
    rw [changes, fixes, List.filterMap_map, List.map_filterMap]
    refine Discovery.nodup_files.filterMap fun file file' path hpath hpath' => ?_
    obtain ⟨c, hc, rfl⟩ := Option.map_eq_some_iff.1 hpath
    obtain ⟨c', hc', hsame⟩ := Option.map_eq_some_iff.1 hpath'
    exact (change?_fixFile_eq_some_iff.1 hc).1.symm.trans
      (hsame.symm.trans (change?_fixFile_eq_some_iff.1 hc').1)
  placed c hc := Discovery.mem_files_of_mem hroot hhere (mem_changes_iff.1 hc).1
  old c hc := (mem_changes_iff.1 hc).2.1
  new c hc := (mem_changes_iff.1 hc).2.2.2

/-- **A scanned file with a text holds the fixed text afterwards**, also where that
is the same. -/
theorem octets?_of_text? (hroot : w.root.Proper) (hhere : w.here.isAbsolute)
    (hfile : file ∈ Discovery.files w.root w.here p.settings paths) {text : Text}
    (htext : w.root.text? file = .ok text) :
    (writeAll (s.changes w p paths) w.root).octets? file =
      .ok (Text.encode (s.fixedText w p file text)) := by
  have hconcern : Concern w.root (s.changes w p paths) := concern_changes hroot hhere
  obtain ⟨hstart, hmem⟩ := Discovery.mem_files_of_mem hroot hhere hfile
  have hleads := leads_of_text? hroot hmem htext
  have hbefore := (octets?_eq_ok_iff (hroot.down_of_leads hleads)).2 hleads
  have hafter := hconcern.octets?_writeAll hroot hmem
  rw [hbefore] at hafter
  refine hafter.trans (congrArg Except.ok ?_)
  by_cases hsame : s.fixedText w p file text = text
  · rw [hsame]
    refine octetsAfter_of_forall_ne fun c hc hnames => ?_
    obtain ⟨-, hold, hnew, hother⟩ := mem_changes_iff.1 hc
    have hpath : c.file = file := Path.eq_of_names_eq (hconcern.placed c hc).1 hstart hnames.symm
    rw [hpath] at hold hnew
    cases htext.symm.trans hold
    exact hother (hnew.trans hsame)
  · have hchange : (⟨file, text, s.fixedText w p file text⟩ : FileChange) ∈ s.changes w p paths :=
      mem_changes_iff.2 ⟨hfile, htext, rfl, hsame⟩
    exact octetsAfter_of_mem hconcern.distinct_names hchange

/-- **A run over the files breaks off** with the first failure, if there is one. -/
theorem fix_eq (hpaths : pathFailure? w p paths = none) :
    (∃ crash log, (s.fixes w p paths).findSome? FileFix.failure? = some crash ∧
      s.fix w p paths = .error { error := .crash crash, log }) ∨
    ((∀ file ∈ Discovery.files w.root w.here p.settings paths,
        (s.fixFile w p file).failure? = none) ∧
      ∃ run log, s.fix w p paths = .ok (run, log) ∧ run.changes = s.changes w p paths) := by
  rw [fix, hpaths]
  dsimp only
  rcases hfailure : (s.fixes w p paths).findSome? FileFix.failure? with _ | crash
  · refine .inr ⟨fun file hfile => ?_, _, _, rfl, rfl⟩
    exact List.findSome?_eq_none_iff.1 hfailure _ (List.mem_map_of_mem hfile)
  · exact .inl ⟨crash, _, rfl, rfl⟩

end Setup

/-! ## Commands -/

namespace CommandLine

open FileTree

variable {w : Workspace} {p : Project} {s : Setup} {general : General} {paths : List Path}
  {words words' : List String}

/-- A command has broken off, and changes nothing. -/
structure Response.BrokeOff (r : Response) (crash : Crash) : Prop where
  failure : r.failure = some (.run (.crash crash))
  exit : r.exit = 1
  changes : r.changes = []

/-- **What a check tells of a fix.** -/
structure Foretells (w : Workspace) (p : Project) (s : Setup) (paths : List Path)
    (checked fixed : Response) : Prop where
  /-- Neither command breaks off. -/
  failures : checked.failure = none ∧ fixed.failure = none
  /-- The check exits with one exactly when the fix changes a file. -/
  exits : checked.exit = if w.root.changed (fixed.rootAfter w) = [] then 0 else 1
  fixes : fixed.exit = 0
  /-- The fix prints how many files it changes. -/
  printed : ∃ rest, fixed.output =
    "Fixed " ++ Report.counted (w.root.changed (fixed.rootAfter w)).length "file" ++ ".\n" ++ rest
  /-- Nothing but octets in files is another after the fix. -/
  frame : ∃ octets, fixed.rootAfter w = w.root.mapOctets octets
  /-- A file that changes is scanned, and has a text. -/
  scanned : ∀ names ∈ w.root.changed (fixed.rootAfter w),
    ⟨.root, names⟩ ∈ Discovery.files w.root w.here p.settings paths ∧
      ∃ text, w.root.text? ⟨.root, names⟩ = .ok text
  /-- A scanned file with a text holds the fixed text afterwards. -/
  texts : ∀ file ∈ Discovery.files w.root w.here p.settings paths, ∀ text,
    w.root.text? file = .ok text →
      (fixed.rootAfter w).octets? file = .ok (Text.encode
        (s.linter.fixSource text (some (w.nameOf p file)) p.settings.passes).source)

/-- What comes of asking for a fix, once all is set up. -/
theorem command_fix_eq {checkOnly : Bool}
    (hload : Project.load? w.root w.here (general.config.map fun f => Path.read f.toList) = .ok p)
    (hsetup : Setup.ofProject? w p = .ok s)
    (hrequest : Command.request? w .fix words = .ok (.fix checkOnly paths)) :
    command w general .fix words =
      ((fixResponse w p checkOnly paths s).after s).shownFrom general.threshold := by
  rw [command, hload]
  dsimp only
  rw [hrequest]
  dsimp only
  rw [answer, withSetup, hsetup]

theorem Response.BrokeOff.rootAfter_eq {r : Response} {crash : Crash} (h : r.BrokeOff crash) :
    r.rootAfter w = w.root := by
  rw [Response.rootAfter, h.changes]
  rfl

/-- **Where the work on a scanned file breaks off, so does the command**, whether it
is a check or not. -/
theorem exists_brokeOff (hpaths : Setup.pathFailure? w p paths = none)
    (hfailure : ∃ file ∈ Discovery.files w.root w.here p.settings paths,
      (s.fixFile w p file).failure?.isSome) :
    ∃ crash, ∀ checkOnly threshold,
      (((fixResponse w p checkOnly paths s).after s).shownFrom threshold).BrokeOff crash := by
  rcases Setup.fix_eq hpaths with ⟨crash, log, -, hrun⟩ | ⟨hnone, -⟩
  · refine ⟨crash, fun checkOnly threshold => ?_⟩
    rw [fixResponse, hrun]
    exact ⟨rfl, rfl, rfl⟩
  · obtain ⟨file, hfile, hsome⟩ := hfailure
    rw [hnone file hfile] at hsome
    cases hsome

theorem changes_ofRunFailure (f : RunFailure) : (Response.ofRunFailure f).changes = [] := by
  unfold Response.ofRunFailure
  split
  · rfl
  · rfl
  · rfl
  · rfl

/-- **A check changes nothing**, whatever comes of it. -/
theorem changes_of_check :
    (((fixResponse w p true paths s).after s).shownFrom general.threshold).changes = [] := by
  rw [fixResponse]
  rcases s.fix w p paths with f | ⟨run, log⟩
  · exact changes_ofRunFailure f
  · rfl

/-- Where nothing breaks off, the check tells of the fix. -/
theorem foretells_of_fix {run : FixRun} {log : Log} (hroot : w.root.Proper)
    (hhere : w.here.isAbsolute) (hfix : s.fix w p paths = .ok (run, log))
    (hchanges : run.changes = s.changes w p paths) :
    Foretells w p s paths
      (((fixResponse w p true paths s).after s).shownFrom general.threshold)
      (((fixResponse w p false paths s).after s).shownFrom general.threshold) := by
  have hconcern : FileChange.Concern w.root (s.changes w p paths) :=
    Setup.concern_changes hroot hhere
  have hperm := hconcern.changed_perm hroot
  have hlength : run.changes.length =
      (w.root.changed (FileChange.writeAll (s.changes w p paths) w.root)).length := by
    rw [hperm.length_eq, List.length_map, hchanges]
  have hchecked : fixResponse w p true paths s =
      { exit := if run.changes.length = 0 then 0 else 1
        output := checkedOutput run.changes.length
        messages := run.warnings.map ("Warning: " ++ ·)
        log } := by
    rw [fixResponse, hfix]
    rfl
  have hfixed : fixResponse w p false paths s =
      { output := fixedOutput run.changes.length run.unfixed
        messages := run.warnings.map ("Warning: " ++ ·)
        log
        changes := s.changes w p paths } := by
    rw [fixResponse, hfix, ← hchanges]
    rfl
  rw [hchecked, hfixed]
  refine
    { failures := ⟨rfl, rfl⟩
      exits := ?_
      fixes := rfl
      printed := ?_
      frame := ?_
      scanned := fun names hnames => ?_
      texts := fun file hfile text htext => Setup.octets?_of_text? hroot hhere hfile htext }
  · show (if run.changes.length = 0 then 0 else 1) =
      if w.root.changed (FileChange.writeAll (s.changes w p paths) w.root) = [] then 0 else 1
    rw [hlength]
    exact if_congr List.length_eq_zero_iff rfl rfl
  · refine ⟨if run.unfixed = 0 then "" else
      Report.counted run.unfixed "offense" ++ " left unfixed.\n", ?_⟩
    show fixedOutput run.changes.length run.unfixed = _
    rw [fixedOutput, hlength]
    rfl
  · exact ⟨_, FileChange.writeAll_eq_mapOctets hroot (hconcern.exists_leads hroot)⟩
  · obtain ⟨c, hc, rfl⟩ := (hconcern.mem_changed_iff hroot).1 hnames
    obtain ⟨hscanned, htext, -⟩ := Setup.mem_changes_iff.1 hc
    have hpath : (⟨.root, c.file.names⟩ : Path) = c.file :=
      Path.eq_of_names_eq rfl (hconcern.placed c hc).1 rfl
    rw [hpath]
    exact ⟨hscanned, c.old, htext⟩

/-- **A check foretells a fix.** For a proper tree and a directory in it that one
stands in: if the settings load, the run is set up, and two command lines name
the same paths, of which one asks to check, then that one changes nothing. Where
the work on some scanned file breaks off, both commands do so in the same way,
and neither changes anything. Otherwise the check tells what the fix does. -/
theorem fix_foretold (hroot : w.root.Proper) (hhere : w.here.isAbsolute)
    (hstands : w.root.hasDirectory w.here)
    (hload : Project.load? w.root w.here (general.config.map fun f => Path.read f.toList) = .ok p)
    (hsetup : Setup.ofProject? w p = .ok s)
    (hcheck : Command.request? w .fix words = .ok (.fix true paths))
    (hfix : Command.request? w .fix words' = .ok (.fix false paths)) :
    let checked := command w general .fix words
    let fixed := command w general .fix words'
    let files := Discovery.files w.root w.here p.settings paths
    checked.rootAfter w = w.root ∧
      ((∃ file ∈ files, (s.fixFile w p file).failure?.isSome) →
        ∃ crash, checked.BrokeOff crash ∧ fixed.BrokeOff crash ∧ fixed.rootAfter w = w.root) ∧
      ((∀ file ∈ files, (s.fixFile w p file).failure? = none) →
        Foretells w p s paths checked fixed) := by
  intro checked fixed files
  have hpaths : Setup.pathFailure? w p paths = none :=
    Command.pathFailure?_of_request? hstands hfix p
  have hchecked : checked = _ := command_fix_eq hload hsetup hcheck
  have hfixed : fixed = _ := command_fix_eq hload hsetup hfix
  rw [hchecked, hfixed]
  refine ⟨?_, ?_, fun hnone => ?_⟩
  · rw [Response.rootAfter, changes_of_check]
    rfl
  · intro hfailure
    obtain ⟨crash, hbroke⟩ := exists_brokeOff hpaths hfailure
    exact ⟨crash, hbroke true _, hbroke false _, (hbroke false _).rootAfter_eq⟩
  · rcases Setup.fix_eq hpaths with ⟨crash, log, hcrash, -⟩ | ⟨-, run, log, hrun, hchanges⟩
    · obtain ⟨_, hfix, hfailure⟩ := List.exists_of_findSome?_eq_some hcrash
      obtain ⟨file, hfile, rfl⟩ := List.mem_map.1 hfix
      cases (hnone file hfile).symm.trans hfailure
    · exact foretells_of_fix hroot hhere hrun hchanges

/-- A test of the settings that are found and of what is set up by them. -/
def setupPasses (w : Workspace) (test : Project → Setup → Bool) : Bool :=
  match Project.load? w.root w.here none with
  | .error _ => false
  | .ok p =>
    match Setup.ofProject? w p with
    | .error _ => false
    | .ok s => test p s

theorem exists_of_setupPasses {test : Project → Setup → Bool} (h : setupPasses w test) :
    ∃ p s, Project.load? w.root w.here none = .ok p ∧ Setup.ofProject? w p = .ok s ∧ test p s := by
  unfold setupPasses at h
  split at h
  · cases h
  · rename_i p hload
    split at h
    · cases h
    · rename_i s hsetup
      exact ⟨p, s, hload, hsetup, h⟩

/-- The files that where one stands stands for, before they are put in order. -/
theorem mem_files_here {s : Settings} {file : Path} :
    file ∈ Discovery.files w.root w.here s [⟨.here, []⟩] ↔
      file ∈ Discovery.filesFor w.root s ((Path.mk .here []).resolve w.here) := by
  simp only [Discovery.mem_files_iff_exists, List.mem_singleton, exists_eq_left]

/-- A rule that asks for an exclamation mark, and puts one in front of a text that has
none. -/
def exclaiming : Rule where
  name := "exclaiming"
  kind := .source
  check input _ :=
    .ok (if '!' ∈ input.source then [] else [.found "exclaiming" "no mark" .fallback])
  fixer := some fun _ input _ => .ok (.text ('!' :: input.source))

/-- A directory with a custom rule, a template that both the rule and the library find
fault with, and one that cannot be opened. -/
theorem fix_foretold_customRule :
    let file : Path := ⟨.root, ["a.html.erb".toList]⟩
    let w : Workspace :=
      { root := .directory [
          (".herb".toList, .directory [("rules".toList, .directory [("own.py".toList, .file [])])]),
          ("a.html.erb".toList, .file [97]),
          ("b.html.erb".toList, .unreadable (.refused 13 "Permission denied"))]
        here := ⟨.root, []⟩, modules := []
        imports := fun _ => .done [.ofClass ⟨true, .ok ⟨exclaiming, true⟩⟩]
        home := "" }
    let p : Project := ⟨{}, none⟩
    let checked := command w {} .fix ["--check"]
    let fixed := command w {} .fix []
    Project.load? w.root w.here none = .ok p ∧ checked.rootAfter w = w.root ∧
      ∃ s, Setup.ofProject? w p = .ok s ∧ Foretells w p s [⟨.here, []⟩] checked fixed ∧
        (fixed.rootAfter w).octets? file = .ok [33, 97, 10] := by
  intro file w p checked fixed
  have hroot : w.root.Proper := by
    refine .directory (by decide) (by decide) fun e he => ?_
    simp only [List.mem_cons, List.not_mem_nil, or_false] at he
    rcases he with rfl | rfl | rfl
    · refine .directory (by decide) (by decide) fun e he => ?_
      obtain rfl := List.mem_singleton.1 he
      refine .directory (by decide) (by decide) fun e he => ?_
      obtain rfl := List.mem_singleton.1 he
      exact .file _
    · exact .file _
    · exact .unreadable _
  -- What is set up has the custom rule in it, and so it is told by what it does.
  have hpasses : setupPasses w fun p s =>
      let files := Discovery.filesFor w.root p.settings ((Path.mk .here []).resolve w.here)
      files.contains file && files.all (fun file => (s.fixFile w p file).failure?.isNone) &&
        (s.linter.fixSource ['a'] (some (w.nameOf p file)) p.settings.passes).source =
          ['!', 'a', '\n'] := by
    decide +kernel
  obtain ⟨p', s, hload, hsetup, htest⟩ := exists_of_setupPasses hpasses
  have hdefault : Project.load? w.root w.here none = .ok p := rfl
  obtain rfl : p = p' := Except.ok.inj (hdefault.symm.trans hload)
  simp only [Bool.and_eq_true, List.contains_iff_mem, List.all_eq_true, Option.isNone_iff_eq_none,
    decide_eq_true_eq] at htest
  obtain ⟨⟨hscanned, hunbroken⟩, htext⟩ := htest
  have hcheck : Command.request? w .fix ["--check"] = .ok (.fix true [⟨.here, []⟩]) := rfl
  have hfix : Command.request? w .fix [] = .ok (.fix false [⟨.here, []⟩]) := rfl
  have hforetold : checked.rootAfter w = w.root ∧ _ :=
    fix_foretold hroot (by decide) (by decide) hload hsetup hcheck hfix
  obtain ⟨hsame, -, hforetells⟩ := hforetold
  have hall : Foretells w p s [⟨.here, []⟩] checked fixed :=
    hforetells fun file hfile => hunbroken file (mem_files_here.1 hfile)
  refine ⟨hload, hsame, s, hsetup, hall, ?_⟩
  have hafter := hall.texts file (mem_files_here.2 hscanned) ['a'] rfl
  exact hafter.trans (congrArg (fun t => Except.ok (Text.encode t)) htext)

/-- **Where a parser fails, a check tells of no change.** It exits with one, though
the settings load and the run is set up, and the fix changes no file. -/
theorem check_brokeOff :
    let settings := "[tool.herblint]\nparser = \"template_parser:print_template\"\n".toList
    let w : Workspace :=
      { root := .directory [("pyproject.toml".toList, .file (Text.encode settings)),
          ("a.html.erb".toList, .file [120, 10])]
        here := ⟨.root, []⟩, modules := [Plugin.bundled], imports := fun _ => .done []
        home := "" }
    ∃ p s, Project.load? w.root w.here none = .ok p ∧ Setup.ofProject? w p = .ok s ∧
      Command.request? w .fix ["--check"] = .ok (.fix true [⟨.here, []⟩]) ∧
      Command.request? w .fix [] = .ok (.fix false [⟨.here, []⟩]) ∧
      (command w {} .fix ["--check"]).exit = 1 ∧
      w.root.changed ((command w {} .fix []).rootAfter w) = [] := by
  intro settings w
  have hpasses : setupPasses w fun p s =>
      (Discovery.filesFor w.root p.settings ((Path.mk .here []).resolve w.here)).any fun file =>
        (s.fixFile w p file).failure?.isSome := by
    decide +kernel
  have hcheck : Command.request? w .fix ["--check"] = .ok (.fix true [⟨.here, []⟩]) := rfl
  have hfix : Command.request? w .fix [] = .ok (.fix false [⟨.here, []⟩]) := rfl
  obtain ⟨p, s, hload, hsetup, htest⟩ := exists_of_setupPasses hpasses
  obtain ⟨file, hfile, hfailure⟩ := List.any_eq_true.1 htest
  obtain ⟨crash, hbroke⟩ := exists_brokeOff
    (Command.pathFailure?_of_request? (by decide) hfix p) ⟨file, mem_files_here.2 hfile, hfailure⟩
  have hchecked : (command w {} .fix ["--check"]).BrokeOff crash := by
    have heq : command w {} .fix ["--check"] = _ := command_fix_eq hload hsetup hcheck
    rw [heq]
    exact hbroke true _
  have hfixed : (command w {} .fix []).BrokeOff crash := by
    have heq : command w {} .fix [] = _ := command_fix_eq hload hsetup hfix
    rw [heq]
    exact hbroke false _
  refine ⟨p, s, hload, hsetup, hcheck, hfix, hchecked.exit, ?_⟩
  rw [hfixed.rootAfter_eq]
  exact FileTree.changed_self _

end CommandLine

end TemplateLint
