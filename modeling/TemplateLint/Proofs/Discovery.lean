import Mathlib.Data.Char
import Mathlib.Data.List.Lex
import Mathlib.Data.List.Sort
import TemplateLint.Proofs.Scanning
/-!
# Discovery — which files are listed, and in which order

A path asks for a file if it leads to that file, or to a directory above it, and
the patterns allow it (`Discovery.AsksFor`). The files that are asked for are
listed, and no others, one after another in the order of paths. So the paths
count as a set: neither their order nor their number matters
(`Discovery.files_exact`).
-/

namespace TemplateLint

/-! ## The order of paths -/

namespace Path

variable {names names' : List Text} {p q r : Path}

/-- Names come before others as in a dictionary, name by name. -/
theorem namesLe_iff : namesLe names names' ↔ names = names' ∨ names < names' := by
  induction names generalizing names' with
  | nil =>
    cases names' with
    | nil => exact iff_of_true rfl (.inl rfl)
    | cons name' names' => exact iff_of_true rfl (.inr (List.nil_lt_cons _ _))
  | cons name names ih =>
    cases names' with
    | nil => exact iff_of_false Bool.false_ne_true (by simp)
    | cons name' names' =>
      rw [namesLe, List.cons_lt_cons_iff, List.cons.injEq]
      by_cases h : name = name'
      · rw [if_pos h, ih]
        simp [h]
      · rw [if_neg h, decide_eq_true_eq]
        simp [h]

theorem namesLe_total (names names' : List Text) :
    namesLe names names' ∨ namesLe names' names := by
  rw [namesLe_iff, namesLe_iff]
  rcases lt_trichotomy names names' with hlt | heq | hlt
  · exact .inl (.inr hlt)
  · exact .inl (.inl heq)
  · exact .inr (.inr hlt)

theorem namesLe_trans {names'' : List Text} (h : namesLe names names')
    (h' : namesLe names' names'') : namesLe names names'' := by
  rw [namesLe_iff] at h h' ⊢
  rcases h with rfl | hlt
  · exact h'
  · rcases h' with rfl | hlt'
    · exact .inr hlt
    · exact .inr (hlt.trans hlt')

theorem namesLe_antisymm (h : namesLe names names') (h' : namesLe names' names) :
    names = names' := by
  rw [namesLe_iff] at h h'
  rcases h with heq | hlt
  · exact heq
  · exact h'.elim Eq.symm fun hlt' => absurd hlt' hlt.asymm

theorem startOf_written (start : PathStart) : startOf start.written = start := by
  cases start with
  | _ => rfl

theorem written_start_inj {start start' : PathStart} (h : start.written = start'.written) :
    start = start' := by
  rw [← startOf_written start, h, startOf_written]

theorem le_total (p q : Path) : (p.le q || q.le p) = true := by
  rw [Bool.or_eq_true, le, le]
  by_cases h : p.start = q.start
  · rw [if_pos h, if_pos h.symm]
    exact namesLe_total ..
  · rw [if_neg h, if_neg (Ne.symm h)]
    exact namesLe_total ..

theorem le_trans (p q r : Path) (h : p.le q = true) (h' : q.le r = true) : p.le r = true := by
  rw [le] at h h' ⊢
  by_cases hpq : p.start = q.start
  · by_cases hqr : q.start = r.start
    · rw [if_pos hpq] at h
      rw [if_pos hqr] at h'
      rw [if_pos (hpq.trans hqr)]
      exact namesLe_trans h h'
    · rw [if_neg hqr] at h'
      rw [if_neg (hpq ▸ hqr), hpq]
      exact h'
  · by_cases hqr : q.start = r.start
    · rw [if_neg hpq] at h
      rw [if_neg (hqr ▸ hpq), ← hqr]
      exact h
    · rw [if_neg hpq] at h
      rw [if_neg hqr] at h'
      have hle := namesLe_trans h h'
      by_cases hpr : p.start = r.start
      · -- Then all three start with the same text.
        rw [hpr] at h
        exact absurd (written_start_inj (List.cons.inj (namesLe_antisymm h h')).1) (Ne.symm hqr)
      · rwa [if_neg hpr]

end Path

/-! ## What names lead to -/

namespace FileTree

variable {root t e e' : FileTree} {names names' : List Text} {path here : Path}

/-- What names lead to is reached by the first of them, and then by the rest. -/
theorem Leads.split (h : root.Leads (names ++ names') e) :
    ∃ t, root.Leads names t ∧ t.Leads names' e := by
  induction names generalizing root with
  | nil => exact ⟨root, .refl root, h⟩
  | cons name names ih =>
    cases h with
    | entry hlookup hrest =>
      obtain ⟨t, hfront, hbehind⟩ := ih hrest
      exact ⟨t, .entry hlookup hfront, hbehind⟩

/-- Names lead to one thing only. -/
theorem Leads.unique (h : root.Leads names e) (h' : root.Leads names e') : e = e' := by
  induction h with
  | refl =>
    cases h'
    rfl
  | entry hlookup _ ih =>
    cases h' with
    | entry hlookup' hrest =>
      cases hlookup.symm.trans hlookup'
      exact ih hrest

/-- Only a name that is too long is reported as that. -/
theorem exists_isTooLong_of_follow {above : List FileTree}
    (h : follow above t names = .error .nameTooLong) : ∃ name ∈ names, isTooLong name := by
  induction names generalizing above t with
  | nil => cases h
  | cons name names ih =>
    unfold follow at h
    split at h
    · cases h
    · split at h
      · split at h
        · obtain ⟨long, hmem, hlong⟩ := ih h
          exact ⟨long, .tail _ hmem, hlong⟩
        · obtain ⟨long, hmem, hlong⟩ := ih h
          exact ⟨long, .tail _ hmem, hlong⟩
      · split at h
        · rename_i hentry
          cases h
          unfold entry? at hentry
          split at hentry
          · cases hentry
          · cases hentry
          · split at hentry
            · split at hentry
              · rename_i hlong
                exact ⟨name, .head _, hlong⟩
              · cases hentry
            · cases hentry
        · obtain ⟨long, hmem, hlong⟩ := ih h
          exact ⟨long, .tail _ hmem, hlong⟩

/-- **A path can be looked for** if its names are names that a file can have. -/
theorem lookupCrash?_eq_none (hnull : path.hasNull = false)
    (hshort : ∀ name ∈ (path.resolve here).names, isTooLong name = false) :
    root.lookupCrash? here path = none := by
  rw [lookupCrash?, hnull, if_neg Bool.false_ne_true]
  split
  · rename_i hfind
    obtain ⟨name, hname, hlong⟩ := exists_isTooLong_of_follow hfind
    rw [hshort name hname] at hlong
    cases hlong
  · rfl

end FileTree

namespace Discovery

open TemplateLint.FileTree

variable {root t : FileTree} {here p file : Path} {s : Settings} {paths paths' : List Path}
  {patterns : List String} {names : List Text}

/-! ## What is asked for -/

/-- **Some pattern matches names**, with slashes between them and in the place of
backslashes. -/
def MatchesNames (patterns : List String) (names : List Text) : Prop :=
  ∃ pattern ∈ patterns, PathPattern.fits pattern.toList
    ((Path.joined names).map fun c => if c = '\\' then '/' else c)

instance (patterns : List String) (names : List Text) : Decidable (MatchesNames patterns names) :=
  inferInstanceAs (Decidable (∃ pattern ∈ patterns, PathPattern.fits pattern.toList
    ((Path.joined names).map fun c => if c = '\\' then '/' else c)))

/-- **A path asks for a file** of a tree. -/
inductive AsksFor (root : FileTree) (s : Settings) (p : Path) : Path → Prop
  /-- It is the path of the file, and no exclusion is for its name. -/
  | itself : ¬ MatchesNames s.excluded [p.name] → AsksFor root s p p
  /-- It is the path of a directory above the file, and the names from there are included
  and not excluded. -/
  | below {names : List Text} : root.hasDirectory p → MatchesNames s.included names →
      ¬ MatchesNames s.excluded names → AsksFor root s p ⟨p.start, p.names ++ names⟩

theorem matchesAny_iff {base : Path} (hbelow : base.below? p = some names) (hne : names ≠ []) :
    matchesAny patterns base p ↔ MatchesNames patterns names := by
  have hwritten : (Path.mk .here names).written = Path.joined names := by
    rw [Path.written, List.isEmpty_eq_false_iff.2 hne, Bool.and_false]
    rfl
  rw [matchesAny, List.any_eq_true, shownFrom, hbelow]
  simp only [hwritten]
  exact Iff.rfl

theorem below?_append (p : Path) (names : List Text) :
    p.below? ⟨p.start, p.names ++ names⟩ = some names := by
  simp [Path.below?]

/-- A path with names is its parent and its name. -/
theorem names_eq_parent_append (hne : p.names ≠ []) : p.names = p.parent.names ++ [p.name] := by
  rw [Path.parent, Path.name, List.getLast?_eq_some_getLast hne, Option.getD_some,
    List.dropLast_append_getLast]

theorem matchesAny_parent (hne : p.names ≠ []) :
    matchesAny patterns p.parent p ↔ MatchesNames patterns [p.name] := by
  have hbelow := below?_append p.parent [p.name]
  rw [← names_eq_parent_append hne] at hbelow
  exact matchesAny_iff hbelow (List.cons_ne_nil _ _)

theorem isWanted_iff (hne : names ≠ []) : isWanted s p ⟨p.start, p.names ++ names⟩ ↔
    MatchesNames s.included names ∧ ¬ MatchesNames s.excluded names := by
  have hbelow := below?_append p names
  rw [isWanted, Bool.and_eq_true, Bool.not_eq_true', ← Bool.not_eq_true, matchesAny_iff hbelow hne,
    matchesAny_iff hbelow hne, and_comm]

/-- A path that leads to a file stands for that file, or for none. -/
theorem mem_filesFor_of_hasFile (hisFile : root.hasFile p) (hne : p.names ≠ []) :
    file ∈ filesFor root s p ↔ file = p ∧ ¬ MatchesNames s.excluded [p.name] := by
  rw [filesFor, if_pos hisFile, ← matchesAny_parent hne]
  split
  · rename_i hexcluded
    exact iff_of_false nofun fun h => h.2 hexcluded
  · rename_i hkept
    rw [List.mem_singleton]
    exact ⟨fun h => ⟨h, hkept⟩, And.left⟩

theorem asksFor_iff : AsksFor root s p file ↔
    (file = p ∧ ¬ MatchesNames s.excluded [p.name]) ∨
      (root.hasDirectory p ∧ ∃ names, file = ⟨p.start, p.names ++ names⟩ ∧
        MatchesNames s.included names ∧ ¬ MatchesNames s.excluded names) := by
  constructor
  · rintro (hkept | ⟨hdirectory, hincluded, hkept⟩)
    · exact .inl ⟨rfl, hkept⟩
    · exact .inr ⟨hdirectory, _, rfl, hincluded, hkept⟩
  · rintro (⟨rfl, hkept⟩ | ⟨hdirectory, names, rfl, hincluded, hkept⟩)
    · exact .itself hkept
    · exact .below hdirectory hincluded hkept

theorem not_hasFile_of_hasDirectory (h : root.hasDirectory p) : ¬ root.hasFile p := by
  unfold hasDirectory at h
  unfold hasFile
  split at h
  · rw [isFile, h]
    exact Bool.false_ne_true
  · exact Bool.false_ne_true

/-- No names at all lead to a directory only. -/
theorem names_ne_nil_of_mem_files (hdirectory : t.isDirectory) (h : names ∈ t.files) :
    names ≠ [] := by
  cases t with
  | file octets => cases hdirectory
  | unreadable error => cases hdirectory
  | directory entries =>
    obtain ⟨e, -, below, -, rfl⟩ := mem_filesOf_iff.1 h
    exact List.cons_ne_nil _ _

theorem mem_filesBelow_iff : ⟨p.start, names⟩ ∈ filesBelow root p ↔
    ∃ t, root.find? p = .ok t ∧ ∃ below ∈ t.files, names = p.names ++ below := by
  unfold filesBelow
  split
  · rename_i error hfind
    exact iff_of_false nofun fun ⟨t, ht, _⟩ => nomatch hfind.symm.trans ht
  · rename_i t hfind
    simp only [List.mem_map, Path.mk.injEq, true_and, hfind, Except.ok.injEq, exists_eq_left',
      eq_comm]

/-- A path that leads to no file stands for the files below it. -/
theorem mem_filesFor_of_not_hasFile (hnone : ¬ root.hasFile p) :
    ⟨p.start, names⟩ ∈ filesFor root s p ↔ root.hasDirectory p ∧ ∃ t, root.find? p = .ok t ∧
      ∃ below ∈ t.files, names = p.names ++ below ∧ MatchesNames s.included below ∧
        ¬ MatchesNames s.excluded below := by
  rw [filesFor, if_neg hnone, List.mem_filter, mem_filesBelow_iff]
  constructor
  · rintro ⟨⟨t, hfind, below, hbelow, rfl⟩, hwanted⟩
    have hdirectory : root.hasDirectory p := by
      rw [hasFile, hfind] at hnone
      rw [hasDirectory, hfind]
      cases t with
      | file octets => exact absurd rfl hnone
      | unreadable error => exact absurd rfl hnone
      | directory entries => rfl
    have hisDirectory : t.isDirectory := by rwa [hasDirectory, hfind] at hdirectory
    have hne := names_ne_nil_of_mem_files hisDirectory hbelow
    exact ⟨hdirectory, t, hfind, below, hbelow, rfl, (isWanted_iff hne).1 hwanted⟩
  · rintro ⟨hdirectory, t, hfind, below, hbelow, rfl, hwanted⟩
    have hisDirectory : t.isDirectory := by rwa [hasDirectory, hfind] at hdirectory
    have hne := names_ne_nil_of_mem_files hisDirectory hbelow
    exact ⟨⟨t, hfind, below, hbelow, rfl⟩, (isWanted_iff hne).2 hwanted⟩

/-- **The files that a path stands for** are those of the tree that it asks for. -/
theorem mem_filesFor_iff (hroot : root.Proper) (hdirectory : root.isDirectory)
    (hhere : here.isAbsolute) {path : Path} (hnames : names ∈ root.files) :
    ⟨.root, names⟩ ∈ filesFor root s (path.resolve here) ↔
      AsksFor root s (path.resolve here) ⟨.root, names⟩ := by
  obtain ⟨file, hleads, hisFile⟩ := hroot.mem_files_iff.1 hnames
  rw [← Path.start_resolve (p := path) hhere]
  by_cases hfile : root.hasFile (path.resolve here)
  · obtain ⟨itself, hself, hnone⟩ := hasFile_resolve_iff.1 hfile
    have hne : (path.resolve here).names ≠ [] := by
      intro hnil
      rw [hnil] at hself
      cases hself
      rw [isFile, hdirectory] at hnone
      cases hnone
    rw [mem_filesFor_of_hasFile hfile hne, asksFor_iff]
    exact (or_iff_left fun h => not_hasFile_of_hasDirectory h.1 hfile).symm
  · rw [mem_filesFor_of_not_hasFile hfile, asksFor_iff]
    constructor
    · rintro ⟨hisDirectory, t, -, below, -, rfl, hwanted⟩
      exact .inr ⟨hisDirectory, below, rfl, hwanted⟩
    · rintro (⟨hself, -⟩ | ⟨hisDirectory, below, hbelow, hwanted⟩)
      · refine absurd (hasFile_resolve_iff.2 ⟨file, ?_, hisFile⟩) hfile
        rw [← hself]
        exact hleads
      · obtain rfl : names = (path.resolve here).names ++ below := congrArg Path.names hbelow
        obtain ⟨t, hfind⟩ := CommandLine.Command.exists_find?_of_hasDirectory hisDirectory
        obtain ⟨t', hfront, hbehind⟩ := hleads.split
        -- What the names of the directory lead to is what is found there.
        obtain rfl := hfront.unique (leads_of_find?_resolve hfind)
        have hmem := (hroot.of_leads hfront).mem_files_iff.2 ⟨file, hbehind, hisFile⟩
        exact ⟨hisDirectory, t', hfind, below, hmem, rfl, hwanted⟩

/-! ## What is listed -/

/-- **Files are listed in the order of paths**, each once. -/
theorem pairwise_files (hroot : root.Proper) (hhere : here.isAbsolute) :
    (files root here s paths).Pairwise fun f g => f.names < g.names := by
  have hsorted : (files root here s paths).Pairwise fun f g => f.le g = true :=
    List.pairwise_mergeSort Path.le_trans Path.le_total _
  refine (hsorted.and nodup_files).imp_of_mem fun {f g} hf hg h => ?_
  have hstart : f.start = g.start :=
    (mem_files_of_mem hroot hhere hf).1.trans (mem_files_of_mem hroot hhere hg).1.symm
  have hle := h.1
  rw [Path.le, if_pos hstart, Path.namesLe_iff] at hle
  refine hle.resolve_left fun hnames => h.2 ?_
  obtain ⟨start, names⟩ := f
  obtain ⟨start', names'⟩ := g
  dsimp only at hstart hnames
  rw [hstart, hnames]

/-- **What a list of files is, given the paths that ask for them.** -/
structure Lists (root : FileTree) (here : Path) (s : Settings) (paths listed : List Path) :
    Prop where
  /-- Only files of the tree are listed. -/
  placed : ∀ file ∈ listed, file.start = .root ∧ file.names ∈ root.files
  /-- A file is listed exactly if some path asks for it. -/
  asked : ∀ names ∈ root.files, ⟨.root, names⟩ ∈ listed ↔
    ∃ path ∈ paths, AsksFor root s (path.resolve here) ⟨.root, names⟩
  /-- Each file comes before the next in the order of paths, name by name. -/
  increasing : listed.Pairwise fun f g => f.names < g.names

/-- Paths that are the same but for order and number list the same files. -/
theorem files_congr (hroot : root.Proper) (hhere : here.isAbsolute)
    (hsame : ∀ path, path ∈ paths' ↔ path ∈ paths) :
    files root here s paths' = files root here s paths := by
  have hmem : ∀ file, file ∈ files root here s paths' ↔ file ∈ files root here s paths := by
    intro file
    rw [mem_files_iff_exists, mem_files_iff_exists]
    exact exists_congr fun path => and_congr (hsame path) Iff.rfl
  have hperm := (List.perm_ext_iff_of_nodup nodup_files nodup_files).2 hmem
  refine hperm.eq_of_pairwise (fun f g _ _ hfg hgf => ?_) (pairwise_files hroot hhere)
    (pairwise_files hroot hhere)
  exact absurd (hfg.trans hgf) (lt_irrefl _)

/-- **Exactly the files that are asked for are listed, in order**, and neither the
order nor the number of the paths matters. Looking for them does not break off, if
the names are such as a file can have. -/
theorem files_exact (hroot : root.Proper) (hdirectory : root.isDirectory)
    (hhere : here.isAbsolute) (s : Settings) (paths : List Path) :
    Lists root here s paths (files root here s paths) ∧
      (∀ paths' : List Path, (∀ path, path ∈ paths' ↔ path ∈ paths) →
        files root here s paths' = files root here s paths) ∧
      ((∀ path ∈ paths, path.hasNull = false ∧
          ∀ name ∈ (path.resolve here).names, isTooLong name = false) →
        paths.findSome? (root.lookupCrash? here) = none) := by
  refine ⟨⟨fun file => mem_files_of_mem hroot hhere, fun names hnames => ?_,
    pairwise_files hroot hhere⟩, fun paths' => files_congr hroot hhere, fun hpaths => ?_⟩
  · rw [mem_files_iff_exists]
    exact exists_congr fun path =>
      and_congr Iff.rfl (mem_filesFor_iff hroot hdirectory hhere hnames)
  · refine List.findSome?_eq_none_iff.2 fun path hpath => ?_
    exact lookupCrash?_eq_none (hpaths path hpath).1 (hpaths path hpath).2

/-- A file in an excluded directory is listed if that directory, or the file, is asked
for too, whichever is asked for first. -/
theorem files_exact_overlapping :
    let root : FileTree := .directory [("app".toList, .directory [("a.html.erb".toList, .file []),
      ("tmp".toList, .directory [("b.html.erb".toList, .file [])])])]
    let here : Path := ⟨.root, ["app".toList]⟩
    let paths : List Path := [⟨.here, []⟩, ⟨.here, ["tmp".toList]⟩,
      ⟨.here, ["..".toList, "app".toList, "tmp".toList, "b.html.erb".toList]⟩]
    let b : Path := ⟨.root, ["app".toList, "tmp".toList, "b.html.erb".toList]⟩
    b ∉ files root here {} [⟨.here, []⟩] ∧ b ∈ files root here {} paths ∧
      files root here {} paths.reverse = files root here {} paths ∧
      paths.findSome? (root.lookupCrash? here) = none := by
  intro root here paths b
  have hroot : root.Proper := by
    refine .directory (by decide) (by decide) fun e he => ?_
    rw [List.mem_singleton.1 he]
    refine .directory (by decide) (by decide) fun e he => ?_
    simp only [List.mem_cons, List.not_mem_nil, or_false] at he
    rcases he with rfl | rfl
    · exact .file _
    · refine .directory (by decide) (by decide) fun e he => ?_
      rw [List.mem_singleton.1 he]
      exact .file _
  have hb : b.names ∈ root.files := by decide +kernel
  have hhere : here.isAbsolute := by decide
  obtain ⟨hlists, hsame, hlookup⟩ := files_exact hroot rfl hhere {} paths
  refine ⟨fun hmem => ?_, (hlists.asked _ hb).2 ⟨_, .tail _ (.head _), ?_⟩,
    hsame _ fun path => List.mem_reverse, hlookup (by decide +kernel)⟩
  · obtain ⟨path, hpath, hasks⟩ :=
      ((files_exact hroot rfl hhere {} [⟨.here, []⟩]).1.asked _ hb).1 hmem
    rw [List.mem_singleton.1 hpath] at hasks
    rcases asksFor_iff.1 hasks with ⟨heq, -⟩ | ⟨-, names, heq, -, hkept⟩
    · exact absurd heq (by decide +kernel)
    · obtain rfl : ["tmp".toList, "b.html.erb".toList] = names := by
        exact (List.cons.inj (congrArg Path.names heq)).2
      exact hkept (by decide +kernel)
  · have hincluded : MatchesNames ({} : Settings).included ["b.html.erb".toList] := by
      decide +kernel
    exact .below (by decide +kernel) hincluded (by decide +kernel)

end Discovery

end TemplateLint
