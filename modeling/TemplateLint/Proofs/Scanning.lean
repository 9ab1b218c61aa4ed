import TemplateLint.CommandLine.Request
import TemplateLint.Proofs.Calls
import TemplateLint.Proofs.Files
/-!
# Scanning — which files paths stand for

Double dots lead back through directories that exist, so that where names lead
to something, the names that are left when double dots are followed beforehand
lead to the same (`FileTree.find?_resolve`). So a path that a command line may
name can be looked for (`CommandLine.Command.pathFailure?_of_request?`), and what
it stands for are files of the tree, each once (`Discovery.mem_files_of_mem`).
-/

namespace TemplateLint

/-! ## Following double dots -/

namespace Path

variable {name : Text} {names inside : List Text} {p here : Path}

/-- No double dots are left. -/
theorem down_follow (hinside : ∀ name ∈ inside, name ≠ ['.', '.']) :
    ∀ name ∈ follow inside names, name ≠ ['.', '.'] := by
  induction names generalizing inside with
  | nil => exact fun name hname => hinside name (List.mem_reverse.1 hname)
  | cons first names ih =>
    rw [follow]
    split
    · exact ih fun name hname => hinside name (List.mem_of_mem_tail hname)
    · rename_i hfirst
      refine ih fun name hname => ?_
      rcases List.mem_cons.1 hname with rfl | hname
      · exact hfirst
      · exact hinside name hname

theorem down_resolve : ∀ name ∈ (p.resolve here).names, name ≠ ['.', '.'] :=
  down_follow nofun

end Path

namespace FileTree

variable {root t e : FileTree} {above : List FileTree} {inside names : List Text} {p here : Path}

/-- **One stands in a tree**, with the directories above and the names that lead
there, both from the inside out. -/
inductive Stands (root : FileTree) : List FileTree → List Text → FileTree → Prop
  | root : Stands root [] [] root
  | down {above : List FileTree} {inside : List Text} {t e : FileTree} {name : Text} :
      Stands root above inside t → t.entry? name = .ok e → Stands root (t :: above) (name :: inside) e

/-- The names that were followed lead there. -/
theorem Stands.leads (h : Stands root above inside t) : root.Leads inside.reverse t := by
  induction h with
  | root => exact .refl root
  | @down _ _ t e name _ hentry ih =>
    rw [List.reverse_cons]
    refine ih.append ?_
    cases t with
    | file octets => cases hentry
    | unreadable error => cases hentry
    | directory entries =>
      simp only [FileTree.entry?] at hentry
      split at hentry
      · cases hentry
      · rename_i hlookup
        cases hentry
        exact .entry hlookup (.refl e)

/-- **Wherever one stands**, following names leads to where the names lead that are
left of them. -/
theorem Stands.follow (h : Stands root above inside t)
    (hfollow : FileTree.follow above t names = .ok e) :
    root.Leads (Path.follow inside names) e := by
  induction names generalizing above inside t with
  | nil =>
    cases hfollow
    exact h.leads
  | cons name names ih =>
    rw [Path.follow]
    unfold FileTree.follow at hfollow
    split at hfollow
    · cases hfollow
    · split at hfollow
      · rename_i hup
        rw [if_pos hup]
        cases h with
        | root => exact ih .root hfollow
        | down habove _ => exact ih habove hfollow
      · rename_i hdown
        rw [if_neg hdown]
        split at hfollow
        · cases hfollow
        · rename_i next hentry
          exact ih (h.down hentry) hfollow

/-- What a path leads to, the resolved path leads to entry by entry. -/
theorem leads_resolve (h : root.find? (here.append p) = .ok t) :
    root.Leads (p.resolve here).names t :=
  Stands.root.follow h

/-- **A resolved path leads where the path leads.** -/
theorem find?_resolve (h : root.find? (here.append p) = .ok t) :
    root.find? (p.resolve here) = .ok t :=
  (follow_eq_ok_iff Path.down_resolve).2 (leads_resolve h)

/-- What a resolved path leads to, it leads to entry by entry. -/
theorem leads_of_find?_resolve (h : root.find? (p.resolve here) = .ok t) :
    root.Leads (p.resolve here).names t :=
  (follow_eq_ok_iff Path.down_resolve).1 h

/-- A resolved path is to a file exactly where its names lead to one. -/
theorem hasFile_resolve_iff :
    root.hasFile (p.resolve here) ↔
      ∃ file, root.Leads (p.resolve here).names file ∧ file.isFile := by
  unfold hasFile
  constructor
  · intro h
    split at h
    · rename_i file hfind
      exact ⟨file, leads_of_find?_resolve hfind, h⟩
    · cases h
  · rintro ⟨file, hleads, hfile⟩
    have hfind : root.find? (p.resolve here) = .ok file :=
      (follow_eq_ok_iff Path.down_resolve).2 hleads
    rw [hfind]
    exact hfile

theorem Proper.of_leads (h : t.Proper) (hleads : t.Leads names e) : e.Proper := by
  induction hleads with
  | refl => exact h
  | entry hlookup _ ih =>
    cases h with
    | directory hdistinct _ hbelow =>
      exact ih (hbelow _ ((lookup_eq_some_iff hdistinct).1 hlookup))

end FileTree

/-! ## The files of a run -/

namespace Discovery

variable {root : FileTree} {here : Path} {s : Settings} {paths : List Path} {file : Path}

theorem nodup_files : (files root here s paths).Nodup :=
  (List.mergeSort_perm _ _).nodup_iff.2 (nodup_eraseDups _)

/-- **What is scanned are files of the tree.** -/
theorem mem_files_of_mem (hroot : root.Proper) (hhere : here.isAbsolute)
    (h : file ∈ files root here s paths) : file.start = .root ∧ file.names ∈ root.files := by
  obtain ⟨path, -, hfile⟩ := mem_files_iff_exists.1 h
  rcases mem_filesFor hfile with ⟨hisFile, rfl⟩ | ⟨t, names, hfind, hnames, rfl⟩
  · exact ⟨Path.start_resolve hhere,
      hroot.mem_files_iff.2 (FileTree.hasFile_resolve_iff.1 hisFile)⟩
  · have hleads := FileTree.leads_of_find?_resolve hfind
    obtain ⟨file, hrest, hfile⟩ := (hroot.of_leads hleads).mem_files_iff.1 hnames
    exact ⟨Path.start_resolve hhere, hroot.mem_files_iff.2 ⟨file, hleads.append hrest, hfile⟩⟩

end Discovery

/-! ## Paths of a command line -/

/-- A text without a null character is read as a path without one. -/
theorem Path.hasNull_read {t : Text} (h : '\x00' ∉ t) : (Path.read t).hasNull = false := by
  rw [hasNull, List.any_eq_false]
  intro name hname
  rw [List.any_eq_true]
  rintro ⟨c, hc, hnull⟩
  have hpiece : name ∈ t.splitAt '/' := (List.mem_filter.1 hname).1
  exact h (of_decide_eq_true hnull ▸ Text.mem_of_mem_splitAt hpiece hc)

/-- What comes of a list comes of its members. -/
theorem exists_of_mem_mapM {α β ε : Type} {f : α → Except ε β} {xs : List α} {ys : List β}
    (h : xs.mapM f = .ok ys) {y : β} (hy : y ∈ ys) : ∃ x ∈ xs, f x = .ok y := by
  induction xs generalizing ys with
  | nil =>
    cases h
    cases hy
  | cons x xs ih =>
    rw [List.mapM_cons] at h
    simp only [bind, Except.bind] at h
    split at h
    · cases h
    · rename_i first hfirst
      split at h
      · cases h
      · rename_i rest hrest
        cases h
        rcases List.mem_cons.1 hy with rfl | hy
        · exact ⟨x, .head _, hfirst⟩
        · obtain ⟨x', hx', heq⟩ := ih hrest hy
          exact ⟨x', .tail _ hx', heq⟩

namespace CommandLine.Command

open FileTree

variable {w : Workspace} {paths : List Path} {words : List String}

theorem exists_find?_of_hasDirectory {root : FileTree} {path : Path}
    (h : root.hasDirectory path) : ∃ t, root.find? path = .ok t := by
  unfold hasDirectory at h
  split at h
  · rename_i t hfind
    exact ⟨t, hfind⟩
  · cases h

/-- A word that leads somewhere leads to something. -/
theorem exists_find?_of_leadsSomewhere {word : String} (h : leadsSomewhere w word) :
    ∃ t, w.root.find? (w.here.append (Path.read word.toList)) = .ok t := by
  unfold leadsSomewhere at h
  dsimp only at h
  split at h
  · cases h
  · split at h
    · exact exists_find?_of_hasDirectory h
    · rw [exists?] at h
      cases hfind : w.root.find? (w.here.append (Path.read word.toList)) with
      | error e =>
        rw [hfind] at h
        cases h
      | ok t => exact ⟨t, rfl⟩

/-- **A path that a command line names can be looked for.** -/
theorem lookupCrash?_of_path? {operand : String} {path : Path} (h : path? w operand = .ok path) :
    w.root.lookupCrash? w.here path = none := by
  unfold path? at h
  split at h
  · cases h
  · rename_i hnull
    split at h
    · rename_i hleads
      cases h
      obtain ⟨t, hfind⟩ := exists_find?_of_leadsSomewhere hleads
      rw [List.contains_iff_mem] at hnull
      rw [lookupCrash?, Path.hasNull_read hnull, find?_resolve hfind]
      rfl
    · cases h

/-- So can where one stands, if that is a directory. -/
theorem lookupCrash?_here (h : w.root.hasDirectory w.here) :
    w.root.lookupCrash? w.here ⟨.here, []⟩ = none := by
  obtain ⟨t, hfind⟩ := exists_find?_of_hasDirectory h
  have happend : w.here.append ⟨.here, []⟩ = w.here := by
    rw [Path.append, if_neg (by decide), List.append_nil]
  rw [lookupCrash?, find?_resolve (happend.symm ▸ hfind)]
  rfl

theorem lookupCrash?_of_paths? (hhere : w.root.hasDirectory w.here) {operands : List String}
    (h : paths? w operands = .ok paths) :
    ∀ path ∈ paths, w.root.lookupCrash? w.here path = none := by
  unfold paths? at h
  split at h
  · cases h
    intro path hpath
    rw [List.mem_singleton.1 hpath]
    exact lookupCrash?_here hhere
  · intro path hpath
    obtain ⟨operand, -, hoperand⟩ := exists_of_mem_mapM h hpath
    exact lookupCrash?_of_path? hoperand

/-- **No run over what a command line names breaks off before the first file.** -/
theorem pathFailure?_of_request? (hhere : w.root.hasDirectory w.here) {checkOnly : Bool}
    (h : request? w .fix words = .ok (.fix checkOnly paths)) (p : Project) :
    Setup.pathFailure? w p paths = none := by
  have hnone : ∀ path ∈ paths, w.root.lookupCrash? w.here path = none := by
    simp only [request?, bind, Except.bind] at h
    split at h
    · cases h
    · split at h
      · cases h
      · split at h
        · cases h
        · rename_i hpaths
          cases h
          exact lookupCrash?_of_paths? hhere hpaths
  rw [Setup.pathFailure?, List.findSome?_eq_none_iff.2 hnone]
  rfl

end CommandLine.Command

end TemplateLint
