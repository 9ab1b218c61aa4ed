import Mathlib.Data.List.Nodup
import TemplateLint.Proofs.Paths
import TemplateLint.Run.Fix
/-!
# Files — what a write does to a file tree

Plain names are followed entry by entry (`FileTree.Leads`), and the files of a
proper tree are the places where names lead to one
(`FileTree.Proper.mem_files_iff`). To write over the octets of a file changes
those at that place alone (`FileTree.put_eq_mapOctets`), and so to write over
several is to map each file to its own new octets
(`FileChange.writeAll_eq_mapOctets`).
-/

namespace TemplateLint

namespace FileTree

/-- **A tree that a file system can hold**: no two entries of a directory have
one name, and none is named as what lies above. -/
inductive Proper : FileTree → Prop
  | file (octets : List UInt8) : Proper (.file octets)
  | unreadable (error : FileError) : Proper (.unreadable error)
  | directory {entries : List (Text × FileTree)} (distinct : (entries.map (·.1)).Nodup)
      (names : ∀ e ∈ entries, e.1 ≠ ['.', '.']) (below : ∀ e ∈ entries, Proper e.2) :
      Proper (.directory entries)

/-- **What names lead to**, entry by entry. -/
inductive Leads : FileTree → List Text → FileTree → Prop
  | refl (t : FileTree) : Leads t [] t
  | entry {entries : List (Text × FileTree)} {name : Text} {names : List Text} {e t : FileTree} :
      entries.lookup name = some e → Leads e names t → Leads (.directory entries) (name :: names) t

variable {root t e : FileTree} {name : Text} {names names' : List Text}
  {entries : List (Text × FileTree)} {octets : List UInt8}

namespace Leads

theorem append (h : t.Leads names e) {e' : FileTree} (h' : e.Leads names' e') :
    t.Leads (names ++ names') e' := by
  induction h with
  | refl => exact h'
  | entry hlookup _ ih => exact .entry hlookup (ih h')

end Leads

/-- Names that do not lead up are followed entry by entry. -/
theorem follow_eq_ok_iff (hdown : ∀ name ∈ names, name ≠ ['.', '.']) {above : List FileTree} :
    follow above t names = .ok e ↔ t.Leads names e := by
  induction names generalizing above t with
  | nil =>
    rw [follow]
    constructor
    · intro h
      cases h
      exact .refl _
    · intro h
      cases h
      rfl
  | cons name names ih =>
    have hname : name ≠ ['.', '.'] := hdown name (.head _)
    have hrest : ∀ name ∈ names, name ≠ ['.', '.'] := fun n hn => hdown n (.tail _ hn)
    unfold follow
    cases t with
    | file | unreadable =>
      constructor
      · intro h
        cases h
      · intro h
        cases h
    | directory entries =>
      have hdirectory : ¬ (directory entries).isFile := Bool.false_ne_true
      rw [if_neg hdirectory, if_neg hname, entry?]
      constructor
      · intro h
        split at h
        · cases h
        · rename_i next hnext
          split at hnext
          · cases hnext
          · rename_i hlookup
            cases hnext
            exact .entry hlookup ((ih hrest).1 h)
      · intro h
        cases h with
        | entry hlookup hleads =>
          rw [hlookup]
          exact (ih hrest).2 hleads

/-! ## The files of a tree -/

/-- Where names are distinct, an entry is found under its own. -/
theorem lookup_eq_some_iff (hdistinct : (entries.map (·.1)).Nodup) :
    entries.lookup name = some e ↔ (name, e) ∈ entries := by
  induction entries with
  | nil => exact iff_of_false nofun nofun
  | cons entry entries ih =>
    obtain ⟨first, t⟩ := entry
    obtain ⟨hfresh, hrest⟩ := List.nodup_cons.1 hdistinct
    rw [List.lookup_cons, List.mem_cons, Prod.mk.injEq]
    by_cases hname : name = first
    · subst hname
      rw [beq_self_eq_true]
      constructor
      · intro h
        exact .inl ⟨rfl, (Option.some.inj h).symm⟩
      · rintro (⟨-, rfl⟩ | hmem)
        · rfl
        · exact absurd (List.mem_map.2 ⟨_, hmem, rfl⟩) hfresh
    · rw [beq_eq_false_iff_ne.2 hname, ih hrest]
      exact ⟨.inr, fun h => h.resolve_left fun heq => hname heq.1⟩

theorem filesOf_eq : filesOf entries = entries.flatMap fun e => e.2.files.map (e.1 :: ·) := by
  induction entries with
  | nil => rfl
  | cons e entries ih => rw [filesOf, ih, List.flatMap_cons]

theorem mem_filesOf_iff : names ∈ filesOf entries ↔
    ∃ e ∈ entries, ∃ below ∈ e.2.files, names = e.1 :: below := by
  simp only [filesOf_eq, List.mem_flatMap, List.mem_map, eq_comm]

/-- What is no directory is a file itself, and has none below it. -/
theorem mem_files_of_isFile (h : t.isFile) :
    names ∈ t.files ↔ ∃ file, t.Leads names file ∧ file.isFile := by
  have hfiles : t.files = [[]] := by
    cases t with
    | file octets => rfl
    | unreadable error => rfl
    | directory entries => cases h
  rw [hfiles, List.mem_singleton]
  constructor
  · rintro rfl
    exact ⟨t, .refl t, h⟩
  · rintro ⟨file, hleads, -⟩
    cases hleads with
    | refl => rfl
    | entry => cases h

/-- **The files of a tree are where names lead to one**, whether it can be read or
not. -/
theorem Proper.mem_files_iff (h : t.Proper) :
    names ∈ t.files ↔ ∃ file, t.Leads names file ∧ file.isFile := by
  induction h generalizing names with
  | file octets => exact mem_files_of_isFile rfl
  | unreadable error => exact mem_files_of_isFile rfl
  | @directory entries hdistinct _ _ ih =>
    rw [files, mem_filesOf_iff]
    constructor
    · rintro ⟨⟨name, e⟩, he, below, hbelow, rfl⟩
      obtain ⟨file, hleads, hfile⟩ := (ih _ he).1 hbelow
      exact ⟨file, .entry ((lookup_eq_some_iff hdistinct).2 he) hleads, hfile⟩
    · rintro ⟨file, hleads, hfile⟩
      cases hleads with
      | refl => cases hfile
      | @entry _ name rest e _ hlookup hrest =>
        have he := (lookup_eq_some_iff hdistinct).1 hlookup
        exact ⟨_, he, rest, (ih _ he).2 ⟨file, hrest, hfile⟩, rfl⟩

theorem nodup_filesOf (hdistinct : (entries.map (·.1)).Nodup)
    (hbelow : ∀ e ∈ entries, e.2.files.Nodup) : (filesOf entries).Nodup := by
  induction entries with
  | nil => exact .nil
  | cons entry entries ih =>
    obtain ⟨name, t⟩ := entry
    obtain ⟨hfresh, hrest⟩ := List.nodup_cons.1 hdistinct
    rw [filesOf, List.nodup_append]
    refine ⟨(hbelow _ (.head _)).map List.cons_injective,
      ih hrest fun e he => hbelow e (.tail _ he), ?_⟩
    rintro _ hfirst names hlater rfl
    obtain ⟨below, -, rfl⟩ := List.mem_map.1 hfirst
    obtain ⟨e, he, _, -, heq⟩ := mem_filesOf hlater
    exact hfresh (List.mem_map.2 ⟨e, he, (List.cons.inj heq).1.symm⟩)

/-- No file is listed twice. -/
theorem Proper.nodup_files (h : t.Proper) : t.files.Nodup := by
  induction h with
  | file octets => exact List.nodup_singleton _
  | unreadable error => exact List.nodup_singleton _
  | directory hdistinct _ _ ih => exact nodup_filesOf hdistinct ih

/-- The names that lead to a file lead down. -/
theorem Proper.down_of_leads (h : t.Proper) (hleads : t.Leads names e) :
    ∀ name ∈ names, name ≠ ['.', '.'] := by
  induction hleads with
  | refl => exact nofun
  | entry hlookup _ ih =>
    cases h with
    | directory hdistinct hnames hbelow =>
      have he := (lookup_eq_some_iff hdistinct).1 hlookup
      intro name hname
      rcases List.mem_cons.1 hname with rfl | hname
      · exact hnames _ he
      · exact ih (hbelow _ he) name hname

/-- **What is read in a file** are the octets that its names lead to. -/
theorem octets?_eq_ok_iff (hdown : ∀ name ∈ names, name ≠ ['.', '.']) :
    t.octets? ⟨.root, names⟩ = .ok octets ↔ t.Leads names (.file octets) := by
  have hfollow : follow [] t names = .ok (.file octets) ↔ t.Leads names (.file octets) :=
    follow_eq_ok_iff hdown
  rw [← hfollow, octets?, find?]
  rcases follow [] t names with error | (found | error | entries)
  · exact iff_of_false nofun nofun
  · simp
  · exact iff_of_false nofun nofun
  · exact iff_of_false nofun nofun

/-! ## Other octets -/

mutual

/-- The tree with other octets in its files, from the names that lead to each and
the octets in it. -/
def mapOctets (f : List Text → List UInt8 → List UInt8) : FileTree → FileTree
  | .file octets => .file (f [] octets)
  | .unreadable error => .unreadable error
  | .directory entries => .directory (mapOctetsOf f entries)

/-- Some entries with other octets in the files below them. -/
def mapOctetsOf (f : List Text → List UInt8 → List UInt8) :
    List (Text × FileTree) → List (Text × FileTree)
  | [] => []
  | (name, e) :: entries =>
    (name, mapOctets (fun names => f (name :: names)) e) :: mapOctetsOf f entries

end

theorem mapOctetsOf_eq (f : List Text → List UInt8 → List UInt8) :
    mapOctetsOf f entries =
      entries.map fun e => (e.1, mapOctets (fun names => f (e.1 :: names)) e.2) := by
  induction entries with
  | nil => rfl
  | cons e entries ih => rw [mapOctetsOf, ih, List.map_cons]

variable {f : List Text → List UInt8 → List UInt8}

theorem lookup_mapOctetsOf (h : entries.lookup name = some e) :
    (mapOctetsOf f entries).lookup name = some (mapOctets (fun names => f (name :: names)) e) := by
  induction entries with
  | nil => cases h
  | cons entry entries ih =>
    obtain ⟨first, t⟩ := entry
    rw [List.lookup_cons] at h
    rw [mapOctetsOf, List.lookup_cons]
    split at h
    · rename_i heq
      obtain rfl := eq_of_beq heq
      cases h
      rfl
    · exact ih h

/-- Names lead to what they led to, with other octets in its files. -/
theorem Leads.mapOctets (h : t.Leads names e) :
    (t.mapOctets f).Leads names (e.mapOctets fun below => f (names ++ below)) := by
  induction h generalizing f with
  | refl => exact .refl _
  | entry hlookup _ ih => exact .entry (lookup_mapOctetsOf hlookup) ih

/-- **What is read in a file afterwards** comes of what was read in it, and what
could not be read still cannot. -/
theorem octets?_mapOctets (hdown : ∀ name ∈ names, name ≠ ['.', '.']) (hleads : t.Leads names e) :
    (t.mapOctets f).octets? ⟨.root, names⟩ = (t.octets? ⟨.root, names⟩).map (f names) := by
  have hbefore : follow [] t names = .ok e := (follow_eq_ok_iff hdown).2 hleads
  have hafter : follow [] (t.mapOctets f) names =
      .ok (e.mapOctets fun below => f (names ++ below)) :=
    (follow_eq_ok_iff hdown).2 hleads.mapOctets
  rw [octets?, octets?, find?, find?, hbefore, hafter]
  cases e with
  | file octets => rw [mapOctets, List.append_nil, Except.map]
  | unreadable error => rfl
  | directory entries => rfl

theorem Proper.mapOctets (h : t.Proper) : (t.mapOctets f).Proper := by
  induction h generalizing f with
  | file octets => exact .file _
  | unreadable error => exact .unreadable _
  | directory hdistinct hnames _ ih =>
    rw [FileTree.mapOctets, mapOctetsOf_eq]
    refine .directory ?_ ?_ ?_
    · rwa [List.map_map]
    · intro mapped hmapped
      obtain ⟨e, he, rfl⟩ := List.mem_map.1 hmapped
      exact hnames e he
    · intro mapped hmapped
      obtain ⟨e, he, rfl⟩ := List.mem_map.1 hmapped
      exact ih e he

theorem Proper.mapOctets_eq_self (h : t.Proper) (hf : ∀ names octets, f names octets = octets) :
    t.mapOctets f = t := by
  induction h generalizing f with
  | file octets => rw [FileTree.mapOctets, hf]
  | unreadable error => rfl
  | @directory entries _ _ _ ih =>
    rw [FileTree.mapOctets, mapOctetsOf_eq]
    have hentries : ∀ e ∈ entries,
        (e.1, FileTree.mapOctets (fun names => f (e.1 :: names)) e.2) = e := fun e he => by
      rw [ih e he fun names octets => hf _ _]
    exact congrArg FileTree.directory ((List.map_congr_left hentries).trans (List.map_id entries))

theorem Proper.mapOctets_mapOctets (h : t.Proper) {g : List Text → List UInt8 → List UInt8} :
    (t.mapOctets f).mapOctets g = t.mapOctets fun names octets => g names (f names octets) := by
  induction h generalizing f g with
  | file octets => rfl
  | unreadable error => rfl
  | directory _ _ _ ih =>
    rw [FileTree.mapOctets, FileTree.mapOctets, FileTree.mapOctets, mapOctetsOf_eq, mapOctetsOf_eq,
      mapOctetsOf_eq, List.map_map]
    refine congrArg FileTree.directory (List.map_congr_left fun e he => ?_)
    exact congrArg (Prod.mk e.1) (ih e he)

/-- **To write over a file changes its octets** and nothing else. -/
theorem put_eq_mapOctets (h : t.Proper) (hleads : t.Leads names (.file octets))
    (new : List UInt8) :
    put (.file new) names t =
      t.mapOctets fun names' octets => if names' = names then new else octets := by
  generalize hfile : FileTree.file octets = e at hleads
  induction hleads with
  | refl =>
    subst hfile
    rw [put, mapOctets, if_pos rfl]
  | @entry entries name names e t hlookup _ ih =>
    cases h with
    | directory hdistinct _ hbelow =>
      have he := (lookup_eq_some_iff hdistinct).1 hlookup
      have hany : entries.any (·.1 == name) := List.any_eq_true.2 ⟨_, he, beq_self_eq_true name⟩
      rw [put, mapOctets, mapOctetsOf_eq, hlookup, Option.getD_some, ih (hbelow _ he) hfile,
        putEntry, if_pos hany]
      refine congrArg FileTree.directory (List.map_congr_left fun entry hentry => ?_)
      obtain ⟨name', t'⟩ := entry
      by_cases hname : name' = name
      · subst hname
        cases hlookup.symm.trans ((lookup_eq_some_iff hdistinct).2 hentry)
        simp only [beq_self_eq_true, if_true, List.cons.injEq, true_and]
      · have hother : ∀ names' octets, (if name' :: names' = name :: names then new else octets) =
            octets := fun names' octets => if_neg fun heq => hname (List.cons.inj heq).1
        simp only [beq_iff_eq, hname, if_false, (hbelow _ hentry).mapOctets_eq_self hother]

end FileTree

namespace FileChange

open FileTree

/-- What is in a file after some changes. -/
def octetsAfter (changes : List FileChange) (names : List Text) (octets : List UInt8) :
    List UInt8 :=
  changes.foldl (fun octets c => if names = c.file.names then Text.encode c.new else octets) octets

variable {changes : List FileChange} {root : FileTree} {names : List Text} {octets : List UInt8}

/-- **To write over files changes their octets** and nothing else. -/
theorem writeAll_eq_mapOctets (h : root.Proper)
    (hfiles : ∀ c ∈ changes, ∃ octets, root.Leads c.file.names (.file octets)) :
    writeAll changes root = root.mapOctets (octetsAfter changes) := by
  induction changes generalizing root with
  | nil => exact (h.mapOctets_eq_self fun _ _ => rfl).symm
  | cons c changes ih =>
    obtain ⟨octets, hleads⟩ := hfiles c (.head _)
    have hrest : ∀ c' ∈ changes, ∃ octets, (c.write root).Leads c'.file.names (.file octets) := by
      intro c' hc'
      obtain ⟨octets', hleads'⟩ := hfiles c' (.tail _ hc')
      rw [write, put_eq_mapOctets h hleads]
      exact ⟨_, hleads'.mapOctets⟩
    have hproper : (c.write root).Proper := by
      rw [write, put_eq_mapOctets h hleads]
      exact h.mapOctets
    rw [writeAll, List.foldl_cons]
    refine (ih hproper hrest).trans ?_
    rw [write, put_eq_mapOctets h hleads, h.mapOctets_mapOctets]
    rfl

/-- A file that is not written over keeps its octets. -/
theorem octetsAfter_of_forall_ne (h : ∀ c ∈ changes, names ≠ c.file.names) :
    octetsAfter changes names octets = octets := by
  induction changes with
  | nil => rfl
  | cons c changes ih =>
    rw [octetsAfter, List.foldl_cons, if_neg (h c (.head _))]
    exact ih fun c' hc' => h c' (.tail _ hc')

/-- A file that is written over once has its new text. -/
theorem octetsAfter_of_mem (hdistinct : (changes.map (·.file.names)).Nodup) {c : FileChange}
    (hc : c ∈ changes) : octetsAfter changes c.file.names octets = Text.encode c.new := by
  induction changes generalizing octets with
  | nil => cases hc
  | cons first changes ih =>
    obtain ⟨hfresh, hrest⟩ := List.nodup_cons.1 hdistinct
    rw [octetsAfter, List.foldl_cons]
    rcases List.mem_cons.1 hc with rfl | hc
    · rw [if_pos rfl]
      refine octetsAfter_of_forall_ne fun c' hc' heq => hfresh ?_
      exact List.mem_map.2 ⟨c', hc', heq.symm⟩
    · exact ih hrest hc

end FileChange

end TemplateLint
