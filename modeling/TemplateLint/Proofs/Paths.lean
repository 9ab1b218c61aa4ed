import TemplateLint.Discovery
/-!
# Paths — names that tell files apart

A file goes by its path from the directory of a project if it lies below
that, and by its whole path if it does not. Both are plain: no name in them
is idle or holds a slash. So no two files go by one name
(`Discovery.displayName_inj`). What is found in a tree with plain names has
a plain path (`Discovery.plain_of_mem_files`).
-/

namespace TemplateLint

namespace Path

/-- A name that an entry of a directory can have. -/
def IsPlainName (name : Text) : Prop :=
  ¬ isIdle name ∧ '/' ∉ name

instance (name : Text) : Decidable (IsPlainName name) :=
  inferInstanceAs (Decidable (_ ∧ _))

/-- All names of a path are plain. -/
def Plain (p : Path) : Prop :=
  ∀ name ∈ p.names, IsPlainName name

instance (p : Path) : Decidable p.Plain :=
  inferInstanceAs (Decidable (∀ name ∈ p.names, IsPlainName name))

variable {name : Text} {names names' : List Text} {p q here : Path}

theorem IsPlainName.ne_nil (h : IsPlainName name) : name ≠ [] := by
  rintro rfl
  exact h.1 (by decide)

/-! ## What is written -/

theorem exists_joined_cons (name : Text) (names : List Text) :
    ∃ rest, joined (name :: names) = name ++ rest := by
  cases names with
  | nil => exact ⟨[], by simp [joined, List.intercalate]⟩
  | cons next names => exact ⟨_, by simp [joined, List.intercalate]; rfl⟩

/-- What plain names join to starts with the first of them. -/
theorem exists_joined_eq_cons (h : ∀ n ∈ name :: names, IsPlainName n) :
    ∃ c rest, joined (name :: names) = c :: rest ∧ c ≠ '/' := by
  obtain ⟨rest, hrest⟩ := exists_joined_cons name names
  obtain ⟨hidle, hslash⟩ := h name (.head _)
  rcases name with _ | ⟨c, name⟩
  · exact absurd rfl hidle
  · exact ⟨c, name ++ rest, hrest, fun heq => hslash (heq ▸ .head _)⟩

/-- **Plain names are told apart by what they join to.** -/
theorem joined_inj (h : ∀ name ∈ names, IsPlainName name) (h' : ∀ name ∈ names', IsPlainName name)
    (heq : joined names = joined names') : names = names' := by
  rcases names with _ | ⟨name, names⟩ <;> rcases names' with _ | ⟨name', names'⟩
  · rfl
  · obtain ⟨c, rest, hrest, -⟩ := exists_joined_eq_cons h'
    exact nomatch heq.trans hrest
  · obtain ⟨c, rest, hrest, -⟩ := exists_joined_eq_cons h
    exact nomatch hrest.symm.trans heq
  · rw [← List.splitOn_intercalate '/' (fun n hn => (h n hn).2) (List.cons_ne_nil _ _),
      ← List.splitOn_intercalate '/' (fun n hn => (h' n hn).2) (List.cons_ne_nil _ _)]
    exact congrArg _ heq

/-- A path from the root is written with a slash in front. -/
theorem written_of_isAbsolute (h : p.isAbsolute) :
    p.written = p.start.written ++ joined p.names ∧ p.written.head? = some '/' := by
  have hstart : p.start ≠ .here := of_decide_eq_true h
  have hwritten : p.written = p.start.written ++ joined p.names := by
    rw [written, decide_eq_false hstart]
    rfl
  refine ⟨hwritten, ?_⟩
  rw [hwritten]
  cases hp : p.start with
  | here => exact absurd hp hstart
  | root => rfl
  | doubleRoot => rfl

/-- What plain names join to starts with no slash. -/
theorem head?_joined_ne (h : ∀ name ∈ names, IsPlainName name) :
    (joined names).head? ≠ some '/' := by
  rcases names with _ | ⟨name, names⟩
  · exact nofun
  · obtain ⟨c, rest, hrest, hslash⟩ := exists_joined_eq_cons h
    rw [hrest]
    exact fun heq => hslash (Option.some.inj heq)

/-- **Plain paths from the root are told apart by what they are written as.** -/
theorem written_inj (hp : p.isAbsolute) (hq : q.isAbsolute) (hp' : p.Plain) (hq' : q.Plain)
    (heq : p.written = q.written) : p = q := by
  rw [(written_of_isAbsolute hp).1, (written_of_isAbsolute hq).1] at heq
  obtain ⟨start, names⟩ := p
  obtain ⟨start', names'⟩ := q
  have hslash := head?_joined_ne hp'
  have hslash' := head?_joined_ne hq'
  cases start with
  | here => exact Bool.noConfusion hp
  | root =>
    cases start' with
    | here => exact Bool.noConfusion hq
    | root => exact congrArg (Path.mk .root) (joined_inj hp' hq' (List.cons.inj heq).2)
    | doubleRoot => exact absurd (congrArg List.head? (List.cons.inj heq).2) hslash
  | doubleRoot =>
    cases start' with
    | here => exact Bool.noConfusion hq
    | root => exact absurd (congrArg List.head? (List.cons.inj heq).2).symm hslash'
    | doubleRoot =>
      exact congrArg (Path.mk .doubleRoot)
        (joined_inj hp' hq' (List.cons.inj (List.cons.inj heq).2).2)

/-- A path from where one stands is written without a slash in front. -/
theorem head?_written_here (h : ∀ name ∈ names, IsPlainName name) :
    (Path.mk .here names).written.head? ≠ some '/' := by
  rcases names with _ | ⟨name, names⟩
  · decide
  · exact head?_joined_ne h

/-- A dot is written for no names alone. -/
theorem written_here_ne_dot (h : ∀ n ∈ name :: names, IsPlainName n) :
    (Path.mk .here (name :: names)).written ≠ ['.'] := by
  intro hdot
  obtain ⟨rest, hrest⟩ := exists_joined_cons name names
  have happend : name ++ rest = ['.'] := hrest.symm.trans hdot
  have hplain := h name (.head _)
  rcases List.append_eq_singleton_iff.1 happend with ⟨hname, -⟩ | ⟨hname, -⟩
  · exact hplain.ne_nil hname
  · exact hplain.1 (hname ▸ rfl)

/-- **Plain paths from where one stands are told apart by what they are written
as.** -/
theorem written_here_inj (h : ∀ name ∈ names, IsPlainName name)
    (h' : ∀ name ∈ names', IsPlainName name)
    (heq : (Path.mk .here names).written = (Path.mk .here names').written) : names = names' := by
  rcases names with _ | ⟨name, names⟩ <;> rcases names' with _ | ⟨name', names'⟩
  · rfl
  · exact absurd heq.symm (written_here_ne_dot h')
  · exact absurd heq (written_here_ne_dot h)
  · exact joined_inj h h' heq

/-! ## What is followed -/

theorem mem_follow {inside : List Text} (h : name ∈ follow inside names) :
    name ∈ inside ∨ name ∈ names := by
  induction names generalizing inside with
  | nil => exact .inl (List.mem_reverse.1 h)
  | cons first names ih =>
    rw [follow] at h
    split at h
    · rcases ih h with hmem | hmem
      · exact .inl (List.mem_of_mem_tail hmem)
      · exact .inr (.tail _ hmem)
    · rcases ih h with hmem | hmem
      · rcases List.mem_cons.1 hmem with rfl | hmem
        · exact .inr (.head _)
        · exact .inl hmem
      · exact .inr (.tail _ hmem)

theorem Plain.resolve (hp : p.Plain) (hhere : here.Plain) : (p.resolve here).Plain := by
  intro name hname
  rcases mem_follow hname with hmem | hmem
  · cases hmem
  · unfold append at hmem
    split at hmem
    · exact hp name hmem
    · exact (List.mem_append.1 hmem).elim (hhere name) (hp name)

theorem isAbsolute_append (hhere : here.isAbsolute) : (here.append p).isAbsolute := by
  unfold append
  split
  · assumption
  · exact hhere

/-- What is resolved where one stands starts at the root. -/
theorem start_resolve (hhere : here.isAbsolute) : (p.resolve here).start = .root :=
  if_pos (isAbsolute_append hhere)

theorem isAbsolute_resolve (hhere : here.isAbsolute) : (p.resolve here).isAbsolute := by
  rw [isAbsolute, start_resolve hhere]
  rfl

end Path

namespace Discovery

open TemplateLint.Path

/-! ## What files go by -/

/-- A path that leads through a directory is told from others by the rest. -/
theorem below?_inj {base p q : Path} {names : List Text} (hp : base.below? p = some names)
    (hq : base.below? q = some names) : p = q := by
  simp only [below?, Option.ite_none_right_eq_some, Bool.and_eq_true, decide_eq_true_eq,
    List.isPrefixOf_iff_prefix, Option.some.injEq] at hp hq
  obtain ⟨⟨hstart, ⟨rest, hrest⟩⟩, hdrop⟩ := hp
  obtain ⟨⟨hstart', ⟨rest', hrest'⟩⟩, hdrop'⟩ := hq
  obtain ⟨start, ns⟩ := p
  obtain ⟨start', ns'⟩ := q
  simp only at hstart hstart' hrest hrest' hdrop hdrop'
  subst hrest hrest'
  rw [List.drop_left] at hdrop hdrop'
  rw [← hstart, ← hstart', hdrop, hdrop']

theorem plain_of_below? {base p : Path} {names : List Text} (h : base.below? p = some names)
    (hp : p.Plain) : ∀ name ∈ names, IsPlainName name := by
  simp only [below?, Option.ite_none_right_eq_some, Option.some.injEq] at h
  obtain ⟨-, rfl⟩ := h
  exact fun name hname => hp name (List.mem_of_mem_drop hname)

/-- **No two files go by one name.** -/
theorem displayName_inj {directory p q : Path} (hp : p.isAbsolute) (hq : q.isAbsolute)
    (hp' : p.Plain) (hq' : q.Plain)
    (heq : displayName directory p = displayName directory q) : p = q := by
  simp only [displayName, Path.toString] at heq
  rcases hbelow : directory.below? p with _ | names <;>
    rcases hbelow' : directory.below? q with _ | names' <;>
    simp only [hbelow, hbelow', String.ofList_inj] at heq
  · exact written_inj hp hq hp' hq' heq
  · exact absurd ((congrArg List.head? heq).symm.trans (written_of_isAbsolute hp).2)
      (head?_written_here (plain_of_below? hbelow' hq'))
  · exact absurd ((congrArg List.head? heq).trans (written_of_isAbsolute hq).2)
      (head?_written_here (plain_of_below? hbelow hp'))
  · obtain rfl := written_here_inj (plain_of_below? hbelow hp') (plain_of_below? hbelow' hq') heq
    exact below?_inj hbelow hbelow'

end Discovery

/-! ## What is found -/

namespace FileTree

open TemplateLint.Path

/-- The names of all entries at and below an entry are plain. -/
inductive Plain : FileTree → Prop
  | file (octets : List UInt8) : Plain (.file octets)
  | unreadable (error : FileError) : Plain (.unreadable error)
  | directory {entries : List (Text × FileTree)} (names : ∀ e ∈ entries, IsPlainName e.1)
      (below : ∀ e ∈ entries, Plain e.2) : Plain (.directory entries)

variable {root t : FileTree} {names : List Text}

theorem Plain.entry? {name : Text} {e : FileTree} (h : t.Plain) (he : t.entry? name = .ok e) :
    e.Plain := by
  cases h with
  | file octets => cases he
  | unreadable error => cases he
  | @directory entries names below =>
    simp only [FileTree.entry?] at he
    split at he
    · cases he
    · rename_i hlookup
      cases he
      obtain ⟨before, after, rfl, -⟩ := List.lookup_eq_some_iff.1 hlookup
      exact below (name, e) (List.mem_append_right _ (.head _))

theorem Plain.follow {above : List FileTree} {e : FileTree} (h : t.Plain)
    (habove : ∀ up ∈ above, up.Plain) (he : FileTree.follow above t names = .ok e) : e.Plain := by
  induction names generalizing above t with
  | nil =>
    cases he
    exact h
  | cons name names ih =>
    unfold FileTree.follow at he
    split at he
    · cases he
    · split at he
      · split at he
        · refine ih h ?_ he
          exact nofun
        · rename_i up above
          exact ih (habove up (.head _)) (fun t ht => habove t (.tail _ ht)) he
      · split at he
        · cases he
        · rename_i next hentry
          refine ih (h.entry? hentry) (fun up hup => ?_) he
          rcases List.mem_cons.1 hup with rfl | hup
          · exact h
          · exact habove up hup

theorem Plain.find? {p : Path} (h : root.Plain) (hfind : root.find? p = .ok t) : t.Plain := by
  refine follow h ?_ hfind
  exact nofun

theorem mem_filesOf {entries : List (Text × FileTree)} (h : names ∈ filesOf entries) :
    ∃ e ∈ entries, ∃ below ∈ e.2.files, names = e.1 :: below := by
  induction entries with
  | nil => cases h
  | cons e entries ih =>
    obtain ⟨name, t⟩ := e
    rw [filesOf] at h
    rcases List.mem_append.1 h with hmem | hmem
    · obtain ⟨below, hbelow, rfl⟩ := List.mem_map.1 hmem
      exact ⟨(name, t), .head _, below, hbelow, rfl⟩
    · obtain ⟨e, he, hnames⟩ := ih hmem
      exact ⟨e, .tail _ he, hnames⟩

/-- The names that lead to files are plain. -/
theorem Plain.files (h : t.Plain) (hnames : names ∈ t.files) :
    ∀ name ∈ names, IsPlainName name := by
  induction h generalizing names with
  | file octets =>
    obtain rfl := List.mem_singleton.1 hnames
    exact nofun
  | unreadable error =>
    obtain rfl := List.mem_singleton.1 hnames
    exact nofun
  | directory names below ih =>
    obtain ⟨e, he, rest, hrest, rfl⟩ := mem_filesOf hnames
    intro name hname
    rcases List.mem_cons.1 hname with rfl | hname
    · exact names e he
    · exact ih e he hrest name hname

end FileTree

namespace Discovery

open TemplateLint.Path

variable {root : FileTree} {here : Path} {s : Settings} {paths : List Path} {p file : Path}

theorem mem_files_iff_exists : file ∈ files root here s paths ↔
    ∃ path ∈ paths, file ∈ filesFor root s (path.resolve here) := by
  rw [files, listed, List.mem_mergeSort, List.mem_eraseDups, List.mem_flatMap]

/-- What a path stands for is the file that it leads to, or one below it. -/
theorem mem_filesFor (h : file ∈ filesFor root s p) :
    (root.hasFile p ∧ file = p) ∨ ∃ t names, root.find? p = .ok t ∧ names ∈ t.files ∧
      file = ⟨p.start, p.names ++ names⟩ := by
  unfold filesFor at h
  split at h
  · rename_i hisFile
    split at h
    · cases h
    · exact .inl ⟨hisFile, List.mem_singleton.1 h⟩
  · have hbelow := (List.mem_filter.1 h).1
    unfold filesBelow at hbelow
    split at hbelow
    · cases hbelow
    · rename_i t hfind
      obtain ⟨names, hnames, rfl⟩ := List.mem_map.1 hbelow
      exact .inr ⟨t, names, hfind, hnames, rfl⟩

/-- **The files of a run have plain paths from the root**, if one stands at such a
path, and what is asked for and what there is has plain names. -/
theorem plain_of_mem_files (hroot : root.Plain) (hhere : here.Plain) (habsolute : here.isAbsolute)
    (hpaths : ∀ path ∈ paths, path.Plain) (h : file ∈ files root here s paths) :
    file.isAbsolute ∧ file.Plain := by
  obtain ⟨path, hpath, hfile⟩ := mem_files_iff_exists.1 h
  have hresolved := (hpaths path hpath).resolve hhere
  rcases mem_filesFor hfile with ⟨-, rfl⟩ | ⟨t, names, hfind, hnames, rfl⟩
  · exact ⟨isAbsolute_resolve habsolute, hresolved⟩
  · refine ⟨isAbsolute_resolve (p := path) habsolute, fun name hname => ?_⟩
    rcases List.mem_append.1 hname with hname | hname
    · exact hresolved name hname
    · exact (hroot.find? hfind).files hnames name hname

end Discovery

end TemplateLint
