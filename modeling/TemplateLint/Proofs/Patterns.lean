import TemplateLint.Path.Pattern
import TemplateLint.Proofs.Wildcards
/-!
# Patterns — what two stars stand for

The shape of a pattern is a matter of its names, the pieces between its slashes:
where two stars are one of them (`PathPattern.shape_of_plain`,
`shape_between`, `shape_ending`, `shape_below`, `shape_inside`). Two stars in
front of a pattern, or between a literal directory and a pattern, stand for
directories or for none (`PathPattern.allowsNone`). They ask for more where
two stars stand a second time, and what stands before them is literal even if it
looks like a pattern (`PathPattern.stars_not_none`).
-/

namespace TemplateLint

namespace PathPattern

open Wildcard (IsLiteral)

/-- **A plain pattern**: none of its names is two stars. -/
def Plain (pattern : Text) : Prop :=
  anyDirectories ∉ names pattern

instance (pattern : Text) : Decidable (Plain pattern) :=
  inferInstanceAs (Decidable (anyDirectories ∉ names pattern))

/-- **What is left of a path** behind some directories, or behind none. -/
def IsEnding (e path : Text) : Prop :=
  e = path ∨ ∃ directories, path = directories ++ '/' :: e

variable {a e p q t x y : Text}

/-! ## Names -/

theorem names_append (t t' : Text) : names (t ++ '/' :: t') = names t ++ names t' :=
  Text.splitAt_append '/' t t'

theorem names_ne_nil (t : Text) : names t ≠ [] :=
  Text.splitAt_ne_nil '/' t

theorem joined_names (t : Text) : joined (names t) = t :=
  Text.intercalate_splitAt '/' t

theorem names_stars : names anyDirectories = [anyDirectories] :=
  rfl

theorem plain_append : Plain (x ++ '/' :: y) ↔ Plain x ∧ Plain y := by
  rw [Plain, names_append, List.mem_append, not_or]
  exact Iff.rfl

theorem Plain.of_isLiteral (h : IsLiteral x) : Plain x :=
  fun hmem => (h '*' (Text.mem_of_mem_splitAt hmem (.head _))).1 rfl

/-- Some names do not start with two stars, if none of them is. -/
theorem Plain.names_append_ne (hx : Plain x) (ns ns' : List Text) :
    names x ++ ns ≠ anyDirectories :: ns' := by
  obtain ⟨name, rest, hnames⟩ := List.exists_cons_of_ne_nil (names_ne_nil x)
  rw [hnames, List.cons_append]
  intro heq
  refine hx ?_
  rw [hnames, (List.cons.inj heq).1]
  exact .head _

/-! ## The ends of a path -/

theorem endings_names (t : Text) : endings (names t) = t :: endings (names t).tail := by
  have hjoined := joined_names t
  obtain ⟨name, rest, hnames⟩ := List.exists_cons_of_ne_nil (names_ne_nil t)
  rw [hnames] at hjoined ⊢
  rw [endings, hjoined]
  rfl

theorem mem_endings_tail_iff : e ∈ endings (names t).tail ↔
    ∃ directories, t = directories ++ '/' :: e := by
  induction t with
  | nil => exact iff_of_false nofun fun ⟨d, h⟩ => by simp at h
  | cons c t ih =>
    by_cases hc : c = '/'
    · subst hc
      have hnames : names ('/' :: t) = [] :: names t := names_append [] t
      rw [hnames, List.tail_cons, endings_names, List.mem_cons, ih]
      constructor
      · rintro (rfl | ⟨d, rfl⟩)
        · exact ⟨[], rfl⟩
        · exact ⟨'/' :: d, rfl⟩
      · rintro ⟨d, hd⟩
        rcases List.cons_eq_append_iff.1 hd with ⟨rfl, heq⟩ | ⟨d, rfl, rfl⟩
        · exact .inl (List.cons.inj heq).2
        · exact .inr ⟨d, rfl⟩
    · obtain ⟨name, rest, hnames⟩ := List.exists_cons_of_ne_nil (names_ne_nil t)
      have hcons : names (c :: t) = (c :: name) :: rest := Text.splitAt_cons_of_ne hc hnames
      rw [hnames, List.tail_cons] at ih
      rw [hcons, List.tail_cons, ih]
      constructor
      · rintro ⟨d, rfl⟩
        exact ⟨c :: d, rfl⟩
      · rintro ⟨d, hd⟩
        rcases List.cons_eq_append_iff.1 hd with ⟨rfl, heq⟩ | ⟨d, rfl, rfl⟩
        · exact absurd (List.cons.inj heq).1.symm hc
        · exact ⟨d, rfl⟩

/-- **The ends of a path** are what is left of it behind directories. -/
theorem mem_endings_iff : e ∈ endings (names t) ↔ IsEnding e t := by
  rw [endings_names, List.mem_cons, mem_endings_tail_iff]
  exact Iff.rfl

theorem any_endings_iff : (endings (names t)).any (Wildcard.fits q) ↔
    ∃ e, IsEnding e t ∧ Wildcard.fits q e := by
  simp only [List.any_eq_true, mem_endings_iff]

/-! ## Shapes -/

theorem eq_of_before? {ending front : Text} (h : before? ending t = some front) :
    t = front ++ ending := by
  obtain ⟨reversed, hreversed, rfl⟩ := Option.map_eq_some_iff.1 h
  rw [← List.reverse_inj, Text.after?_eq_some_iff.1 hreversed, List.reverse_append,
    List.reverse_reverse]

theorem before?_append (front ending : Text) : before? ending (front ++ ending) = some front := by
  have h : Text.after? ending.reverse (front ++ ending).reverse = some front.reverse :=
    Text.after?_eq_some_iff.2 (List.reverse_append ..)
  rw [before?, h, Option.map_some, List.reverse_reverse]

/-- A pattern opens with two stars if its first name is two stars. -/
theorem after?_stars_eq_none (h : ∀ rest, names q ≠ anyDirectories :: rest) :
    Text.after? ['*', '*', '/'] q = none := by
  rw [Text.after?_eq_none_iff]
  rintro rest rfl
  exact h (names rest) (names_append anyDirectories rest)

/-- It closes with two stars if its last name is two stars, and another is before it. -/
theorem before?_stars_eq_none (h : ∀ front, names q ≠ front ++ [anyDirectories]) :
    before? ['/', '*', '*'] q = none := by
  rw [Option.eq_none_iff_forall_ne_some]
  intro front hfront
  refine h (names front) ?_
  rw [eq_of_before? hfront]
  exact names_append front anyDirectories

/-- It has two stars inside if a name between others is two stars. -/
theorem cutAt?_stars_eq_none (h : anyDirectories ∉ (names q).dropLast) :
    Text.cutAt? ['/', '*', '*', '/'] q = none := by
  rw [Option.eq_none_iff_forall_ne_some]
  rintro ⟨directory, tail⟩ hcut
  refine h ?_
  have hq : q = directory ++ '/' :: (anyDirectories ++ '/' :: tail) := Text.eq_of_cutAt? hcut
  rw [hq, names_append, names_append, names_stars, ← List.append_assoc,
    List.dropLast_append_of_ne_nil (names_ne_nil tail)]
  simp

/-- **A plain pattern is for the whole path.** -/
theorem shape_of_plain (h : Plain q) : shape q = .whole q := by
  have hafter : Text.after? ['*', '*', '/'] q = none :=
    after?_stars_eq_none fun rest hnames => h (hnames ▸ .head _)
  have hbefore : before? ['/', '*', '*'] q = none := by
    refine before?_stars_eq_none fun front hnames => h ?_
    rw [hnames]
    exact List.mem_append_right _ (.head _)
  have hcut : Text.cutAt? ['/', '*', '*', '/'] q = none :=
    cutAt?_stars_eq_none fun hmem => h (List.dropLast_subset _ hmem)
  unfold shape
  rw [hafter, hbefore, hcut]
  exact ite_self _

/-- Two stars are found behind the plain names before them. -/
theorem cutAt?_stars (hx : anyDirectories ∉ (names x).tail) (y : Text) :
    Text.cutAt? ['/', '*', '*', '/'] (x ++ '/' :: (anyDirectories ++ '/' :: y)) = some (x, y) := by
  induction x with
  | nil => rfl
  | cons c x ih =>
    by_cases hc : c = '/'
    · subst hc
      have hnames : names ('/' :: x) = [] :: names x := names_append [] x
      have hplain : Plain x := by
        rw [hnames] at hx
        exact hx
      have hafter : Text.after? ['/', '*', '*', '/']
          ('/' :: x ++ '/' :: (anyDirectories ++ '/' :: y)) = none := by
        rw [Text.after?_eq_none_iff]
        intro rest heq
        have hrest : x ++ '/' :: (anyDirectories ++ '/' :: y) = anyDirectories ++ '/' :: rest :=
          (List.cons.inj heq).2
        refine hplain.names_append_ne (names (anyDirectories ++ '/' :: y)) (names rest) ?_
        rw [← names_append, hrest, names_append, names_stars, List.singleton_append]
      rw [List.cons_append] at hafter ⊢
      rw [Text.cutAt?, hafter, ih fun hmem => hplain (List.mem_of_mem_tail hmem)]
      rfl
    · obtain ⟨name, rest, hnames⟩ := List.exists_cons_of_ne_nil (names_ne_nil x)
      have hcons : names (c :: x) = (c :: name) :: rest := Text.splitAt_cons_of_ne hc hnames
      have hafter : Text.after? ['/', '*', '*', '/']
          (c :: (x ++ '/' :: (anyDirectories ++ '/' :: y))) = none := if_neg (Ne.symm hc)
      rw [List.cons_append, Text.cutAt?, hafter, ih (by rw [hnames]; rwa [hcons] at hx)]
      rfl

theorem contains_stars (q q' : Text) : Text.contains anyDirectories (q ++ (anyDirectories ++ q')) :=
  Text.contains_iff_infix.2 ⟨q, q', List.append_assoc ..⟩

theorem shape_between (hx : Plain x) (y : Text) :
    shape (x ++ '/' :: (anyDirectories ++ '/' :: y)) = .between x y := by
  have hcontains : Text.contains anyDirectories (x ++ '/' :: (anyDirectories ++ '/' :: y)) := by
    have h := contains_stars (x ++ ['/']) ('/' :: y)
    rwa [List.append_assoc] at h
  have hafter : Text.after? ['*', '*', '/'] (x ++ '/' :: (anyDirectories ++ '/' :: y)) = none := by
    refine after?_stars_eq_none fun rest hnames => ?_
    rw [names_append] at hnames
    exact hx.names_append_ne _ _ hnames
  have hcut := cutAt?_stars (fun hmem => hx (List.mem_of_mem_tail hmem)) y
  unfold shape
  rw [hcontains, hafter, hcut]
  rfl

theorem shape_below (ha : Plain a) : shape (a ++ '/' :: anyDirectories) = .below a := by
  have hcontains : Text.contains anyDirectories (a ++ '/' :: anyDirectories) := by
    have h := contains_stars (a ++ ['/']) []
    rwa [List.append_assoc] at h
  have hafter : Text.after? ['*', '*', '/'] (a ++ '/' :: anyDirectories) = none := by
    refine after?_stars_eq_none fun rest hnames => ?_
    rw [names_append] at hnames
    exact ha.names_append_ne _ _ hnames
  have hbefore : before? ['/', '*', '*'] (a ++ '/' :: anyDirectories) = some a :=
    before?_append a _
  have hcut : Text.cutAt? ['/', '*', '*', '/'] (a ++ '/' :: anyDirectories) = none := by
    refine cutAt?_stars_eq_none ?_
    rw [names_append, names_stars, List.dropLast_concat]
    exact ha
  unfold shape
  rw [hcontains, hafter, hbefore, hcut]
  rfl

theorem shape_ending (hy : (names y).getLast? ≠ some anyDirectories) :
    shape (anyDirectories ++ '/' :: y) = .ending y := by
  have hcontains : Text.contains anyDirectories (anyDirectories ++ '/' :: y) :=
    contains_stars [] ('/' :: y)
  have hafter : Text.after? ['*', '*', '/'] (anyDirectories ++ '/' :: y) = some y :=
    Text.after?_eq_some_iff.2 rfl
  have hbefore : before? ['/', '*', '*'] (anyDirectories ++ '/' :: y) = none := by
    refine before?_stars_eq_none fun front hnames => hy ?_
    rw [names_append] at hnames
    have hlast := congrArg List.getLast? hnames
    rwa [List.getLast?_append_of_ne_nil _ (names_ne_nil y), List.getLast?_concat] at hlast
  unfold shape
  rw [hcontains, hafter, hbefore]
  rfl

theorem shape_inside (a : Text) :
    shape (anyDirectories ++ '/' :: (a ++ '/' :: anyDirectories)) = .inside a := by
  have hcontains : Text.contains anyDirectories
      (anyDirectories ++ '/' :: (a ++ '/' :: anyDirectories)) :=
    contains_stars [] ('/' :: (a ++ '/' :: anyDirectories))
  have hafter : Text.after? ['*', '*', '/']
      (anyDirectories ++ '/' :: (a ++ '/' :: anyDirectories)) =
        some (a ++ '/' :: anyDirectories) :=
    Text.after?_eq_some_iff.2 rfl
  have hbefore : before? ['/', '*', '*']
      (anyDirectories ++ '/' :: (a ++ '/' :: anyDirectories)) =
        some (anyDirectories ++ '/' :: a) :=
    before?_append (anyDirectories ++ '/' :: a) _
  have hslice : Text.slice (anyDirectories ++ '/' :: (a ++ '/' :: anyDirectories)) 3 (-3) = a := by
    have hstop : Text.offset (anyDirectories ++ '/' :: (a ++ '/' :: anyDirectories)) (-3) =
        a.length + 3 := by
      simp [Text.offset, anyDirectories]
      omega
    have hstart : Text.offset (anyDirectories ++ '/' :: (a ++ '/' :: anyDirectories)) 3 = 3 := rfl
    rw [Text.slice, hstop, hstart, Nat.add_sub_cancel]
    exact List.take_left
  unfold shape
  rw [hcontains, hafter, hbefore]
  exact congrArg Shape.inside hslice

/-! ## What the shapes stand for -/

/-- A plain pattern is a wildcard pattern. -/
theorem fits_of_plain (h : Plain q) : fits q p = Wildcard.fits q p := by
  rw [fits, shape_of_plain h, Shape.holds]

/-- **Behind a plain front**, which is taken as it is written, the path ends as the
pattern says. -/
theorem fits_between_iff (hx : Plain x) :
    fits (x ++ '/' :: (anyDirectories ++ '/' :: y)) p ↔
      ∃ rest e, p = x ++ '/' :: rest ∧ IsEnding e rest ∧ Wildcard.fits y e := by
  rw [fits, shape_between hx, Shape.holds]
  constructor
  · intro h
    split at h
    · cases h
    · rename_i rest hafter
      obtain ⟨e, he, hfits⟩ := any_endings_iff.1 h
      refine ⟨rest, e, ?_, he, hfits⟩
      rw [Text.after?_eq_some_iff.1 hafter, List.append_assoc]
      rfl
  · rintro ⟨rest, e, rfl, he, hfits⟩
    have hafter : Text.after? (x ++ ['/']) (x ++ '/' :: rest) = some rest :=
      Text.after?_eq_some_iff.2 (by rw [List.append_assoc]; rfl)
    rw [hafter]
    exact any_endings_iff.2 ⟨e, he, hfits⟩

/-- **With two stars in front** the path ends as the pattern says. -/
theorem fits_ending_iff (hy : (names y).getLast? ≠ some anyDirectories) :
    fits (anyDirectories ++ '/' :: y) p ↔ ∃ e, IsEnding e p ∧ Wildcard.fits y e := by
  rw [fits, shape_ending hy, Shape.holds]
  exact any_endings_iff

/-- **With two stars at the end** the path is the directory that is written, or lies in
it. -/
theorem fits_below_iff (ha : Plain a) :
    fits (a ++ '/' :: anyDirectories) p ↔ p = a ∨ ∃ rest, p = a ++ '/' :: rest := by
  rw [fits, shape_below ha, Shape.holds, Bool.or_eq_true, beq_iff_eq, Text.startsWith_iff_prefix,
    or_comm]
  refine or_congr Iff.rfl (exists_congr fun rest => ?_)
  rw [List.append_assoc, eq_comm]
  rfl

/-- **With two stars at either end** the pattern is for the name of a directory. -/
theorem fits_inside_iff :
    fits (anyDirectories ++ '/' :: (a ++ '/' :: anyDirectories)) p ↔
      ∃ name ∈ (names p).dropLast, Wildcard.fits a name := by
  rw [fits, shape_inside, Shape.holds, List.any_eq_true]

/-! ## No directories -/

theorem Plain.getLast?_ne (h : Plain q) : (names q).getLast? ≠ some anyDirectories :=
  fun hlast => h (List.mem_of_getLast? hlast)

/-- What a slash and a pattern stand for starts with a slash. -/
theorem fits_slash_iff :
    Wildcard.fits ('/' :: y) t ↔ ∃ rest, t = '/' :: rest ∧ Wildcard.fits y rest := by
  rw [Wildcard.fits_cons (by decide) (by decide)]
  constructor
  · rintro ⟨d, rest, rfl, hd, hfits⟩
    obtain rfl := (Wildcard.holds_partOf_iff (by decide) (by decide)).1 hd
    exact ⟨rest, rfl, hfits⟩
  · rintro ⟨rest, rfl, hfits⟩
    exact ⟨'/', rest, rfl, Wildcard.holds_partOf_self (by decide), hfits⟩

/-- Where a pattern stands for a path that lies in the directory that its front is
written as, the rest of the pattern stands for an end of what is left. -/
theorem exists_isEnding_of_fits {rest : Text} (hx : '[' ∉ x)
    (h : Wildcard.fits (x ++ '/' :: y) (x ++ '/' :: rest)) :
    ∃ e, IsEnding e rest ∧ Wildcard.fits y e := by
  obtain ⟨front, behind, heq, hfront, hbehind⟩ := (Wildcard.fits_append hx).1 h
  obtain ⟨e, rfl, he⟩ := fits_slash_iff.1 hbehind
  refine ⟨e, ?_, he⟩
  rcases List.append_eq_append_iff.1 heq with ⟨more, rfl, hrest⟩ | ⟨more, hmore, hrest⟩
  · rcases List.cons_eq_append_iff.1 hrest with ⟨-, hsame⟩ | ⟨more, -, hmore⟩
    · exact .inl (List.cons.inj hsame).2
    · exact .inr ⟨more, hmore⟩
  · rcases List.cons_eq_append_iff.1 hrest with ⟨-, hsame⟩ | ⟨more, rfl, -⟩
    · exact .inl (List.cons.inj hsame).2.symm
    · -- The front would stand for less than it is written with: it has more slashes.
      have hcount := Wildcard.count_slash_le hx hfront
      rw [hmore, List.count_append, List.count_cons_self] at hcount
      omega

/-- **What two stars stand for in a pattern**: directories, or none. -/
structure AllowsNone (p x y : Text) : Prop where
  /-- Behind a plain front, which is literal, the path ends as the pattern says. -/
  between : Plain x → Plain y → (fits (x ++ '/' :: (anyDirectories ++ '/' :: y)) p ↔
    ∃ rest e, p = x ++ '/' :: rest ∧ IsEnding e rest ∧ Wildcard.fits y e)
  /-- Without a front the path ends as the pattern says. -/
  ending : Plain y →
    (fits (anyDirectories ++ '/' :: y) p ↔ ∃ e, IsEnding e p ∧ Wildcard.fits y e)
  /-- So there may be none behind a literal directory. -/
  between_none : IsLiteral x → Plain y → fits (x ++ '/' :: y) p →
    fits (x ++ '/' :: (anyDirectories ++ '/' :: y)) p
  /-- Behind a pattern there may be none where the path starts as it is written. -/
  between_none_iff : Plain x → '[' ∉ x → Plain y → fits (x ++ '/' :: y) p →
    (fits (x ++ '/' :: (anyDirectories ++ '/' :: y)) p ↔ ∃ rest, p = x ++ '/' :: rest)
  /-- There may be none in front. -/
  ending_none : Plain y → fits y p → fits (anyDirectories ++ '/' :: y) p
  /-- There may be none before all that lies in a directory, the directory left out. -/
  between_below : ∀ a, Plain x → Plain a → '[' ∉ a → p ≠ x ++ '/' :: a →
    fits (x ++ '/' :: (a ++ '/' :: anyDirectories)) p →
    fits (x ++ '/' :: (anyDirectories ++ '/' :: (a ++ '/' :: anyDirectories))) p
  /-- Nor before all that lies in the front. -/
  between_all : Plain x → p ≠ x → fits (x ++ '/' :: anyDirectories) p →
    fits (x ++ '/' :: (anyDirectories ++ '/' :: anyDirectories)) p
  /-- Nor in front of all that lies in a directory with one name. -/
  ending_below : ∀ a, Plain a → '[' ∉ a → '/' ∉ a → p ≠ a → fits (a ++ '/' :: anyDirectories) p →
    fits (anyDirectories ++ '/' :: (a ++ '/' :: anyDirectories)) p

theorem fits_between_of_fits (hx : Plain x) (hbracket : '[' ∉ x) (hy : Plain y)
    (h : fits (x ++ '/' :: y) p) : fits (x ++ '/' :: (anyDirectories ++ '/' :: y)) p ↔
      ∃ rest, p = x ++ '/' :: rest := by
  rw [fits_of_plain (plain_append.2 ⟨hx, hy⟩)] at h
  rw [fits_between_iff hx]
  constructor
  · rintro ⟨rest, e, hp, -⟩
    exact ⟨rest, hp⟩
  · rintro ⟨rest, rfl⟩
    obtain ⟨e, he, hfits⟩ := exists_isEnding_of_fits hbracket h
    exact ⟨rest, e, rfl, he, hfits⟩

/-- A path that a literal front stands before starts with it. -/
theorem exists_rest_of_isLiteral (hx : IsLiteral x) (hy : Plain y) (h : fits (x ++ '/' :: y) p) :
    ∃ rest, p = x ++ '/' :: rest := by
  rw [fits_of_plain (plain_append.2 ⟨.of_isLiteral hx, hy⟩)] at h
  obtain ⟨front, behind, rfl, hfront, hbehind⟩ :=
    (Wildcard.fits_append hx.bracket_notMem).1 h
  obtain ⟨rest, rfl, -⟩ := fits_slash_iff.1 hbehind
  exact ⟨rest, by rw [hx.fits_iff.1 hfront]⟩

/-- Two stars stand for any text. -/
theorem fits_stars (t : Text) : Wildcard.fits anyDirectories t :=
  Wildcard.fits_star.2 ⟨t, List.suffix_rfl,
    Wildcard.fits_star.2 ⟨[], List.nil_suffix, Wildcard.fits_nil.2 rfl⟩⟩

/-- **Two stars stand for no directories** in front of a plain pattern, and between a
literal directory and a plain pattern. -/
theorem allowsNone (p x y : Text) : AllowsNone p x y where
  between hx _ := fits_between_iff hx
  ending hy := fits_ending_iff hy.getLast?_ne
  between_none hx hy h :=
    (fits_between_of_fits (.of_isLiteral hx) hx.bracket_notMem hy h).2
      (exists_rest_of_isLiteral hx hy h)
  between_none_iff := fits_between_of_fits
  ending_none hy h := by
    rw [fits_of_plain hy] at h
    exact (fits_ending_iff hy.getLast?_ne).2 ⟨p, .inl rfl, h⟩
  between_below a hx ha hbracket hne h := by
    have hfits := fits_below_iff (plain_append.2 ⟨hx, ha⟩) (p := p)
    rw [List.append_assoc] at hfits
    rcases hfits.1 h with heq | ⟨rest, heq⟩
    · exact absurd heq hne
    · rw [List.append_assoc] at heq
      refine (fits_between_iff hx).2 ⟨a ++ '/' :: rest, _, heq, .inl rfl, ?_⟩
      exact (Wildcard.fits_append hbracket).2 ⟨a, '/' :: rest, rfl, Wildcard.fits_self hbracket,
        fits_slash_iff.2 ⟨rest, rfl, fits_stars rest⟩⟩
  between_all hx hne h := by
    rcases (fits_below_iff hx).1 h with heq | ⟨rest, heq⟩
    · exact absurd heq hne
    · exact (fits_between_iff hx).2 ⟨rest, rest, heq, .inl rfl, fits_stars rest⟩
  ending_below a ha hbracket hslash hne h := by
    rcases (fits_below_iff ha).1 h with heq | ⟨rest, rfl⟩
    · exact absurd heq hne
    · refine fits_inside_iff.2 ⟨a, ?_, Wildcard.fits_self hbracket⟩
      have hnames : names a = [a] := Text.splitAt_of_notMem hslash
      rw [names_append, hnames, List.dropLast_append_of_ne_nil (names_ne_nil rest)]
      exact .head _

/-- The files of a directory are found with two stars before their names, and so is
what lies in a directory that stands at the start of a path. -/
theorem allowsNone_topmost :
    fits "app/**/*.erb".toList "app/x.erb".toList ∧
      fits "**/vendor/**".toList "vendor/gems/x.erb".toList ∧
      fits "**/app/x.erb".toList "app/x.erb".toList :=
  ⟨(allowsNone "app/x.erb".toList "app".toList "*.erb".toList).between_none
      (by decide) (by decide) (by decide +kernel),
    (allowsNone "vendor/gems/x.erb".toList [] []).ending_below "vendor".toList
      (by decide) (by decide) (by decide) (by decide) (by decide +kernel),
    (allowsNone "app/x.erb".toList [] "app/x.erb".toList).ending_none (by decide)
      (by decide +kernel)⟩

/-- **Two stars ask for more** than none behind a front that is a pattern, before two
other stars, behind them, in front of two names, and for a directory itself. -/
theorem stars_not_none :
    (fits "*/b".toList "a/b".toList ∧ ¬ fits "*/**/b".toList "a/b".toList) ∧
      (fits "[a]/b".toList "a/b".toList ∧ ¬ fits "[a]/**/b".toList "a/b".toList) ∧
      (fits "**/b".toList "b".toList ∧ ¬ fits "**/**/b".toList "b".toList) ∧
      (fits "**/a/b".toList "a/b".toList ∧ ¬ fits "**/a/**/b".toList "a/b".toList) ∧
      (fits "a/b/**".toList "a/b/c".toList ∧ ¬ fits "**/a/b/**".toList "a/b/c".toList) ∧
      fits "a/**".toList "a".toList ∧ ¬ fits "**/a/**".toList "a".toList := by
  decide

end PathPattern

end TemplateLint
