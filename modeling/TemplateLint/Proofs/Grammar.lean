import TemplateLint.Directive.Basic
import TemplateLint.Proofs.Text
/-!
# Directives — the grammar

A directive is written as the keyword, a blank, and names with separators
between them; blanks may stand around it all. `Directive.Written` is such
a writing, part by part. Every writing is read as the directive with its
names (`Written.parse?_text`), what is read as a directive is written in this
way (`exists_written`), and in one way only (`text_injective`).
-/

namespace TemplateLint

namespace Directive

/-- A rule name: some characters, none of them a blank or a comma. -/
def IsName (name : Text) : Prop :=
  name ≠ [] ∧ ∀ c ∈ name, Text.isBlank c = false ∧ c ≠ ','

/-- What may stand between two names: blanks, or one comma with or without
blanks around it. -/
def IsSeparator (separator : Text) : Prop :=
  separator ≠ [] ∧ Text.Blank separator ∨
    ∃ before behind, Text.Blank before ∧ Text.Blank behind ∧ separator = before ++ ',' :: behind

/-- Names with separators between them: the first name, and each further
one with the separator before it. -/
structure NameList where
  first : Text
  others : List (Text × Text)
  isName_first : IsName first
  isName_others : ∀ pair ∈ others, IsSeparator pair.1 ∧ IsName pair.2

/-- A way to write a directive. -/
structure Written where
  lead : Text
  gap : Text
  list : NameList
  tail : Text
  blank_lead : Text.Blank lead
  blank_gap : Text.Blank gap
  gap_ne_nil : gap ≠ []
  blank_tail : Text.Blank tail

namespace NameList

/-- The names, in order. -/
def names (l : NameList) : List Text :=
  l.first :: l.others.map (·.2)

/-- The list as it is written. -/
def text (l : NameList) : Text :=
  l.first ++ l.others.flatMap fun pair => pair.1 ++ pair.2

/-- The list cut into names and separators. -/
def pieces (l : NameList) : List (Bool × Text) :=
  (true, l.first) :: l.others.flatMap fun pair => [(false, pair.1), (true, pair.2)]

end NameList

/-- The directive as it is written. -/
def Written.text (w : Written) : Text :=
  w.lead ++ (keyword ++ (w.gap ++ w.list.text) ++ w.tail)

/-! ## Names and separators -/

theorem isNameChar_iff {c : Char} : isNameChar c ↔ Text.isBlank c = false ∧ c ≠ ',' := by
  simp [isNameChar]

theorem isNameChar_eq_false_iff {c : Char} : isNameChar c = false ↔ Text.isBlank c ∨ c = ',' := by
  simp [isNameChar, or_iff_not_imp_left]

theorem isName_iff {name : Text} : IsName name ↔ name ≠ [] ∧ ∀ c ∈ name, isNameChar c := by
  simp only [IsName, isNameChar_iff]

theorem comma_notMem_of_blank {t : Text} (h : Text.Blank t) : ',' ∉ t :=
  fun hmem => absurd (h _ hmem) (by decide)

/-- **A separator is a run of blanks and commas with one comma at most.** -/
theorem isSeparator_iff {run : Text} :
    IsSeparator run ↔ run ≠ [] ∧ (∀ c ∈ run, isNameChar c = false) ∧ separates run := by
  simp only [isNameChar_eq_false_iff, separates, decide_eq_true_eq]
  constructor
  · rintro (⟨hne, hblank⟩ | ⟨before, behind, hbefore, hbehind, rfl⟩)
    · refine ⟨hne, fun c hc => .inl (hblank c hc), ?_⟩
      rw [List.count_eq_zero.2 (comma_notMem_of_blank hblank)]
      exact Nat.zero_le 1
    · refine ⟨by simp, fun c hc => ?_, ?_⟩
      · rcases List.mem_append.1 hc with hc | hc
        · exact .inl (hbefore c hc)
        · rcases List.mem_cons.1 hc with rfl | hc
          · exact .inr rfl
          · exact .inl (hbehind c hc)
      · rw [List.count_append, List.count_cons_self,
          List.count_eq_zero.2 (comma_notMem_of_blank hbefore),
          List.count_eq_zero.2 (comma_notMem_of_blank hbehind)]
  · rintro ⟨hne, hclass, hcount⟩
    have hblank : ∀ part : Text, (∀ c ∈ part, c ∈ run) → ',' ∉ part → Text.Blank part :=
      fun part hsub hcomma c hc => (hclass c (hsub c hc)).resolve_right fun h => hcomma (h ▸ hc)
    -- The first comma cuts the run in two; a second one would be counted behind it.
    by_cases hmem : ',' ∈ run
    · obtain ⟨before, behind, rfl, hbefore⟩ := List.eq_append_cons_of_mem hmem
      have hbehind : ',' ∉ behind := by
        rw [List.count_append, List.count_cons_self] at hcount
        exact List.count_eq_zero.1 (by omega)
      exact .inr ⟨before, behind, hblank before (fun c hc => by simp [hc]) hbefore,
        hblank behind (fun c hc => by simp [hc]) hbehind, rfl⟩
    · exact .inl ⟨hne, hblank run (fun _ => id) hmem⟩

/-! ## Lists of names -/

namespace NameList

variable {l : NameList}

theorem flatMap_pieces (l : NameList) : l.pieces.flatMap (·.2) = l.text := by
  simp [pieces, text, List.flatMap_assoc]

/-- Names and separators are the runs of the list. -/
theorem areRuns_pieces (l : NameList) : Text.AreRuns isNameChar l.pieces := by
  obtain ⟨first, others, hfirst, hothers⟩ := l
  induction others generalizing first with
  | nil =>
    have hname := isName_iff.1 hfirst
    exact ⟨fun piece hpiece => by simpa [List.mem_singleton.1 hpiece] using hname, .singleton _⟩
  | cons pair others ih =>
    have hname := isName_iff.1 hfirst
    obtain ⟨hseparator, hnext⟩ := hothers pair (.head _)
    obtain ⟨hne, hclass, -⟩ := isSeparator_iff.1 hseparator
    have hrest := ih pair.2 hnext fun pair' hpair' => hothers pair' (.tail _ hpair')
    refine ⟨fun piece hpiece => ?_, ?_⟩
    · rcases List.mem_cons.1 hpiece with rfl | hpiece
      · exact hname
      · rcases List.mem_cons.1 hpiece with rfl | hpiece
        · exact ⟨hne, hclass⟩
        · exact hrest.pure piece hpiece
    · exact List.isChain_cons_cons.2 ⟨by simp, List.isChain_cons_cons.2 ⟨by simp, hrest.alternate⟩⟩

theorem runs_text (l : NameList) : Text.runs isNameChar l.text = l.pieces := by
  rw [← flatMap_pieces, Text.runs_flatMap l.areRuns_pieces]

theorem isList_pieces (l : NameList) : isList l.pieces := by
  obtain ⟨first, others, hfirst, hothers⟩ := l
  induction others generalizing first with
  | nil => rfl
  | cons pair others ih =>
    obtain ⟨hseparator, hnext⟩ := hothers pair (.head _)
    obtain ⟨-, -, hseparates⟩ := isSeparator_iff.1 hseparator
    have hrest := ih pair.2 hnext fun pair' hpair' => hothers pair' (.tail _ hpair')
    simp only [pieces, List.flatMap_cons, List.cons_append, List.nil_append] at hrest ⊢
    rw [isList, hseparates, hrest]
    rfl

/-- **Runs that make a list are the pieces of one.** -/
theorem exists_pieces : ∀ {runs : List (Bool × Text)}, Text.AreRuns isNameChar runs →
    isList runs → ∃ l : NameList, l.pieces = runs
  | [], _, hlist => by simp [isList] at hlist
  | [(inside, name)], hruns, hlist => by
    cases (show inside = true from hlist)
    exact ⟨⟨name, [], isName_iff.2 (hruns.pure _ (.head _)), by simp⟩, rfl⟩
  | (inside, name) :: (inside', separator) :: rest, hruns, hlist => by
    simp only [isList, Bool.and_eq_true] at hlist
    obtain ⟨⟨rfl, hseparates⟩, hlist⟩ := hlist
    obtain ⟨hother, hchain⟩ := List.isChain_cons_cons.1 hruns.alternate
    cases (show inside' = false by simpa using hother)
    have hrest : Text.AreRuns isNameChar rest :=
      ⟨fun piece hpiece => hruns.pure _ (.tail _ (.tail _ hpiece)), (List.isChain_cons.1 hchain).2⟩
    obtain ⟨l, rfl⟩ := exists_pieces hrest hlist
    obtain ⟨hne, hclass⟩ := hruns.pure _ (.tail _ (.head _))
    have hname := isName_iff.2 (hruns.pure _ (.head _))
    refine ⟨⟨name, (separator, l.first) :: l.others, hname, ?_⟩, rfl⟩
    intro pair hpair
    rcases List.mem_cons.1 hpair with rfl | hpair
    · exact ⟨isSeparator_iff.2 ⟨hne, hclass, hseparates⟩, l.isName_first⟩
    · exact l.isName_others pair hpair

/-- A list is determined by its pieces. -/
theorem pieces_injective {l l' : NameList} (h : l.pieces = l'.pieces) : l = l' := by
  obtain ⟨first, others, hfirst, hothers⟩ := l
  obtain ⟨first', others', hfirst', hothers'⟩ := l'
  -- The proofs in a list are left aside, so that the induction runs over its texts.
  have hparts : first = first' ∧ others = others' := by
    induction others generalizing first first' others' with
    | nil => cases others' <;> simp_all [pieces]
    | cons pair others ih =>
      cases others' with
      | nil => simp [pieces] at h
      | cons pair' others' =>
        simp only [pieces, List.flatMap_cons, List.cons_append, List.nil_append, List.cons.injEq,
          Prod.mk.injEq, true_and] at h
        obtain ⟨hname, hseparator, hnext, hrest⟩ := h
        obtain ⟨-, rfl⟩ := ih pair.2 (hothers pair (.head _)).2
          (fun p hp => hothers p (.tail _ hp)) pair'.2 others' (hothers' pair' (.head _)).2
          (fun p hp => hothers' p (.tail _ hp)) (by simp [pieces, hnext, hrest])
        exact ⟨hname, by rw [Prod.ext hseparator hnext]⟩
  obtain ⟨rfl, rfl⟩ := hparts
  rfl

/-- The names read off the pieces are the names of the list. -/
theorem map_name_namesFrom (l : NameList) (offset : Nat) :
    (namesFrom offset l.pieces).map (·.name) = l.names.map String.ofList := by
  obtain ⟨first, others, hfirst, hothers⟩ := l
  induction others generalizing first offset with
  | nil => simp [pieces, names, namesFrom]
  | cons pair others ih =>
    have hrest := ih (offset + first.length + pair.1.length) pair.2 (hothers pair (.head _)).2
      fun p hp => hothers p (.tail _ hp)
    simp only [pieces, names, List.map_cons] at hrest ⊢
    simp only [List.flatMap_cons, List.cons_append, List.nil_append]
    rw [namesFrom, namesFrom]
    simp [hrest]

/-- There is a name at either end. -/
theorem isNameChar_ends (l : NameList) :
    (∀ c ∈ l.text.head?, isNameChar c) ∧ ∀ c ∈ l.text.getLast?, isNameChar c := by
  obtain ⟨first, others, hfirst, hothers⟩ := l
  refine ⟨fun c hc => ?_, ?_⟩
  · rw [text, List.head?_append_of_ne_nil _ hfirst.1] at hc
    exact (isName_iff.1 hfirst).2 c (List.mem_of_mem_head? hc)
  · induction others generalizing first with
    | nil =>
      intro c hc
      rw [text, List.flatMap_nil, List.append_nil] at hc
      exact (isName_iff.1 hfirst).2 c (List.mem_of_mem_getLast? hc)
    | cons pair others ih =>
      obtain ⟨-, hnext⟩ := hothers pair (.head _)
      have hrest := ih pair.2 hnext fun pair' hpair' => hothers pair' (.tail _ hpair')
      intro c hc
      refine hrest c ?_
      simp only [text, List.flatMap_cons, List.append_assoc] at hc ⊢
      rw [← List.append_assoc, List.getLast?_append_of_ne_nil _ (by simp [hnext.1])] at hc
      exact hc

theorem trimmed_text (l : NameList) : Text.Trimmed l.text :=
  ⟨fun c hc => (isNameChar_iff.1 (l.isNameChar_ends.1 c hc)).1,
    fun c hc => (isNameChar_iff.1 (l.isNameChar_ends.2 c hc)).1⟩

theorem text_ne_nil (l : NameList) : l.text ≠ [] := by
  simp [text, l.isName_first.1]

theorem text_injective {l l' : NameList} (h : l.text = l'.text) : l = l' :=
  pieces_injective (by rw [← runs_text, ← runs_text, h])

end NameList

/-! ## Reading what is written -/

/-- The body of a content is what follows the keyword, if that stands
alone. -/
theorem body?_eq_some_iff {content body : Text} :
    body? content = some body ↔
      content.trim = keyword ++ body ∧ ∀ c ∈ body.head?, Text.isBlank c := by
  rw [← Text.after?_eq_some_iff, body?]
  rcases Text.after? keyword content.trim with _ | _ | ⟨c, rest⟩
  · simp
  · simp only [Option.some.injEq]
    exact ⟨by rintro rfl; simp, And.left⟩
  · simp only [Option.ite_none_right_eq_some, Option.some.injEq]
    constructor
    · rintro ⟨hblank, rfl⟩
      exact ⟨rfl, by simpa using hblank⟩
    · rintro ⟨rfl, hblank⟩
      exact ⟨hblank c rfl, rfl⟩

theorem head?_keyword_append (t : Text) : (keyword ++ t).head? = some 'h' := rfl

namespace Written

variable {w : Written}

/-- The keyword and the names, without the blanks around them. -/
theorem trimmed_core (w : Written) : Text.Trimmed (keyword ++ (w.gap ++ w.list.text)) := by
  refine ⟨fun c hc => ?_, fun c hc => ?_⟩
  · rw [head?_keyword_append] at hc
    cases hc
    decide
  · rw [← List.append_assoc, List.getLast?_append_of_ne_nil _ w.list.text_ne_nil] at hc
    exact w.list.trimmed_text.last c hc

theorem trim_text (w : Written) : w.text.trim = keyword ++ (w.gap ++ w.list.text) :=
  Text.trim_append w.blank_lead w.blank_tail w.trimmed_core

theorem trim_body (w : Written) : Text.trim (w.gap ++ w.list.text) = w.list.text := by
  have htail : Text.Blank [] := nofun
  have h := Text.trim_append w.blank_gap htail w.list.trimmed_text
  rwa [List.append_nil] at h

theorem body?_text (w : Written) : body? w.text = some (w.gap ++ w.list.text) := by
  refine body?_eq_some_iff.2 ⟨w.trim_text, fun c hc => ?_⟩
  rw [List.head?_append_of_ne_nil _ w.gap_ne_nil] at hc
  exact w.blank_gap c (List.mem_of_mem_head? hc)

/-- **The list is found where it stands.** No blank is a character of the
keyword, and none is the first character of the list, so that what is found
first is the keyword and the list that are written. -/
theorem listOffset?_text (w : Written) :
    listOffset? w.text w.list.text = some (w.lead ++ (keyword ++ w.gap)).length := by
  have hkeyword : 'h' ∉ w.lead := fun hmem => absurd (w.blank_lead _ hmem) (by decide)
  have hstart : Text.offsetOf? keyword w.text = some w.lead.length := by
    rw [text, List.append_assoc]
    exact Text.offsetOf?_append hkeyword _
  have hbehind : w.text.drop (w.lead.length + keyword.length) =
      w.gap ++ (w.list.text ++ w.tail) := by
    have hsplit : w.text = (w.lead ++ keyword) ++ (w.gap ++ (w.list.text ++ w.tail)) := by
      simp [text]
    rw [hsplit, ← List.length_append, List.drop_left]
  obtain ⟨c, list, hlist⟩ := List.exists_cons_of_ne_nil w.list.text_ne_nil
  have hname : c ∉ w.gap := by
    intro hmem
    have hblank := w.list.trimmed_text.head c (by simp [hlist])
    rw [w.blank_gap c hmem] at hblank
    cases hblank
  have hgap : Text.offsetOf? w.list.text (w.gap ++ (w.list.text ++ w.tail)) =
      some w.gap.length := by
    rw [hlist]
    exact Text.offsetOf?_append hname _
  simp only [listOffset?, hstart, Option.bind_eq_bind, Option.bind_some, hbehind, hgap,
    List.length_append, Nat.add_assoc]
  rfl

/-- **What is written is read.** -/
theorem parse?_text (w : Written) :
    parse? w.text = some ⟨namesFrom (w.lead ++ (keyword ++ w.gap)).length w.list.pieces,
      w.list.text⟩ := by
  rw [parse?, body?_text, Option.bind_some, trim_body, NameList.runs_text,
    if_pos w.list.isList_pieces, listOffset?_text, Option.map_some]

/-- **There is one way to write a text.** The blanks at both ends and
behind the keyword are all there are in their place, and the list is cut
into its runs. -/
theorem text_injective {w w' : Written} (h : w.text = w'.text) : w = w' := by
  have hcore : keyword ++ (w.gap ++ w.list.text) = keyword ++ (w'.gap ++ w'.list.text) := by
    rw [← trim_text, ← trim_text, h]
  have hbody := List.append_cancel_left hcore
  have hlist : w.list.text = w'.list.text :=
    calc
      w.list.text = Text.trim (w.gap ++ w.list.text) := w.trim_body.symm
      _ = Text.trim (w'.gap ++ w'.list.text) := by rw [hbody]
      _ = w'.list.text := w'.trim_body
  have hgap : w.gap = w'.gap := List.append_cancel_right (hlist ▸ hbody)
  have hkeyword : ∀ w : Written, ∀ c ∈ (keyword ++ (w.gap ++ w.list.text) ++ w.tail).head?,
      Text.isBlank c = false := by
    intro w c hc
    rw [List.append_assoc, head?_keyword_append] at hc
    cases hc
    decide
  obtain ⟨hlead, hrest⟩ :=
    Text.append_inj_of_class w.blank_lead w'.blank_lead (hkeyword w) (hkeyword w') h
  have htail : w.tail = w'.tail := by
    rw [hcore] at hrest
    exact List.append_cancel_left hrest
  have hlist' := NameList.text_injective hlist
  obtain ⟨lead, gap, list, tail, _, _, _, _⟩ := w
  obtain ⟨lead', gap', list', tail', _, _, _, _⟩ := w'
  simp only at hlead hgap hlist' htail
  subst hlead hgap hlist' htail
  rfl

end Written

/-- A content with a list in order is written. -/
theorem exists_written_of_isList {content body : Text} (hbody : body? content = some body)
    (hlist : isList (Text.runs isNameChar body.trim)) : ∃ w : Written, w.text = content := by
  obtain ⟨l, hl⟩ := NameList.exists_pieces (Text.areRuns_runs _) hlist
  have htext : body.trim = l.text := by
    rw [← NameList.flatMap_pieces, hl, Text.flatMap_runs]
  obtain ⟨htrim, hhead⟩ := body?_eq_some_iff.1 hbody
  obtain ⟨hcore, lead, tail, hlead, htail, rfl⟩ := Text.trim_eq_iff.1 htrim
  obtain ⟨hlisted, gap, rest, hgap, hrest, rfl⟩ := Text.trim_eq_iff.1 htext
  -- Blanks behind the last name would be blanks at the end of what is trimmed.
  have hnil : rest = [] := by
    by_contra hne
    have hlast : rest.getLast? = some (rest.getLast hne) := List.getLast?_eq_some_getLast hne
    have hcorelast : (keyword ++ (gap ++ (l.text ++ rest))).getLast? = rest.getLast? := by
      simp only [← List.append_assoc]
      exact List.getLast?_append_of_ne_nil _ hne
    have hfalse := hcore.last _ (hcorelast.trans hlast)
    rw [hrest _ (List.getLast_mem hne)] at hfalse
    cases hfalse
  subst hnil
  -- Without a gap, the first name would go on where the keyword ends.
  have hgapne : gap ≠ [] := by
    rintro rfl
    obtain ⟨c, t, hc⟩ := List.exists_cons_of_ne_nil l.text_ne_nil
    have htrue := hhead c (by simp [hc])
    rw [hlisted.head c (by simp [hc])] at htrue
    cases htrue
  exact ⟨⟨lead, gap, l, tail, hlead, hgap, hgapne, htail⟩, by simp [Written.text]⟩

/-- **What is read is written.** -/
theorem exists_written {content : Text} {directive : Directive}
    (h : parse? content = some directive) : ∃ w : Written, w.text = content := by
  obtain ⟨body, hbody, hlist⟩ := Option.bind_eq_some_iff.1 h
  simp only [Option.ite_none_right_eq_some] at hlist
  exact exists_written_of_isList hbody hlist.1

/-- **A list in order is read**, from some offset on. -/
theorem exists_parse?_of_isList {content body : Text} (hbody : body? content = some body)
    (hlist : isList (Text.runs isNameChar body.trim)) :
    ∃ offset, parse? content =
      some ⟨namesFrom offset (Text.runs isNameChar body.trim), body.trim⟩ := by
  obtain ⟨w, rfl⟩ := exists_written_of_isList hbody hlist
  obtain rfl := Option.some.inj (w.body?_text.symm.trans hbody)
  rw [w.trim_body, NameList.runs_text]
  exact ⟨_, w.parse?_text⟩

/-- A list that is not in order is not read. -/
theorem parse?_eq_none_of_isList {content body : Text} (hbody : body? content = some body)
    (hlist : isList (Text.runs isNameChar body.trim) = false) : parse? content = none := by
  simp [parse?, hbody, hlist]

/-- **Directives are exactly what the grammar writes**: a content is read
as a directive if it is written in this way, there is only one such way to
take it apart, and the directive has the names that are written, in order
and with those that stand there twice, and the list as it is written. -/
theorem parse?_grammar :
    (∀ content, (parse? content).isSome ↔ ∃ w : Written, w.text = content) ∧
      (∀ w w' : Written, w.text = w'.text → w = w') ∧
      ∀ w : Written, ∃ directive, parse? w.text = some directive ∧
        directive.ruleNames = w.list.names.map String.ofList ∧
        directive.rulesText = w.list.text := by
  refine ⟨fun content => ⟨fun h => ?_, ?_⟩, fun _ _ => Written.text_injective, fun w => ?_⟩
  · obtain ⟨directive, hdirective⟩ := Option.isSome_iff_exists.1 h
    exact exists_written hdirective
  · rintro ⟨w, rfl⟩
    rw [Written.parse?_text]
    rfl
  · exact ⟨_, w.parse?_text, w.list.map_name_namesFrom _, rfl⟩

end Directive

end TemplateLint
