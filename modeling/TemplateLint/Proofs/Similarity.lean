import TemplateLint.Text.Similarity
/-!
# Similarity — which candidate is the closest

Of the candidates that are close to a word, one has the greatest score, and of
those with the same likeness the one whose name sorts last counts as greater.
That is the one picked (`Similarity.closest?_eq_some_iff`), in whatever order
they are looked at (`Similarity.closest?_perm`).
-/

namespace TemplateLint

namespace Similarity

namespace Score

variable {a b c : Score}

theorem le_iff : a.le b ↔ a.matched * b.total < b.matched * a.total ∨
    a.matched * b.total = b.matched * a.total ∧ a.candidate ≤ b.candidate := by
  simp [le]

/-- Likeness is compared as a fraction, so that what it is compared through has
to have characters. -/
theorem matched_mul_le (hb : 0 < b.total) (hab : a.matched * b.total ≤ b.matched * a.total)
    (hbc : b.matched * c.total ≤ c.matched * b.total) :
    a.matched * c.total ≤ c.matched * a.total := by
  refine Nat.le_of_mul_le_mul_left ?_ hb
  calc b.total * (a.matched * c.total)
      = a.matched * b.total * c.total := by
        rw [← Nat.mul_assoc, Nat.mul_comm b.total]
    _ ≤ b.matched * a.total * c.total := Nat.mul_le_mul_right _ hab
    _ = b.matched * c.total * a.total := Nat.mul_right_comm ..
    _ ≤ c.matched * b.total * a.total := Nat.mul_le_mul_right _ hbc
    _ = b.total * (c.matched * a.total) := by
        rw [← Nat.mul_assoc, Nat.mul_comm b.total]

theorem le_trans (ha : 0 < a.total) (hb : 0 < b.total) (hc : 0 < c.total) (hab : a.le b)
    (hbc : b.le c) : a.le c := by
  rw [le_iff] at hab hbc ⊢
  have hab' : a.matched * b.total ≤ b.matched * a.total :=
    hab.elim Nat.le_of_lt fun h => Nat.le_of_eq h.1
  have hbc' : b.matched * c.total ≤ c.matched * b.total :=
    hbc.elim Nat.le_of_lt fun h => Nat.le_of_eq h.1
  have hac := matched_mul_le hb hab' hbc'
  rcases Nat.lt_or_eq_of_le hac with hlt | heq
  · exact .inl hlt
  · -- Were one of the two likenesses greater, so would be the last one.
    have hab'' := matched_mul_le hc hbc' (Nat.le_of_eq heq.symm)
    have hbc'' := matched_mul_le ha (Nat.le_of_eq heq.symm) hab'
    refine .inr ⟨heq, ?_⟩
    rcases hab with hlt | ⟨-, hab⟩
    · omega
    · rcases hbc with hlt | ⟨-, hbc⟩
      · omega
      · exact String.le_trans hab hbc

theorem le_total (a b : Score) : a.le b ∨ b.le a := by
  rw [le_iff, le_iff]
  rcases Nat.lt_trichotomy (a.matched * b.total) (b.matched * a.total) with h | h | h
  · exact .inl (.inl h)
  · exact (String.le_total a.candidate b.candidate).imp (.inr ⟨h, ·⟩) (.inr ⟨h.symm, ·⟩)
  · exact .inr (.inl h)

/-- Scores that are below each other are those of one candidate. -/
theorem candidate_eq_of_le (hab : a.le b) (hba : b.le a) : a.candidate = b.candidate := by
  rw [le_iff] at hab hba
  rcases hab with hlt | ⟨heq, hab⟩
  · omega
  · rcases hba with hlt | ⟨-, hba⟩
    · omega
    · exact String.le_antisymm hab hba

theorem candidate_of (word : Text) (candidate : String) :
    (of word candidate).candidate = candidate := by
  simp only [of]
  split <;> rfl

/-- There is something to compare. -/
theorem total_of_pos (word : Text) (candidate : String) : 0 < (of word candidate).total := by
  simp only [of]
  split
  · exact Nat.two_pos
  · rename_i hempty
    exact Nat.pos_of_ne_zero hempty

end Score

/-- The candidate has the greatest score of those that are close. -/
def IsClosest (word : Text) (candidates : List String) (best : String) : Prop :=
  best ∈ candidates ∧ (Score.of word best).isClose ∧
    ∀ other ∈ candidates, (Score.of word other).isClose → (Score.of word other).le (.of word best)

variable {word : Text} {candidates candidates' : List String}

/-- The better one of a score and the best so far. -/
def Score.better (best : Option Score) (s : Score) : Option Score :=
  match best with
  | none => some s
  | some b => if s.le b then best else some s

/-- Going through some scores finds one that none of them is above. -/
theorem exists_foldl_better {scores : List Score} (hpos : ∀ s ∈ scores, 0 < s.total)
    {b : Score} (hb : 0 < b.total) :
    ∃ m, scores.foldl Score.better (some b) = some m ∧ m ∈ b :: scores ∧
      ∀ s ∈ b :: scores, s.le m := by
  induction scores generalizing b with
  | nil =>
    refine ⟨b, rfl, List.mem_singleton_self b, fun s hs => ?_⟩
    rw [List.mem_singleton.1 hs]
    exact (Score.le_total b b).elim id id
  | cons s scores ih =>
    have hs := hpos s (.head _)
    have hrest : ∀ s ∈ scores, 0 < s.total := fun s hs => hpos s (.tail _ hs)
    rw [List.foldl_cons, Score.better]
    split
    · rename_i hle
      obtain ⟨m, hm, hmem, hmax⟩ := ih hrest hb
      have hmpos : 0 < m.total := by
        rcases List.mem_cons.1 hmem with rfl | hmem
        · exact hb
        · exact hrest m hmem
      refine ⟨m, hm, ?_, fun t ht => ?_⟩
      · rcases List.mem_cons.1 hmem with rfl | hmem
        · exact .head _
        · exact .tail _ (.tail _ hmem)
      · rcases List.mem_cons.1 ht with rfl | ht
        · exact hmax t (.head _)
        · rcases List.mem_cons.1 ht with rfl | ht
          · exact Score.le_trans hs hb hmpos hle (hmax b (.head _))
          · exact hmax t (.tail _ ht)
    · rename_i hle
      obtain ⟨m, hm, hmem, hmax⟩ := ih hrest hs
      have hmpos : 0 < m.total := hpos m hmem
      refine ⟨m, hm, .tail _ hmem, fun t ht => ?_⟩
      rcases List.mem_cons.1 ht with rfl | ht
      · exact Score.le_trans hb hs hmpos ((Score.le_total s t).resolve_left hle)
          (hmax s (.head _))
      · exact hmax t ht

/-- **The closest candidate is the one with the greatest score.** -/
theorem closest?_eq_some_iff {best : String} :
    closest? word candidates = some best ↔ IsClosest word candidates best := by
  have hscores : ∀ s, s ∈ (candidates.map (Score.of word)).filter Score.isClose ↔
      ∃ c ∈ candidates, (Score.of word c).isClose ∧ Score.of word c = s := by
    intro s
    rw [List.mem_filter, List.mem_map]
    constructor
    · rintro ⟨⟨c, hc, rfl⟩, hclose⟩
      exact ⟨c, hc, hclose, rfl⟩
    · rintro ⟨c, hc, hclose, rfl⟩
      exact ⟨⟨c, hc, rfl⟩, hclose⟩
  have hclosest : closest? word candidates =
      (((candidates.map (Score.of word)).filter Score.isClose).foldl Score.better none).map
        (·.candidate) := rfl
  rw [hclosest]
  generalize (candidates.map (Score.of word)).filter Score.isClose = scores at hscores
  rcases scores with _ | ⟨s, scores⟩
  · refine ⟨nofun, ?_⟩
    rintro ⟨hmem, hclose, -⟩
    exact absurd ((hscores _).2 ⟨best, hmem, hclose, rfl⟩) List.not_mem_nil
  · have hpos : ∀ t ∈ s :: scores, 0 < t.total := by
      intro t ht
      obtain ⟨c, -, -, rfl⟩ := (hscores t).1 ht
      exact Score.total_of_pos word c
    obtain ⟨m, hm, hmem, hmax⟩ :=
      exists_foldl_better (fun t ht => hpos t (.tail _ ht)) (hpos s (.head _))
    obtain ⟨c, hc, hclose, rfl⟩ := (hscores m).1 hmem
    have hfound : IsClosest word candidates c :=
      ⟨hc, hclose, fun other hother hclose' => hmax _ ((hscores _).2 ⟨other, hother, hclose', rfl⟩)⟩
    rw [List.foldl_cons, Score.better, hm, Option.map_some, Score.candidate_of, Option.some.injEq]
    refine ⟨fun heq => heq ▸ hfound, fun hbest => ?_⟩
    -- Two greatest scores are those of one candidate.
    have heq := Score.candidate_eq_of_le (hbest.2.2 c hc hclose) (hfound.2.2 best hbest.1 hbest.2.1)
    rwa [Score.candidate_of, Score.candidate_of] at heq

/-- **In which order candidates are looked at does not matter.** -/
theorem closest?_perm (h : candidates.Perm candidates') :
    closest? word candidates = closest? word candidates' := by
  refine Option.ext fun best => ?_
  rw [closest?_eq_some_iff, closest?_eq_some_iff]
  simp only [IsClosest, h.mem_iff]

end Similarity

end TemplateLint
