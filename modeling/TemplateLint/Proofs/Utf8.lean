import Mathlib.Data.List.Basic
import TemplateLint.Text.Utf8
/-!
# UTF-8 — octets and texts

Decoding gives back the text that was encoded (`Text.decode_encode`), and octets
that are decoded are those that the text is encoded to (`Text.encode_of_decode`):
which octets make a character (`Text.Spells`) is what both go by. So texts are
told apart by their octets (`Text.encode_inj`).
-/

namespace TemplateLint

namespace Text

variable {place : Nat} {octets rest : List UInt8} {t t' : Text} {o : UInt8} {p : Pending}

/-! ## Leads -/

theorem open?_two (h : 0xC2 ≤ o.toNat) (h' : o.toNat < 0xE0) :
    open? o place = some ⟨o, place, 1, 1, 0x80, 0xBF, o.toNat - 0xC0⟩ := by
  rw [open?, if_neg (by omega), if_pos h']

theorem open?_three (h : 0xE0 ≤ o.toNat) (h' : o.toNat < 0xF0) :
    open? o place = some ⟨o, place, 1, 2, if o.toNat = 0xE0 then 0xA0 else 0x80,
      if o.toNat = 0xED then 0x9F else 0xBF, o.toNat - 0xE0⟩ := by
  rw [open?, if_neg (by omega), if_neg (by omega), if_pos h']

theorem open?_four (h : 0xF0 ≤ o.toNat) (h' : o.toNat < 0xF5) :
    open? o place = some ⟨o, place, 1, 3, if o.toNat = 0xF0 then 0x90 else 0x80,
      if o.toNat = 0xF4 then 0x8F else 0xBF, o.toNat - 0xF0⟩ := by
  rw [open?, if_neg (by omega), if_neg (by omega), if_neg (by omega), if_pos h']

theorem open?_none (h : o.toNat < 0xC2 ∨ 0xF5 ≤ o.toNat) : open? o place = none := by
  rw [open?]
  rcases h with h | h
  · rw [if_pos h]
  · rw [if_neg (by omega), if_neg (by omega), if_neg (by omega), if_neg (by omega)]

/-! ## Steps -/

/-- A character of one octet. -/
theorem decodeFrom_plain (h : o.toNat < 0x80) :
    decodeFrom place none (o :: rest) =
      (decodeFrom (place + 1) none rest).map (Char.ofNat o.toNat :: ·) := by
  rw [decodeFrom, if_pos h]

/-- The lead of a longer one. -/
theorem decodeFrom_lead (h : 0x80 ≤ o.toNat) (hopen : open? o place = some p) :
    decodeFrom place none (o :: rest) = decodeFrom (place + 1) (some p) rest := by
  rw [decodeFrom, if_neg (by omega), hopen]

/-- An octet after which more are owed. -/
theorem decodeFrom_more (hlow : p.low ≤ o.toNat) (hhigh : o.toNat ≤ p.high) (howed : 1 < p.owed) :
    decodeFrom place (some p) (o :: rest) =
      decodeFrom (place + 1)
        (some { p with read := p.read + 1, owed := p.owed - 1, low := 0x80, high := 0xBF,
                       value := p.value * 64 + (o.toNat - 0x80) }) rest := by
  rw [decodeFrom, if_neg (by simp; omega), if_neg (by omega)]

/-- The last octet of a character. -/
theorem decodeFrom_last (hlow : p.low ≤ o.toNat) (hhigh : o.toNat ≤ p.high) (howed : p.owed ≤ 1) :
    decodeFrom place (some p) (o :: rest) =
      (decodeFrom (place + 1) none rest).map
        (Char.ofNat (p.value * 64 + (o.toNat - 0x80)) :: ·) := by
  rw [decodeFrom, if_neg (by simp; omega), if_pos howed]

/-- What is owed comes, and is within bounds. -/
theorem exists_cons_of_decodeFrom (h : decodeFrom place (some p) octets = .ok t) :
    ∃ o rest, octets = o :: rest ∧ p.low ≤ o.toNat ∧ o.toNat ≤ p.high := by
  rcases octets with _ | ⟨o, rest⟩
  · cases h
  · refine ⟨o, rest, rfl, ?_⟩
    rw [decodeFrom] at h
    split at h
    · cases h
    · rename_i hbounds
      simp only [Bool.or_eq_true, decide_eq_true_eq, not_or, Nat.not_lt] at hbounds
      exact hbounds

/-! ## Characters -/

/-- An octet behind a lead. -/
def IsTail (o : UInt8) : Prop :=
  0x80 ≤ o.toNat ∧ o.toNat ≤ 0xBF

/-- **Octets make a character of a number.** The octet after a lead has narrower
bounds where the number could be made of fewer octets, belongs to half of a pair,
or is beyond all characters. -/
inductive Spells : List UInt8 → Nat → Prop
  | one {a : UInt8} : a.toNat < 0x80 → Spells [a] a.toNat
  | two {a b : UInt8} : 0xC2 ≤ a.toNat → a.toNat < 0xE0 → IsTail b →
      Spells [a, b] ((a.toNat - 0xC0) * 64 + (b.toNat - 0x80))
  | three {a b c : UInt8} : 0xE0 ≤ a.toNat → a.toNat < 0xF0 →
      (if a.toNat = 0xE0 then 0xA0 else 0x80) ≤ b.toNat →
      b.toNat ≤ (if a.toNat = 0xED then 0x9F else 0xBF) → IsTail c →
      Spells [a, b, c] (((a.toNat - 0xE0) * 64 + (b.toNat - 0x80)) * 64 + (c.toNat - 0x80))
  | four {a b c d : UInt8} : 0xF0 ≤ a.toNat → a.toNat < 0xF5 →
      (if a.toNat = 0xF0 then 0x90 else 0x80) ≤ b.toNat →
      b.toNat ≤ (if a.toNat = 0xF4 then 0x8F else 0xBF) → IsTail c → IsTail d →
      Spells [a, b, c, d]
        ((((a.toNat - 0xF0) * 64 + (b.toNat - 0x80)) * 64 + (c.toNat - 0x80)) * 64 +
          (d.toNat - 0x80))

theorem Spells.length_pos {number : Nat} (h : Spells octets number) : 0 < octets.length := by
  cases h <;> exact Nat.succ_pos _

/-- **A character is read from the octets that make it.** -/
theorem Spells.decodeFrom {number : Nat} (h : Spells octets number) :
    decodeFrom place none (octets ++ rest) =
      (decodeFrom (place + octets.length) none rest).map (Char.ofNat number :: ·) := by
  cases h with
  | one ha => exact decodeFrom_plain ha
  | two ha ha' hb =>
    exact (decodeFrom_lead (by omega) (open?_two ha ha')).trans
      (decodeFrom_last hb.1 hb.2 (Nat.le_refl 1))
  | three ha ha' hb hb' hc =>
    refine (decodeFrom_lead (by omega) (open?_three ha ha')).trans ?_
    refine (decodeFrom_more hb hb' (Nat.lt_succ_self 1)).trans ?_
    exact decodeFrom_last hc.1 hc.2 (Nat.le_refl 1)
  | four ha ha' hb hb' hc hd =>
    refine (decodeFrom_lead (by omega) (open?_four ha ha')).trans ?_
    refine (decodeFrom_more hb hb' (Nat.lt_of_sub_eq_succ rfl)).trans ?_
    refine (decodeFrom_more hc.1 hc.2 (Nat.lt_succ_self 1)).trans ?_
    exact decodeFrom_last hd.1 hd.2 (Nat.le_refl 1)

theorem ok_of_map {ε α β : Type} {x : Except ε α} {f : α → β} {b : β} (h : x.map f = .ok b) :
    ∃ a, x = .ok a ∧ b = f a := by
  cases x with
  | error e => cases h
  | ok a => exact ⟨a, rfl, (Except.ok.inj h).symm⟩

/-- As many octets as are owed come behind the next one. -/
theorem exists_tails_of_decodeFrom {owed : Nat} (howed : p.owed = owed + 1)
    (h : Text.decodeFrom place (some p) octets = .ok t) :
    ∃ b tails rest, octets = b :: (tails ++ rest) ∧ (p.low ≤ b.toNat ∧ b.toNat ≤ p.high) ∧
      tails.length = owed ∧ ∀ o ∈ tails, IsTail o := by
  obtain ⟨b, behind, rfl, hlow, hhigh⟩ := exists_cons_of_decodeFrom h
  induction owed generalizing place p b behind with
  | zero => exact ⟨b, [], behind, rfl, ⟨hlow, hhigh⟩, rfl, nofun⟩
  | succ owed ih =>
    rw [decodeFrom_more hlow hhigh (by omega)] at h
    obtain ⟨c, behind, rfl, hlow', hhigh'⟩ := exists_cons_of_decodeFrom h
    obtain ⟨_, tails, rest, heq, -, hlength, htails⟩ :=
      ih (by rw [howed]; rfl) _ _ h hlow' hhigh'
    obtain ⟨rfl, rfl⟩ := List.cons.inj heq
    refine ⟨b, c :: tails, rest, rfl, ⟨hlow, hhigh⟩, congrArg Nat.succ hlength, fun o ho => ?_⟩
    rcases List.mem_cons.1 ho with rfl | ho
    · exact ⟨hlow', hhigh'⟩
    · exact htails o ho

/-- **What is read begins with octets that make a character.** -/
theorem exists_spells_of_decodeFrom (h : Text.decodeFrom place none octets = .ok t)
    (hsome : octets ≠ []) :
    ∃ first number rest, Spells first number ∧ octets = first ++ rest := by
  obtain ⟨a, octets, rfl⟩ := List.exists_cons_of_ne_nil hsome
  by_cases hone : a.toNat < 0x80
  · exact ⟨_, _, octets, .one hone, rfl⟩
  rcases hopen : open? a place with _ | p
  · rw [Text.decodeFrom, if_neg hone, hopen] at h
    cases h
  rw [decodeFrom_lead (by omega) hopen] at h
  by_cases hlead : a.toNat < 0xC2 ∨ 0xF5 ≤ a.toNat
  · cases (open?_none hlead).symm.trans hopen
  rcases Nat.lt_or_ge a.toNat 0xE0 with htwo | hthree
  · cases (open?_two (by omega) htwo).symm.trans hopen
    obtain ⟨b, tails, rest, rfl, hb, hlength, -⟩ := exists_tails_of_decodeFrom rfl h
    obtain rfl := List.length_eq_zero_iff.1 hlength
    exact ⟨_, _, rest, .two (by omega) htwo hb, rfl⟩
  rcases Nat.lt_or_ge a.toNat 0xF0 with hthree' | hfour
  · cases (open?_three hthree hthree').symm.trans hopen
    obtain ⟨b, tails, rest, rfl, hb, hlength, htails⟩ := exists_tails_of_decodeFrom rfl h
    obtain ⟨c, rfl⟩ := List.length_eq_one_iff.1 hlength
    exact ⟨_, _, rest, .three hthree hthree' hb.1 hb.2 (htails c (.head _)), rfl⟩
  · cases (open?_four hfour (by omega)).symm.trans hopen
    obtain ⟨b, tails, rest, rfl, hb, hlength, htails⟩ := exists_tails_of_decodeFrom rfl h
    obtain ⟨c, d, rfl⟩ := List.length_eq_two.1 hlength
    exact ⟨_, _, rest, .four hfour (by omega) hb.1 hb.2 (htails c (.head _))
      (htails d (.tail _ (.head _))), rfl⟩

/-! ## Writing -/

section Writing

variable {c : Char}

theorem encodeChar_one (h : c.toNat < 0x80) : encodeChar c = [UInt8.ofNat c.toNat] :=
  if_pos h

theorem encodeChar_two (h : 0x80 ≤ c.toNat) (h' : c.toNat < 0x800) :
    encodeChar c =
      [UInt8.ofNat (0xC0 + c.toNat / 0x40), UInt8.ofNat (0x80 + c.toNat / 1 % 0x40)] := by
  rw [encodeChar, if_neg (by omega), if_pos h']

theorem encodeChar_three (h : 0x800 ≤ c.toNat) (h' : c.toNat < 0x10000) :
    encodeChar c =
      [UInt8.ofNat (0xE0 + c.toNat / 0x1000), UInt8.ofNat (0x80 + c.toNat / 0x40 % 0x40),
        UInt8.ofNat (0x80 + c.toNat / 1 % 0x40)] := by
  rw [encodeChar, if_neg (by omega), if_neg (by omega), if_pos h']

theorem encodeChar_four (h : 0x10000 ≤ c.toNat) :
    encodeChar c =
      [UInt8.ofNat (0xF0 + c.toNat / 0x40000), UInt8.ofNat (0x80 + c.toNat / 0x1000 % 0x40),
        UInt8.ofNat (0x80 + c.toNat / 0x40 % 0x40), UInt8.ofNat (0x80 + c.toNat / 1 % 0x40)] := by
  rw [encodeChar, if_neg (by omega), if_neg (by omega), if_neg (by omega)]

theorem toNat_octet {n : Nat} (h : n < 0x100) : (UInt8.ofNat n).toNat = n :=
  UInt8.toNat_ofNat'.trans (Nat.mod_eq_of_lt h)

theorem toNat_tail (n : Nat) : (UInt8.ofNat (0x80 + n % 0x40)).toNat = 0x80 + n % 0x40 :=
  toNat_octet (by omega)

theorem isTail_octet (n : Nat) : IsTail (UInt8.ofNat (0x80 + n % 0x40)) := by
  rw [IsTail, toNat_tail]
  omega

/-- **The octets that a character is written with make it.** -/
theorem spells_encodeChar (c : Char) : Spells (encodeChar c) c.toNat := by
  have hvalid : c.toNat < 0xD800 ∨ 0xDFFF < c.toNat ∧ c.toNat < 0x110000 := c.valid
  by_cases hone : c.toNat < 0x80
  · have ha := toNat_octet (n := c.toNat) (by omega)
    rw [encodeChar_one hone]
    convert Spells.one (ha ▸ hone) using 1
    exact ha.symm
  by_cases htwo : c.toNat < 0x800
  · have ha := toNat_octet (n := 0xC0 + c.toNat / 0x40) (by omega)
    rw [encodeChar_two (by omega) htwo]
    convert Spells.two (by rw [ha]; omega) (by rw [ha]; omega) (isTail_octet (c.toNat / 1)) using 1
    rw [ha, toNat_tail]
    omega
  by_cases hthree : c.toNat < 0x10000
  · have ha := toNat_octet (n := 0xE0 + c.toNat / 0x1000) (by omega)
    have hb := toNat_tail (c.toNat / 0x40)
    rw [encodeChar_three (by omega) hthree]
    convert Spells.three (by rw [ha]; omega) (by rw [ha]; omega)
      (b := UInt8.ofNat (0x80 + c.toNat / 0x40 % 0x40)) (by rw [ha, hb]; split <;> omega)
      (by rw [ha, hb]; split <;> omega) (isTail_octet (c.toNat / 1)) using 1
    rw [ha, hb, toNat_tail]
    omega
  · have ha := toNat_octet (n := 0xF0 + c.toNat / 0x40000) (by omega)
    have hb := toNat_tail (c.toNat / 0x1000)
    rw [encodeChar_four (by omega)]
    convert Spells.four (by rw [ha]; omega) (by rw [ha]; omega)
      (b := UInt8.ofNat (0x80 + c.toNat / 0x1000 % 0x40)) (by rw [ha, hb]; split <;> omega)
      (by rw [ha, hb]; split <;> omega) (isTail_octet (c.toNat / 0x40))
      (isTail_octet (c.toNat / 1)) using 1
    rw [ha, hb, toNat_tail, toNat_tail]
    omega

theorem octet_eq {n : Nat} (h : n = o.toNat) : UInt8.ofNat n = o := by
  rw [h, UInt8.ofNat_toNat]

theorem toNat_ofNat {n : Nat} (h : n < 0xD800 ∨ 0xDFFF < n ∧ n < 0x110000) :
    (Char.ofNat n).toNat = n := by
  rw [Char.ofNat, dif_pos h]
  rfl

/-- **No other octets make it.** -/
theorem Spells.encodeChar_eq {number : Nat} (h : Spells octets number) :
    encodeChar (Char.ofNat number) = octets := by
  cases h with
  | one ha =>
    have hnumber := toNat_ofNat (.inl (Nat.lt_trans ha (by decide)))
    rw [encodeChar_one (by omega), octet_eq hnumber]
  | @two a b ha ha' hb =>
    obtain ⟨hb, hb'⟩ := hb
    have hnumber := toNat_ofNat (n := (a.toNat - 0xC0) * 64 + (b.toNat - 0x80)) (by omega)
    rw [encodeChar_two (by omega) (by omega), hnumber]
    rw [octet_eq (o := a) (by omega), octet_eq (o := b) (by omega)]
  | @three a b c ha ha' hb hb' hc =>
    obtain ⟨hc, hc'⟩ := hc
    have hlow : 0x80 ≤ b.toNat ∧ (a.toNat = 0xE0 → 0xA0 ≤ b.toNat) := by
      split at hb <;> omega
    have hhigh : b.toNat ≤ 0xBF ∧ (a.toNat = 0xED → b.toNat ≤ 0x9F) := by
      split at hb' <;> omega
    have hnumber := toNat_ofNat
      (n := ((a.toNat - 0xE0) * 64 + (b.toNat - 0x80)) * 64 + (c.toNat - 0x80)) (by omega)
    rw [encodeChar_three (by omega) (by omega), hnumber]
    rw [octet_eq (o := a) (by omega), octet_eq (o := b) (by omega), octet_eq (o := c) (by omega)]
  | @four a b c d ha ha' hb hb' hc hd =>
    obtain ⟨hc, hc'⟩ := hc
    obtain ⟨hd, hd'⟩ := hd
    have hlow : 0x80 ≤ b.toNat ∧ (a.toNat = 0xF0 → 0x90 ≤ b.toNat) := by
      split at hb <;> omega
    have hhigh : b.toNat ≤ 0xBF ∧ (a.toNat = 0xF4 → b.toNat ≤ 0x8F) := by
      split at hb' <;> omega
    have hnumber := toNat_ofNat
      (n := (((a.toNat - 0xF0) * 64 + (b.toNat - 0x80)) * 64 + (c.toNat - 0x80)) * 64 +
        (d.toNat - 0x80)) (by omega)
    rw [encodeChar_four (by omega), hnumber]
    rw [octet_eq (o := a) (by omega), octet_eq (o := b) (by omega), octet_eq (o := c) (by omega),
      octet_eq (o := d) (by omega)]

end Writing

/-- **A text that is encoded can be decoded.** -/
theorem decode_encode (t : Text) : decode (encode t) = .ok t := by
  have hfrom : ∀ place, decodeFrom place none (encode t) = .ok t := by
    induction t with
    | nil => exact fun _ => rfl
    | cons c t ih =>
      intro place
      rw [encode, List.flatMap_cons, (spells_encodeChar c).decodeFrom, Char.ofNat_toNat]
      exact congrArg (Except.map (c :: ·)) (ih _)
  exact hfrom 0

theorem encode_inj (h : encode t = encode t') : t = t' := by
  have hdecode := congrArg decode h
  rw [decode_encode, decode_encode] at hdecode
  exact Except.ok.inj hdecode

/-- **What is decoded is encoded again to the same octets.** -/
theorem encode_of_decodeFrom (h : decodeFrom place none octets = .ok t) : encode t = octets := by
  -- The induction is on how many octets are left, which drops by those of a character.
  induction hlength : octets.length using Nat.strongRecOn generalizing place octets t with
  | ind n ih =>
    by_cases hsome : octets = []
    · subst hsome
      cases h
      rfl
    · obtain ⟨first, number, rest, hspells, rfl⟩ := exists_spells_of_decodeFrom h hsome
      rw [hspells.decodeFrom] at h
      obtain ⟨t', ht', rfl⟩ := ok_of_map h
      have hshorter : rest.length < n := by
        rw [← hlength, List.length_append]
        have hpos := hspells.length_pos
        omega
      rw [encode, List.flatMap_cons, hspells.encodeChar_eq]
      exact congrArg (first ++ ·) (ih _ hshorter ht' rfl)

theorem encode_of_decode (h : decode octets = .ok t) : encode t = octets :=
  encode_of_decodeFrom h

end Text

end TemplateLint
