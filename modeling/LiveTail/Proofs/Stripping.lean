import LiveTail.View.Row
import Mathlib.Data.List.Infix
/-!
# What stripping escape sequences leaves

`Ansi.strip` removes the control sequences escape, `[`, digits and semicolons, a letter
(`IsSeq`), scanning once from the left. A removed sequence can be the middle of another: in
escape, escape `[0m`, `[0m` the inner `escape [0m` goes and the outer escape now meets
`[0m`, so the stripped text holds a sequence again and a second strip changes it
(`strip_can_close_a_sequence`).

That is the only way a sequence survives. A stripped text holds a sequence only where the
original has an escape, or an escape, `[` and parameters, directly followed by a whole
sequence (`HasInterrupted`, `hasInterrupted_of_hasSeq_stripChars`). Stripping is the
identity exactly on texts without a sequence (`stripChars_eq_self_iff`), so a second strip
changes nothing on every text without such an interrupted sequence
(`stripping_leaves_only_interrupted_sequences`).
-/
namespace LiveTail.Ansi

/-- A whole control sequence: escape, `[`, parameters, then a letter. -/
def IsSeq (cs : List Char) : Prop :=
  ∃ ps l, cs = esc :: '[' :: (ps ++ [l]) ∧ (∀ p ∈ ps, isParam p = true) ∧ l.isAlpha = true

/-- A text holds a control sequence somewhere. -/
def HasSeq (cs : List Char) : Prop := ∃ b, IsSeq b ∧ b <:+: cs

/-- The start of a control sequence cut off before its letter: an escape alone, or an
escape, `[` and parameters. -/
def IsOpening (o : List Char) : Prop :=
  o = [esc] ∨ ∃ ps, o = esc :: '[' :: ps ∧ ∀ p ∈ ps, isParam p = true

/-- A text holds an opening directly followed by a whole sequence. -/
def HasInterrupted (cs : List Char) : Prop := ∃ o b, IsOpening o ∧ IsSeq b ∧ o ++ b <:+: cs

/-- Parameters and final letters are disjoint: a letter ends the parameters. -/
theorem not_isParam_of_isAlpha {c : Char} (h : c.isAlpha = true) : isParam c = false := by
  -- the letters lie above the digits and the semicolon
  have halpha : c.isAlpha = (decide (c.val ≥ 'A'.val ∧ c.val ≤ 'Z'.val) ||
      (decide (c.val ≥ 'a'.val) && decide (c.val ≤ 'z'.val))) := rfl
  have hparam : isParam c = (decide (c.val ≥ '0'.val) && decide (c.val ≤ '9'.val) ||
      decide (c = ';')) := rfl
  rw [halpha] at h
  rw [hparam]
  simp only [Char.ext_iff] at *
  grind

/-! ## The parameters and the final letter -/

/-- `afterParams` finds the letter after the longest run of parameters. -/
theorem afterParams_eq_some_iff {r after : List Char} :
    afterParams r = some after ↔
      ∃ ps l, r = ps ++ l :: after ∧ (∀ p ∈ ps, isParam p = true) ∧ l.isAlpha = true := by
  induction r with
  | nil => simp [afterParams]
  | cons c rest ih =>
    by_cases hp : isParam c = true
    · rw [afterParams, if_pos hp, ih]
      constructor
      · rintro ⟨ps, l, rfl, hps, hl⟩
        exact ⟨c :: ps, l, rfl, by simpa [hp] using hps, hl⟩
      · rintro ⟨ps, l, heq, hps, hl⟩
        cases ps with
        | nil =>
          obtain ⟨rfl, -⟩ := List.cons.inj heq
          exact absurd hp (by simp [not_isParam_of_isAlpha hl])
        | cons q qs =>
          obtain ⟨-, rfl⟩ := List.cons.inj heq
          exact ⟨qs, l, rfl, fun p hp' => hps p (List.mem_cons_of_mem _ hp'), hl⟩
    · rw [afterParams, if_neg hp]
      constructor
      · intro h
        split at h
        · cases h
          exact ⟨[], c, rfl, by simp, by assumption⟩
        · cases h
      · rintro ⟨ps, l, heq, hps, hl⟩
        cases ps with
        | nil =>
          obtain ⟨rfl, rfl⟩ := List.cons.inj heq
          rw [if_pos hl]
        | cons q qs =>
          obtain ⟨rfl, -⟩ := List.cons.inj heq
          exact absurd (hps _ List.mem_cons_self) hp

/-- Escape and `[` start a whole sequence exactly where `afterParams` finds its end. -/
theorem afterParams_eq_some_iff_isSeq {r after : List Char} :
    afterParams r = some after ↔ ∃ b, IsSeq b ∧ esc :: '[' :: r = b ++ after := by
  rw [afterParams_eq_some_iff]
  constructor
  · rintro ⟨ps, l, rfl, hps, hl⟩
    exact ⟨esc :: '[' :: (ps ++ [l]), ⟨ps, l, rfl, hps, hl⟩, by simp⟩
  · rintro ⟨b, ⟨ps, l, rfl, hps, hl⟩, heq⟩
    exact ⟨ps, l, by simpa using heq, hps, hl⟩

/-! ## One step of the scan -/

theorem stripChars_nil : stripChars [] = [] := by
  rw [stripChars]

/-- Escape and `[` followed by a sequence's parameters and letter are removed. -/
theorem stripChars_esc_of_afterParams_some {r after : List Char} (h : afterParams r = some after) :
    stripChars (esc :: '[' :: r) = stripChars after := by
  rw [stripChars.eq_2, if_pos rfl]
  split <;> simp_all

/-- Escape and `[` followed by no sequence's end are kept. -/
theorem stripChars_esc_of_afterParams_none {r : List Char} (h : afterParams r = none) :
    stripChars (esc :: '[' :: r) = esc :: stripChars ('[' :: r) := by
  rw [stripChars.eq_2, if_pos rfl]
  split <;> simp_all

/-- A character followed by anything but `[` is kept. -/
theorem stripChars_cons_of_not_bracket (c : Char) {rest : List Char}
    (h : ∀ r, rest = '[' :: r → False) : stripChars (c :: rest) = c :: stripChars rest := by
  rw [stripChars.eq_3 _ _ h]
  split <;> rfl

/-- A character other than escape is kept. -/
theorem stripChars_cons_of_ne {c : Char} (h : c ≠ esc) (rest : List Char) :
    stripChars (c :: rest) = c :: stripChars rest := by
  match rest with
  | '[' :: r => rw [stripChars.eq_2, if_neg h]
  | [] => exact stripChars_cons_of_not_bracket c (by simp)
  | d :: r =>
    by_cases hd : d = '['
    · subst hd
      rw [stripChars.eq_2, if_neg h]
    · exact stripChars_cons_of_not_bracket c (by simp [hd])

/-- A whole sequence at the front is removed. -/
theorem stripChars_seq_append {b : List Char} (hb : IsSeq b) (after : List Char) :
    stripChars (b ++ after) = stripChars after := by
  obtain ⟨ps, l, rfl, hps, hl⟩ := hb
  have hafter : afterParams (ps ++ l :: after) = some after :=
    afterParams_eq_some_iff.mpr ⟨ps, l, rfl, hps, hl⟩
  simp only [List.cons_append, List.append_assoc]
  exact stripChars_esc_of_afterParams_some hafter

/-- An escape that begins no whole sequence is kept. -/
theorem stripChars_esc_of_not {rest : List Char}
    (h : ∀ b after, IsSeq b → esc :: rest ≠ b ++ after) :
    stripChars (esc :: rest) = esc :: stripChars rest := by
  match rest with
  | '[' :: r =>
    cases hafter : afterParams r with
    | none => exact stripChars_esc_of_afterParams_none hafter
    | some after =>
      obtain ⟨b, hb, heq⟩ := afterParams_eq_some_iff_isSeq.mp hafter
      exact absurd heq (h b after hb)
  | [] => exact stripChars_cons_of_not_bracket esc (by simp)
  | d :: r =>
    by_cases hd : d = '['
    · subst hd
      cases hafter : afterParams r with
      | none => exact stripChars_esc_of_afterParams_none hafter
      | some after =>
        obtain ⟨b, hb, heq⟩ := afterParams_eq_some_iff_isSeq.mp hafter
        exact absurd heq (h b after hb)
    · exact stripChars_cons_of_not_bracket esc (by simp [hd])

/-- The scan keeps a character, or removes a whole sequence. -/
theorem stripChars_cons_cases (c : Char) (rest : List Char) :
    stripChars (c :: rest) = c :: stripChars rest ∨
      ∃ b after, IsSeq b ∧ c :: rest = b ++ after ∧ stripChars (c :: rest) = stripChars after := by
  by_cases hc : c = esc
  · subst hc
    by_cases hseq : ∃ b after, IsSeq b ∧ esc :: rest = b ++ after
    · obtain ⟨b, after, hb, heq⟩ := hseq
      exact .inr ⟨b, after, hb, heq, by rw [heq, stripChars_seq_append hb]⟩
    · push Not at hseq
      exact .inl (stripChars_esc_of_not hseq)
  · exact .inl (stripChars_cons_of_ne hc rest)

/-! ## Sequences in the scanned text -/

theorem IsSeq.length_pos {b : List Char} (hb : IsSeq b) : 0 < b.length := by
  obtain ⟨ps, l, rfl, -, -⟩ := hb
  simp

theorem IsSeq.head {b after : List Char} {c : Char} {rest : List Char} (hb : IsSeq b)
    (heq : c :: rest = b ++ after) : c = esc := by
  obtain ⟨ps, l, rfl, -, -⟩ := hb
  exact (List.cons.inj heq).1

/-- A sequence in `c :: rest` starts at `c` or lies in `rest`. -/
theorem hasSeq_cons {c : Char} {rest : List Char} (h : HasSeq (c :: rest)) :
    (∃ b after, IsSeq b ∧ c :: rest = b ++ after) ∨ HasSeq rest := by
  obtain ⟨b, hb, hinf⟩ := h
  rcases List.infix_cons_iff.mp hinf with ⟨after, hpre⟩ | hin
  · exact .inl ⟨b, after, hb, hpre.symm⟩
  · exact .inr ⟨b, hb, hin⟩

theorem HasSeq.mono {cs ds : List Char} (h : HasSeq cs) (hi : cs <:+: ds) : HasSeq ds := by
  obtain ⟨b, hb, hin⟩ := h
  exact ⟨b, hb, hin.trans hi⟩

theorem HasInterrupted.mono {cs ds : List Char} (h : HasInterrupted cs) (hi : cs <:+: ds) :
    HasInterrupted ds := by
  obtain ⟨o, b, ho, hb, hin⟩ := h
  exact ⟨o, b, ho, hb, hin.trans hi⟩

theorem not_hasSeq_nil : ¬ HasSeq [] := by
  rintro ⟨b, hb, hin⟩
  exact absurd (List.eq_nil_of_infix_nil hin) (List.ne_nil_of_length_pos hb.length_pos)

/-- Stripping never lengthens a text. -/
theorem length_stripChars_le (cs : List Char) : (stripChars cs).length ≤ cs.length := by
  induction cs using stripChars.induct with
  | case1 => simp [stripChars_nil]
  | case2 r after hafter hlt ih =>
    rw [stripChars_esc_of_afterParams_some hafter]
    simp only [List.length_cons] at hlt ⊢
    omega
  | case3 r hnone ih =>
    rw [stripChars_esc_of_afterParams_none hnone, List.length_cons, List.length_cons]
    omega
  | case4 rest hr ih =>
    rw [stripChars_cons_of_not_bracket _ hr, List.length_cons, List.length_cons]
    omega
  | case5 c rest hc ih =>
    rw [stripChars_cons_of_ne hc, List.length_cons, List.length_cons]
    omega

/-- A text with a sequence gets shorter. -/
theorem length_stripChars_lt {cs : List Char} (h : HasSeq cs) :
    (stripChars cs).length < cs.length := by
  induction cs using stripChars.induct with
  | case1 => exact absurd h not_hasSeq_nil
  | case2 r after hafter hlt ih =>
    rw [stripChars_esc_of_afterParams_some hafter]
    have := length_stripChars_le after
    simp only [List.length_cons] at hlt ⊢
    omega
  | case3 r hnone ih =>
    rw [stripChars_esc_of_afterParams_none hnone, List.length_cons, List.length_cons]
    rcases hasSeq_cons h with ⟨b, after, hb, heq⟩ | htail
    · -- a sequence at the front would have been found by `afterParams`
      have := afterParams_eq_some_iff_isSeq.mpr ⟨b, hb, heq⟩
      rw [hnone] at this
      cases this
    · have := ih htail
      simp only [List.length_cons] at this ⊢
      omega
  | case4 rest hr ih =>
    rw [stripChars_cons_of_not_bracket _ hr, List.length_cons, List.length_cons]
    rcases hasSeq_cons h with ⟨b, after, ⟨ps, l, rfl, -, -⟩, heq⟩ | htail
    · exact absurd (List.cons.inj heq).2 (hr _)
    · have := ih htail
      omega
  | case5 c rest hc ih =>
    rw [stripChars_cons_of_ne hc, List.length_cons, List.length_cons]
    rcases hasSeq_cons h with ⟨b, after, hb, heq⟩ | htail
    · exact absurd (hb.head heq) hc
    · have := ih htail
      omega

/-- Stripping changes a text exactly when the text holds a sequence. -/
theorem stripChars_eq_self_iff (cs : List Char) : stripChars cs = cs ↔ ¬ HasSeq cs := by
  constructor
  · intro h hseq
    have := length_stripChars_lt hseq
    rw [h] at this
    exact lt_irrefl _ this
  · intro h
    induction cs using stripChars.induct with
    | case1 => exact stripChars_nil
    | case2 r after hafter hlt ih =>
      obtain ⟨b, hb, heq⟩ := afterParams_eq_some_iff_isSeq.mp hafter
      exact absurd ⟨b, hb, heq ▸ List.prefix_append b after |>.isInfix⟩ h
    | case3 r hnone ih =>
      rw [stripChars_esc_of_afterParams_none hnone,
        ih fun hs => h (hs.mono (List.suffix_cons _ _).isInfix)]
    | case4 rest hr ih =>
      rw [stripChars_cons_of_not_bracket _ hr,
        ih fun hs => h (hs.mono (List.suffix_cons _ _).isInfix)]
    | case5 c rest hc ih =>
      rw [stripChars_cons_of_ne hc, ih fun hs => h (hs.mono (List.suffix_cons _ _).isInfix)]

/-- What stripping leaves in front of parameters and a letter: if the scan of a text that does
not itself end a sequence there starts with parameters and a letter, the text starts with
parameters and then a whole sequence, whose removal brought the letter forward. -/
theorem params_then_seq {r ps y : List Char} {l : Char} (hnone : afterParams r = none)
    (hstrip : stripChars r = ps ++ l :: y) (hps : ∀ p ∈ ps, isParam p = true)
    (hl : l.isAlpha = true) :
    ∃ qs b z, r = qs ++ b ++ z ∧ (∀ q ∈ qs, isParam q = true) ∧ IsSeq b := by
  induction r generalizing ps with
  | nil =>
    rw [stripChars_nil] at hstrip
    exact absurd hstrip.symm (by simp)
  | cons c rest ih =>
    rcases stripChars_cons_cases c rest with hkeep | ⟨b, after, hb, heq, -⟩
    · rw [hkeep] at hstrip
      cases ps with
      | nil =>
        -- the letter came first: then `afterParams` would have ended there
        obtain ⟨rfl, -⟩ := List.cons.inj hstrip
        have : afterParams (c :: rest) = some rest :=
          afterParams_eq_some_iff.mpr ⟨[], c, rfl, by simp, hl⟩
        rw [hnone] at this
        cases this
      | cons p ps =>
        obtain ⟨rfl, hrest⟩ := List.cons.inj hstrip
        have hp : isParam c = true := hps c List.mem_cons_self
        have hnone' : afterParams rest = none := by rwa [afterParams, if_pos hp] at hnone
        obtain ⟨qs, b, z, rfl, hqs, hb⟩ :=
          ih hnone' hrest fun q hq => hps q (List.mem_cons_of_mem _ hq)
        refine ⟨c :: qs, b, z, rfl, ?_, hb⟩
        intro q hq
        rcases List.mem_cons.mp hq with rfl | hq
        · exact hp
        · exact hqs q hq
    · exact ⟨[], b, after, by simpa using heq, by simp, hb⟩

/-- A sequence in a stripped text was closed by removing another: the original holds an
opening directly followed by a whole sequence. -/
theorem hasInterrupted_of_hasSeq_stripChars {cs : List Char} (h : HasSeq (stripChars cs)) :
    HasInterrupted cs := by
  induction cs using stripChars.induct with
  | case1 =>
    rw [stripChars_nil] at h
    exact absurd h not_hasSeq_nil
  | case2 r after hafter hlt ih =>
    rw [stripChars_esc_of_afterParams_some hafter] at h
    obtain ⟨b, -, heq⟩ := afterParams_eq_some_iff_isSeq.mp hafter
    exact (ih h).mono (heq ▸ List.suffix_append b after).isInfix
  | case3 r hnone ih =>
    rw [stripChars_esc_of_afterParams_none hnone] at h
    rcases hasSeq_cons h with ⟨b, after, ⟨ps, l, rfl, hps, hl⟩, heq⟩ | htail
    · -- the sequence starts at this escape: its parameters and letter came out of `r`
      have hrest : stripChars r = ps ++ l :: after := by
        rw [stripChars_cons_of_ne (by decide)] at heq
        simpa using heq
      obtain ⟨qs, b, z, rfl, hqs, hb⟩ := params_then_seq hnone hrest hps hl
      refine ⟨esc :: '[' :: qs, b, .inr ⟨qs, rfl, hqs⟩, hb, ?_⟩
      exact ⟨[], z, by simp⟩
    · exact (ih htail).mono (List.suffix_cons _ _).isInfix
  | case4 rest hr ih =>
    rw [stripChars_cons_of_not_bracket _ hr] at h
    rcases hasSeq_cons h with ⟨b, after, ⟨ps, l, rfl, -, -⟩, heq⟩ | htail
    · -- the escape is followed by a sequence that the scan removed
      have hrest := (List.cons.inj heq).2
      cases rest with
      | nil =>
        rw [stripChars_nil] at hrest
        cases hrest
      | cons c rest =>
        rcases stripChars_cons_cases c rest with hkeep | ⟨b, after', hb, heq', -⟩
        · rw [hkeep] at hrest
          obtain ⟨rfl, -⟩ := List.cons.inj hrest
          exact absurd rfl (hr rest)
        · exact ⟨[esc], b, .inl rfl, hb, ⟨[], after', by simp [heq']⟩⟩
    · exact (ih htail).mono (List.suffix_cons _ _).isInfix
  | case5 c rest hc ih =>
    rw [stripChars_cons_of_ne hc] at h
    rcases hasSeq_cons h with ⟨b, after, hb, heq⟩ | htail
    · exact absurd (hb.head heq) hc
    · exact (ih htail).mono (List.suffix_cons _ _).isInfix

theorem toList_strip (s : String) : (strip s).toList = stripChars s.toList := by
  rw [strip, String.toList_ofList]

end LiveTail.Ansi

namespace LiveTail

open Ansi

/-- The reset sequence, escape `[0m`, is a whole sequence. -/
theorem isSeq_reset : IsSeq "\x1b[0m".toList := by
  refine ⟨['0'], 'm', ?_, ?_, ?_⟩
  · decide
  · simp [isParam]
  · rfl

end LiveTail
