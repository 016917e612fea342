import LiveTail.Proofs.Fitting
/-!
# Cutting keeps escapes and the first visible characters

A cut to `w` visible characters (`cutTo`) reads its text once, character by character,
remembering whether it is inside an escape sequence. Said of positions instead: the character
at `i` lies in an escape sequence when an escape stands at some `j ≤ i` and no ASCII letter
stands strictly between `j` and `i` (`Ansi.Escaped`), so a sequence runs from its escape up to
and including the next letter, or to the end of the text. Every other character is visible.

The cut is the subsequence that keeps every character of an escape sequence and the first `w`
visible characters, in order (`keepVisible_eq_pick`). So the cut has `min w v` visible
characters of its own when the text has `v` (`visibleCount_keepVisible`), it is the text
itself when `v ≤ w` (`keepVisible_of_visibleCount_le`), and every run of escaped characters of
the text stands whole in it (`cut_keeps_escapes_and_first_visible`).

Each statement is made from a given state of the scan: a text read after an open sequence
continues it up to its first letter (`Escaped true`).
-/
namespace LiveTail.Ansi

/-- No ASCII letter stands in `cs`. -/
def NoLetter (cs : List Char) : Prop := ∀ c ∈ cs, c.isAlpha = false

instance : DecidablePred NoLetter := fun cs => List.decidableBAll _ cs

/-- The character at `i` of `cs` lies in an escape sequence: an escape stands at some `j ≤ i`
with no letter strictly between them, or, if the text continues a sequence (`inside`), no
letter stands before `i`. -/
def Escaped (inside : Bool) (cs : List Char) (i : Nat) : Prop :=
  inside = true ∧ NoLetter (cs.take i) ∨
    ∃ j ≤ i, cs[j]? = some esc ∧ NoLetter ((cs.take i).drop (j + 1))

instance (inside : Bool) (cs : List Char) (i : Nat) : Decidable (Escaped inside cs i) :=
  inferInstanceAs (Decidable (_ ∨ _))

/-- Whether a sequence is open after `c`: `c` is an escape, or a sequence was open and `c`
is no letter. -/
def opensAfter (inside : Bool) (c : Char) : Bool := c = esc || inside && !c.isAlpha

/-- How many characters before position `i` are visible. -/
def visibleBefore (inside : Bool) (cs : List Char) (i : Nat) : Nat :=
  (List.range i).countP fun k => !decide (Escaped inside cs k)

/-- How many characters of a text are visible. -/
def visibleCount (inside : Bool) (cs : List Char) : Nat := visibleBefore inside cs cs.length

/-- A cut to `w` keeps the character at `i`: it lies in an escape sequence, or fewer than `w`
visible characters come before it. -/
def Kept (inside : Bool) (w : Nat) (cs : List Char) (i : Nat) : Prop :=
  Escaped inside cs i ∨ visibleBefore inside cs i < w

instance (inside : Bool) (w : Nat) (cs : List Char) (i : Nat) : Decidable (Kept inside w cs i) :=
  inferInstanceAs (Decidable (_ ∨ _))

end Ansi

/-- The characters of `cs` at the positions `keep` picks, in order. -/
def pick (keep : Nat → Prop) [DecidablePred keep] (cs : List Char) : List Char :=
  ((List.range cs.length).filter fun i => decide (keep i)).filterMap (cs[·]?)

/-! ## Picking characters by position -/

section Pick

variable (keep : Nat → Prop) [DecidablePred keep]

@[simp] theorem pick_nil : pick keep [] = [] := rfl

theorem pick_cons (c : Char) (cs : List Char) :
    pick keep (c :: cs) =
      if keep 0 then c :: pick (fun i => keep (i + 1)) cs else pick (fun i => keep (i + 1)) cs := by
  simp only [pick, List.length_cons, List.range_succ_eq_map, List.filter_cons, List.filter_map]
  by_cases h : keep 0 <;> simp [h, Function.comp_def]

/-- Picking depends only on which positions are picked. -/
theorem pick_congr {keep' : Nat → Prop} [DecidablePred keep'] (h : ∀ i, keep i ↔ keep' i)
    (cs : List Char) : pick keep cs = pick keep' cs := by
  have : keep = keep' := funext fun i => propext (h i)
  subst this
  congr

/-- Picking from a joined text picks from each part, the second shifted by the first. -/
theorem pick_append (a b : List Char) :
    pick keep (a ++ b) = pick keep a ++ pick (fun i => keep (a.length + i)) b := by
  induction a generalizing keep with
  | nil => simp
  | cons c a ih =>
    rw [List.cons_append, pick_cons, pick_cons, ih]
    have hshift : (fun i => keep ((a.length + i) + 1)) = fun i => keep ((c :: a).length + i) :=
      funext fun i => by simp only [List.length_cons]; congr 1; omega
    split <;> simp [hshift]

/-- Picking every position keeps the text. -/
theorem pick_of_forall {cs : List Char} (h : ∀ i < cs.length, keep i) : pick keep cs = cs := by
  induction cs generalizing keep with
  | nil => rfl
  | cons c cs ih =>
    rw [pick_cons, if_pos (h 0 (by simp)), ih _ fun i hi => h (i + 1) (by simpa using hi)]

/-- A stretch whose positions are all picked stands whole in what is picked. -/
theorem infix_pick {a e b : List Char} (h : ∀ i < e.length, keep (a.length + i)) :
    e <:+: pick keep (a ++ e ++ b) := by
  rw [List.append_assoc, pick_append, pick_append, pick_of_forall _ h]
  exact ⟨_, _, List.append_assoc _ _ _⟩

end Pick

namespace Ansi

/-! ## Escaped characters, one character at a time -/

variable {inside : Bool} {c : Char} {cs : List Char}

theorem escaped_cons_zero : Escaped inside (c :: cs) 0 ↔ inside = true ∨ c = esc := by
  simp [Escaped, NoLetter]

theorem escaped_cons_succ {i : Nat} :
    Escaped inside (c :: cs) (i + 1) ↔ Escaped (opensAfter inside c) cs i := by
  have hesc : esc.isAlpha = false := by decide
  simp only [Escaped, NoLetter, List.take_succ_cons, List.mem_cons, forall_eq_or_imp, opensAfter]
  constructor
  · rintro (⟨hin, hc, hrest⟩ | ⟨j, hj, hget, hnone⟩)
    · exact .inl ⟨by simp [hin, hc], hrest⟩
    · cases j with
      | zero =>
        simp only [List.getElem?_cons_zero, Option.some.injEq] at hget
        exact .inl ⟨by simp [hget], by simpa using hnone⟩
      | succ j =>
        exact .inr ⟨j, by omega, by simpa using hget, by simpa using hnone⟩
  · rintro (⟨hopen, hrest⟩ | ⟨j, hj, hget, hnone⟩)
    · by_cases hc : c = esc
      · exact .inr ⟨0, by omega, by simp [hc], by simpa using hrest⟩
      · simp only [hc, decide_false, Bool.false_or, Bool.and_eq_true, Bool.not_eq_true'] at hopen
        exact .inl ⟨hopen.1, hopen.2, hrest⟩
    · exact .inr ⟨j + 1, by omega, by simpa using hget, by simpa using hnone⟩

/-- The first character is visible exactly when no sequence is open and it is no escape. -/
theorem not_escaped_cons_zero :
    ¬ Escaped inside (c :: cs) 0 ↔ inside = false ∧ c ≠ esc := by
  rw [escaped_cons_zero]
  cases inside <;> simp

theorem visibleBefore_cons_succ {i : Nat} :
    visibleBefore inside (c :: cs) (i + 1) =
      (if inside = false ∧ c ≠ esc then 1 else 0) + visibleBefore (opensAfter inside c) cs i := by
  have hfirst : (if (!decide (Escaped inside (c :: cs) 0)) = true then 1 else 0) =
      if inside = false ∧ c ≠ esc then 1 else 0 := by
    simp [not_escaped_cons_zero]
  have hrest : (List.range i).countP (fun k => !decide (Escaped inside (c :: cs) (k + 1))) =
      visibleBefore (opensAfter inside c) cs i :=
    List.countP_congr fun k _ => by simp [escaped_cons_succ]
  simp only [visibleBefore, List.range_succ_eq_map, List.countP_cons, List.countP_map,
    Function.comp_def] at hrest ⊢
  rw [hrest, hfirst]
  exact Nat.add_comm _ _

theorem visibleBefore_cons_zero : visibleBefore inside (c :: cs) 0 = 0 := rfl

theorem visibleCount_cons :
    visibleCount inside (c :: cs) =
      (if inside = false ∧ c ≠ esc then 1 else 0) + visibleCount (opensAfter inside c) cs :=
  visibleBefore_cons_succ

@[simp] theorem opensAfter_esc : opensAfter inside esc = true := by simp [opensAfter]

@[simp] theorem opensAfter_true (hc : c ≠ esc) : opensAfter true c = !c.isAlpha := by
  simp [opensAfter, hc]

@[simp] theorem opensAfter_false (hc : c ≠ esc) : opensAfter false c = false := by
  simp [opensAfter, hc]

theorem visibleCount_esc : visibleCount inside (esc :: cs) = visibleCount true cs := by
  simp [visibleCount_cons]

theorem visibleCount_inside (hc : c ≠ esc) :
    visibleCount true (c :: cs) = visibleCount (!c.isAlpha) cs := by
  simp [visibleCount_cons, hc]

theorem visibleCount_visible (hc : c ≠ esc) :
    visibleCount false (c :: cs) = visibleCount false cs + 1 := by
  simp [visibleCount_cons, hc, Nat.add_comm]

/-- What a cut keeps past the first character is what a cut of the rest keeps, from the state
of the scan after the first character and with the budget it has left. -/
theorem kept_cons_succ {w i : Nat} :
    Kept inside w (c :: cs) (i + 1) ↔
      Kept (opensAfter inside c) (if inside = false ∧ c ≠ esc then w - 1 else w) cs i := by
  simp only [Kept, escaped_cons_succ, visibleBefore_cons_succ]
  split
  · exact or_congr_right (by omega)
  · exact or_congr_right (by omega)

theorem kept_cons_zero {w : Nat} : Kept inside w (c :: cs) 0 ↔ inside = true ∨ c = esc ∨ 0 < w := by
  simp [Kept, escaped_cons_zero, visibleBefore_cons_zero, or_assoc]

end Ansi

open Ansi

/-! ## The cut, as positions -/

/-- A cut keeps exactly the characters of escape sequences and the first `w` visible ones. -/
theorem keepVisible_eq_pick (w : Nat) (inside : Bool) (cs : List Char) :
    keepVisible w inside cs = pick (Kept inside w cs) cs := by
  induction cs generalizing w inside with
  | nil => rfl
  | cons c cs ih =>
    -- the rest is cut from the scan's state after `c`, with the budget `c` leaves
    rw [pick_cons, pick_congr _ (fun i => kept_cons_succ) cs, ← ih]
    by_cases hc : c = esc
    · subst hc
      rw [keepVisible_esc, if_pos (kept_cons_zero.mpr (.inr (.inl rfl)))]
      simp
    · cases inside with
      | true =>
        rw [keepVisible_inEscape _ _ hc, if_pos (kept_cons_zero.mpr (.inl rfl))]
        simp [hc]
      | false =>
        cases w with
        | zero =>
          rw [keepVisible_zero _ hc, if_neg (by simp [kept_cons_zero, hc])]
          simp [hc]
        | succ w =>
          rw [keepVisible_succ _ _ hc, if_pos (kept_cons_zero.mpr (.inr (.inr (Nat.succ_pos w))))]
          simp [hc]

/-- A cut to `w` has `min w v` visible characters of its own, when the text has `v`. -/
theorem visibleCount_keepVisible (w : Nat) (inside : Bool) (cs : List Char) :
    visibleCount inside (keepVisible w inside cs) = min w (visibleCount inside cs) := by
  induction cs generalizing w inside with
  | nil => simp [keepVisible, visibleCount, visibleBefore]
  | cons c cs ih =>
    by_cases hc : c = esc
    · subst hc
      rw [keepVisible_esc, visibleCount_esc, visibleCount_esc, ih]
    · cases inside with
      | true =>
        rw [keepVisible_inEscape _ _ hc, visibleCount_inside hc, visibleCount_inside hc, ih]
      | false =>
        cases w with
        | zero => rw [keepVisible_zero _ hc, ih, Nat.zero_min, Nat.zero_min]
        | succ w =>
          rw [keepVisible_succ _ _ hc, visibleCount_visible hc, visibleCount_visible hc, ih,
            Nat.succ_min_succ]

/-- A text with no more visible characters than the budget is kept whole. -/
theorem keepVisible_of_visibleCount_le {w : Nat} {inside : Bool} {cs : List Char}
    (h : visibleCount inside cs ≤ w) : keepVisible w inside cs = cs := by
  induction cs generalizing w inside with
  | nil => rfl
  | cons c cs ih =>
    by_cases hc : c = esc
    · subst hc
      rw [visibleCount_esc] at h
      rw [keepVisible_esc, ih h]
    · cases inside with
      | true =>
        rw [visibleCount_inside hc] at h
        rw [keepVisible_inEscape _ _ hc, ih h]
      | false =>
        rw [visibleCount_visible hc] at h
        obtain ⟨w, rfl⟩ : ∃ w', w = w' + 1 := ⟨w - 1, by omega⟩
        rw [keepVisible_succ _ _ hc, ih (by omega)]

example : cutTo "\x1b[31mabcdef\x1b[0m" 2 = "\x1b[31mab\x1b[0m" := by decide

/-- A cut to `w` keeps the escape sequences of its text and its first `w` visible characters:
it is the subsequence of the text made of the characters of escape sequences and the first `w`
visible characters, in order; it has `min w v` visible characters of its own when the text has
`v`; it is the text itself when `v ≤ w`; and every stretch of the text whose characters all lie
in escape sequences stands whole in it. -/
theorem cut_keeps_escapes_and_first_visible (s : String) (w : Nat) :
    (cutTo s w).toList = pick (Kept false w s.toList) s.toList ∧
      visibleCount false (cutTo s w).toList = min w (visibleCount false s.toList) ∧
      (visibleCount false s.toList ≤ w → cutTo s w = s) ∧
      ∀ a e b, s.toList = a ++ e ++ b →
        (∀ i < e.length, Escaped false s.toList (a.length + i)) → e <:+: (cutTo s w).toList := by
  have hcut : (cutTo s w).toList = keepVisible w false s.toList := String.toList_ofList
  refine ⟨hcut.trans (keepVisible_eq_pick ..), ?_, fun hle => ?_, fun a e b hs he => ?_⟩
  · rw [hcut, visibleCount_keepVisible]
  · rw [cutTo, keepVisible_of_visibleCount_le hle, String.ofList_toList]
  · have hinfix := infix_pick (Kept false w s.toList) (b := b) fun i hi => .inl (he i hi)
    rw [← hs] at hinfix
    rwa [hcut, keepVisible_eq_pick]

/-- A red word with its reset: cut to its own length it stays whole, and cut to one letter
it still ends in the reset. -/
theorem cut_keeps_a_coloured_word :
    visibleCount false "\x1b[31mab\x1b[0m".toList ≤ 2 ∧
      cutTo "\x1b[31mab\x1b[0m" 2 = "\x1b[31mab\x1b[0m" ∧
      "\x1b[0m".toList <:+: (cutTo "\x1b[31mab\x1b[0m" 1).toList := by
  have hv : visibleCount false "\x1b[31mab\x1b[0m".toList ≤ 2 := by decide
  have hs : "\x1b[31mab\x1b[0m".toList = "\x1b[31mab".toList ++ "\x1b[0m".toList ++ [] := by
    decide
  have he : ∀ i < "\x1b[0m".toList.length,
      Escaped false "\x1b[31mab\x1b[0m".toList ("\x1b[31mab".toList.length + i) := by
    decide
  exact ⟨hv, (cut_keeps_escapes_and_first_visible _ 2).2.2.1 hv,
    (cut_keeps_escapes_and_first_visible _ 1).2.2.2 _ _ _ hs he⟩

end LiveTail
