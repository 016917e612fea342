import LiveTail.Proofs.Cleaning
import LiveTail.Proofs.Stripping
/-!
# Cut rows fit the terminal

A styled row wider than the terminal is cut to one character fewer than the terminal's
columns, counted as characters and not as columns, with its colour sequences kept, and ends
in an ellipsis. That fits the terminal when every character the row shows takes one column.

Such texts are made of colour sequences, which take no column, and characters that take one
(`Narrow`). The meter of a terminal line adds nothing for a colour sequence and at most one
column for such a character (`Narrow.foldl_step`), so a narrow text is no wider than its
count of visible characters; cutting keeps the colour sequences and at most as many visible
characters as asked (`Narrow.keepVisible`). A row whose identifier and text are made of
characters of one column (printable ASCII, for one) is narrow: its label is taken from the
identifier, its stamp is digits and punctuation, its bar a box-drawing line, and its colours
digits and semicolons (`narrow_row`). So it fits once cut (`Narrow.width_fit_le`).

Characters of two columns break this: the cut keeps as many of them as it would keep
characters of one column, and each still takes two.
-/
namespace LiveTail

/-! ## One line -/

/-- Cutting at newlines is cutting the characters at every newline. -/
theorem splitOn_newline (s : String) : s.splitOn "\n" = (s.toList.splitOn '\n').map String.ofList := by
  rw [String.splitOn, if_neg (by decide),
    Path.splitOnAux_char s "\n" '\n' (by decide) (by decide) (by decide) rfl]
  exact String.splitToList_of_valid s _

theorem splitOn_newline_of_not_mem {s : String} (h : '\n' ∉ s.toList) : s.splitOn "\n" = [s] := by
  rw [splitOn_newline, List.splitOn_eq_singleton h, List.map_singleton, String.ofList_toList]

/-- A text with no newline is as wide as its one line. -/
theorem width_of_not_mem {s : String} (h : '\n' ∉ s.toList) : Cells.width s = Cells.lineWidth s := by
  rw [Cells.width, splitOn_newline_of_not_mem h]
  simp

namespace Ansi

/-- Parameters are the digits and the semicolon, `0x30` to `0x3B`. -/
theorem toNat_of_isParam {p : Char} (h : isParam p = true) : 0x30 ≤ p.toNat ∧ p.toNat ≤ 0x3B := by
  have hparam : isParam p = (decide (p.val ≥ '0'.val) && decide (p.val ≤ '9'.val) ||
      decide (p = ';')) := rfl
  have hbounds : '0'.val.toNat = 0x30 ∧ '9'.val.toNat = 0x39 ∧ ';'.val.toNat = 0x3B := ⟨rfl, rfl, rfl⟩
  rw [hparam] at h
  simp only [Char.ext_iff, UInt32.le_iff_toNat_le, UInt32.ext_iff, Bool.or_eq_true,
    Bool.and_eq_true, decide_eq_true_eq, ge_iff_le] at h
  simp only [Char.toNat]
  omega

/-- The letters that end a sequence lie between `A` and `z`. -/
theorem toNat_of_isAlpha {l : Char} (h : l.isAlpha = true) : 0x41 ≤ l.toNat ∧ l.toNat ≤ 0x7A := by
  have halpha : l.isAlpha = (decide (l.val ≥ 'A'.val ∧ l.val ≤ 'Z'.val) ||
      (decide (l.val ≥ 'a'.val) && decide (l.val ≤ 'z'.val))) := rfl
  have hbounds : 'A'.val.toNat = 0x41 ∧ 'Z'.val.toNat = 0x5A ∧ 'a'.val.toNat = 0x61 ∧
      'z'.val.toNat = 0x7A := ⟨rfl, rfl, rfl, rfl⟩
  rw [halpha] at h
  simp only [UInt32.le_iff_toNat_le, Bool.or_eq_true, Bool.and_eq_true, decide_eq_true_eq,
    ge_iff_le] at h
  simp only [Char.toNat]
  omega

end Ansi

namespace Cells

/-- Whether a character takes one column on its own: printable ASCII, or beyond ASCII a
character that breaks no cluster rule and is not wide. -/
def oneColumn (c : Char) : Bool :=
  (0x20 ≤ c.toNat && c.toNat ≤ 0x7E) ||
    (0x80 ≤ c.toNat && Grapheme.Break.ofChar c == .other && ofChar c .other == 1)

/-- A character that joins a cluster adds at most its own column, unless it is the selector
that asks for a picture. -/
theorem Cluster.extend_columns_le (k : Cluster) {c : Char} (hc : c ≠ pictureSelector)
    {b : Grapheme.Break} (hb : ofChar c b ≤ 1) (s : Grapheme.State) :
    (k.extend c b s).columns ≤ k.columns + 1 := by
  unfold Cluster.extend
  dsimp only
  split_ifs <;> omega

namespace Meter

theorem total_eq (m : Meter) : m.total = m.closed + (m.cluster.map (·.columns)).getD 0 := rfl

@[simp] theorem close_seq (m : Meter) : m.close.seq = m.seq := rfl
@[simp] theorem close_cluster (m : Meter) : m.close.cluster = none := rfl

theorem close_closed (m : Meter) : m.close.closed = m.total := rfl

/-- A character of one column read in plain text leaves plain text and adds at most one
column. -/
theorem step_oneColumn {m : Meter} (hm : m.seq = .ground) {c : Char} (hc : oneColumn c = true) :
    (m.step c).seq = .ground ∧ (m.step c).total ≤ m.total + 1 := by
  simp only [oneColumn, Bool.or_eq_true, Bool.and_eq_true, decide_eq_true_eq, beq_iff_eq] at hc
  rcases hc with ⟨hlo, hhi⟩ | ⟨⟨hwide, hbreak⟩, hone⟩
  · -- printable ASCII: the open cluster closes and the character takes a column
    have h18 : (c.toNat == 0x18 || c.toNat == 0x1A) = false := by simp; omega
    have h1b : (c.toNat == 0x1B) = false := by simp; omega
    have hprint : (0x20 ≤ c.toNat && c.toNat ≤ 0x7E) = true := by simp; omega
    simp only [step, show c.toNat < 0x80 by omega, ↓reduceIte, asciiStep, h18, h1b,
      Bool.false_eq_true, close_seq, hm, hprint]
    exact ⟨by simp, by simp [total_eq, close_closed]⟩
  · -- beyond ASCII: it starts a cluster of one column, or joins the open one
    have hsel : c ≠ pictureSelector := by
      rintro rfl
      revert hbreak
      decide +kernel
    simp only [step, show ¬ c.toNat < 0x80 by omega, ↓reduceIte, wideStep, hm, hbreak]
    simp only [Seq.holdsOctets, Bool.false_eq_true, ↓reduceIte]
    cases hk : m.cluster with
    | none =>
      simp only [total_eq, hk]
      exact ⟨by simp, by simp [Cluster.start, hone]⟩
    | some k =>
      dsimp only
      split
      · simp only [total_eq, hk]
        exact ⟨by simp, by simp [close, Cluster.start, hone]⟩
      · have := k.extend_columns_le hsel (show ofChar c .other ≤ 1 by omega)
          (Grapheme.step k.state .other).1
        simp only [total_eq, hk]
        exact ⟨by simp, by simp only [Option.map_some, Option.getD_some]; omega⟩

theorem close_of_none {m : Meter} (h : m.cluster = none) : m.close = m := by
  cases m
  simp_all [close]

/-- Escape read in plain text closes the open cluster and starts a sequence. -/
theorem step_esc {m : Meter} (hm : m.seq = .ground) :
    m.step Ansi.esc = { m.close with seq := .escape } := by
  simp only [step, show Ansi.esc.toNat < 0x80 by decide, ↓reduceIte, asciiStep,
    show (Ansi.esc.toNat == 0x18 || Ansi.esc.toNat == 0x1A) = false by decide,
    show (Ansi.esc.toNat == 0x1B) = true by decide, close_seq, hm]
  rfl

/-- Inside a sequence, with no cluster open, a printable ASCII character only moves the
sequence on. -/
theorem step_control {m : Meter} (hcl : m.cluster = none) (hs : m.seq ≠ .ground) {c : Char}
    (hlo : 0x20 ≤ c.toNat) (hhi : c.toNat < 0x7F) :
    m.step c = { m with seq := m.seq.ascii c c.toNat false } := by
  have h18 : (c.toNat == 0x18 || c.toNat == 0x1A) = false := by simp; omega
  have h1b : (c.toNat == 0x1B) = false := by simp; omega
  simp only [step, show c.toNat < 0x80 by omega, ↓reduceIte, asciiStep, h18, h1b,
    Bool.false_eq_true, close_of_none hcl, hs, show decide (c.toNat < 0x20) = false by simp; omega]

theorem ascii_param {s : Seq} (hs : s = .controlEntry ∨ s = .controlParam) (c : Char) {n : Nat}
    (hlo : 0x30 ≤ n) (hhi : n < 0x40) : s.ascii c n false = .controlParam := by
  have h7f : (n == 0x7F) = false := by simp; omega
  rcases hs with rfl | rfl <;>
    simp only [Seq.ascii, Bool.false_or, h7f, Bool.false_eq_true, ↓reduceIte,
      show ¬ n < 0x30 by omega, show n < 0x40 by omega]

theorem ascii_final {s : Seq} (hs : s = .controlEntry ∨ s = .controlParam) (c : Char) {n : Nat}
    (hlo : 0x40 ≤ n) (hhi : n < 0x7F) : s.ascii c n false = .ground := by
  have h7f : (n == 0x7F) = false := by simp; omega
  rcases hs with rfl | rfl <;>
    simp only [Seq.ascii, Bool.false_or, h7f, Bool.false_eq_true, ↓reduceIte,
      show ¬ n < 0x30 by omega, show ¬ n < 0x40 by omega]

/-- Parameters keep a control sequence open and add no column. -/
theorem foldl_params {ps : List Char} (hps : ∀ p ∈ ps, Ansi.isParam p = true) :
    ∀ {m : Meter}, m.cluster = none → (m.seq = .controlEntry ∨ m.seq = .controlParam) →
      ∃ s, ps.foldl step m = { m with seq := s } ∧ (s = .controlEntry ∨ s = .controlParam) := by
  induction ps with
  | nil =>
    intro m _ hs
    exact ⟨m.seq, rfl, hs⟩
  | cons p ps ih =>
    intro m hcl hs
    have hp := Ansi.toNat_of_isParam (hps p (List.mem_cons_self ..))
    have hne : m.seq ≠ .ground := by rcases hs with h | h <;> rw [h] <;> decide
    rw [List.foldl_cons, step_control hcl hne (by omega) (by omega),
      ascii_param hs p (by omega) (by omega)]
    obtain ⟨s, hfold, hs'⟩ := @ih (fun q hq => hps q (List.mem_cons_of_mem p hq))
      { m with seq := .controlParam } hcl (Or.inr rfl)
    exact ⟨s, hfold, hs'⟩

/-- A colour sequence read in plain text closes the open cluster and leaves plain text again,
adding no column. -/
theorem foldl_isSeq {b : List Char} (hb : Ansi.IsSeq b) {m : Meter} (hm : m.seq = .ground) :
    b.foldl step m = { m.close with seq := .ground } := by
  obtain ⟨ps, l, rfl, hps, hl⟩ := hb
  have hletter := Ansi.toNat_of_isAlpha hl
  -- escape and the bracket open a control sequence
  have hopen : ('[' :: (ps ++ [l])).foldl step (m.step Ansi.esc) =
      (ps ++ [l]).foldl step { m.close with seq := .controlEntry } := by
    rw [step_esc hm, List.foldl_cons, step_control rfl (by simp) (by decide) (by decide)]
    rfl
  -- the parameters keep it open, and the letter ends it
  obtain ⟨s, hfold, hs⟩ := @foldl_params ps hps { m.close with seq := .controlEntry } rfl (Or.inl rfl)
  rw [List.foldl_cons, hopen, List.foldl_append, hfold, List.foldl_cons, List.foldl_nil,
    step_control rfl (by rcases hs with rfl | rfl <;> simp) (by omega) (by omega),
    ascii_final hs l (by omega) (by omega)]

end Meter

/-! ## Narrow texts -/

/-- A text made of colour sequences and characters of one column, `n` of them. -/
inductive Narrow : List Char → Nat → Prop where
  | nil : Narrow [] 0
  | seq {b rest : List Char} {n : Nat} : Ansi.IsSeq b → Narrow rest n → Narrow (b ++ rest) n
  | char {c : Char} {rest : List Char} {n : Nat} : oneColumn c = true → Narrow rest n →
      Narrow (c :: rest) (n + 1)

namespace Narrow

variable {l : List Char} {n : Nat}

/-- Read from plain text, a narrow text ends in plain text, at most one column further for
each of its characters. -/
theorem foldl_step (h : Narrow l n) :
    ∀ {m : Meter}, m.seq = .ground →
      (l.foldl Meter.step m).seq = .ground ∧ (l.foldl Meter.step m).total ≤ m.total + n := by
  induction h with
  | nil =>
    intro m hm
    exact ⟨hm, by simp⟩
  | seq hb _ ih =>
    -- the sequence closes the open cluster, which keeps the total
    intro m hm
    rw [List.foldl_append, Meter.foldl_isSeq hb hm]
    exact @ih { m.close with seq := .ground } rfl
  | char hc _ ih =>
    intro m hm
    obtain ⟨hs, ht⟩ := Meter.step_oneColumn hm hc
    obtain ⟨hs', ht'⟩ := @ih (m.step _) hs
    rw [List.foldl_cons]
    exact ⟨hs', by omega⟩

theorem lineWidth_le {s : String} (h : Narrow s.toList n) : lineWidth s ≤ n := by
  have hrun := (@foldl_step _ _ h {} rfl).2
  have hstart : ({} : Meter).total = 0 := rfl
  rw [hstart, Nat.zero_add] at hrun
  rw [lineWidth, String.foldl_eq_foldl_toList]
  exact hrun

/-- A narrow text holds no control character but escape. -/
theorem not_mem_of_control (h : Narrow l n) {ch : Char} (hctl : ch.toNat < 0x20)
    (hesc : ch ≠ Ansi.esc) : ch ∉ l := by
  induction h with
  | nil => simp
  | seq hb _ ih =>
    obtain ⟨ps, l, rfl, hps, hl⟩ := hb
    have hletter := Ansi.toNat_of_isAlpha hl
    intro hmem
    simp only [List.cons_append, List.append_assoc, List.mem_cons, List.mem_append,
      List.not_mem_nil, false_or] at hmem
    rcases hmem with h | h | h | h | h
    · exact hesc h
    · rw [h] at hctl
      exact absurd hctl (by decide)
    · have := Ansi.toNat_of_isParam (hps _ h)
      omega
    · rw [← h] at hletter
      omega
    · exact ih h
  | char hc _ ih =>
    intro hmem
    rcases List.mem_cons.mp hmem with h | h
    · rw [h] at hctl
      simp only [oneColumn, Bool.or_eq_true, Bool.and_eq_true, decide_eq_true_eq] at hc
      omega
    · exact ih h

theorem newline_not_mem (h : Narrow l n) : '\n' ∉ l :=
  h.not_mem_of_control (by decide) (by decide)

/-- A narrow text is no wider than its count of characters. -/
theorem width_le {s : String} (h : Narrow s.toList n) : width s ≤ n := by
  rw [width_of_not_mem h.newline_not_mem]
  exact h.lineWidth_le

theorem append {l' : List Char} {n' : Nat} (h : Narrow l n) (h' : Narrow l' n') :
    Narrow (l ++ l') (n + n') := by
  induction h with
  | nil => simpa using h'
  | seq hb _ ih =>
    rw [List.append_assoc]
    exact .seq hb ih
  | char hc _ ih =>
    rw [List.cons_append, Nat.add_right_comm]
    exact .char hc ih

end Narrow
end Cells

/-! ## Cutting -/

section Cutting

variable (k : Nat) (rest : List Char)

theorem keepVisible_esc (inEscape : Bool) :
    keepVisible k inEscape (Ansi.esc :: rest) = Ansi.esc :: keepVisible k true rest := by
  cases k <;> simp [keepVisible]

theorem keepVisible_inEscape {c : Char} (hc : c ≠ Ansi.esc) :
    keepVisible k true (c :: rest) = c :: keepVisible k (!c.isAlpha) rest := by
  cases k <;> simp [keepVisible, hc]

theorem keepVisible_zero {c : Char} (hc : c ≠ Ansi.esc) :
    keepVisible 0 false (c :: rest) = keepVisible 0 false rest := by
  simp [keepVisible, hc]

theorem keepVisible_succ {c : Char} (hc : c ≠ Ansi.esc) :
    keepVisible (k + 1) false (c :: rest) = c :: keepVisible k false rest := by
  simp [keepVisible, hc]

/-- Inside a sequence, parameters are kept and the sequence stays open. -/
theorem keepVisible_params {ps : List Char} (hps : ∀ p ∈ ps, Ansi.isParam p = true) :
    keepVisible k true (ps ++ rest) = ps ++ keepVisible k true rest := by
  induction ps with
  | nil => rfl
  | cons p ps ih =>
    have hp := hps p (List.mem_cons_self ..)
    have hesc : p ≠ Ansi.esc := by
      rintro rfl
      revert hp
      decide
    have halpha : p.isAlpha = false := by
      cases h : p.isAlpha
      · rfl
      · rw [Ansi.not_isParam_of_isAlpha h] at hp
        exact absurd hp (by decide)
    rw [List.cons_append, keepVisible_inEscape k _ hesc, halpha, Bool.not_false,
      ih (fun q hq => hps q (List.mem_cons_of_mem p hq)), List.cons_append]

/-- A cut keeps a colour sequence whole and spends nothing on it. -/
theorem keepVisible_isSeq {b : List Char} (hb : Ansi.IsSeq b) :
    keepVisible k false (b ++ rest) = b ++ keepVisible k false rest := by
  obtain ⟨ps, l, rfl, hps, hl⟩ := hb
  have hesc : l ≠ Ansi.esc := by
    rintro rfl
    revert hl
    decide
  rw [List.cons_append, List.cons_append, keepVisible_esc, keepVisible_inEscape k _ (by decide),
    show (!Char.isAlpha '[') = true by decide, List.append_assoc, List.singleton_append,
    keepVisible_params k _ hps, keepVisible_inEscape k _ hesc, hl, Bool.not_true]
  simp

end Cutting

namespace Cells.Narrow

variable {l : List Char} {n : Nat}

/-- A cut of a narrow text to `k` characters is narrow, with at most `k` characters. -/
theorem keepVisible (h : Narrow l n) (k : Nat) : Narrow (LiveTail.keepVisible k false l) (min k n) := by
  induction h generalizing k with
  | nil => simpa [LiveTail.keepVisible] using Narrow.nil
  | seq hb _ ih =>
    rw [keepVisible_isSeq k _ hb]
    exact .seq hb (ih k)
  | @char c rest n hc _ ih =>
    have hesc : c ≠ Ansi.esc := by
      rintro rfl
      revert hc
      decide
    cases k with
    | zero =>
      rw [keepVisible_zero _ hesc]
      simpa using ih 0
    | succ k =>
      rw [keepVisible_succ k _ hesc, Nat.succ_min_succ]
      exact .char hc (ih k)

/-- A narrow text cut to `k` characters and ended with an ellipsis takes at most `k + 1`
columns. -/
theorem width_cutTo_le {s : String} (h : Narrow s.toList n) (k : Nat) :
    width (cutTo s k ++ "…") ≤ k + 1 := by
  have hellipsis : Narrow "…".toList 1 := .char (by decide +kernel) .nil
  have hcut := (h.keepVisible k).append hellipsis
  rw [← @String.toList_ofList (LiveTail.keepVisible k false s.toList), ← String.toList_append]
    at hcut
  exact le_trans hcut.width_le (by omega)

/-- With truncation on, a narrow row fits the terminal: cut or not, it takes at most the
terminal's columns. -/
theorem width_fit_le (c : RowConfig) (htrunc : c.truncate = true) {row : String}
    (h : Narrow row.toList n) : width (c.fit row) ≤ c.columns := by
  have hcols : 1 ≤ c.columns := by
    unfold RowConfig.columns
    split <;> omega
  unfold RowConfig.fit
  split
  · -- cut to one character fewer than the columns, then the ellipsis
    have := h.width_cutTo_le (c.columns - 1)
    omega
  · rename_i hfits
    simp only [htrunc, Bool.true_and, decide_eq_true_eq, not_lt] at hfits
    exact hfits

/-- Characters of one column make a narrow text. -/
theorem of_all {l : List Char} (h : l.all oneColumn = true) : Narrow l l.length := by
  induction l with
  | nil => exact .nil
  | cons c rest ih =>
    simp only [List.all_cons, Bool.and_eq_true] at h
    exact .char h.1 (ih h.2)

/-- Narrow texts joined by a narrow separator make a narrow text. -/
theorem intercalate {sep : List Char} {k : Nat} (hsep : Narrow sep k) :
    ∀ {ls : List (List Char)}, (∀ l ∈ ls, ∃ n, Narrow l n) → ∃ n, Narrow (sep.intercalate ls) n
  | [], _ => ⟨0, .nil⟩
  | [l], h => by
    rw [List.intercalate_singleton]
    exact h l (List.mem_singleton_self l)
  | l :: l' :: ls, h => by
    obtain ⟨n, hl⟩ := h l (List.mem_cons_self ..)
    obtain ⟨n', hrest⟩ := intercalate hsep (fun x hx => h x (List.mem_cons_of_mem l hx))
    rw [List.intercalate_cons_cons]
    exact ⟨_, (hl.append hsep).append hrest⟩

end Cells.Narrow

/-! ## Rendering in a style -/

namespace Style

theorem expandTabs_of_not_mem {t : String} (h : '\t' ∉ t.toList) : expandTabs t = t := by
  have hchars : ∀ l : List Char, '\t' ∉ l →
      l.flatMap (fun c => if c = '\t' then [' ', ' ', ' ', ' '] else [c]) = l := by
    intro l
    induction l with
    | nil => intro _; rfl
    | cons c rest ih =>
      intro hl
      have hc : c ≠ '\t' := fun hc => hl (hc ▸ List.mem_cons_self ..)
      rw [List.flatMap_cons, if_neg hc, ih (fun hr => hl (List.mem_cons_of_mem c hr))]
      rfl
  rw [expandTabs, hchars t.toList h, String.ofList_toList]

theorem joinCrlf_of_not_mem {l : List Char} (h : '\r' ∉ l) : joinCrlf l = l := by
  fun_induction joinCrlf l with
  | case1 rest ih => exact absurd (List.mem_cons_self ..) h
  | case2 c rest hnot ih => rw [ih (fun hr => h (List.mem_cons_of_mem c hr))]
  | case3 => rfl

/-- A text of one line with no tab and no carriage return is rendered as it is, wrapped in the
style's sequence and padded with blanks on each side. -/
theorem render_of_one_line (s : Style) {t : String} (htab : '\t' ∉ t.toList)
    (hcr : '\r' ∉ t.toList) (hnl : '\n' ∉ t.toList) :
    s.render t = if s = {} then t
      else if s.padding > 0 then s.blanks s.padding ++ wrapIn s.params t ++ s.blanks s.padding
      else wrapIn s.params t := by
  unfold render
  rw [expandTabs_of_not_mem htab, joinCrlf_of_not_mem hcr, String.ofList_toList]
  dsimp only
  split
  · rfl
  · rw [splitOn_newline_of_not_mem hnl, List.map_singleton]
    split <;> simp

/-- Texts whose characters all pass a test, joined by a separator that passes it, pass it. -/
theorem all_intercalate {f : Char → Bool} {sep : String} (hsep : sep.toList.all f = true) :
    ∀ {ps : List String}, (∀ p ∈ ps, p.toList.all f = true) →
      (sep.intercalate ps).toList.all f = true
  | [], _ => rfl
  | [p], h => by
    rw [String.intercalate_singleton]
    exact h p (List.mem_singleton_self p)
  | p :: q :: ps, h => by
    rw [String.intercalate_cons_cons, String.toList_append, String.toList_append, List.all_append,
      List.all_append, h p (List.mem_cons_self ..), hsep,
      all_intercalate hsep (fun x hx => h x (List.mem_cons_of_mem p hx))]
    rfl

/-- Wrapped in a sequence of parameters, a narrow text stays narrow, with the same
characters. -/
theorem narrow_wrapIn {ps : List String} (hps : ∀ p ∈ ps, p.toList.all Ansi.isParam = true)
    {t : String} {n : Nat} (ht : Cells.Narrow t.toList n) : Cells.Narrow (wrapIn ps t).toList n := by
  unfold wrapIn
  split
  · exact ht
  · have hparams := List.all_eq_true.mp (@all_intercalate Ansi.isParam ";" (by decide) ps hps)
    have hopen : Ansi.IsSeq (Ansi.esc :: '[' :: ((";".intercalate ps).toList ++ ['m'])) :=
      ⟨_, 'm', rfl, hparams, rfl⟩
    have hchars : ("\x1b[" ++ ";".intercalate ps ++ "m" ++ t ++ "\x1b[0m").toList =
        Ansi.esc :: '[' :: ((";".intercalate ps).toList ++ ['m']) ++
          (t.toList ++ ("\x1b[0m".toList ++ [])) := by
      have hesc : "\x1b[".toList = [Ansi.esc, '['] := by decide
      have hm : "m".toList = ['m'] := by decide
      simp [hesc, hm]
    rw [hchars]
    exact .seq hopen (ht.append (.seq isSeq_reset .nil))

/-- The digits of a number are parameters. -/
theorem all_isParam_toString (n : Nat) : (toString n).toList.all Ansi.isParam = true := by
  rw [List.all_eq_true, Nat.toString_eq_repr, Nat.toList_repr]
  intro ch hch
  simp [Ansi.isParam, Nat.isDigit_of_mem_toDigits (by decide) (by decide) hch]

theorem Colour.all_isParam_params (c : Colour) (g : Nat) :
    (c.params g).toList.all Ansi.isParam = true := by
  cases c with
  | palette n =>
    simp only [Colour.params]
    split_ifs
    · exact all_isParam_toString _
    · exact all_isParam_toString _
    · simp only [String.toList_append, List.all_append, all_isParam_toString, Bool.and_true,
        Bool.true_and]
      decide
  | rgb r g b =>
    simp only [Colour.params, String.toList_append, List.all_append, all_isParam_toString, Bool.and_true,
      Bool.true_and]
    decide

/-- A style's parameters are digits and semicolons. -/
theorem all_isParam_params (s : Style) : ∀ p ∈ s.params, p.toList.all Ansi.isParam = true := by
  intro p hp
  simp only [params, List.mem_append, Option.mem_toList, Option.map_eq_some_iff] at hp
  rcases hp with (hbold | ⟨c, -, rfl⟩) | ⟨c, -, rfl⟩
  · split at hbold
    · rw [List.mem_singleton.mp hbold]
      decide
    · exact absurd hbold List.not_mem_nil
  · exact Colour.all_isParam_params c 3
  · exact Colour.all_isParam_params c 4

/-- Blanks in a background take one column each. -/
theorem narrow_blanks (s : Style) (n : Nat) : Cells.Narrow (s.blanks n).toList n := by
  have hspaces : Cells.Narrow (String.ofList (List.replicate n ' ')).toList n := by
    have hall : (List.replicate n ' ').all Cells.oneColumn = true := by
      have hspace : Cells.oneColumn ' ' = true := by decide
      simp [List.all_replicate, hspace]
    simpa using Cells.Narrow.of_all hall
  unfold blanks
  apply narrow_wrapIn _ hspaces
  intro p hp
  simp only [Option.mem_toList, Option.map_eq_some_iff] at hp
  obtain ⟨c, -, rfl⟩ := hp
  exact Colour.all_isParam_params c 4

/-- Rendered in any style, a narrow text stays narrow. -/
theorem narrow_render (s : Style) {t : String} {n : Nat} (ht : Cells.Narrow t.toList n) :
    ∃ n', Cells.Narrow (s.render t).toList n' := by
  rw [render_of_one_line s (ht.not_mem_of_control (by decide) (by decide))
    (ht.not_mem_of_control (by decide) (by decide)) ht.newline_not_mem]
  have hwrapped := narrow_wrapIn s.all_isParam_params ht
  split
  · exact ⟨n, ht⟩
  · split
    · rw [String.toList_append, String.toList_append]
      exact ⟨_, ((narrow_blanks s s.padding).append hwrapped).append (narrow_blanks s s.padding)⟩
    · exact ⟨n, hwrapped⟩

end Style

/-! ## Rows -/

/-- The text an event carries: its line, or the message of its end. -/
def Event.text : Event → String
  | .line _ text => text
  | .ending _ _ message => message

/-- Text without escape is left as it is by stripping. -/
theorem Ansi.stripChars_of_not_mem {l : List Char} (h : Ansi.esc ∉ l) : Ansi.stripChars l = l := by
  induction l with
  | nil => exact Ansi.stripChars_nil
  | cons c rest ih =>
    have hc : c ≠ Ansi.esc := fun hc => h (hc ▸ List.mem_cons_self ..)
    rw [Ansi.stripChars_cons_of_ne hc, ih (fun hr => h (List.mem_cons_of_mem c hr))]

/-- A line of characters of one column is shown as it is. -/
theorem RowConfig.lineText_of_all (c : RowConfig) {text : String}
    (h : text.toList.all Cells.oneColumn = true) : c.lineText text = text := by
  have hesc : Ansi.esc ∉ text.toList := by
    intro hmem
    have := List.all_eq_true.mp h _ hmem
    revert this
    decide
  unfold RowConfig.lineText
  split
  · rw [Ansi.strip, Ansi.stripChars_of_not_mem hesc, String.ofList_toList]
  · rfl

theorem all_oneColumn_toString (n : Nat) : (toString n).toList.all Cells.oneColumn = true := by
  rw [List.all_eq_true, Nat.toString_eq_repr, Nat.toList_repr]
  intro ch hch
  have hdigit : ch.isDigit = true := Nat.isDigit_of_mem_toDigits (by decide) (by decide) hch
  have hrange : ch.isDigit = (decide (ch.val ≥ '0'.val) && decide (ch.val ≤ '9'.val)) := rfl
  have hbounds : '0'.val.toNat = 0x30 ∧ '9'.val.toNat = 0x39 := ⟨rfl, rfl⟩
  rw [hrange] at hdigit
  simp only [UInt32.le_iff_toNat_le, Bool.and_eq_true, decide_eq_true_eq, ge_iff_le] at hdigit
  simp only [Cells.oneColumn, Bool.or_eq_true, Bool.and_eq_true, decide_eq_true_eq, Char.toNat]
  omega

namespace Instant

theorem all_oneColumn_padded (w n : Nat) : (padded w n).toList.all Cells.oneColumn = true := by
  have hzero : Cells.oneColumn '0' = true := by decide
  rw [padded, String.toList_append, List.all_append, all_oneColumn_toString, Bool.and_true,
    String.toList_ofList]
  simp [List.all_replicate, hzero]

theorem all_oneColumn_clockText (t : Instant) : t.clockText.toList.all Cells.oneColumn = true := by
  have hcolon : ":".toList.all Cells.oneColumn = true := by decide
  simp only [clockText, String.toList_append, List.all_append, all_oneColumn_padded, hcolon,
    Bool.and_self]

theorem all_oneColumn_isoText (t : Instant) : t.isoText.toList.all Cells.oneColumn = true := by
  have hyear : ∀ y : Int, (yearText y).toList.all Cells.oneColumn = true := by
    intro y
    unfold yearText
    split
    · have hminus : "-".toList.all Cells.oneColumn = true := by decide
      simp only [String.toList_append, List.all_append, hminus, all_oneColumn_padded,
        Bool.and_self]
    · exact all_oneColumn_padded 4 _
  have hpunct : "-".toList.all Cells.oneColumn = true ∧ "T".toList.all Cells.oneColumn = true ∧
      "Z".toList.all Cells.oneColumn = true := by decide
  unfold isoText
  obtain ⟨y, mo, d⟩ := civil t.dayAndSecond.1
  simp only [String.toList_append, List.all_append, hyear, all_oneColumn_padded, hpunct,
    all_oneColumn_clockText, Bool.and_self]

end Instant

theorem RowConfig.all_oneColumn_stampText (c : RowConfig) :
    ∀ st ∈ c.stampText, st.toList.all Cells.oneColumn = true := by
  intro st hst
  unfold RowConfig.stampText at hst
  split at hst
  · exact absurd hst (by simp)
  · rw [← Option.mem_some_iff.mp hst]
    exact c.now.all_oneColumn_clockText
  · rw [← Option.mem_some_iff.mp hst]
    exact c.now.all_oneColumn_isoText

theorem all_oneColumn_kindName (kind : Option EndKind) :
    (Event.kindName kind).toList.all Cells.oneColumn = true := by
  rcases kind with _ | ⟨_ | _ | _ | _⟩ <;> decide

theorem all_oneColumn_endingText (kind : Option EndKind) {message : String}
    (h : message.toList.all Cells.oneColumn = true) :
    (endingText kind message).toList.all Cells.oneColumn = true := by
  have hbrackets : "[".toList.all Cells.oneColumn = true ∧ "]".toList.all Cells.oneColumn = true ∧
      "] ".toList.all Cells.oneColumn = true := by decide
  unfold endingText
  split <;> simp only [String.toList_append, List.all_append, hbrackets, all_oneColumn_kindName,
    h, Bool.and_self]

/-- A label is `.`, `/` or made of characters of its identifier. -/
theorem all_oneColumn_label {id : String} (h : id.toList.all Cells.oneColumn = true) :
    (label id).toList.all Cells.oneColumn = true := by
  -- characters taken from the identifier keep the property
  have hsub : ∀ t : String, t.toList ⊆ id.toList → t.toList.all Cells.oneColumn = true :=
    fun t ht => List.all_eq_true.mpr fun ch hch => List.all_eq_true.mp h ch (ht hch)
  have htrim : (Path.dropTrailingSlashes id).toList ⊆ id.toList := by
    intro ch hch
    rw [Path.dropTrailingSlashes, String.toList_ofList, List.mem_reverse] at hch
    exact List.mem_reverse.mp ((List.dropWhile_suffix _).subset hch)
  unfold label
  split
  · unfold Path.base
    split
    · decide
    · dsimp only
      split
      · decide
      · cases hlast : (Path.names (Path.dropTrailingSlashes id)).getLast? with
        | none => exact hsub _ htrim
        | some n =>
          apply hsub
          exact List.Subset.trans (Path.infix_of_mem_names (List.mem_of_getLast? hlast)).subset htrim
  · exact h

/-- The bar between the parts of a row: a space, a box-drawing line and a space. -/
theorem narrow_bar : Cells.Narrow bar.toList 3 :=
  Cells.Narrow.of_all (by decide +kernel)

/-- A row whose label and text are made of characters of one column is narrow, before it is
cut. -/
theorem narrow_row (c : RowConfig) (e : Event) (hlabel : (label e.id).toList.all Cells.oneColumn = true)
    (htext : e.text.toList.all Cells.oneColumn = true) :
    ∃ row n, c.styled e = c.fit row ∧ Cells.Narrow row.toList n := by
  obtain ⟨k, hsep⟩ := (Palette.ofTheme c.theme).separator.narrow_render narrow_bar
  refine ⟨_, exists_and_left.mpr ⟨rfl, ?_⟩⟩
  rw [String.toList_intercalate]
  apply hsep.intercalate
  -- every part is a text of one-column characters rendered in some style
  intro l hl
  simp only [List.mem_map, List.mem_append, List.mem_singleton] at hl
  obtain ⟨part, hpart, rfl⟩ := hl
  rcases hpart with (hstamp | htag) | rfl
  · obtain ⟨st, hst, rfl⟩ := Option.map_eq_some_iff.mp (Option.mem_toList.mp hstamp)
    exact Style.narrow_render _ (Cells.Narrow.of_all (c.all_oneColumn_stampText st hst))
  · split at htag
    · rw [List.mem_singleton.mp htag]
      exact Style.narrow_render _ (Cells.Narrow.of_all hlabel)
    · exact absurd htag List.not_mem_nil
  · cases e with
    | line id text =>
      have htext : text.toList.all Cells.oneColumn = true := htext
      dsimp only
      rw [c.lineText_of_all htext]
      exact Style.narrow_render _ (Cells.Narrow.of_all htext)
    | ending id kind message =>
      exact Style.narrow_render _ (Cells.Narrow.of_all (all_oneColumn_endingText kind htext))

end LiveTail
