import LiveTail.Proofs.Scrolling
import Mathlib.Data.List.Induction
/-!
# Scrollback and window

What a screen keeps and shows, whatever it is told. Its rows are the last rows it was given,
as many as its capacity allows (`tell_rows`). While it does not follow, a new row leaves
the row at the top of the window where it was, unless that row was the oldest one and was
dropped (`update_top_of_not_follow`). Once it has a size, the screen shows its title, then
exactly as many rows as the window holds, each ending in a newline, then the status bar; the
rows are the stored rows from the offset on and blank rows after them, or, while there are
no rows yet, blank rows with the notices about the middle (`window_of_ready`). The
position in the status bar is `bottom` or a percentage below one hundred
(`position_bottom_or_percent`).

A window of one row has room for one notice only: it shows that it waits for files to grow
and not that there are no lines yet.
-/
namespace LiveTail

/-- The row a message adds to the scrollback: an event's row as drawn, or a failure's text
after `ERROR: `. -/
def Message.row? : Message → Option String
  | .event _ row => some row
  | .failure text => some ("ERROR: " ++ text)
  | _ => none

namespace Screen

/-- The screen after it is told some messages, one after another. -/
def tell (m : Screen) (msgs : List Message) : Screen := msgs.foldl (fun m msg => (m.update msg).1) m

@[simp] theorem tell_nil (m : Screen) : m.tell [] = m := rfl

theorem tell_concat (m : Screen) (msgs : List Message) (msg : Message) :
    m.tell (msgs ++ [msg]) = ((m.tell msgs).update msg).1 := by
  simp [tell, List.foldl_append]

@[simp] theorem tell_capacity (m : Screen) (msgs : List Message) :
    (m.tell msgs).capacity = m.capacity := by
  induction msgs using List.reverseRecOn with
  | nil => rfl
  | append_singleton msgs msg ih => rw [tell_concat, update_capacity, ih]

/-! ## The rows kept -/

@[simp] theorem scroll_rows (m : Screen) (delta : Int) (down : Bool) :
    (m.scroll delta down).rows = m.rows := by
  unfold Screen.scroll
  dsimp only
  split <;> rfl

@[simp] theorem press_rows (m : Screen) (key : String) : (m.press key).1.rows = m.rows := by
  unfold Screen.press
  dsimp only
  split <;> simp

/-- A new row is appended and the oldest beyond the capacity dropped. -/
theorem push_rows (m : Screen) (hpos : 0 < m.capacity) (row : String) :
    (m.push row).rows.toList = (m.rows.toList ++ [row]).drop (m.rows.size + 1 - m.capacity) := by
  unfold Screen.push
  dsimp only
  rw [clamp_rows]
  by_cases htrim : m.capacity < m.rows.size + 1
  · have hc : (decide (m.capacity > 0) && decide ((m.rows.push row).size > m.capacity)) = true := by
      simp [hpos, htrim]
    simp only [hc, ↓reduceIte]
    have hlen : ((m.rows.toList ++ [row]).drop (m.rows.size + 1 - m.capacity)).length ≤
        m.rows.size + 1 - (m.rows.size + 1 - m.capacity) := by simp
    split <;> simp only [Array.toList_extract, List.extract, Array.toList_push,
      Array.size_push, List.take_of_length_le hlen]
  · have hc : (decide (m.capacity > 0) && decide ((m.rows.push row).size > m.capacity)) = false := by
      simp [htrim]
    simp only [hc, Bool.false_eq_true, ↓reduceIte]
    split <;> simp [Nat.sub_eq_zero_of_le (Nat.le_of_not_lt htrim)]

/-- Keeping the last `k` of a list and then the last `k` after one more is keeping the last
`k` of the longer list. -/
theorem drop_append_singleton_drop (l : List String) (k : Nat) (hk : 0 < k) (r : String) :
    (l.drop (l.length - k) ++ [r]).drop ((l.drop (l.length - k)).length + 1 - k) =
      (l ++ [r]).drop (l.length + 1 - k) := by
  rw [List.length_drop]
  by_cases hl : k ≤ l.length
  · have h1 : l.length - (l.length - k) + 1 - k = 1 := by omega
    have h2 : l.length + 1 - k = (l.length - k) + 1 := by omega
    rw [h1, h2, List.drop_append_of_le_length (by rw [List.length_drop]; omega),
      List.drop_append_of_le_length (by omega), List.drop_drop]
  · have h1 : l.length - (l.length - k) + 1 - k = 0 := by omega
    have h2 : l.length + 1 - k = 0 := by omega
    rw [h1, h2, Nat.sub_eq_zero_of_le (by omega)]
    simp

/-- Every message leaves the rows alone or adds its row. -/
theorem update_rows (m : Screen) (hpos : 0 < m.capacity) (msg : Message) :
    (m.update msg).1.rows.toList =
      match msg.row? with
      | some row => (m.rows.toList ++ [row]).drop (m.rows.size + 1 - m.capacity)
      | none => m.rows.toList := by
  cases msg with
  | key name => simp [update, Message.row?]
  | resize w h => simp only [update, Message.row?]; split <;> rfl
  | event e row =>
    -- the screen pushed to is the one with the sessions heard of, whose capacity is `m`'s
    simp only [update, Message.row?]
    refine push_rows _ ?_ row
    exact hpos
  | failure text => simp only [update, Message.row?]; exact push_rows _ hpos _
  | finished => rfl

/-- A screen with no rows, told any messages, holds the last rows of its events and failures,
as many as its capacity allows. -/
theorem tell_rows (m : Screen) (hpos : 0 < m.capacity) (hempty : m.rows = #[])
    (msgs : List Message) :
    (m.tell msgs).rows.toList =
      (msgs.filterMap Message.row?).drop ((msgs.filterMap Message.row?).length - m.capacity) := by
  induction msgs using List.reverseRecOn with
  | nil => simp [hempty]
  | append_singleton msgs msg ih =>
    rw [tell_concat, update_rows _ (by rw [tell_capacity]; exact hpos), List.filterMap_append]
    simp only [List.filterMap_cons, List.filterMap_nil, tell_capacity]
    cases msg.row? with
    | none => simpa using ih
    | some r =>
      rw [← Array.length_toList, ih]
      simpa using drop_append_singleton_drop _ _ hpos r

/-! ## The row at the top of the window -/

@[simp] theorem push_follow (m : Screen) (row : String) : (m.push row).follow = m.follow := by
  unfold Screen.push
  dsimp only
  split <;> split <;> rfl

/-- While the screen does not follow, a new row moves the window up by the rows dropped,
and no further than the top. -/
theorem push_offset_of_not_follow {m : Screen} (h : m.Scrolled) (hf : m.follow = false)
    (row : String) :
    (m.push row).offset = max (m.offset - ((m.rows.size + 1 - m.capacity : Nat) : Int)) 0 := by
  have hle := h.offset_le
  have hnonneg := h.offset_nonneg
  have hwithin := h.within
  unfold Screen.push
  dsimp only
  unfold maxOffset windowRows at hle
  split
  · -- the oldest row is dropped: the window keeps its place among the rows left
    rename_i htrim
    simp only [Bool.and_eq_true, decide_eq_true_eq, Array.size_push] at htrim
    simp only [hf, Bool.false_eq_true, ↓reduceIte, clamp_offset, maxOffset, windowRows,
      Array.size_extract, Array.size_push]
    omega
  · rename_i hkeep
    simp only [Bool.and_eq_true, decide_eq_true_eq, Array.size_push, not_and, Nat.not_lt] at hkeep
    simp only [hf, Bool.false_eq_true, ↓reduceIte, clamp_offset, maxOffset, windowRows,
      Array.size_push]
    omega

/-- While the screen does not follow, the row at the top of the window stays there after a
new row, unless it was the oldest row and was dropped. -/
theorem push_top_of_not_follow {m : Screen} (h : m.Scrolled) (hpos : 0 < m.capacity)
    (hf : m.follow = false) (row : String) {x : String} (hx : m.rows[m.offset.toNat]? = some x) :
    (m.push row).rows[(m.push row).offset.toNat]? = some x ∨
      (m.rows.size = m.capacity ∧ m.offset = 0) := by
  rw [← Array.getElem?_toList, push_rows _ hpos, push_offset_of_not_follow h hf]
  rw [← Array.getElem?_toList] at hx
  have hlt : m.offset.toNat < m.rows.toList.length := (List.getElem?_eq_some_iff.mp hx).1
  have hwithin := h.within
  have hnonneg := h.offset_nonneg
  by_cases hkept : ((m.rows.size + 1 - m.capacity : Nat) : Int) ≤ m.offset
  · -- the window moves up by as many rows as were dropped before it
    left
    have hidx : (max (m.offset - ((m.rows.size + 1 - m.capacity : Nat) : Int)) 0).toNat =
        m.offset.toNat - (m.rows.size + 1 - m.capacity) := by omega
    rw [hidx, List.getElem?_drop, Nat.add_sub_cancel' (by omega),
      List.getElem?_append_left hlt, hx]
  · right
    omega

/-- While the screen does not follow, an event or a failure leaves it not following, and
leaves the row at the top of the window where it was, unless that row was the oldest and
was dropped. -/
theorem update_top_of_not_follow {m : Screen} (h : m.Scrolled) (hpos : 0 < m.capacity)
    (hf : m.follow = false) {msg : Message} {r : String} (hr : msg.row? = some r) {x : String}
    (hx : m.rows[m.offset.toNat]? = some x) :
    (m.update msg).1.follow = false ∧
      ((m.update msg).1.rows[(m.update msg).1.offset.toNat]? = some x ∨
        (m.rows.size = m.capacity ∧ m.offset = 0)) := by
  cases msg with
  | event e row =>
    -- the sessions heard of change, which neither the window nor the rows read
    dsimp only [update]
    refine ⟨by rw [push_follow]; exact hf, ?_⟩
    apply push_top_of_not_follow
    · exact ⟨h.offset_nonneg, h.offset_le, h.follow_bottom, h.within⟩
    · exact hpos
    · exact hf
    · exact hx
  | failure text =>
    exact ⟨by rw [update, push_follow]; exact hf, push_top_of_not_follow h hpos hf _ hx⟩
  | key name => simp [Message.row?] at hr
  | resize w hgt => simp [Message.row?] at hr
  | finished => simp [Message.row?] at hr

/-! ## What the window shows -/

/-- Appending each item's row and a newline to a text gives the text, then the rows, each
ending in a newline. -/
theorem foldl_lines {α : Type} (f : α → String) (acc : String) (xs : List α) :
    xs.foldl (fun acc x => acc ++ f x ++ "\n") acc =
      acc ++ String.join (xs.map fun x => f x ++ "\n") := by
  induction xs generalizing acc with
  | nil => simp
  | cons x xs ih =>
    rw [List.foldl_cons, ih, List.map_cons, String.join_cons]
    simp only [String.append_assoc]

/-- A run of newlines is a run of empty rows. -/
theorem ofList_newlines (k : Nat) :
    String.ofList (List.replicate k '\n') =
      String.join ((List.replicate k "").map fun r => r ++ "\n") := by
  induction k with
  | zero => simp
  | succ k ih =>
    rw [List.replicate_succ', List.replicate_succ', String.ofList_append, List.map_append,
      String.join_append, ih]
    simp

/-- The rows of an empty window of `vh` rows: blank rows, with the notice that there are no
lines yet just above the middle row where the window has room for it, and the notice that the
screen waits for files to grow on the middle row. -/
def placeholders (vh : Nat) : List String :=
  List.replicate (vh / 2 - 1) "" ++ (if 2 ≤ vh then ["  No lines yet."] else []) ++
    ["  Waiting for files to grow..."] ++ List.replicate (vh - vh / 2 - 1) ""

/-- Row `i` of an empty window of `vh` rows. -/
def placeholderRow (vh i : Nat) : String :=
  if i + 1 = vh / 2 then "  No lines yet."
  else if i = vh / 2 then "  Waiting for files to grow..." else ""

/-- Rows away from the middle of an empty window are blank. -/
theorem map_placeholderRow_blank {vh : Nat} (l : List Nat)
    (h : ∀ i ∈ l, i + 1 ≠ vh / 2 ∧ i ≠ vh / 2) :
    l.map (placeholderRow vh) = List.replicate l.length "" :=
  List.map_eq_replicate_iff.mpr fun i hi => by simp [placeholderRow, (h i hi).1, (h i hi).2]

theorem placeholders_eq (vh : Nat) (hvh : 1 ≤ vh) :
    (List.range vh).map (placeholderRow vh) = placeholders vh := by
  -- the window splits at its middle row: the rows above it, the middle row, the rows below
  have hrange : List.range vh = List.range (vh / 2) ++ [vh / 2] ++
      (List.range (vh - vh / 2 - 1)).map (fun x => vh / 2 + 1 + x) := by
    conv_lhs => rw [show vh = vh / 2 + 1 + (vh - vh / 2 - 1) by omega]
    rw [List.range_add, List.range_succ]
  have hbelow : ((List.range (vh - vh / 2 - 1)).map (fun x => vh / 2 + 1 + x)).map
      (placeholderRow vh) = List.replicate (vh - vh / 2 - 1) "" := by
    rw [map_placeholderRow_blank _ (by simp; omega), List.length_map, List.length_range]
  have hmiddle : placeholderRow vh (vh / 2) = "  Waiting for files to grow..." := by
    simp [placeholderRow]
  rw [hrange, List.map_append, List.map_append, hbelow, List.map_singleton, hmiddle]
  unfold placeholders
  by_cases htwo : 2 ≤ vh
  · -- the notice that there are no lines yet stands just above the middle row
    have habove : List.range (vh / 2) = List.range (vh / 2 - 1) ++ [vh / 2 - 1] := by
      conv_lhs => rw [show vh / 2 = vh / 2 - 1 + 1 by omega]
      rw [List.range_succ]
    rw [habove, List.map_append, map_placeholderRow_blank _ (by simp; omega), List.map_singleton,
      List.length_range, if_pos htwo]
    simp [placeholderRow, show vh / 2 - 1 + 1 = vh / 2 by omega]
  · have hhalf : vh / 2 = 0 := by omega
    simp [hhalf, htwo]

theorem length_placeholders (vh : Nat) (hvh : 1 ≤ vh) : (placeholders vh).length = vh := by
  rw [← placeholders_eq vh hvh, List.length_map, List.length_range]

theorem one_le_windowRows (m : Screen) : 1 ≤ m.windowRows := by
  unfold windowRows
  split <;> omega

/-- A screen with no rows shows the placeholders. -/
theorem windowText_of_no_rows {m : Screen} (h : m.rows.size = 0) :
    m.windowText = String.join ((placeholders m.windowRows).map fun r => r ++ "\n") := by
  unfold windowText
  simp only [h, ↓reduceIte]
  rw [foldl_lines, String.empty_append, ← placeholders_eq _ m.one_le_windowRows, List.map_map]
  rfl

/-- A screen with rows shows those from the offset on, as many as the window holds, and
blank rows after them to fill it. -/
theorem windowText_of_rows {m : Screen} (h : m.rows.size ≠ 0) :
    m.windowText = String.join
      (((m.rows.toList.drop m.offset.toNat).take m.windowRows ++
        List.replicate (m.windowRows - ((m.rows.toList.drop m.offset.toNat).take m.windowRows).length)
          "").map fun r => r ++ "\n") := by
  have hslice : (m.rows.toList.drop m.offset.toNat).take
      (min (m.offset.toNat + m.windowRows) m.rows.size - m.offset.toNat) =
      (m.rows.toList.drop m.offset.toNat).take m.windowRows := by
    rw [List.take_eq_take_iff, List.length_drop, Array.length_toList]
    omega
  unfold windowText
  simp only [h, ↓reduceIte]
  rw [← Array.foldl_toList, foldl_lines (fun r => r), String.empty_append, Array.toList_extract,
    List.extract_eq_take_drop, hslice, ofList_newlines, List.map_append, String.join_append]
  simp only [List.length_take, List.length_drop, Array.length_toList]
  have hpad : m.windowRows - (min (m.offset.toNat + m.windowRows) m.rows.size - m.offset.toNat) =
      m.windowRows - min m.windowRows (m.rows.size - m.offset.toNat) := by omega
  rw [hpad]

theorem newline_not_mem_placeholders (vh : Nat) : ∀ r ∈ placeholders vh, '\n' ∉ r.toList := by
  intro r hr
  unfold placeholders at hr
  simp only [List.mem_append, List.mem_replicate, List.mem_singleton] at hr
  rcases hr with ((⟨-, rfl⟩ | hnotice) | rfl) | ⟨-, rfl⟩
  · decide
  · split at hnotice
    · rw [List.mem_singleton.mp hnotice]
      decide
    · exact absurd hnotice List.not_mem_nil
  · decide
  · decide

/-- What a ready screen shows, as the rows `shown` of its window: the title, then each row
ending in a newline, then the status bar; the rows are as many as the window holds, none of
them breaks a line, and they are the stored rows from the offset on and blank rows after
them, or, while there are no rows, the placeholders. -/
structure Window (m : Screen) (shown : List String) : Prop where
  view_eq : m.view = titleStyle.render "simpleio tail" ++ "\n" ++
    String.join (shown.map fun r => r ++ "\n") ++ m.statusLine
  length_eq : shown.length = m.windowRows
  no_newline : ∀ r ∈ shown, '\n' ∉ r.toList
  stored : m.rows.size ≠ 0 →
    ∃ k, shown = (m.rows.toList.drop m.offset.toNat).take m.windowRows ++ List.replicate k ""
  waiting : m.rows.size = 0 → shown = placeholders m.windowRows

/-- A ready screen whose rows break no line shows its window row by row. -/
theorem window_of_ready {m : Screen} (hready : m.ready = true)
    (hrows : ∀ r ∈ m.rows.toList, '\n' ∉ r.toList) : ∃ shown, m.Window shown := by
  have hview : ∀ shown : List String, m.windowText = String.join (shown.map fun r => r ++ "\n") →
      m.view = titleStyle.render "simpleio tail" ++ "\n" ++
        String.join (shown.map fun r => r ++ "\n") ++ m.statusLine := by
    intro shown htext
    rw [view, hready, ← htext]
    rfl
  by_cases h : m.rows.size = 0
  · exact ⟨placeholders m.windowRows,
      { view_eq := hview _ (windowText_of_no_rows h)
        length_eq := length_placeholders _ m.one_le_windowRows
        no_newline := newline_not_mem_placeholders _
        stored := fun hne => absurd h hne
        waiting := fun _ => rfl }⟩
  · refine ⟨_,
      { view_eq := hview _ (windowText_of_rows h)
        length_eq := ?_
        no_newline := ?_
        stored := fun _ => ⟨_, rfl⟩
        waiting := fun hz => absurd hz h }⟩
    · simp only [List.length_append, List.length_replicate, List.length_take]
      omega
    · -- a shown row is a stored row or a blank one
      intro r hr
      rcases List.mem_append.mp hr with hstored | hblank
      · exact hrows r (List.mem_of_mem_drop (List.mem_of_mem_take hstored))
      · rw [(List.mem_replicate.mp hblank).2]
        decide

/-- The position in the status bar is the bottom, or how far down the window stands as a
percentage below one hundred. -/
theorem position_bottom_or_percent {m : Screen} (h : m.Scrolled) :
    m.position = "bottom" ∨ ∃ p : Int, 0 ≤ p ∧ p ≤ 99 ∧ m.position = toString p ++ "%" := by
  unfold position
  split
  · -- not at the bottom: the offset is short of the last offset, which is then positive
    rename_i hup
    have hlt : m.offset < m.maxOffset := by
      simp only [Bool.and_eq_true, Bool.not_eq_true', atBottom, decide_eq_false_iff_not] at hup
      omega
    have hmax : 0 < m.maxOffset := lt_of_le_of_lt h.offset_nonneg hlt
    right
    refine ⟨m.offset * 100 / m.maxOffset, ?_, ?_, by simp only [hmax, ↓reduceIte]⟩
    · exact Int.ediv_nonneg (by have := h.offset_nonneg; omega) (le_of_lt hmax)
    · have hpct : m.offset * 100 / m.maxOffset < 100 :=
        Int.ediv_lt_of_lt_mul hmax (by omega)
      omega
  · left
    rfl

end Screen

/-- What a screen keeps and shows, whatever it is told: a screen that knows some sessions and
keeps at most `capacity` rows, told any messages, holds the last `min n capacity` of the `n`
rows of its events and failures, in order; while it does not follow, one more event or
failure keeps it from following and leaves the row at the top of the window there, unless
that row was the oldest of a full scrollback and was dropped; once it has a size and none of
its rows breaks a line, it shows its window row by row; and its position is the bottom or a
percentage below one hundred. -/
theorem screen_keeps_last_rows_and_shows_window (ids : List String) (capacity : Nat)
    (hpos : 0 < capacity) (msgs : List Message) :
    let m := ({ Screen.create ids with capacity } : Screen).tell msgs
    m.rows.toList =
        (msgs.filterMap Message.row?).drop ((msgs.filterMap Message.row?).length - capacity) ∧
      (∀ (msg : Message) (r x : String), msg.row? = some r → m.follow = false →
        m.rows[m.offset.toNat]? = some x →
        (m.update msg).1.follow = false ∧
          ((m.update msg).1.rows[(m.update msg).1.offset.toNat]? = some x ∨
            (m.rows.size = capacity ∧ m.offset = 0))) ∧
      (m.ready = true → (∀ r ∈ m.rows.toList, '\n' ∉ r.toList) → ∃ shown, m.Window shown) ∧
      (m.position = "bottom" ∨ ∃ p : Int, 0 ≤ p ∧ p ≤ 99 ∧ m.position = toString p ++ "%") := by
  intro m
  obtain ⟨hs, hcap⟩ := Screen.Scrolled.foldl_update msgs (Screen.scrolled_create ids capacity) hpos
  have hscrolled : m.Scrolled := hs
  have hcap' : m.capacity = capacity := hcap
  have hpos' : 0 < m.capacity := by rw [hcap']; exact hpos
  refine ⟨Screen.tell_rows _ hpos rfl msgs, ?_, fun hready hrows => Screen.window_of_ready hready hrows,
    Screen.position_bottom_or_percent hscrolled⟩
  intro msg r x hr hf hx
  have htop := Screen.update_top_of_not_follow hscrolled hpos' hf hr hx
  rw [hcap'] at htop
  exact htop

/-- A two-row scrollback given three failures keeps the last two, and, sized and with rows
that break no line, shows its window row by row. -/
theorem two_row_scrollback_keeps_the_last_failures :
    0 < 2 ∧
      (({ Screen.create ["a"] with capacity := 2 } : Screen).tell
          [.resize 80 6, .failure "x", .failure "y", .failure "z"]).rows.toList =
        ["ERROR: y", "ERROR: z"] ∧
      ∃ shown, (({ Screen.create ["a"] with capacity := 2 } : Screen).tell
          [.resize 80 6, .failure "x", .failure "y", .failure "z"]).Window shown := by
  obtain ⟨hrows, -, hwindow, -⟩ := screen_keeps_last_rows_and_shows_window ["a"] 2 (by decide)
    [.resize 80 6, .failure "x", .failure "y", .failure "z"]
  have hlast : (({ Screen.create ["a"] with capacity := 2 } : Screen).tell
      [.resize 80 6, .failure "x", .failure "y", .failure "z"]).rows.toList =
      ["ERROR: y", "ERROR: z"] := by
    rw [hrows]
    simp only [List.filterMap_cons, List.filterMap_nil, Message.row?]
    rfl
  refine ⟨by decide, hlast, hwindow (by rfl) ?_⟩
  rw [hlast]
  simp

/-- A window of one row has room for one notice: a screen with no rows, sized to a height
that leaves one row, shows that it waits for files to grow and not that there are no lines
yet. -/
theorem one_row_window_shows_one_notice :
    ((Screen.create []).update (.resize 80 4)).1.ready = true ∧
      ((Screen.create []).update (.resize 80 4)).1.rows.size = 0 ∧
      ((Screen.create []).update (.resize 80 4)).1.windowRows = 1 ∧
      ((Screen.create []).update (.resize 80 4)).1.windowText =
        "  Waiting for files to grow...\n" := by
  have hrows : ((Screen.create []).update (.resize 80 4)).1.rows.size = 0 := by rfl
  have hone : ((Screen.create []).update (.resize 80 4)).1.windowRows = 1 := by rfl
  refine ⟨by rfl, hrows, hone, ?_⟩
  rw [Screen.windowText_of_no_rows hrows, hone]
  simp [Screen.placeholders]

end LiveTail
