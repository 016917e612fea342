import LiveTail.View.Screen
import Mathlib.Order.MinMax

/-!
# The scrolling window stays in bounds

Whatever a screen is told (key presses, sizes of any sign, events, failures, the end of the
source, in any order), its window starts between the top and the last offset that still
fills it, a screen that follows sits at that last offset, and it keeps no more rows than its
capacity (`Scrolled`). Heights below the three rows of chrome still show one row, and half a
one-row page is no row at all; neither breaks the bounds.

The last offset depends on the rows and the height only. Every message either leaves rows,
height and offset alone, or ends with `clamp`, which puts the offset back in bounds, and the
messages that follow move the offset to the bottom just before (`scrolled_follow_clamp`). Adding a
row drops the oldest beyond the capacity (`trimmed_size`).
-/
namespace LiveTail
namespace Screen

/-- The bounds a screen keeps between messages. -/
structure Scrolled (m : Screen) : Prop where
  offset_nonneg : 0 ≤ m.offset
  offset_le : m.offset ≤ m.maxOffset
  follow_bottom : m.follow = true → m.offset = m.maxOffset
  within : m.rows.size ≤ m.capacity

theorem maxOffset_nonneg (m : Screen) : 0 ≤ m.maxOffset := le_max_left _ _

@[simp] theorem clamp_rows (m : Screen) : m.clamp.rows = m.rows := by rfl
@[simp] theorem clamp_height (m : Screen) : m.clamp.height = m.height := by rfl
@[simp] theorem clamp_follow (m : Screen) : m.clamp.follow = m.follow := by rfl
@[simp] theorem clamp_capacity (m : Screen) : m.clamp.capacity = m.capacity := by rfl

@[simp] theorem maxOffset_clamp (m : Screen) : m.clamp.maxOffset = m.maxOffset := by rfl

theorem clamp_offset (m : Screen) : m.clamp.offset = min (max m.offset 0) m.maxOffset := by rfl

/-- An offset already at the bottom stays there. -/
theorem clamp_offset_of_bottom {m : Screen} (h : m.offset = m.maxOffset) :
    m.clamp.offset = m.maxOffset := by
  rw [clamp_offset, h, max_eq_left (maxOffset_nonneg m), min_self]

/-- Clamping puts the offset in bounds; where the screen follows and sat at the bottom, it
stays there. -/
theorem scrolled_clamp {m : Screen} (hf : m.follow = true → m.offset = m.maxOffset)
    (hc : m.rows.size ≤ m.capacity) : m.clamp.Scrolled where
  offset_nonneg := by
    rw [clamp_offset]
    exact le_min (le_max_right _ _) (maxOffset_nonneg m)
  offset_le := by
    rw [clamp_offset, maxOffset_clamp]
    exact min_le_right _ _
  follow_bottom := fun h => by
    rw [clamp_offset_of_bottom (hf h), maxOffset_clamp]
  within := hc

/-- A screen that goes to the bottom if it follows, then clamps, keeps the bounds. -/
theorem scrolled_follow_clamp {m : Screen} (hc : m.rows.size ≤ m.capacity) :
    (if m.follow = true then { m with offset := m.maxOffset } else m).clamp.Scrolled := by
  apply scrolled_clamp
  · split
    · intro _
      rfl
    · rename_i hnot
      intro hf
      exact absurd hf hnot
  · split <;> exact hc

/-- Setting the offset to the bottom and following keeps the bounds. -/
theorem Scrolled.toBottom {m : Screen} (h : m.Scrolled) :
    ({ m with offset := m.maxOffset, follow := true } : Screen).Scrolled :=
  ⟨maxOffset_nonneg m, le_refl _, fun _ => rfl, h.within⟩

/-- Going to the top and no longer following keeps the bounds. -/
theorem Scrolled.toTop {m : Screen} (h : m.Scrolled) :
    ({ m with follow := false, offset := 0 } : Screen).Scrolled :=
  ⟨le_refl 0, maxOffset_nonneg m, fun h => Bool.noConfusion h, h.within⟩

@[simp] theorem scroll_capacity (m : Screen) (delta : Int) (down : Bool) :
    (m.scroll delta down).capacity = m.capacity := by
  unfold Screen.scroll
  dsimp only
  split <;> rfl

/-- Scrolling by any number of rows keeps the bounds: the move is clamped, and following
resumes only where the window ends at the bottom. -/
theorem Scrolled.scroll {m : Screen} (h : m.Scrolled) (delta : Int) (down : Bool) :
    (m.scroll delta down).Scrolled := by
  have hmoved := scrolled_clamp (m := { m with follow := false, offset := m.offset + delta })
    (fun h => Bool.noConfusion h) h.within
  unfold Screen.scroll
  dsimp only
  split
  · -- at the bottom: the offset reaches the last offset, so following agrees with it
    rename_i hbottom
    have hge : _ ≥ _ := of_decide_eq_true (Bool.and_eq_true_iff.mp hbottom).2
    exact ⟨hmoved.offset_nonneg, hmoved.offset_le,
      fun _ => le_antisymm hmoved.offset_le hge, hmoved.within⟩
  · exact hmoved

@[simp] theorem press_capacity (m : Screen) (key : String) :
    (m.press key).1.capacity = m.capacity := by
  unfold Screen.press
  dsimp only
  split <;> simp

/-- Every key keeps the bounds. -/
theorem Scrolled.press {m : Screen} (h : m.Scrolled) (key : String) : (m.press key).1.Scrolled := by
  unfold Screen.press
  dsimp only
  split
  all_goals dsimp only
  all_goals first
    | exact h
    | exact h.toTop
    | exact h.toBottom
    | exact h.scroll _ _

/-- The rows after a new one: the oldest beyond the capacity are dropped, which leaves at
most the capacity where there was no more before. -/
theorem trimmed_size {m : Screen} (hpos : 0 < m.capacity) (hc : m.rows.size ≤ m.capacity)
    (row : String) :
    (if m.capacity > 0 && (m.rows.push row).size > m.capacity then
        (m.rows.push row).extract ((m.rows.push row).size - m.capacity) (m.rows.push row).size
      else m.rows.push row).size ≤ m.capacity := by
  split
  · rw [Array.size_extract]
    omega
  · rename_i hkeep
    simp only [Bool.and_eq_true, decide_eq_true_eq, not_and, Nat.not_lt] at hkeep
    exact hkeep hpos

/-- A new row keeps the bounds; a screen that follows moves to the new bottom. -/
theorem Scrolled.push {m : Screen} (h : m.Scrolled) (hpos : 0 < m.capacity) (row : String) :
    (m.push row).Scrolled := by
  have hsize := trimmed_size hpos h.within row
  unfold Screen.push
  dsimp only
  apply scrolled_follow_clamp
  split
  · rename_i htrim
    rw [if_pos htrim] at hsize
    exact hsize
  · rename_i hkeep
    rw [if_neg hkeep] at hsize
    exact hsize

@[simp] theorem push_capacity (m : Screen) (row : String) :
    (m.push row).capacity = m.capacity := by
  unfold Screen.push
  dsimp only
  split <;> split <;> rfl

/-- Every message keeps the bounds. -/
theorem Scrolled.update {m : Screen} (h : m.Scrolled) (hpos : 0 < m.capacity) (msg : Message) :
    (m.update msg).1.Scrolled := by
  cases msg with
  | key name => exact h.press name
  | resize w hgt =>
    -- a new height moves the last offset; a following screen goes to it before the clamp
    unfold Screen.update
    dsimp only
    exact scrolled_follow_clamp (m := { m with width := w, height := hgt, ready := true }) h.within
  | event e row =>
    -- the sessions heard of change, which the bounds do not read
    dsimp only [Screen.update]
    refine Scrolled.push ?_ ?_ row
    · exact ⟨h.offset_nonneg, h.offset_le, h.follow_bottom, h.within⟩
    · exact hpos
  | failure text => exact h.push hpos _
  | finished => exact ⟨h.offset_nonneg, h.offset_le, h.follow_bottom, h.within⟩

@[simp] theorem update_capacity (m : Screen) (msg : Message) :
    (m.update msg).1.capacity = m.capacity := by
  cases msg with
  | key name => exact press_capacity m name
  | resize w hgt => simp only [update]; split <;> rfl
  | event e row => simp [update]
  | failure text => simp [update]
  | finished => rfl

/-- A new screen has no rows and its window at the top, where it follows. -/
theorem scrolled_create (ids : List String) (capacity : Nat) :
    ({ create ids with capacity } : Screen).Scrolled := by
  have hbottom : ({ create ids with capacity } : Screen).maxOffset = 0 := by
    simp [maxOffset, create]
  exact ⟨le_refl 0, maxOffset_nonneg _, fun _ => hbottom.symm, by simp [create]⟩

/-- A screen that is told messages one after another keeps the bounds. -/
theorem Scrolled.foldl_update : ∀ (msgs : List Message) {m : Screen}, m.Scrolled →
    0 < m.capacity →
    (msgs.foldl (fun m msg => (m.update msg).1) m).Scrolled ∧
      (msgs.foldl (fun m msg => (m.update msg).1) m).capacity = m.capacity
  | [], _, h, _ => ⟨h, rfl⟩
  | msg :: msgs, m, h, hpos => by
    have hcap := update_capacity m msg
    obtain ⟨hs, hc⟩ := Scrolled.foldl_update msgs (h.update hpos msg) (hcap ▸ hpos)
    exact ⟨hs, hc.trans hcap⟩

end Screen

/-- Scrolling stays in bounds: a screen that knows some sessions and keeps at most
`capacity` rows, told any messages in any order, starts its window between the top and the
last offset that fills it, sits at that offset whenever it follows, and holds at most
`capacity` rows. -/
theorem scrolling_stays_in_bounds (ids : List String) (capacity : Nat) (hpos : 0 < capacity)
    (msgs : List Message) :
    let m := msgs.foldl (fun m msg => (m.update msg).1) { Screen.create ids with capacity }
    0 ≤ m.offset ∧ m.offset ≤ m.maxOffset ∧ (m.follow = true → m.offset = m.maxOffset) ∧
      m.rows.size ≤ capacity := by
  intro m
  obtain ⟨hs, hcap⟩ := Screen.Scrolled.foldl_update msgs (Screen.scrolled_create ids capacity) hpos
  exact ⟨hs.offset_nonneg, hs.offset_le, hs.follow_bottom, le_of_le_of_eq hs.within hcap⟩

/-- A two-row screen on a window shorter than its chrome, scrolled up, given three rows and
resized: still in bounds. -/
theorem two_row_screen_stays_in_bounds :
    0 < 2 ∧
      let m := [Message.resize 80 2, .failure "a", .key "k", .failure "b", .failure "c",
        .key "d", .resize 80 (-5)].foldl (fun m msg => (m.update msg).1)
        { Screen.create ["a"] with capacity := 2 }
      0 ≤ m.offset ∧ m.offset ≤ m.maxOffset ∧ (m.follow = true → m.offset = m.maxOffset) ∧
        m.rows.size ≤ 2 :=
  ⟨by decide, scrolling_stays_in_bounds ["a"] 2 (by decide) _⟩

end LiveTail
