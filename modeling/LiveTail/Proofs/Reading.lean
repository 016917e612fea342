import LiveTail.Registry

/-!
# Reading through a cursor

What each successful call of a cursor does, said once so that later proofs never unfold
the calls: opening gives a handle at offset 0 on the node of a file, moving to the end
puts the offset at the node's size, a read returns the bytes from the offset up to the
buffer's size or the node's end and moves the offset past them, and a status call reports
the node's size. None of them changes the bytes of any node; only fault counts move. A
session's launch is these calls in a row.
-/
namespace LiveTail

namespace Volume

@[simp] theorem blobs_setFaults (v : Volume) (key : String) (f : Faults) :
    (v.setFaults key f).blobs = v.blobs := rfl

theorem blobs_ite_setFaults (v : Volume) (c : Prop) [Decidable c] (key : String) (f : Faults) :
    (if c then v else v.setFaults key f).blobs = v.blobs := by
  split <;> rfl

theorem bytes_eq_of_blobs {v v' : Volume} (h : v'.blobs = v.blobs) : v'.bytes = v.bytes := by
  funext n
  simp [bytes, h]

@[simp] theorem bytes_ite_setFaults (v : Volume) (c : Prop) [Decidable c] (key : String)
    (f : Faults) : (if c then v else v.setFaults key f).bytes = v.bytes :=
  bytes_eq_of_blobs (blobs_ite_setFaults v c key f)

/-- A successful read returns the node's bytes from the offset to the new offset, which is
the offset moved by at most the buffer's size and never past the end. -/
theorem read_eq_ok {v v' : Volume} {h h' : Handle} {k : Nat} {data : ByteArray}
    (hr : v.read h k = (.ok data, h', v')) :
    v'.blobs = v.blobs ∧ ∃ node, h.node = some node ∧
      h' = { h with offset := max h.offset (min (v.bytes node).size (h.offset + k)) } ∧
      data = (v.bytes node).extract h.offset h'.offset := by
  obtain ⟨path, key, node?, off, isOpen⟩ := h
  rcases hsp : Faults.spend (v.faultsAt key).reading with ⟨fails, left⟩
  cases isOpen <;> cases fails <;> cases node? <;> simp [read, hsp] at hr
  split at hr <;> simp only [Prod.mk.injEq, Except.ok.injEq] at hr <;>
    obtain ⟨rfl, rfl, rfl⟩ := hr <;> simp [blobs_ite_setFaults] <;> omega

/-- A successful status call of a handle reports its node's size, or a directory. -/
theorem statHandle_eq_ok {v v' : Volume} {h : Handle} {i : Info}
    (hs : v.statHandle h = (.ok i, v')) :
    v'.blobs = v.blobs ∧ i = match h.node with
      | none => ⟨0, true⟩
      | some node => ⟨(v.bytes node).size, false⟩ := by
  obtain ⟨path, key, node?, off, isOpen⟩ := h
  rcases hsp : Faults.spend (v.faultsAt key).statting with ⟨fails, left⟩
  cases isOpen <;> cases fails <;> cases node? <;> simp [statHandle, hsp] at hs <;>
    obtain ⟨rfl, rfl⟩ := hs <;> simp [blobs_ite_setFaults]

end Volume

namespace Cursor

/-- An opened cursor holds a handle at offset 0 on the node of a file. -/
theorem open_eq_ok {v v' : Volume} {p : String} {c : Cursor} (ho : Cursor.open v p = (.ok c, v')) :
    v'.blobs = v.blobs ∧ ∃ h node, c.handle = some h ∧ h.node = some node ∧ h.offset = 0 := by
  unfold Cursor.open at ho
  rcases hr : v.openRead p with e | h
  · simp [hr] at ho
  · rcases hs : v.countOpen.statHandle h with ⟨i | i, v₁⟩
    · simp [hr, hs] at ho
    · obtain ⟨hb, hi⟩ := Volume.statHandle_eq_ok hs
      have hoff : h.offset = 0 := by
        simp only [Volume.openRead] at hr
        split at hr
        · cases hr
        · rcases hf : v.find "open" p with _ | (_ | _) <;> simp [hf, Except.map] at hr <;>
            subst hr <;> rfl
      cases hn : h.node with
      | none => simp [hr, hs, hi, hn] at ho
      | some node =>
        simp only [hr, hs, hi, hn, Bool.false_eq_true, if_false, Prod.mk.injEq,
          Except.ok.injEq] at ho
        obtain ⟨rfl, rfl⟩ := ho
        exact ⟨hb, h, node, rfl, hn, hoff⟩

/-- Moving to the end puts the handle's offset at its node's size. -/
theorem seekEnd_eq_ok {v : Volume} {c c' : Cursor} {off : Nat} {h : Handle} {node : Nat}
    (hc : c.handle = some h) (hn : h.node = some node) (hs : c.seekEnd v = .ok (off, c')) :
    c' = { c with handle := some { h with offset := (v.bytes node).size } } := by
  unfold seekEnd at hs
  rw [hc] at hs
  rcases hse : v.seekEnd h with _ | ⟨off', h'⟩
  · simp [hse] at hs
  · simp only [hse, Except.ok.injEq, Prod.mk.injEq] at hs
    rw [← hs.2]
    unfold Volume.seekEnd at hse
    simp only [hn] at hse
    split at hse
    · cases hse
    · split at hse
      · cases hse
      · simp only [Except.ok.injEq, Prod.mk.injEq] at hse
        rw [← hse.2, hn]

/-- A successful read of a cursor is a successful read of its handle. -/
theorem read_eq_ok {v v' : Volume} {c c' : Cursor} {k : Nat} {data : ByteArray}
    (hr : c.read v k = (.ok data, c', v')) :
    ∃ h h', c.handle = some h ∧ v.read h k = (.ok data, h', v') ∧ c' = { c with handle := some h' } := by
  unfold read at hr
  rcases hc : c.handle with _ | h
  · simp [hc] at hr
  · rcases hvr : v.read h k with ⟨_ | d, h', v₁⟩
    · simp [hc, hvr] at hr
    · simp only [hc, hvr, Prod.mk.injEq, Except.ok.injEq] at hr
      obtain ⟨rfl, rfl, rfl⟩ := hr
      exact ⟨h, h', rfl, hvr, rfl⟩

/-- A successful size call of a cursor reports its node's size. -/
theorem size_eq_ok {v v' : Volume} {c : Cursor} {size : Nat} {h : Handle} {node : Nat}
    (hc : c.handle = some h) (hn : h.node = some node) (hs : c.size v = (.ok size, v')) :
    v'.blobs = v.blobs ∧ size = (v.bytes node).size := by
  unfold Cursor.size at hs
  rw [hc] at hs
  rcases hst : v.statHandle h with ⟨_ | i, v₁⟩
  · simp [hst] at hs
  · obtain ⟨hb, hi⟩ := Volume.statHandle_eq_ok hst
    simp only [hst, Prod.mk.injEq, Except.ok.injEq] at hs
    obtain ⟨rfl, rfl⟩ := hs
    simp [hb, hi, hn]

end Cursor

namespace Registry

/-- A launched session reads a file's node from offset 0, or from its end when asked to
skip, and starts from the node's size. -/
theorem launch_eq_ok {v v' : Volume} {path : String} {skip : Bool} {c : Cursor} {size : Nat}
    (hl : launch v path skip = (.ok (c, size), v')) :
    v'.blobs = v.blobs ∧ ∃ h node, c.handle = some h ∧ h.node = some node ∧
      h.offset = (if skip then (v.bytes node).size else 0) ∧ size = (v.bytes node).size := by
  unfold launch at hl
  rcases ho : Cursor.open v path with ⟨_ | c₀, v₁⟩
  · simp [ho] at hl
  · obtain ⟨hb₁, h₀, node, hc₀, hn₀, hoff₀⟩ := Cursor.open_eq_ok ho
    have hbytes₁ := Volume.bytes_eq_of_blobs hb₁
    -- the cursor after the optional move to the end, before the size is asked
    obtain ⟨c₁, hmoved, hc₁⟩ : ∃ c₁, (if skip then (c₀.seekEnd v₁).map (·.2) else .ok c₀) = .ok c₁ ∧
        c₁.handle = some { h₀ with offset := if skip then (v.bytes node).size else 0 } := by
      cases skip with
      | false => exact ⟨c₀, rfl, by rw [hc₀, if_neg Bool.false_ne_true, ← hoff₀]⟩
      | true =>
        rcases hse : c₀.seekEnd v₁ with _ | ⟨off, c₁⟩
        · simp only [ho, hse, if_true, Except.map] at hl
          cases hl
        · refine ⟨c₁, by simp [Except.map], ?_⟩
          rw [Cursor.seekEnd_eq_ok hc₀ hn₀ hse, hbytes₁]
          rfl
    simp only [ho, hmoved] at hl
    rcases hs : c₁.size v₁ with ⟨_ | size₁, v₂⟩
    · simp [hs] at hl
    · obtain ⟨hb₂, hsize⟩ := Cursor.size_eq_ok hc₁ hn₀ hs
      simp only [hs, Prod.mk.injEq, Except.ok.injEq] at hl
      obtain ⟨⟨rfl, rfl⟩, rfl⟩ := hl
      exact ⟨hb₂.trans hb₁, _, node, hc₁, hn₀, rfl, hsize.trans (by rw [hbytes₁])⟩

/-- A start that succeeds launched the new session on the registry left after the
identifier's old session was released, and registered it last. -/
theorem start_eq_ok {r r' : Registry} {number : Nat} {id path : String} {skip : Bool}
    {l : Listener} (hs : r.start number id path skip (some l) = (.ok (), r')) :
    ∃ c size, launch (r.release id).volume path skip = (.ok (c, size), r'.volume) ∧
      r'.options = (r.release id).options ∧
      r'.entries = (r.release id).entries ++
        [{ number, id, path, cursor := c, lastSize := size, listener := l }] := by
  unfold start at hs
  split at hs
  · cases hs
  · dsimp only at hs
    split at hs
    · cases hs
    · split at hs
      · cases hs
      · rcases hl : launch (r.release id).volume path skip with ⟨_ | ⟨c, size⟩, v⟩
        · simp [hl] at hs
        · simp only [hl, Prod.mk.injEq, true_and] at hs
          subst hs
          exact ⟨c, size, rfl, rfl, rfl⟩

end Registry
end LiveTail
