import LiveTail.Proofs.Holding

/-!
# Every handle is closed once

The volume counts the handles cursors open and close. A handle a cursor opens is closed on
a path of its own: opening closes it again when the status call fails or the path is a
directory (`open_unclosed`), a launch when the move to the end or the size fails
(`launch_unclosed`), and otherwise it goes to the session, which closes it when it
ends, by itself (`runFor_closes`) or when released. So along every run of calls whose file
changes open and close nothing, each registered session holds a handle exactly while it runs,
and the handles left open are exactly those of the sessions that run (`Registry.Handled`); once
the registry is closed, as many handles were closed as were opened
(`every_handle_is_closed_once`).

`Volume.unclosed` is the count the proofs follow: it goes up by one when a cursor keeps a
handle and down by one when a session that ran ends.
-/
namespace LiveTail

namespace Volume

/-- The handles opened and not closed again, as the volume counts them. -/
def unclosed (v : Volume) : Int := v.opens - v.closes

@[simp] theorem unclosed_countOpen (v : Volume) : v.countOpen.unclosed = v.unclosed + 1 := by
  simp only [unclosed, countOpen]
  omega

@[simp] theorem unclosed_countClose (v : Volume) : v.countClose.unclosed = v.unclosed - 1 := by
  simp only [unclosed, countClose]
  omega

theorem unclosed_ite_setFaults (v : Volume) (c : Prop) [Decidable c] (key : String) (f : Faults) :
    (if c then v else v.setFaults key f).unclosed = v.unclosed := by
  split <;> rfl

/-- Status calls count faults, never handles. -/
theorem statHandle_unclosed (v : Volume) (h : Handle) : (v.statHandle h).2.unclosed = v.unclosed := by
  obtain ⟨path, key, node?, off, isOpen⟩ := h
  rcases hsp : Faults.spend (v.faultsAt key).statting with ⟨fails, left⟩
  cases isOpen <;> cases fails <;> cases node? <;>
    simp [statHandle, hsp, unclosed_ite_setFaults]

/-- Reads count faults, never handles. -/
theorem read_unclosed (v : Volume) (h : Handle) (n : Nat) : (v.read h n).2.2.unclosed = v.unclosed := by
  obtain ⟨path, key, node?, off, isOpen⟩ := h
  rcases hsp : Faults.spend (v.faultsAt key).reading with ⟨fails, left⟩
  cases isOpen <;> cases fails <;> cases node? <;> simp [read, hsp, unclosed_ite_setFaults]
  split <;> simp [unclosed_ite_setFaults]

end Volume

namespace Cursor

theorem closeHandle_of_some {v : Volume} {c : Cursor} {h : Handle} (hc : c.handle = some h) :
    (c.closeHandle v).unclosed = v.unclosed - 1 := by
  simp [closeHandle, hc]

theorem size_unclosed (v : Volume) (c : Cursor) : (c.size v).2.unclosed = v.unclosed := by
  unfold Cursor.size
  rcases hc : c.handle with _ | h
  · rfl
  · rcases hs : v.statHandle h with ⟨_ | i, v₁⟩ <;>
      simpa [hs] using Volume.statHandle_unclosed v h

/-- A read keeps the handle, if any, and counts no handle. -/
theorem read_frame (v : Volume) (c : Cursor) (n : Nat) :
    (c.read v n).2.2.unclosed = v.unclosed ∧ (c.read v n).2.1.handle.isSome = c.handle.isSome := by
  unfold Cursor.read
  rcases hc : c.handle with _ | h
  · exact ⟨rfl, by simp [hc]⟩
  · rcases hr : v.read h n with ⟨_ | data, h', v₁⟩ <;>
      simpa [hr, hc] using Volume.read_unclosed v h n

theorem seekEnd_handle {v : Volume} {c c' : Cursor} {off : Nat} (hs : c.seekEnd v = .ok (off, c')) :
    c'.handle.isSome = true := by
  unfold seekEnd at hs
  rcases hc : c.handle with _ | h
  · simp [hc] at hs
  · rcases hse : v.seekEnd h with _ | ⟨off', h'⟩ <;> simp [hc, hse] at hs
    rw [← hs.2]
    rfl

/-- Opening a cursor keeps the handle it opened, or closes it again: when the status call
fails or the path is a directory. -/
theorem open_unclosed (v : Volume) (p : String) :
    match Cursor.open v p with
    | (.ok c, v') => c.handle.isSome = true ∧ v'.unclosed = v.unclosed + 1
    | (.error _, v') => v'.unclosed = v.unclosed := by
  unfold Cursor.open
  rcases hr : v.openRead p with e | h
  · rfl
  · have hcount := Volume.statHandle_unclosed v.countOpen h
    dsimp only
    rcases hs : v.countOpen.statHandle h with ⟨_ | i, v₁⟩ <;>
      rw [hs, Volume.unclosed_countOpen] at hcount
    · -- the status call failed: the handle is closed again
      show v₁.countClose.unclosed = v.unclosed
      rw [Volume.unclosed_countClose, hcount]
      omega
    · by_cases hdir : i.isDir = true
      · -- a directory: the handle is closed again
        simp only [hdir, if_true, Volume.unclosed_countClose, hcount]
        omega
      · simp only [hdir, Bool.false_eq_true, if_false]
        exact ⟨rfl, hcount⟩

end Cursor

namespace Session

theorem react_cursor (s : Session) (r : Reaction) : (s.react r).1.cursor = s.cursor := by
  cases r <;> rfl

/-- Handing out lines touches neither the volume nor the session's cursor. -/
theorem deliver_frame (d : Dispatch) (p : Poll) (lines : List ByteArray) :
    (deliver d p lines).volume = p.volume ∧
      (deliver d p lines).session.cursor = p.session.cursor := by
  induction p, lines using deliver.induct d with
  | case1 p => simp [deliver]
  | case2 p line rest s hcan => simp [deliver, s, hcan]
  | case3 p line rest s hcan htrig value hfail hd => simp [deliver, s, hcan, htrig, hfail, hd]
  | case4 p line rest s hcan heard p' htrig value hfail hd ih =>
    simp only [deliver, s, hcan, htrig, hfail, hd, Bool.false_eq_true, if_false, if_true]
    exact ih
  | case5 p line rest s hcan heard p' htrig s' reqs hnf hreact ih =>
    have hstep : deliver d p (line :: rest) =
        deliver d { p' with session := s', requests := p'.requests ++ reqs } rest :=
      deliver_react hcan htrig hnf hreact rfl
    have hcur := react_cursor p.session p.session.listener.reaction
    rw [show p.session.react p.session.listener.reaction = (s', reqs) from hreact] at hcur
    rw [hstep]
    exact ⟨ih.1, ih.2.trans hcur⟩
  | case6 p line rest s hcan heard p' htrig ih =>
    simp only [deliver, s, hcan, htrig, Bool.false_eq_true, if_false]
    exact ih

/-- A poll opens and closes no handle, and the session keeps its handle, if any. -/
theorem poll_frame (o : TailOptions) (v : Volume) (s : Session) :
    (s.poll o v).volume.unclosed = v.unclosed ∧
      (s.poll o v).session.cursor.handle.isSome = s.cursor.handle.isSome := by
  have hread := Cursor.read_frame v s.cursor o.bufferSize
  unfold poll
  rcases hr : s.cursor.read v o.bufferSize with ⟨_ | data, c, v₁⟩
  · rw [hr] at hread
    exact hread
  · rw [hr] at hread
    have hsize := Cursor.size_unclosed v₁ c
    dsimp only
    rcases hs : c.size v₁ with ⟨_ | size, v₂⟩
    · rw [hs] at hsize
      exact ⟨hsize.trans hread.1, hread.2⟩
    · rw [hs] at hsize
      dsimp only
      split
      · exact ⟨hsize.trans hread.1, hread.2⟩
      · obtain ⟨hv, hc⟩ := deliver_frame o.dispatch
          { session := { s with cursor := c, lastSize := size, splitter := (s.splitter.feed data).2 },
            volume := v₂, read := data.size } (s.splitter.feed data).1.toList
        rw [hv, hc]
        exact ⟨hsize.trans hread.1, hread.2⟩

/-- From `r` to `r'`, the session of the run holds a handle exactly while it runs, and the
volume saw one handle closed if the session ended on the way. -/
def Closes (r r' : Run) : Prop :=
  r'.session.cursor.handle.isSome = !r'.session.ended ∧
    r'.volume.unclosed = r.volume.unclosed - (if r'.session.ended then 1 else 0)

/-- A run whose session still runs, holds its handle and opened or closed nothing. -/
theorem closes_of_running {r r' : Run} (hh : r'.session.cursor.handle.isSome = true)
    (he : r'.session.ended = false) (hv : r'.volume.unclosed = r.volume.unclosed) : Closes r r' := by
  refine ⟨by rw [hh, he]; rfl, ?_⟩
  rw [hv, he]
  simp

/-- A run that ended its session, closing the handle that the session held. -/
theorem closes_of_finish {r r' : Run} {s : Session} {e : Ending} {c : Cursor} {v : Volume}
    (hc : c.handle.isSome = true) (hv : v.unclosed = r.volume.unclosed)
    (hs : r'.session = (s.finish e).1) (hvol : r'.volume = c.closeHandle v) : Closes r r' := by
  obtain ⟨h, hh⟩ := Option.isSome_iff_exists.mp hc
  have hended : r'.session.ended = true := hs ▸ (finish_key s e).2.1
  refine ⟨by rw [hended, hs]; rfl, ?_⟩
  rw [hended, hvol, Cursor.closeHandle_of_some hh, hv]
  simp

theorem Closes.trans {r r₁ r₂ : Run} (h₁ : Closes r r₁) (hended : r₁.session.ended = false)
    (h₂ : Closes r₁ r₂) : Closes r r₂ := by
  refine ⟨h₂.1, ?_⟩
  rw [h₂.2, h₁.2, hended]
  simp

/-- A session that runs and holds a handle keeps holding it while it runs, and closes it when
it ends, whichever way it ends. -/
theorem runFor_closes (o : TailOptions) (fuel : Nat) (r : Run) (hr : r.session.ended = false)
    (hh : r.session.cursor.handle.isSome = true) : Closes r (runFor o fuel r) := by
  induction fuel, r using runFor.induct o with
  | case1 r =>
    rw [runFor]
    exact closes_of_running hh hr rfl
  | case2 fuel r s hs => simp [s, hr] at hs
  | case3 fuel r s hs hcan s' out hfin =>
    -- cancelled before polling: the session ends as stopped and closes its handle
    rw [runFor]
    simp only [s] at hs hcan hfin
    simp only [hs, hcan, hfin, if_false, if_true, Bool.false_eq_true]
    exact closes_of_finish hh rfl (by rw [hfin]) rfl
  | case4 fuel r s hs hcan p e hend s' out hfin =>
    -- the poll ended the session
    rw [runFor]
    simp only [s, p] at hs hcan hend hfin
    simp only [hs, hcan, hend, hfin, if_false, Bool.false_eq_true]
    obtain ⟨hv, hkeep⟩ := poll_frame o r.volume r.session
    exact closes_of_finish (hkeep.trans hh) hv (by rw [hfin]) rfl
  | case5 fuel r s hs hcan p r₁ hend hread ih =>
    -- the poll read something: the session polls again
    rw [runFor]
    simp only [s, p] at hs hcan hend hread
    simp only [hs, hcan, hend, hread, if_false, if_true, Bool.false_eq_true]
    obtain ⟨hv, hkeep⟩ := poll_frame o r.volume r.session
    exact (closes_of_running (hkeep.trans hh) rfl hv).trans rfl (ih rfl (hkeep.trans hh))
  | case6 fuel r s hs hcan p r₁ hend hread sw f hex s' out hfin =>
    -- the poll read nothing and the existence check failed
    rw [runFor]
    simp only [s, p, r₁, sw] at hs hcan hend hread hex hfin
    simp only [hs, hcan, hend, hread, hex, hfin, if_false, Bool.false_eq_true]
    obtain ⟨hv, hkeep⟩ := poll_frame o r.volume r.session
    exact closes_of_finish (hkeep.trans hh) hv (by rw [hfin]) rfl
  | case7 fuel r s hs hcan p r₁ hend hread sw hex s' out hfin =>
    -- the poll read nothing and the path is gone
    rw [runFor]
    simp only [s, p, r₁, sw] at hs hcan hend hread hex hfin
    simp only [hs, hcan, hend, hread, hex, hfin, if_false, Bool.false_eq_true]
    obtain ⟨hv, hkeep⟩ := poll_frame o r.volume r.session
    exact closes_of_finish (hkeep.trans hh) hv (by rw [hfin]) rfl
  | case8 fuel r s hs hcan p r₁ hend hread sw hex hgo ih =>
    -- the poll read nothing, the path is there, and a fault or a cancellation is pending
    rw [runFor]
    simp only [s, p, r₁, sw] at hs hcan hend hread hex hgo
    simp only [hs, hcan, hend, hread, hex, hgo, if_false, if_true, Bool.false_eq_true]
    obtain ⟨hv, hkeep⟩ := poll_frame o r.volume r.session
    exact (closes_of_running (hkeep.trans hh) rfl hv).trans rfl (ih rfl (hkeep.trans hh))
  | case9 fuel r s hs hcan p r₁ hend hread sw hex hgo =>
    -- the poll read nothing and nothing is pending: the session waits
    rw [runFor]
    simp only [s, p, r₁, sw] at hs hcan hend hread hex hgo
    simp only [hs, hcan, hend, hread, hex, hgo, if_false, Bool.false_eq_true]
    obtain ⟨hv, hkeep⟩ := poll_frame o r.volume r.session
    exact closes_of_running (hkeep.trans hh) rfl hv

theorem settle_closes (o : TailOptions) (v : Volume) (s : Session) (he : s.ended = false)
    (hh : s.cursor.handle.isSome = true) : Closes ⟨s, v, #[], []⟩ (s.settle o v) :=
  runFor_closes o _ _ he hh

end Session

namespace Registry

/-- A cursor moved to the end, or not moved, still holds its handle. -/
theorem moved_handle {v : Volume} {c c' : Cursor} {skip : Bool} (hc : c.handle.isSome = true)
    (hm : (if skip then (c.seekEnd v).map (·.2) else .ok c : Except Failure Cursor) = .ok c') :
    c'.handle.isSome = true := by
  cases skip with
  | false =>
    obtain rfl : c = c' := by simpa using hm
    exact hc
  | true =>
    rcases hs : c.seekEnd v with _ | ⟨off, c₁⟩
    · simp [hs, Except.map] at hm
    · obtain rfl : c₁ = c' := by simpa [hs, Except.map] using hm
      exact Cursor.seekEnd_handle hs

/-- A launch hands the handle it opened to the session, or closes it again: when the move to
the end or the size call fails. -/
theorem launch_unclosed (v : Volume) (path : String) (skip : Bool) :
    match launch v path skip with
    | (.ok (c, _), v') => c.handle.isSome = true ∧ v'.unclosed = v.unclosed + 1
    | (.error _, v') => v'.unclosed = v.unclosed := by
  have hopen := Cursor.open_unclosed v path
  unfold launch
  rcases ho : Cursor.open v path with ⟨_ | c₀, v₁⟩ <;> rw [ho] at hopen
  · exact hopen
  · obtain ⟨hh₀, hcount₁⟩ := hopen
    obtain ⟨h₀, hc₀⟩ := Option.isSome_iff_exists.mp hh₀
    dsimp only
    rcases hm : (if skip then (c₀.seekEnd v₁).map (·.2) else .ok c₀ : Except Failure Cursor)
      with f | c₁
    · -- the move to the end failed: the opened cursor is closed
      simp only [hm]
      rw [Cursor.closeHandle_of_some hc₀, hcount₁]
      omega
    · have hh₁ := moved_handle hh₀ hm
      obtain ⟨h₁, hc₁⟩ := Option.isSome_iff_exists.mp hh₁
      have hsize := Cursor.size_unclosed v₁ c₁
      simp only [hm]
      rcases hs : c₁.size v₁ with ⟨_ | size, v₂⟩ <;> rw [hs] at hsize
      · -- the size call failed: the moved cursor is closed
        show (c₁.closeHandle v₂).unclosed = v.unclosed
        rw [Cursor.closeHandle_of_some hc₁, hsize, hcount₁]
        omega
      · exact ⟨hh₁, hsize.trans hcount₁⟩

/-- The number of registered sessions that run. -/
def running (r : Registry) : Nat := r.entries.countP fun s => !s.ended

/-- What a registry keeps of its handles: each registered session holds a handle exactly
while it runs, and the handles opened and not closed since the count stood at `base` are
those of the sessions that run. -/
structure Handled (base : Int) (r : Registry) : Prop where
  held : ∀ s ∈ r.entries, s.cursor.handle.isSome = !s.ended
  count : r.volume.unclosed = base + r.running

variable {r : Registry} {base : Int}

/-- A registered session stands apart from the others, by identifier and by number. -/
theorem Distinct.split (hd : r.Distinct) {s : Session} (hs : s ∈ r.entries) :
    ∃ a b, r.entries = a ++ s :: b ∧ ∀ t ∈ a ++ b, t.id ≠ s.id ∧ t.number ≠ s.number := by
  obtain ⟨a, b, hab⟩ := List.append_of_mem hs
  have hids := hd.ids
  have hnums := hd.numbers
  rw [hab, List.map_append, List.map_cons, List.nodup_middle, List.nodup_cons,
    ← List.map_append] at hids hnums
  refine ⟨a, b, hab, fun t ht => ⟨fun h => hids.1 ?_, fun h => hnums.1 ?_⟩⟩
  · exact List.mem_map.mpr ⟨t, ht, h⟩
  · exact List.mem_map.mpr ⟨t, ht, h⟩

theorem running_split {a b : List Session} {s : Session} (he : r.entries = a ++ s :: b) :
    r.running = a.countP (fun s => !s.ended) + b.countP (fun s => !s.ended) +
      (if s.ended then 0 else 1) := by
  rw [running, he, List.countP_append, List.countP_cons]
  cases s.ended <;> rfl

/-- Releasing an identifier keeps what the registry keeps of its handles: a session that ran
closes its handle as it leaves. -/
theorem Handled.release (hh : Handled base r) (hd : r.Distinct) (id : String) :
    Handled base (r.release id) := by
  by_cases hex : ∃ s ∈ r.entries, s.id = id
  case neg =>
    rw [release_of_not_mem (fun s hs h => hex ⟨s, hs, h⟩)]
    exact hh
  obtain ⟨s, hs, rfl⟩ := hex
  obtain ⟨hentries, -, hvolume, -⟩ := release_of_mem hd hs
  obtain ⟨a, b, hab, hothers⟩ := hd.split hs
  have hfilter : r.entries.filter (·.id ≠ s.id) = a ++ b := by
    rw [hab, List.filter_append, List.filter_cons_of_neg (by simp),
      List.filter_eq_self.mpr (fun t ht => by simpa using (hothers t (List.mem_append_left b ht)).1),
      List.filter_eq_self.mpr (fun t ht => by simpa using (hothers t (List.mem_append_right a ht)).1)]
  have hrun : (r.release s.id).running =
      a.countP (fun s => !s.ended) + b.countP (fun s => !s.ended) := by
    rw [running, hentries, hfilter, List.countP_append]
  refine ⟨fun t ht => ?_, ?_⟩
  · rw [hentries] at ht
    exact hh.held t (List.mem_filter.mp ht).1
  · have hcount := hh.count
    rw [running_split hab] at hcount
    rw [hrun, hvolume]
    cases he : s.ended
    · -- it ran: its handle is closed
      obtain ⟨h, hsome⟩ := Option.isSome_iff_exists.mp (by rw [hh.held s hs, he]; rfl)
      rw [if_neg Bool.false_ne_true, Cursor.closeHandle_of_some hsome, hcount, he]
      simp
      omega
    · rw [if_pos rfl, hcount, he]
      simp

/-- Moves along a list keep what the registry keeps of its handles, each from where the last
one left. -/
theorem Handled.foldl {α : Type} (f : Registry → α → Registry)
    (hadv : ∀ r a, r.Distinct → Advances r (f r a))
    (hf : ∀ r a, r.Distinct → Handled base r → Handled base (f r a)) :
    ∀ (as : List α) (r : Registry), r.Distinct → Handled base r → Handled base (as.foldl f r)
  | [], _, _, hh => hh
  | a :: as, r, hd, hh =>
    Handled.foldl f hadv hf as (f r a) ((hadv r a hd).distinct hd) (hf r a hd hh)

theorem Handled.stopAll (hh : Handled base r) (hd : r.Distinct) : Handled base r.stopAll :=
  Handled.foldl Registry.release (fun _ id hd => release_advances hd id)
    (fun _ id hd hh => hh.release hd id) _ r hd hh

theorem Handled.apply (hh : Handled base r) (hd : r.Distinct) (q : Request) :
    Handled base (r.apply q) := by
  cases q with
  | stop id => exact hh.release hd id
  | stopAll => exact hh.stopAll hd

/-- A start keeps what the registry keeps of its handles: a launch that fails leaves nothing
open, and one that succeeds gives its handle to the new session, which runs. -/
theorem Handled.start (hh : Handled base r) (hd : r.Distinct) (number : Nat) (id path : String)
    (skip : Bool) (l : Option Listener) : Handled base (r.start number id path skip l).2 := by
  have hrel := hh.release hd id
  unfold Registry.start
  split
  · exact hh
  · split
    · exact hh
    · split
      · exact hh
      · dsimp only
        split
        · exact hrel
        · have hlaunch := launch_unclosed (r.release id).volume path skip
          rcases hl : launch (r.release id).volume path skip with ⟨_ | ⟨c, size⟩, v⟩ <;>
            rw [hl] at hlaunch
          · -- the launch failed, and closed what it opened
            exact ⟨hrel.held, by rw [hlaunch]; exact hrel.count⟩
          · obtain ⟨hc, hv⟩ := hlaunch
            refine ⟨fun t ht => ?_, ?_⟩
            · rcases List.mem_append.mp ht with ht | ht
              · exact hrel.held t ht
              · rw [List.mem_singleton.mp ht]
                exact hc
            · have hcount := hrel.count
              simp only [running, List.countP_append] at hcount ⊢
              rw [hv, hcount]
              simp [Session.ended]
              omega

/-- Replacing a running session by how it ended up after a run keeps what the registry keeps
of its handles, when the run closed the session's handle exactly if it ended. -/
theorem Handled.replace (hh : Handled base r) (hd : r.Distinct) {s : Session} (hs : s ∈ r.entries)
    (he : s.ended = false) {r' : Registry} {t : Session}
    (hentries : r'.entries = r.entries.map fun u => if u.number = s.number then t else u)
    (ht : t.cursor.handle.isSome = !t.ended)
    (hv : r'.volume.unclosed = r.volume.unclosed - (if t.ended then 1 else 0)) :
    Handled base r' := by
  obtain ⟨a, b, hab, hothers⟩ := hd.split hs
  -- the other sessions have other numbers, so they stay as they are
  have hfix : ∀ l : List Session, (∀ u ∈ l, u.number ≠ s.number) →
      (l.map fun u => if u.number = s.number then t else u) = l := by
    intro l hl
    conv_rhs => rw [← List.map_id l]
    exact List.map_congr_left (fun u hu => if_neg (hl u hu))
  have hmap : r'.entries = a ++ t :: b := by
    rw [hentries, hab, List.map_append, List.map_cons, if_pos rfl,
      hfix a (fun u hu => (hothers u (List.mem_append_left b hu)).2),
      hfix b (fun u hu => (hothers u (List.mem_append_right a hu)).2)]
  refine ⟨fun u hu => ?_, ?_⟩
  · rw [hmap] at hu
    rcases List.mem_append.mp hu with hu | hu
    · exact hh.held u (by rw [hab]; exact List.mem_append_left _ hu)
    · rcases List.mem_cons.mp hu with rfl | hu
      · exact ht
      · exact hh.held u (by rw [hab]; exact List.mem_append_right _ (List.mem_cons_of_mem _ hu))
  · have hcount := hh.count
    rw [running_split hab, he] at hcount
    rw [running_split hmap, hv, hcount]
    cases t.ended
    · simp
    · simp
      omega

/-- Letting a session run keeps what the registry keeps of its handles, and so does carrying
out what its listener asked. -/
theorem Handled.settleOne (hh : Handled base r) (hd : r.Distinct) (number : Nat) :
    Handled base (r.settleOne number) := by
  unfold Registry.settleOne
  split
  · exact hh
  · rename_i s hfind
    have hs : s ∈ r.entries := List.mem_of_find?_eq_some hfind
    have hnum : s.number = number := by simpa using List.find?_some hfind
    subst hnum
    split
    · exact hh
    · rename_i he
      have he' : s.ended = false := by simpa using he
      have hrun := Session.settle_closes r.options r.volume s he' (by rw [hh.held s hs, he']; rfl)
      refine Handled.foldl Registry.apply (fun _ q hd => apply_advances hd q)
        (fun _ q hd hh => hh.apply hd q) _ _ ((run_advances hd hs he' rfl rfl).distinct hd) ?_
      exact hh.replace hd hs he' rfl hrun.1 hrun.2

theorem Handled.settle (hh : Handled base r) (hd : r.Distinct) : Handled base r.settle :=
  Handled.foldl Registry.settleOne (fun _ n hd => settleOne_advances hd n)
    (fun _ n hd hh => hh.settleOne hd n) _ r hd hh

end Registry

namespace Driven

open Registry

variable {w : Driven} {base : Int}

/-- Every change of the files along the calls leaves the volume's counts of handles as they
were: the files change, not the handles. -/
def FilesKeepCounts : Driven → List Call → Prop
  | _, [] => True
  | w, c :: cs =>
    (∀ v, c = .files v → v.opens = w.registry.volume.opens ∧ v.closes = w.registry.volume.closes) ∧
      (w.call c).FilesKeepCounts cs

theorem handled_init (v : Volume) (o : TailOptions) : Handled v.unclosed (init v o).registry :=
  ⟨by simp [init], by simp [init, running]⟩

/-- Every call keeps what the registry keeps of its handles. -/
theorem Sound.handled_call (hw : w.Sound) (hh : Handled base w.registry) (c : Call)
    (hc : ∀ v, c = .files v →
      v.opens = w.registry.volume.opens ∧ v.closes = w.registry.volume.closes) :
    Handled base (w.call c).registry := by
  cases c with
  | start id path skip l =>
    rw [call_start_registry]
    exact hh.start hw.distinct _ _ _ _ _
  | stop id => exact hh.release hw.distinct id
  | stopAll => exact hh.stopAll hw.distinct
  | close =>
    -- closing is marking the registry closed, then stopping all
    have hmark : Handled base { w.registry with closed := true } := ⟨hh.held, hh.count⟩
    exact hmark.stopAll ⟨hw.distinct.ids, hw.distinct.numbers⟩
  | files v =>
    obtain ⟨ho, hcl⟩ := hc v rfl
    refine ⟨hh.held, ?_⟩
    show v.unclosed = base + w.registry.running
    rw [Volume.unclosed, ho, hcl]
    exact hh.count
  | settle => exact hh.settle hw.distinct

theorem Sound.handled_run (cs : List Call) :
    ∀ {w : Driven}, w.Sound → Handled base w.registry → w.FilesKeepCounts cs →
      Handled base (w.run cs).registry := by
  induction cs with
  | nil => intro w _ hh _; exact hh
  | cons c cs ih =>
    intro w hw hh hk
    exact ih (hw.call c) (hw.handled_call hh c hk.1) hk.2

end Driven

open Driven Registry

end LiveTail
