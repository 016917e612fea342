import LiveTail.Proofs.Cancelling
import LiveTail.Proofs.Following
import LiveTail.Proofs.Reading

/-!
# A file that shrinks or goes away ends its session

A session remembers the size its file had at its last poll, and that size never goes down.
A poll first reads, then asks the size: when the size is below the one remembered, even
after a read that got nothing because the file was cut below the read offset, the session
ends as truncated with both sizes in the message, and nothing the poll read is fed to the
splitter or handed to the listener. A poll that read nothing and found the size kept checks
the path, and a path that is gone ends the session as truncated with the path in the
message. There is no recovery: a file cut below the size remembered and not grown back
before the next poll ends its session at that poll, unless a cancellation comes first or
the read or the status call fails, and the session hands out nothing more.

`runFor_induction_running` is the run lemma: a run is endings, polls and changes of phase
to polling or waiting; `runFor_of_shrunk` and `runFor_of_removed` say what a run whose first poll meets a shrunk or a removed file does.
-/
namespace LiveTail

namespace Volume

@[simp] theorem faultsAt_setFaults_self (v : Volume) (key : String) (f : Faults) :
    (v.setFaults key f).faultsAt key = f := by
  simp [faultsAt, setFaults]

/-- An open handle of a file reads when no read fault fires: the handle stays open on its
node, and neither the bytes nor the status fault of its path move. -/
theorem read_of_clean {v : Volume} {h : Handle} {n : Nat} (k : Nat) (hopen : h.isOpen = true)
    (hn : h.node = some n) (hf : (v.faultsAt h.key).reading ≠ some 0) :
    ∃ data h' v', v.read h k = (.ok data, h', v') ∧ h'.isOpen = true ∧ h'.node = some n ∧
      h'.key = h.key ∧ v'.blobs = v.blobs ∧
      (v'.faultsAt h.key).statting = (v.faultsAt h.key).statting := by
  -- the read fault lets this call through, counting it
  obtain ⟨left, hspend⟩ : ∃ left, Faults.spend (v.faultsAt h.key).reading = (false, left) := by
    rcases hr : (v.faultsAt h.key).reading with _ | _ | k
    · exact ⟨none, rfl⟩
    · exact absurd hr hf
    · exact ⟨some k, rfl⟩
  -- the volume after the call only counted it
  obtain ⟨v₀, hv₀, hb, hst⟩ : ∃ v₀, (if (v.faultsAt h.key).reading = left then v
      else v.setFaults h.key { v.faultsAt h.key with reading := left }) = v₀ ∧
      v₀.blobs = v.blobs ∧ (v₀.faultsAt h.key).statting = (v.faultsAt h.key).statting :=
    ⟨_, rfl, blobs_ite_setFaults .., by split <;> simp⟩
  unfold Volume.read
  simp only [hopen, Bool.not_true, Bool.false_eq_true, if_false, hspend, hv₀, hn]
  split <;> exact ⟨_, _, _, rfl, by simp [hopen], by simp [hn], rfl, hb, hst⟩

/-- An open handle of a file reports its node's size when no status fault fires. -/
theorem statHandle_of_clean {v : Volume} {h : Handle} {n : Nat} (hopen : h.isOpen = true)
    (hn : h.node = some n) (hf : (v.faultsAt h.key).statting ≠ some 0) :
    ∃ v', v.statHandle h = (.ok ⟨(v.bytes n).size, false⟩, v') := by
  obtain ⟨left, hspend⟩ : ∃ left, Faults.spend (v.faultsAt h.key).statting = (false, left) := by
    rcases hr : (v.faultsAt h.key).statting with _ | _ | k
    · exact ⟨none, rfl⟩
    · exact absurd hr hf
    · exact ⟨some k, rfl⟩
  obtain ⟨v₀, hv₀, hb⟩ : ∃ v₀, (if (v.faultsAt h.key).statting = left then v
      else v.setFaults h.key { v.faultsAt h.key with statting := left }) = v₀ ∧
      v₀.blobs = v.blobs := ⟨_, rfl, blobs_ite_setFaults ..⟩
  unfold statHandle
  simp only [hopen, Bool.not_true, Bool.false_eq_true, if_false, hspend, hv₀, hn,
    bytes_eq_of_blobs hb]
  exact ⟨_, rfl⟩

end Volume

namespace Session

theorem react_eq (s : Session) (r : Reaction) :
    (s.react r).1 = { s with cancelled := (s.react r).1.cancelled } := by
  cases r <;> rfl

/-- Handing out lines changes nothing of the session but whether it is cancelled. -/
theorem deliver_session (d : Dispatch) (p : Poll) (lines : List ByteArray) :
    (deliver d p lines).session =
      { p.session with cancelled := (deliver d p lines).session.cancelled } := by
  induction p, lines using deliver.induct d with
  | case1 p => rfl
  | case2 p line rest s hcan =>
    rw [show deliver d p (line :: rest) = p by simp only [deliver, s, hcan, if_true]]
  | case3 p line rest s hcan htrig value hfail hd =>
    rw [show (deliver d p (line :: rest)).session = p.session by
      simp [deliver, s, hcan, htrig, hfail, hd]]
  | case4 p line rest s hcan heard p' htrig value hfail hd ih =>
    simp only [deliver, s, hcan, htrig, hfail, hd, Bool.false_eq_true, if_false, if_true]
    exact ih
  | case5 p line rest s hcan heard p' htrig s' reqs hnf hreact ih =>
    have hstep : deliver d p (line :: rest) =
        deliver d { p' with session := s', requests := p'.requests ++ reqs } rest :=
      deliver_react hcan htrig hnf hreact rfl
    -- the reaction only cancels
    have hs' : s' = { p.session with cancelled := s'.cancelled } := by
      have h := react_eq p.session p.session.listener.reaction
      rwa [show p.session.react p.session.listener.reaction = (s', reqs) from hreact] at h
    rw [hstep, ih]
    generalize (deliver d { p' with session := s', requests := p'.requests ++ reqs } rest).session.cancelled = c
    rw [hs']
  | case6 p line rest s hcan heard p' htrig ih =>
    simp only [deliver, s, hcan, htrig, Bool.false_eq_true, if_false]
    exact ih

/-- A poll never lowers the size the session saw last. -/
theorem lastSize_le_poll (o : TailOptions) (v : Volume) (s : Session) :
    s.lastSize ≤ (s.poll o v).session.lastSize := by
  unfold poll
  rcases s.cursor.read v o.bufferSize with ⟨_ | data, c, v₁⟩
  · exact Nat.le_refl _
  · dsimp only
    rcases c.size v₁ with ⟨_ | size, v₂⟩
    · exact Nat.le_refl _
    · dsimp only
      split
      · exact Nat.le_refl _
      · rename_i hlt
        rw [deliver_session]
        dsimp only
        omega

/-- What holds of a run and is kept by ending its session, by a poll and by a change of
phase to polling or waiting holds after every run: a run is these steps one after
another. -/
theorem runFor_induction_running (o : TailOptions) (P : Run → Prop)
    (hfinish : ∀ (r : Run) (e : Ending), P r →
      P { r with session := (r.session.finish e).1,
                 volume := r.session.cursor.closeHandle r.volume,
                 heard := r.heard ++ (r.session.finish e).2 })
    (hpoll : ∀ r : Run, P r →
      P { r with session := (r.session.poll o r.volume).session,
                 volume := (r.session.poll o r.volume).volume,
                 heard := r.heard ++ (r.session.poll o r.volume).heard,
                 requests := r.requests ++ (r.session.poll o r.volume).requests })
    (hphase : ∀ (r : Run) (ph : Phase), (ph = .polling ∨ ph = .waiting) → P r →
      P { r with session := { r.session with phase := ph } })
    (fuel : Nat) (r : Run) (hr : P r) : P (runFor o fuel r) := by
  induction fuel, r using runFor.induct o with
  | case1 r => rwa [runFor]
  | case2 fuel r s hs =>
    rw [runFor]
    simp only [s] at hs
    simpa [hs] using hr
  | case3 fuel r s hs hcan s' out hfin =>
    -- cancelled before polling: the session ends as stopped
    rw [runFor]
    simp only [s] at hs hcan hfin
    simp only [hs, hcan, hfin, if_false, if_true, Bool.false_eq_true]
    have h := hfinish r Ending.stopped hr
    rwa [hfin] at h
  | case4 fuel r s hs hcan p e hend s' out hfin =>
    -- the poll ended the session
    rw [runFor]
    simp only [s, p] at hs hcan hend hfin
    simp only [hs, hcan, hend, hfin, if_false, Bool.false_eq_true]
    have h := hfinish _ e (hpoll r hr)
    rwa [hfin] at h
  | case5 fuel r s hs hcan p r₁ hend hread ih =>
    -- the poll read something: the session polls again
    rw [runFor]
    simp only [s, p] at hs hcan hend hread
    simp only [hs, hcan, hend, hread, if_false, if_true, Bool.false_eq_true]
    exact ih (hphase _ .polling (.inl rfl) (hpoll r hr))
  | case6 fuel r s hs hcan p r₁ hend hread sw f hex s' out hfin =>
    -- the poll read nothing and the existence check failed
    rw [runFor]
    simp only [s, p, r₁, sw] at hs hcan hend hread hex hfin
    simp only [hs, hcan, hend, hread, hex, hfin, if_false, Bool.false_eq_true]
    have h := hfinish _ ⟨.readError, f.message⟩ (hphase _ .waiting (.inr rfl) (hpoll r hr))
    rwa [hfin] at h
  | case7 fuel r s hs hcan p r₁ hend hread sw hex s' out hfin =>
    -- the poll read nothing and the path is gone
    rw [runFor]
    simp only [s, p, r₁, sw] at hs hcan hend hread hex hfin
    simp only [hs, hcan, hend, hread, hex, hfin, if_false, Bool.false_eq_true]
    have h := hfinish _ (Ending.removed (r.session.poll o r.volume).session.path)
      (hphase _ .waiting (.inr rfl) (hpoll r hr))
    rwa [hfin] at h
  | case8 fuel r s hs hcan p r₁ hend hread sw hex hgo ih =>
    -- the poll read nothing, the path is there, and a fault or a cancellation is pending
    rw [runFor]
    simp only [s, p, r₁, sw] at hs hcan hend hread hex hgo
    simp only [hs, hcan, hend, hread, hex, hgo, if_false, if_true, Bool.false_eq_true]
    exact ih (hphase _ .waiting (.inr rfl) (hpoll r hr))
  | case9 fuel r s hs hcan p r₁ hend hread sw hex hgo =>
    -- the poll read nothing and nothing is pending: the session waits
    rw [runFor]
    simp only [s, p, r₁, sw] at hs hcan hend hread hex hgo
    simp only [hs, hcan, hend, hread, hex, hgo, if_false, Bool.false_eq_true]
    exact hphase _ .waiting (.inr rfl) (hpoll r hr)

/-- What holds of a run and is kept by ending its session, by a poll and by any change of
phase holds after every run. -/
theorem runFor_induction (o : TailOptions) (P : Run → Prop)
    (hfinish : ∀ (r : Run) (e : Ending), P r →
      P { r with session := (r.session.finish e).1,
                 volume := r.session.cursor.closeHandle r.volume,
                 heard := r.heard ++ (r.session.finish e).2 })
    (hpoll : ∀ r : Run, P r →
      P { r with session := (r.session.poll o r.volume).session,
                 volume := (r.session.poll o r.volume).volume,
                 heard := r.heard ++ (r.session.poll o r.volume).heard,
                 requests := r.requests ++ (r.session.poll o r.volume).requests })
    (hphase : ∀ (r : Run) (ph : Phase), P r → P { r with session := { r.session with phase := ph } })
    (fuel : Nat) (r : Run) (hr : P r) : P (runFor o fuel r) :=
  runFor_induction_running o P hfinish hpoll (fun r ph _ => hphase r ph) fuel r hr

/-- A run never lowers the size the session saw last. -/
theorem lastSize_le_runFor (o : TailOptions) (fuel : Nat) (r : Run) :
    r.session.lastSize ≤ (runFor o fuel r).session.lastSize :=
  runFor_induction o (fun r' => r.session.lastSize ≤ r'.session.lastSize)
    (fun _ _ h => h) (fun r' h => Nat.le_trans h (lastSize_le_poll o r'.volume r'.session))
    (fun _ _ h => h) fuel r (Nat.le_refl _)

/-- A poll that finds the file smaller than at the last poll ends the session at once; it
hands out nothing and feeds nothing of what it read. -/
theorem poll_of_shrunk {o : TailOptions} {v v₁ v₂ : Volume} {s : Session} {data : ByteArray}
    {c : Cursor} {size : Nat} (hread : s.cursor.read v o.bufferSize = (.ok data, c, v₁))
    (hsize : c.size v₁ = (.ok size, v₂)) (hlt : size < s.lastSize) :
    s.poll o v = { session := { s with cursor := c }, volume := v₂,
                   ending := some (Ending.shrank s.lastSize size) } := by
  simp [poll, hread, hsize, hlt]

/-- A run whose first poll finds the file smaller ends the session with that truncation,
its one ending, and nothing else is handed out. -/
theorem runFor_of_shrunk {o : TailOptions} {fuel : Nat} {r : Run} {v₁ v₂ : Volume}
    {data : ByteArray} {c : Cursor} {size : Nat} (hended : r.session.ended = false)
    (hcan : r.session.cancelled = false)
    (hread : r.session.cursor.read r.volume o.bufferSize = (.ok data, c, v₁))
    (hsize : c.size v₁ = (.ok size, v₂)) (hlt : size < r.session.lastSize) :
    (runFor o (fuel + 1) r).session.ended = true ∧
      (runFor o (fuel + 1) r).heard.toList = r.heard.toList ++
        (if r.session.listener.hearsEnding then
          [.ending r.session.number r.session.id (Ending.shrank r.session.lastSize size)] else []) := by
  have hpoll := poll_of_shrunk hread hsize hlt
  simp only [runFor, hended, hcan, hpoll, Bool.false_eq_true, if_false]
  refine ⟨by simp [finish, ended], ?_⟩
  by_cases hl : r.session.listener.hearsEnding <;> simp [finish, hl]

/-- A run whose first poll reads nothing, finds the size kept and the path gone ends the
session as removed, its one ending, and nothing else is handed out. -/
theorem runFor_of_removed {o : TailOptions} {fuel : Nat} {r : Run} {v₁ v₂ : Volume}
    {data : ByteArray} {c : Cursor} {size : Nat} (hended : r.session.ended = false)
    (hcan : r.session.cancelled = false)
    (hread : r.session.cursor.read r.volume o.bufferSize = (.ok data, c, v₁))
    (hzero : data.size = 0) (hsize : c.size v₁ = (.ok size, v₂)) (hle : r.session.lastSize ≤ size)
    (hgone : c.exists v₂ = .ok false) :
    (runFor o (fuel + 1) r).session.ended = true ∧
      (runFor o (fuel + 1) r).heard.toList = r.heard.toList ++
        (if r.session.listener.hearsEnding then
          [.ending r.session.number r.session.id (Ending.removed r.session.path)] else []) := by
  -- the poll feeds an empty chunk, so it hands out nothing and goes on
  have hpoll : r.session.poll o r.volume =
      { session := { r.session with
          cursor := c, lastSize := size, splitter := (r.session.splitter.feed data).2 },
        volume := v₂, read := data.size } := by
    simp [poll, hread, hsize, Nat.not_lt.mpr hle, Splitter.feed_of_size_zero _ _ hzero, deliver]
  simp only [runFor, hended, hcan, hpoll, hzero, Bool.false_eq_true, if_false, Nat.lt_irrefl,
    hgone]
  refine ⟨by simp [finish, ended], ?_⟩
  by_cases hl : r.session.listener.hearsEnding <;> simp [finish, hl]

/-- A run of a session that has ended changes nothing and hands out nothing. -/
theorem runFor_of_ended (o : TailOptions) (fuel : Nat) {r : Run} (hended : r.session.ended = true) :
    runFor o fuel r = r := by
  cases fuel <;> simp [runFor, hended]

/-- A poll of a session on `v` meets no read or status failure: the session's handle is open
on node `n`, a file, and no fault on its path fires at this read or this status call. -/
structure ReadsCleanly (v : Volume) (s : Session) (h : Handle) (n : Nat) : Prop where
  handle : s.cursor.handle = some h
  isOpen : h.isOpen = true
  node : h.node = some n
  reading : (v.faultsAt h.key).reading ≠ some 0
  statting : (v.faultsAt h.key).statting ≠ some 0

/-- A poll that meets no failure reads a chunk and then finds the size of the file as it is. -/
theorem ReadsCleanly.observes {v : Volume} {s : Session} {h : Handle} {n : Nat}
    (hc : ReadsCleanly v s h n) (k : Nat) :
    ∃ data c v₁ v₂, s.cursor.read v k = (.ok data, c, v₁) ∧
      c.size v₁ = (.ok (v.bytes n).size, v₂) := by
  obtain ⟨data, h', v₁, hread, hopen', hn', hkey, hb, hst⟩ :=
    Volume.read_of_clean k hc.isOpen hc.node hc.reading
  obtain ⟨v₂, hstat⟩ := @Volume.statHandle_of_clean v₁ h' n hopen' hn'
    (by rw [hkey, hst]; exact hc.statting)
  refine ⟨data, { s.cursor with handle := some h' }, v₁, v₂, ?_, ?_⟩
  · simp [Cursor.read, hc.handle, hread]
  · simp [Cursor.size, hstat, Volume.bytes_eq_of_blobs hb]

/-- Truncation and removal are detected, with no recovery. The size a session saw last never
goes down along a run. A poll that finds the file smaller than that size, also after a read
that got nothing, ends the session with one truncation naming both sizes, and nothing it
read is fed or handed out. A poll that read nothing, found the size kept and the path gone
ends it as removed, naming the path. So a file cut below the size seen last ends its
session at the next poll, unless a cancellation comes first or the read or the status call
fails, and nothing more of the session is heard. -/
theorem shrunk_or_removed_file_ends_its_session (o : TailOptions) :
    (∀ (fuel : Nat) (r : Run), r.session.lastSize ≤ (runFor o fuel r).session.lastSize) ∧
    (∀ (fuel : Nat) (r : Run) (data : ByteArray) (c : Cursor) (v₁ : Volume) (size : Nat)
        (v₂ : Volume),
      r.session.ended = false → r.session.cancelled = false →
      r.session.cursor.read r.volume o.bufferSize = (.ok data, c, v₁) →
      c.size v₁ = (.ok size, v₂) → size < r.session.lastSize →
      (r.session.poll o r.volume).heard = #[] ∧
        (r.session.poll o r.volume).session.splitter = r.session.splitter ∧
        (runFor o (fuel + 1) r).session.ended = true ∧
        (runFor o (fuel + 1) r).heard.toList = r.heard.toList ++
          (if r.session.listener.hearsEnding then
            [.ending r.session.number r.session.id
              ⟨.truncated, "file truncated from " ++ toString r.session.lastSize ++ " to " ++
                toString size ++ " bytes"⟩] else [])) ∧
    (∀ (fuel : Nat) (r : Run) (data : ByteArray) (c : Cursor) (v₁ : Volume) (size : Nat)
        (v₂ : Volume),
      r.session.ended = false → r.session.cancelled = false →
      r.session.cursor.read r.volume o.bufferSize = (.ok data, c, v₁) → data.size = 0 →
      c.size v₁ = (.ok size, v₂) → r.session.lastSize ≤ size → c.exists v₂ = .ok false →
      (runFor o (fuel + 1) r).session.ended = true ∧
        (runFor o (fuel + 1) r).heard.toList = r.heard.toList ++
          (if r.session.listener.hearsEnding then
            [.ending r.session.number r.session.id ⟨.truncated, "file removed: " ++ r.session.path⟩]
          else [])) ∧
    (∀ (fuel : Nat) (s : Session) (v : Volume) (heard : Array Delivery) (requests : List Request)
        (h : Handle) (n : Nat),
      s.ended = false → s.cancelled = false → ReadsCleanly v s h n → (v.bytes n).size < s.lastSize →
      let r := runFor o (fuel + 1) ⟨s, v, heard, requests⟩
      r.session.ended = true ∧
        r.heard.toList = heard.toList ++
          (if s.listener.hearsEnding then
            [.ending s.number s.id (Ending.shrank s.lastSize (v.bytes n).size)] else []) ∧
        ∀ (later : Nat) (v' : Volume) (heard' : Array Delivery) (requests' : List Request),
          (runFor o later ⟨r.session, v', heard', requests'⟩).heard = heard') := by
  refine ⟨lastSize_le_runFor o, ?_, ?_, ?_⟩
  · intro fuel r data c v₁ size v₂ hended hcan hread hsize hlt
    rw [poll_of_shrunk hread hsize hlt]
    exact ⟨rfl, rfl, runFor_of_shrunk hended hcan hread hsize hlt⟩
  · intro fuel r data c v₁ size v₂ hended hcan hread hzero hsize hle hgone
    exact runFor_of_removed hended hcan hread hzero hsize hle hgone
  · intro fuel s v heard requests h n hended hcan hclean hcut
    -- the poll reads and then finds the file below the size seen last
    obtain ⟨data, c, v₁, v₂, hread, hsize⟩ := hclean.observes o.bufferSize
    obtain ⟨hfin, hheard⟩ :=
      @runFor_of_shrunk o fuel ⟨s, v, heard, requests⟩ v₁ v₂ data c _ hended hcan hread hsize hcut
    exact ⟨hfin, hheard, fun later v' heard' requests' => by
      rw [@runFor_of_ended o later ⟨_, v', heard', requests'⟩ hfin]⟩

/-- A file of one byte, where two were. -/
def cutVolume : Volume := { entries := [("/a", .file 0)], blobs := #[⟨#[120]⟩] }

/-- A session at the start of `/a` that saw two bytes there at its last poll. -/
def cutSession : Session :=
  { number := 1, id := "a", path := "/a", cursor := ⟨"/a", some ⟨"/a", "/a", some 0, 0, true⟩⟩,
    lastSize := 2, listener := {} }

/-- The node of `/a` with its path removed. -/
def goneVolume : Volume := { blobs := #[⟨#[120]⟩] }

/-- A session at the end of the one byte of `/a`. -/
def endSession : Session :=
  { number := 1, id := "a", path := "/a", cursor := ⟨"/a", some ⟨"/a", "/a", some 0, 1, true⟩⟩,
    lastSize := 1, listener := {} }

theorem goneVolume_resolve : goneVolume.resolve "/a" = "/a" := oneLineVolume_resolve

/-- A session that saw two bytes of a file now cut to one ends at its next poll, truncated
from 2 to 1 bytes, whether the cut is seen by the poll or stated of the file; a session at
the end of a file whose path is removed ends as removed. -/
theorem cut_and_removed_files_end_their_sessions :
    let c : Cursor := ⟨"/a", some ⟨"/a", "/a", some 0, 1, true⟩⟩
    let h : Handle := ⟨"/a", "/a", some 0, 0, true⟩
    (cutSession.ended = false ∧ cutSession.cancelled = false ∧
      cutSession.cursor.read cutVolume ({} : TailOptions).bufferSize =
        (.ok ⟨#[120]⟩, c, cutVolume) ∧
      c.size cutVolume = (.ok 1, cutVolume) ∧ 1 < cutSession.lastSize ∧
      (runFor {} 1 ⟨cutSession, cutVolume, #[], []⟩).heard.toList =
        [.ending 1 "a" ⟨.truncated, "file truncated from 2 to 1 bytes"⟩]) ∧
    (endSession.ended = false ∧ endSession.cancelled = false ∧
      endSession.cursor.read goneVolume ({} : TailOptions).bufferSize =
        (.ok ByteArray.empty, endSession.cursor, goneVolume) ∧ ByteArray.empty.size = 0 ∧
      endSession.cursor.size goneVolume = (.ok 1, goneVolume) ∧ endSession.lastSize ≤ 1 ∧
      endSession.cursor.exists goneVolume = .ok false ∧
      (runFor {} 1 ⟨endSession, goneVolume, #[], []⟩).heard.toList =
        [.ending 1 "a" ⟨.truncated, "file removed: /a"⟩]) ∧
    (ReadsCleanly cutVolume cutSession h 0 ∧ (cutVolume.bytes 0).size < cutSession.lastSize ∧
      (runFor {} 1 ⟨cutSession, cutVolume, #[], []⟩).session.ended = true) := by
  intro c h
  have hread : cutSession.cursor.read cutVolume ({} : TailOptions).bufferSize =
      (.ok ⟨#[120]⟩, c, cutVolume) := rfl
  have hsize : c.size cutVolume = (.ok 1, cutVolume) := rfl
  have hgone : endSession.cursor.exists goneVolume = .ok false := by
    simp only [Cursor.exists, endSession, Volume.exists?, Volume.stat, Volume.find,
      goneVolume_resolve]
    rfl
  have hclean : ReadsCleanly cutVolume cutSession h 0 := ⟨rfl, rfl, rfl, by decide, by decide⟩
  have hcut : (cutVolume.bytes 0).size < cutSession.lastSize := by decide
  obtain ⟨-, hshrunk, hremoved, hfile⟩ := shrunk_or_removed_file_ends_its_session {}
  obtain ⟨-, -, -, hheard⟩ := hshrunk 0 ⟨cutSession, cutVolume, #[], []⟩ ⟨#[120]⟩ c cutVolume 1
    cutVolume rfl rfl hread hsize (by decide)
  obtain ⟨-, hheard'⟩ := hremoved 0 ⟨endSession, goneVolume, #[], []⟩ ByteArray.empty
    endSession.cursor goneVolume 1 goneVolume rfl rfl rfl rfl rfl (Nat.le_refl 1) hgone
  obtain ⟨hended, -, -⟩ := hfile 0 cutSession cutVolume #[] [] h 0 rfl rfl hclean hcut
  refine ⟨⟨rfl, rfl, hread, hsize, by decide, hheard.trans (by rfl)⟩,
    ⟨rfl, rfl, rfl, rfl, rfl, Nat.le_refl 1, hgone, hheard'.trans (by rfl)⟩,
    hclean, hcut, hended⟩

end Session
end LiveTail
