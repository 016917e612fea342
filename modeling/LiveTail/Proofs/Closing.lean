import LiveTail.Proofs.Buffering
/-!
# Closing a shared feed

Whatever the emits, the reader and the calls of close do, and in whatever order their steps
come, closing is safe (`Calls.Guarded`):

* no emit sends into the closed channel of events;
* on a closed feed no emit is past looking at the flag on its way to a send, so an emit begun
  after the flag was set returns false without sending;
* one call runs the closing, so `done` and the events are each closed once, while open, and a
  call of close made after one returned returns at its first step.

Closing cannot hang either. Once `done` is closed, every select an emit can wait at has it as
a case, so an emit holding the read side returns after a few steps of its own
(`Calls.Guarded.returns`); the closing call then gets the write side, and from any state the
steps of the calls alone, with no read, close the feed and return every call
(`Calls.Guarded.settles`).
-/
namespace LiveTail.Feed

namespace Stage

/-- The standings an emit can have on a closed feed. -/
def afterClose : Stage → Bool
  | .waiting | .looking | .leaving false | .returned _ => true
  | _ => false

/-- The most steps of its own an emit has left before it returns, once `done` is closed. -/
def toGo : Stage → Nat
  | .waiting => 6
  | .looking => 5
  | .offering => 4
  | .dropping => 3
  | .sending => 2
  | .leaving _ => 1
  | .returned _ | .failed => 0

theorem toGo_le (s : Stage) : s.toGo ≤ 6 := by
  cases s <;> simp [toGo]

/-- The standings of an emit begun on a closed feed: it never gets past looking at the flag. -/
def late : Stage → Bool
  | .waiting | .looking | .leaving false | .returned false => true
  | _ => false

theorem late_eq_true_iff {s : Stage} :
    s.late = true ↔ s = .waiting ∨ s = .looking ∨ s = .leaving false ∨ s = .returned false := by
  cases s with
  | leaving ok => cases ok <;> simp [late]
  | returned ok => cases ok <;> simp [late]
  | _ => simp [late]

/-- An emit begun on a closed feed has not sent. -/
theorem sentIt_of_late {s : Stage} (h : s.late = true) : s.sentIt = false := by
  cases s with
  | leaving ok => cases ok <;> first | rfl | cases h
  | returned ok => cases ok <;> first | rfl | cases h
  | _ => rfl

end Stage

namespace Closing

/-- The call stands in the closing it runs. -/
def runs : Closing → Bool
  | .asking | .draining | .releasing => true
  | _ => false

/-- The write side of the lock while the running call stands here. -/
def writer : Closing → Writer
  | .draining => .asked
  | .releasing => .held
  | _ => .free

/-- Whether the flag is set while the running call stands here. -/
def flagged : Closing → Bool
  | .releasing => true
  | _ => false

end Closing

namespace Advance

variable {α : Type} {c : Calls α} {s s' : Stage} {eff : Effect}

/-- Every advance brings an emit nearer its return. -/
theorem toGo_lt (h : Advance c s s' eff) : s'.toGo < s.toGo := by
  cases h <;> simp [Stage.toGo]

/-- On a closed feed an emit advances only to standings a closed feed allows. -/
theorem afterClose (h : Advance c s s' eff) (hc : c.closed = true) (hs : s.afterClose = true) :
    s'.afterClose = true := by
  cases h with
  | enter => rfl
  | refuse => rfl
  | offer hc' => rw [hc] at hc'; cases hc'
  | wait hc' => rw [hc] at hc'; cases hc'
  | leave => rfl
  | _ => cases hs

/-- An emit fails only by sending on a closed feed, which no standing a closed feed allows
leads to. -/
theorem ne_failed (h : Advance c s s' eff) (hq : c.closed = true → s.afterClose = true) :
    s' ≠ .failed := by
  rintro rfl
  cases h with
  | failOffering hc => cases hq hc
  | failSending hc => cases hq hc

/-- On a closed feed an emit begun there stays short of a send. -/
theorem late (h : Advance c s s' eff) (hc : c.closed = true) (hs : s.late = true) :
    s'.late = true := by
  cases h with
  | enter => rfl
  | refuse => rfl
  | offer hc' => rw [hc] at hc'; cases hc'
  | wait hc' => rw [hc] at hc'; cases hc'
  | leave ok => cases ok <;> first | rfl | cases hs
  | _ => cases hs

end Advance

namespace Calls

variable {α : Type} {c c' c'' : Calls α}

/-! ## The part of a feed that closing reads -/

/-- Two states agree on the calls of close, the once, `done`, the flag and the lock. -/
structure SameLock (c c' : Calls α) : Prop where
  closes : c'.closes = c.closes
  once : c'.once = c.once
  done : c'.done = c.done
  closed : c'.closed = c.closed
  writer : c'.writer = c.writer

theorem SameLock.rfl : SameLock c c := ⟨Eq.refl _, Eq.refl _, Eq.refl _, Eq.refl _, Eq.refl _⟩

theorem SameLock.trans (h : SameLock c c') (h' : SameLock c' c'') : SameLock c c'' :=
  ⟨h'.closes.trans h.closes, h'.once.trans h.once, h'.done.trans h.done,
    h'.closed.trans h.closed, h'.writer.trans h.writer⟩

/-- An emit's step leaves closing alone. -/
theorem sameLock_stepEmit (c : Calls α) (i : Nat) (em : Emit α) (k : Case) :
    SameLock c (c.stepEmit i em k) := by
  rcases c.stepEmit_cases i em k with ⟨h, -⟩ | ⟨s, eff, -, h⟩
  · rw [h]
    exact .rfl
  · rw [h]
    cases eff with
    | keep => exact ⟨rfl, rfl, rfl, rfl, rfl⟩
    | push => exact ⟨rfl, rfl, rfl, rfl, rfl⟩
    | take =>
      unfold apply takeOldest
      cases c.buffer <;> exact ⟨rfl, rfl, rfl, rfl, rfl⟩

theorem sameLock_step (c : Calls α) (i : Nat) (k : Case) : SameLock c (c.move (.step i k)) := by
  cases hi : c.emits[i]? with
  | none => rw [move_step_of_none hi]; exact .rfl
  | some em => rw [move_step_of_some hi]; exact c.sameLock_stepEmit i em k

/-- Steps of emits alone leave closing alone. -/
theorem sameLock_run_steps (c : Calls α) (ms : List (Move α))
    (hms : ∀ m ∈ ms, ∃ i k, m = .step i k) : SameLock c (c.run ms) := by
  induction ms generalizing c with
  | nil => exact .rfl
  | cons m ms ih =>
    obtain ⟨i, k, rfl⟩ := hms m List.mem_cons_self
    rw [run_cons]
    exact (c.sameLock_step i k).trans (ih _ fun m hm => hms m (List.mem_cons_of_mem _ hm))

/-- A stuck emit's step changes nothing. -/
theorem stepEmit_of_stuck {i : Nat} {em : Emit α} {k : Case} (h : Stuck c em.stage k) :
    c.stepEmit i em k = c := by
  unfold stepEmit
  generalize em.stage = s at h ⊢
  cases h with
  | waiting hw => simp [hw]
  | full hc hr => simp [hc, Nat.not_lt_of_le hr]
  | undone hd => simp [hd]
  | returned ok => rfl
  | failed => rfl

/-- Steps of a stuck emit change nothing. -/
theorem run_steps_of_stuck {i : Nat} {em : Emit α} {k : Case} (hi : c.emits[i]? = some em)
    (h : Stuck c em.stage k) (n : Nat) : c.run (List.replicate n (.step i k)) = c := by
  induction n with
  | zero => rfl
  | succ n ih => rw [List.replicate_succ, run_cons, move_step_of_some hi, stepEmit_of_stuck h, ih]

/-- Steps of one emit leave the others where they stand. -/
theorem run_steps_other (c : Calls α) {i j : Nat} (hij : i ≠ j) (k : Case) (n : Nat) :
    (c.run (List.replicate n (.step i k))).emits[j]? = c.emits[j]? := by
  induction n generalizing c with
  | zero => rfl
  | succ n ih =>
    rw [List.replicate_succ, run_cons, ih]
    cases hi : c.emits[i]? with
    | none => rw [move_step_of_none hi]
    | some em =>
      rw [move_step_of_some hi]
      rcases c.stepEmit_cases i em k with ⟨h, -⟩ | ⟨s, eff, -, h⟩
      · rw [h]
      · rw [h, setEmit_emits, List.getElem?_set_ne hij, (apply_frame c i eff).1]

theorem length_run_steps (c : Calls α) (i : Nat) (k : Case) (n : Nat) :
    (c.run (List.replicate n (.step i k))).emits.length = c.emits.length := by
  induction n generalizing c with
  | zero => rfl
  | succ n ih =>
    rw [List.replicate_succ, run_cons, ih]
    cases hi : c.emits[i]? with
    | none => rw [move_step_of_none hi]
    | some em =>
      rw [move_step_of_some hi]
      rcases c.stepEmit_cases i em k with ⟨h, -⟩ | ⟨s, eff, -, h⟩
      · rw [h]
      · rw [h, setEmit_emits, List.length_set, (apply_frame c i eff).1]

/-! ## What every run keeps -/

/-- What keeps closing safe under every interleaving of calls. -/
structure Guarded (c : Calls α) : Prop where
  /-- No emit sent into the closed channel of events. -/
  unfailed : ∀ em ∈ c.emits, em.stage ≠ .failed
  /-- On a closed feed no emit is past looking at the flag on its way to a send. -/
  quiet : c.closed = true → ∀ em ∈ c.emits, em.stage.afterClose = true
  /-- Before the closing runs nothing is closed, the lock is free, and every call of close
  waits to run it. -/
  idle : c.once = .idle →
    c.done = false ∧ c.closed = false ∧ c.writer = .free ∧ ∀ st ∈ c.closes, st = .called
  /-- While it runs, `done` is closed, one call `r` runs it with the lock and the flag as its
  standing leaves them, and every other call waits. -/
  running : c.once = .running → c.done = true ∧ ∃ (r : Nat) (st : Closing),
    c.closes[r]? = some st ∧ st.runs = true ∧ c.writer = st.writer ∧ c.closed = st.flagged ∧
    ∀ j, j ≠ r → ∀ st', c.closes[j]? = some st' → st' = .called
  /-- Once it finished all is closed, the lock is free, and every call of close has returned
  or is about to. -/
  finished : c.once = .finished → c.done = true ∧ c.closed = true ∧ c.writer = .free ∧
    ∀ st ∈ c.closes, st = .called ∨ st = .returned

theorem guarded_fresh (size : Option Int) (mode : Backpressure) :
    (fresh size mode : Calls α).Guarded where
  unfailed em h := by simp [fresh] at h
  quiet h := by simp [fresh] at h
  idle _ := ⟨rfl, rfl, rfl, by simp [fresh]⟩
  running h := by simp [fresh] at h
  finished h := by simp [fresh] at h

/-- A change that leaves closing alone keeps it safe when the emits keep the two laws. -/
theorem Guarded.of_sameLock (h : c.Guarded) (hs : SameLock c c')
    (hu : ∀ em ∈ c'.emits, em.stage ≠ .failed)
    (hq : c'.closed = true → ∀ em ∈ c'.emits, em.stage.afterClose = true) : c'.Guarded where
  unfailed := hu
  quiet := hq
  idle := by rw [hs.once, hs.done, hs.closed, hs.writer, hs.closes]; exact h.idle
  running := by rw [hs.once, hs.done, hs.closed, hs.writer, hs.closes]; exact h.running
  finished := by rw [hs.once, hs.done, hs.closed, hs.writer, hs.closes]; exact h.finished

theorem Guarded.emit (h : c.Guarded) (e : α) : (c.move (.emit e)).Guarded where
  unfailed em hem := by
    rcases List.mem_append.mp hem with hem | hem
    · exact h.unfailed em hem
    · rw [List.mem_singleton.mp hem]
      exact Stage.noConfusion
  quiet hc em hem := by
    rcases List.mem_append.mp hem with hem | hem
    · exact h.quiet hc em hem
    · rw [List.mem_singleton.mp hem]
      rfl
  idle := h.idle
  running := h.running
  finished := h.finished

theorem Guarded.close (h : c.Guarded) : (c.move .close).Guarded where
  unfailed := h.unfailed
  quiet := h.quiet
  idle ho := by
    obtain ⟨hd, hc, hw, hall⟩ := h.idle ho
    refine ⟨hd, hc, hw, fun st hst => ?_⟩
    rcases List.mem_append.mp hst with hst | hst
    · exact hall st hst
    · exact List.mem_singleton.mp hst
  running ho := by
    obtain ⟨hd, r, st, hr, hruns, hw, hc, hothers⟩ := h.running ho
    have hlt : r < c.closes.length := (List.getElem?_eq_some_iff.mp hr).1
    refine ⟨hd, r, st, ?_, hruns, hw, hc, fun j hj st' hst' => ?_⟩
    · show (c.closes ++ [.called])[r]? = some st
      rw [List.getElem?_append_left hlt, hr]
    · change (c.closes ++ [.called])[j]? = some st' at hst'
      by_cases hjl : j < c.closes.length
      · rw [List.getElem?_append_left hjl] at hst'
        exact hothers j hj st' hst'
      · rw [List.getElem?_append_right (Nat.le_of_not_lt hjl)] at hst'
        exact (List.mem_singleton.mp (List.mem_of_getElem? hst')).symm ▸ rfl
  finished ho := by
    obtain ⟨hd, hc, hw, hall⟩ := h.finished ho
    refine ⟨hd, hc, hw, fun st hst => ?_⟩
    rcases List.mem_append.mp hst with hst | hst
    · exact hall st hst
    · exact .inl (List.mem_singleton.mp hst)

theorem Guarded.receive (h : c.Guarded) : (c.move .receive).Guarded := by
  change (c.takeOldest none).Guarded
  rcases takeOldest_cases c none with ⟨-, hc⟩ | ⟨t, rest, -, -, -, -, he, -⟩
  · rw [hc]
    exact h
  · have hs : SameLock c (c.takeOldest none) := by
      unfold takeOldest
      cases c.buffer <;> exact ⟨rfl, rfl, rfl, rfl, rfl⟩
    exact h.of_sameLock hs (he ▸ h.unfailed) (by rw [hs.closed, he]; exact h.quiet)

/-- An emit's step keeps closing safe: on a closed feed no emit is where it could send. -/
theorem Guarded.stepEmit (h : c.Guarded) {i : Nat} {em : Emit α} (hi : c.emits[i]? = some em)
    (k : Case) : (c.stepEmit i em k).Guarded := by
  have hmem : em ∈ c.emits := List.mem_of_getElem? hi
  have hs := c.sameLock_stepEmit i em k
  rcases c.stepEmit_cases i em k with ⟨heq, -⟩ | ⟨s, eff, hadv, heq⟩
  · rw [heq]
    exact h
  -- only the emit advanced; its new standing is what the two laws are about
  have he : (c.stepEmit i em k).emits = c.emits.set i
      { em with stage := s, foundFull := em.foundFull || decide (s = .dropping) } := by
    rw [heq, setEmit_emits, (apply_frame c i eff).1]
  have hnew : ∀ x ∈ (c.stepEmit i em k).emits, x ∈ c.emits ∨ x.stage = s := by
    intro x hx
    rw [he] at hx
    rcases List.mem_or_eq_of_mem_set hx with hx | hx
    · exact .inl hx
    · exact .inr (by rw [hx])
  have hq : c.closed = true → em.stage.afterClose = true := fun hc => h.quiet hc em hmem
  refine h.of_sameLock hs (fun x hx => ?_) (fun hc x hx => ?_)
  · rcases hnew x hx with hx | hx
    · exact h.unfailed x hx
    · rw [hx]
      exact hadv.ne_failed hq
  · rw [hs.closed] at hc
    rcases hnew x hx with hx | hx
    · exact h.quiet hc x hx
    · rw [hx]
      exact hadv.afterClose hc (hq hc)

/-- What stands in a list after one place is set: the new value, or what stood elsewhere. -/
theorem mem_set_cases {β : Type} {l : List β} {j : Nat} {x y : β} (hx : x ∈ l.set j y) :
    x = y ∨ ∃ k, k ≠ j ∧ l[k]? = some x := by
  obtain ⟨k, hk⟩ := List.mem_iff_getElem?.mp hx
  by_cases hkj : k = j
  · subst hkj
    rw [List.getElem?_set_self (by simpa using (List.getElem?_eq_some_iff.mp hk).1)] at hk
    exact .inl (Option.some.inj hk).symm
  · rw [List.getElem?_set_ne (Ne.symm hkj)] at hk
    exact .inr ⟨k, hkj, hk⟩

/-- With no emit holding the read side, every emit waits for it or has returned. -/
theorem Guarded.afterClose_of_readers (h : c.Guarded) (hr : c.readers = 0) :
    ∀ em ∈ c.emits, em.stage.afterClose = true := by
  intro em hem
  have hnot : em.stage.holdsRead = false := by
    simpa using List.countP_eq_zero.mp hr em hem
  have hnf := h.unfailed em hem
  cases hs : em.stage <;> simp_all [Stage.holdsRead, Stage.afterClose]

/-- A step of a call of close keeps closing safe: only the call that runs the closing moves
the lock and the flag, and it sets the flag only once no emit holds the read side. -/
theorem Guarded.stepClose (h : c.Guarded) {j : Nat} {st : Closing}
    (hj : c.closes[j]? = some st) : (c.stepClose j st).Guarded := by
  have hlt : j < c.closes.length := (List.getElem?_eq_some_iff.mp hj).1
  cases ho : c.once with
  | idle =>
    -- every call waits; this one begins the closing
    obtain ⟨hd, hc, hw, hall⟩ := h.idle ho
    obtain rfl : st = .called := hall st (List.mem_of_getElem? hj)
    have hstep : c.stepClose j .called =
        { c with closes := c.closes.set j .asking, once := .running, done := true } := by
      simp [Calls.stepClose, ho]
    rw [hstep]
    exact {
      unfailed := h.unfailed
      quiet := fun hc' => by cases hc.symm.trans hc'
      idle := fun ho' => by cases ho'
      running := fun _ => ⟨rfl, j, .asking, by simp [hlt], rfl, hw, hc, fun k hk st' hst' => by
        rw [List.getElem?_set_ne (Ne.symm hk)] at hst'
        exact hall st' (List.mem_of_getElem? hst')⟩
      finished := fun ho' => by cases ho' }
  | running =>
    obtain ⟨hd, r, str, hr, hruns, hw, hc, hothers⟩ := h.running ho
    by_cases hjr : j = r
    · subst hjr
      obtain rfl : st = str := Option.some.inj (hj.symm.trans hr)
      have hothers' : ∀ st', ∀ x ∈ c.closes.set j st', x = st' ∨ x = .called := by
        intro st' x hx
        rcases mem_set_cases hx with hx | ⟨k, hk, hkx⟩
        · exact .inl hx
        · exact .inr (hothers k hk x hkx)
      cases st with
      | called => cases hruns
      | returned => cases hruns
      | asking =>
        -- the closing call asks for the write side
        exact {
          unfailed := h.unfailed
          quiet := h.quiet
          idle := fun ho' => by cases ho.symm.trans ho'
          running := fun _ => ⟨hd, j, .draining, by simp [Calls.stepClose, hlt], rfl, rfl, hc,
            fun k hk st' hst' => by
              simp only [Calls.stepClose] at hst'
              rw [List.getElem?_set_ne (Ne.symm hk)] at hst'
              exact hothers k hk st' hst'⟩
          finished := fun ho' => by cases ho.symm.trans ho' }
      | draining =>
        by_cases hr0 : c.readers = 0
        · -- no emit holds the read side: the closing call takes the write side and sets the flag
          have hstep : c.stepClose j .draining =
              { c with closes := c.closes.set j .releasing, writer := .held, closed := true } := by
            simp [Calls.stepClose, hr0]
          rw [hstep]
          exact {
            unfailed := h.unfailed
            quiet := fun _ => h.afterClose_of_readers hr0
            idle := fun ho' => by cases ho.symm.trans ho'
            running := fun _ => ⟨hd, j, .releasing, by simp [hlt], rfl, rfl, rfl,
              fun k hk st' hst' => by
                rw [List.getElem?_set_ne (Ne.symm hk)] at hst'
                exact hothers k hk st' hst'⟩
            finished := fun ho' => by cases ho.symm.trans ho' }
        · have hstep : c.stepClose j .draining = c := by simp [Calls.stepClose, hr0]
          rw [hstep]
          exact h
      | releasing =>
        -- the closing call releases the write side: the closing finished
        exact {
          unfailed := h.unfailed
          quiet := h.quiet
          idle := fun ho' => by cases ho'
          running := fun ho' => by cases ho'
          finished := fun _ => ⟨hd, hc, rfl, fun x hx => (hothers' .returned x hx).symm⟩ }
    · -- another call waits for the one that runs the closing
      obtain rfl : st = .called := hothers j hjr st hj
      have hstep : c.stepClose j .called = c := by simp [Calls.stepClose, ho]
      rw [hstep]
      exact h
  | finished =>
    obtain ⟨hd, hc, hw, hall⟩ := h.finished ho
    rcases hall st (List.mem_of_getElem? hj) with rfl | rfl
    · -- a later call returns at once
      have hstep : c.stepClose j .called = { c with closes := c.closes.set j .returned } := by
        simp [Calls.stepClose, ho]
      rw [hstep]
      exact {
        unfailed := h.unfailed
        quiet := h.quiet
        idle := fun ho' => by cases ho.symm.trans ho'
        running := fun ho' => by cases ho.symm.trans ho'
        finished := fun _ => ⟨hd, hc, hw, fun x hx => by
          rcases List.mem_or_eq_of_mem_set hx with hx | hx
          · exact hall x hx
          · exact .inr hx⟩ }
    · exact h

/-- Every move keeps closing safe. -/
theorem Guarded.move (h : c.Guarded) (m : Move α) : (c.move m).Guarded := by
  cases m with
  | emit e => exact h.emit e
  | close => exact h.close
  | step i k =>
    cases hi : c.emits[i]? with
    | none => rw [move_step_of_none hi]; exact h
    | some em => rw [move_step_of_some hi]; exact h.stepEmit hi k
  | closeStep j =>
    cases hj : c.closes[j]? with
    | none => rw [move_closeStep_of_none hj]; exact h
    | some st => rw [move_closeStep_of_some hj]; exact h.stepClose hj
  | receive => exact h.receive

theorem Guarded.run (h : c.Guarded) (ms : List (Move α)) : (c.run ms).Guarded := by
  induction ms generalizing c with
  | nil => exact h
  | cons m ms ih => exact ih (h.move m)

/-! ## The closing runs once -/

/-- A call of close has returned only once the closing finished. -/
theorem Guarded.finished_of_returned (h : c.Guarded) {j : Nat}
    (hj : c.closes[j]? = some .returned) : c.once = .finished := by
  cases ho : c.once with
  | idle => cases (h.idle ho).2.2.2 _ (List.mem_of_getElem? hj)
  | running =>
    obtain ⟨-, r, st, hr, hruns, -, -, hothers⟩ := h.running ho
    by_cases hjr : j = r
    · subst hjr
      obtain rfl := Option.some.inj (hj.symm.trans hr)
      cases hruns
    · cases hothers j hjr _ hj
  | finished => rfl

/-- Only one call of close runs the closing. -/
theorem Guarded.runs_unique (h : c.Guarded) {j k : Nat} {stj stk : Closing}
    (hj : c.closes[j]? = some stj) (hk : c.closes[k]? = some stk) (hrj : stj.runs = true)
    (hrk : stk.runs = true) : j = k := by
  cases ho : c.once with
  | idle =>
    rw [(h.idle ho).2.2.2 stj (List.mem_of_getElem? hj)] at hrj
    cases hrj
  | running =>
    obtain ⟨-, r, -, -, -, -, -, hothers⟩ := h.running ho
    -- a call other than `r` waits, so it does not run the closing
    have hr : ∀ i st, c.closes[i]? = some st → st.runs = true → i = r := by
      intro i st hi hst
      by_contra hir
      rw [hothers i hir st hi] at hst
      cases hst
    rw [hr j stj hj hrj, hr k stk hk hrk]
  | finished =>
    rcases (h.finished ho).2.2.2 stj (List.mem_of_getElem? hj) with rfl | rfl <;> cases hrj

/-- The call about to close the events finds them open. -/
theorem Guarded.open_of_draining (h : c.Guarded) {j : Nat}
    (hj : c.closes[j]? = some .draining) : c.closed = false := by
  cases ho : c.once with
  | idle => exact (h.idle ho).2.1
  | running =>
    obtain ⟨-, r, st, hr, -, -, hc, hothers⟩ := h.running ho
    by_cases hjr : j = r
    · subst hjr
      obtain rfl := Option.some.inj (hj.symm.trans hr)
      exact hc
    · cases hothers j hjr _ hj
  | finished =>
    rcases (h.finished ho).2.2.2 _ (List.mem_of_getElem? hj) with h' | h' <;> cases h'

/-- Once the closing finished, a step of a call of close makes it return, and changes nothing
else. -/
theorem Guarded.closeStep_of_finished (h : c.Guarded) (ho : c.once = .finished) (j : Nat) :
    c.move (.closeStep j) = { c with closes := c.closes.set j .returned } := by
  cases hj : c.closes[j]? with
  | none =>
    rw [move_closeStep_of_none hj,
      List.set_eq_of_length_le (List.getElem?_eq_none_iff.mp hj)]
  | some st =>
    rw [move_closeStep_of_some hj]
    rcases (h.finished ho).2.2.2 st (List.mem_of_getElem? hj) with rfl | rfl
    · simp [Calls.stepClose, ho]
    · obtain ⟨hlt, hget⟩ := List.getElem?_eq_some_iff.mp hj
      show c = _
      rw [← hget, List.set_getElem_self]

/-! ## Closing cannot hang -/

/-- Once `done` is closed, a step of an emit that can move brings it nearer its return: every
select it can wait at has `done` as a ready case. -/
theorem Guarded.step_done (h : c.Guarded) (hd : c.done = true) {i : Nat} {em : Emit α}
    (hi : c.emits[i]? = some em) (hmove : em.stage = .waiting → c.writer = .free)
    (hret : ∀ ok, em.stage ≠ .returned ok) :
    ∃ em', (c.move (.step i .done)).emits[i]? = some em' ∧ em'.stage.toGo < em.stage.toGo := by
  rw [move_step_of_some hi]
  rcases c.stepEmit_cases i em .done with ⟨-, hstuck⟩ | ⟨s, eff, hadv, heq⟩
  · -- under `done` only an emit waiting for a lock that is not free is stuck
    exfalso
    have hnf := h.unfailed em (List.mem_of_getElem? hi)
    generalize em.stage = s at hstuck hmove hret hnf
    cases hstuck with
    | waiting hw => exact hw (hmove rfl)
    | undone hd' => rw [hd] at hd'; cases hd'
    | returned ok => exact hret ok rfl
    | failed => exact hnf rfl
  · refine ⟨{ em with stage := s, foundFull := em.foundFull || decide (s = .dropping) }, ?_,
      hadv.toGo_lt⟩
    rw [heq, setEmit_emits, (apply_frame c i eff).1,
      List.getElem?_set_self (List.getElem?_eq_some_iff.mp hi).1]

/-- Once `done` is closed, an emit that can move returns within as many steps of its own as it
has to go, taking `done` at its select. -/
theorem Guarded.returns (h : c.Guarded) (hd : c.done = true) {i : Nat} {em : Emit α}
    (hi : c.emits[i]? = some em) (hmove : em.stage = .waiting → c.writer = .free) {n : Nat}
    (hn : em.stage.toGo ≤ n) :
    ∃ ok, ((c.run (List.replicate n (.step i .done))).emits[i]?).map (·.stage) =
      some (.returned ok) := by
  induction n generalizing c em with
  | zero =>
    -- nothing left to go: it has returned, since it never fails
    have hnf := h.unfailed em (List.mem_of_getElem? hi)
    cases hs : em.stage with
    | returned ok => exact ⟨ok, by simp [hi, hs]⟩
    | failed => exact absurd hs hnf
    | _ => rw [hs] at hn; simp [Stage.toGo] at hn
  | succ n ih =>
    by_cases hret : ∃ ok, em.stage = .returned ok
    · obtain ⟨ok, hs⟩ := hret
      refine ⟨ok, ?_⟩
      rw [run_steps_of_stuck hi (by rw [hs]; exact .returned ok)]
      simp [hi, hs]
    · simp only [not_exists] at hret
      obtain ⟨em', hi', hlt⟩ := h.step_done hd hi hmove hret
      rw [List.replicate_succ, run_cons]
      refine ih (h.move _) ((c.sameLock_step i .done).done.trans hd) hi' (fun hw => ?_) (by omega)
      -- an emit that moved is past waiting for good
      have := Stage.toGo_le em.stage
      rw [hw] at hlt
      change 6 < em.stage.toGo at hlt
      omega

/-- Once `done` is closed, an emit holding the read side returns within five steps of its own,
taking `done`, and one waiting at its send returns false. -/
theorem Guarded.holder_returns (h : c.Guarded) (hd : c.done = true) {i : Nat} {em : Emit α}
    (hi : c.emits[i]? = some em) (hhold : em.stage.holdsRead = true) :
    ∃ ok, ((c.run (List.replicate 5 (.step i .done))).emits[i]?).map (·.stage) =
      some (.returned ok) ∧ (em.stage = .sending → ok = false) := by
  have hmove : em.stage = .waiting → c.writer = .free := by
    intro hw
    rw [hw] at hhold
    cases hhold
  have h5 : em.stage.toGo ≤ 5 := by
    cases hs : em.stage <;> simp_all [Stage.toGo, Stage.holdsRead]
  obtain ⟨ok, hok⟩ := h.returns hd hi hmove h5
  refine ⟨ok, hok, fun hs => ?_⟩
  -- from its send, `done` leads it out with false
  have hlt := (List.getElem?_eq_some_iff.mp hi).1
  have h1 : c.move (.step i .done) = c.setEmit i { em with stage := .leaving false } := by
    rw [move_step_of_some hi]
    simp [Calls.stepEmit, hs, hd]
  set c1 := c.setEmit i { em with stage := .leaving false }
  have hi1 : c1.emits[i]? = some { em with stage := .leaving false } := by simp [c1, hlt]
  have h2 : c1.move (.step i .done) = c1.setEmit i { em with stage := .returned false } := by
    rw [move_step_of_some hi1]
    rfl
  have hi2 : (c1.setEmit i { em with stage := .returned false }).emits[i]? =
      some { em with stage := .returned false } := by simp [c1, hlt]
  rw [show List.replicate 5 (Move.step i .done : Move α) =
      .step i .done :: .step i .done :: List.replicate 3 (.step i .done) from rfl,
    run_cons, h1, run_cons, h2, run_steps_of_stuck hi2 (.returned false), hi2] at hok
  simpa using hok.symm

/-- An emit is through: it returned, or it waits for the read side of a lock that is not
free. -/
def Through (w : Writer) (s : Stage) : Prop := (∃ ok, s = .returned ok) ∨ s = .waiting ∧ w ≠ .free

/-- An emit that is through holds no read side. -/
theorem Through.holdsRead {w : Writer} {s : Stage} (h : Through w s) : s.holdsRead = false := by
  rcases h with ⟨ok, rfl⟩ | ⟨rfl, -⟩ <;> rfl

/-- Every emit in turn takes six steps of its own, taking `done` at its select. -/
def stepEach (n : Nat) : List (Move α) :=
  (List.range n).flatMap fun i => List.replicate 6 (.step i .done)

theorem stepEach_succ (n : Nat) :
    (stepEach (n + 1) : List (Move α)) = stepEach n ++ List.replicate 6 (.step n .done) := by
  simp [stepEach, List.range_succ, List.flatMap_append]

theorem mem_stepEach {m : Move α} {n : Nat} (hm : m ∈ stepEach n) : ∃ i, m = .step i .done := by
  simp only [stepEach, List.mem_flatMap, List.mem_replicate] at hm
  obtain ⟨i, -, -, rfl⟩ := hm
  exact ⟨i, rfl⟩

/-- Once `done` is closed, six steps of its own bring an emit through. -/
theorem Guarded.through_one (h : c.Guarded) (hd : c.done = true) {i : Nat} {em : Emit α}
    (hi : c.emits[i]? = some em) :
    ∃ em', (c.run (List.replicate 6 (.step i .done))).emits[i]? = some em' ∧
      Through c.writer em'.stage := by
  by_cases hw : em.stage = .waiting ∧ c.writer ≠ .free
  · refine ⟨em, ?_, .inr hw⟩
    rw [run_steps_of_stuck hi (by rw [hw.1]; exact .waiting hw.2)]
    exact hi
  · have hmove : em.stage = .waiting → c.writer = .free := fun hs => by
      by_contra hne
      exact hw ⟨hs, hne⟩
    obtain ⟨ok, hok⟩ := h.returns hd hi hmove (Stage.toGo_le em.stage)
    obtain ⟨em', hi', hs'⟩ := Option.map_eq_some_iff.mp hok
    exact ⟨em', hi', .inl ⟨ok, hs'⟩⟩

/-- Once `done` is closed, when the first `n` emits took their six steps in turn, each is
through, the others stand as they did, and closing is as it was. -/
theorem Guarded.run_stepEach (h : c.Guarded) (hd : c.done = true) (n : Nat) :
    SameLock c (c.run (stepEach n)) ∧ (c.run (stepEach n)).emits.length = c.emits.length ∧
      (∀ i < n, ∀ em, (c.run (stepEach n)).emits[i]? = some em → Through c.writer em.stage) ∧
      ∀ i, n ≤ i → (c.run (stepEach n)).emits[i]? = c.emits[i]? := by
  induction n with
  | zero => exact ⟨.rfl, rfl, fun i hi => absurd hi (Nat.not_lt_zero i), fun i _ => rfl⟩
  | succ n ih =>
    obtain ⟨hs, hlen, hthrough, hrest⟩ := ih
    set d := c.run (stepEach n)
    have hsteps : ∀ m ∈ (List.replicate 6 (.step n .done) : List (Move α)), ∃ i k, m = .step i k :=
      fun m hm => ⟨n, .done, (List.mem_replicate.mp hm).2⟩
    rw [stepEach_succ, run_append]
    refine ⟨hs.trans (d.sameLock_run_steps _ hsteps), by rw [length_run_steps, hlen],
      fun i hi em hem => ?_, fun i hi => ?_⟩
    · by_cases hin : i = n
      · -- the emit that just took its steps
        subst hin
        cases hdi : d.emits[i]? with
        | none =>
          have hle := List.getElem?_eq_none_iff.mp hdi
          rw [List.getElem?_eq_none (by rw [length_run_steps]; exact hle)] at hem
          cases hem
        | some em0 =>
          obtain ⟨em', hi', hthr⟩ := (h.run _).through_one (hs.done.trans hd) hdi
          rw [hi'] at hem
          cases hem
          rw [← hs.writer]
          exact hthr
      · rw [run_steps_other d (Ne.symm hin)] at hem
        exact hthrough i (by omega) em hem
    · rw [run_steps_other d (by omega), hrest i (by omega)]

/-- With every emit through, none holds the read side. -/
theorem readers_of_through (c : Calls α) {w : Writer}
    (hall : ∀ (i : Nat) (em : Emit α), c.emits[i]? = some em → Through w em.stage) :
    c.readers = 0 := by
  rw [readers, List.countP_eq_zero]
  intro em hem
  obtain ⟨i, hi⟩ := List.mem_iff_getElem?.mp hem
  rw [(hall i em hi).holdsRead]
  decide

/-- Once `done` is closed, when every emit took its six steps in turn, each is through. -/
theorem Guarded.through_all (h : c.Guarded) (hd : c.done = true) :
    ∀ (i : Nat) (em : Emit α), (c.run (stepEach c.emits.length)).emits[i]? = some em →
      Through c.writer em.stage := by
  obtain ⟨-, hlen, hthrough, -⟩ := h.run_stepEach hd c.emits.length
  intro i em hem
  have hi : i < c.emits.length := hlen ▸ (List.getElem?_eq_some_iff.mp hem).1
  exact hthrough i hi em hem

/-- The call of close `r` steps once, every emit takes its six steps in turn, and `r` steps
three more times. -/
def finishing (r n : Nat) : List (Move α) :=
  .closeStep r :: (stepEach n ++ List.replicate 3 (.closeStep r))

theorem move_closeStep_asking {r : Nat} (hr : c.closes[r]? = some .asking) :
    c.move (.closeStep r) = { c with closes := c.closes.set r .draining, writer := .asked } := by
  rw [move_closeStep_of_some hr]
  rfl

theorem move_closeStep_draining {r : Nat} (hr : c.closes[r]? = some .draining)
    (h0 : c.readers = 0) :
    c.move (.closeStep r) =
      { c with closes := c.closes.set r .releasing, writer := .held, closed := true } := by
  rw [move_closeStep_of_some hr]
  simp [Calls.stepClose, h0]

theorem move_closeStep_releasing {r : Nat} (hr : c.closes[r]? = some .releasing) :
    c.move (.closeStep r) =
      { c with closes := c.closes.set r .returned, writer := .free, once := .finished } := by
  rw [move_closeStep_of_some hr]
  rfl

/-- Once the closing finished, steps of a call of close leave it finished. -/
theorem Guarded.run_closeSteps_of_finished (h : c.Guarded) (ho : c.once = .finished)
    (j k : Nat) : (c.run (List.replicate k (.closeStep j))).once = .finished := by
  induction k generalizing c with
  | zero => exact ho
  | succ k ih =>
    rw [List.replicate_succ, run_cons]
    exact ih (h.move _) (by rw [h.closeStep_of_finished ho]; exact ho)

/-- With no emit holding the read side, the call waiting for the write side takes it, sets
the flag and releases it: the closing finished. -/
theorem Guarded.finish_of_drained (h : c.Guarded) {r : Nat} (hr : c.closes[r]? = some .draining)
    (h0 : c.readers = 0) (k : Nat) :
    (c.run (List.replicate (k + 2) (.closeStep r))).once = .finished := by
  have hlt := (List.getElem?_eq_some_iff.mp hr).1
  have h1 := move_closeStep_draining hr h0
  have hr1 : (c.move (.closeStep r)).closes[r]? = some .releasing := by
    rw [h1]
    simp [hlt]
  have h2 := move_closeStep_releasing hr1
  rw [show k + 2 = (k + 1) + 1 from rfl, List.replicate_succ, List.replicate_succ, run_cons,
    run_cons]
  exact ((h.move _).move _).run_closeSteps_of_finished (by rw [h2]) r k

/-- Once `done` is closed, the emits' steps and two of its own let the call waiting for the
write side finish the closing. -/
theorem Guarded.finish_of_draining (h : c.Guarded) (hd : c.done = true) {r : Nat}
    (hr : c.closes[r]? = some .draining) (k : Nat) :
    ((c.run (stepEach c.emits.length)).run (List.replicate (k + 2) (.closeStep r))).once =
      .finished := by
  obtain ⟨hs, -, -, -⟩ := h.run_stepEach hd c.emits.length
  exact (h.run _).finish_of_drained (by rw [hs.closes]; exact hr)
    ((c.run _).readers_of_through (h.through_all hd)) k

/-- The call that runs the closing finishes it, whatever its standing, while the emits take
their steps. -/
theorem Guarded.run_finishing (h : c.Guarded) (ho : c.once = .running) {r : Nat}
    {st : Closing} (hr : c.closes[r]? = some st) (hruns : st.runs = true) :
    (c.run (finishing r c.emits.length)).once = .finished := by
  have hd := (h.running ho).1
  have hlt := (List.getElem?_eq_some_iff.mp hr).1
  have he : (c.move (.closeStep r)).emits = c.emits := by
    rw [move_closeStep_of_some hr]
    exact (stepClose_frame c r st).1
  have hg1 := h.move (.closeStep r)
  rw [finishing, run_cons, run_append, ← he]
  cases st with
  | called => cases hruns
  | returned => cases hruns
  | asking =>
    -- it asks for the write side, then waits for the emits
    have h1 := move_closeStep_asking hr
    exact hg1.finish_of_draining (by rw [h1]; exact hd) (by rw [h1]; simp [hlt]) 1
  | draining =>
    by_cases h0 : c.readers = 0
    · -- it takes the write side at once; the emits' steps leave the closing alone
      have h1 := move_closeStep_draining hr h0
      have hr1 : (c.move (.closeStep r)).closes[r]? = some .releasing := by
        rw [h1]
        simp [hlt]
      obtain ⟨hs, -, -, -⟩ := hg1.run_stepEach (by rw [h1]; exact hd)
        (c.move (.closeStep r)).emits.length
      rw [show List.replicate 3 (Move.closeStep r : Move α) =
          .closeStep r :: List.replicate 2 (.closeStep r) from rfl, run_cons]
      exact ((hg1.run _).move _).run_closeSteps_of_finished
        (by rw [move_closeStep_releasing (hs.closes ▸ hr1)]) r 2
    · have h1 : c.move (.closeStep r) = c := by
        rw [move_closeStep_of_some hr]
        simp [Calls.stepClose, h0]
      rw [h1]
      exact h.finish_of_draining hd hr 1
  | releasing =>
    -- it releases the write side: the closing finished
    have ho1 : (c.move (.closeStep r)).once = .finished := by rw [move_closeStep_releasing hr]
    obtain ⟨hs, -, -, -⟩ := hg1.run_stepEach (hg1.finished ho1).1
      (c.move (.closeStep r)).emits.length
    exact (hg1.run _).run_closeSteps_of_finished (hs.once.trans ho1) r 3

/-- Every call of close in turn takes one step. -/
def closeEach (n : Nat) : List (Move α) := (List.range n).map .closeStep

/-- Once the closing finished, a step of each of the first `n` calls of close makes it return,
changing nothing else. -/
theorem Guarded.run_closeEach (h : c.Guarded) (ho : c.once = .finished) (n : Nat) :
    (c.run (closeEach n)).emits = c.emits ∧ (c.run (closeEach n)).closed = c.closed ∧
      (c.run (closeEach n)).writer = c.writer ∧ (c.run (closeEach n)).once = .finished ∧
      (c.run (closeEach n)).closes.length = c.closes.length ∧
      ∀ j < n, ∀ st, (c.run (closeEach n)).closes[j]? = some st → st = .returned := by
  induction n with
  | zero => exact ⟨rfl, rfl, rfl, ho, rfl, fun j hj => absurd hj (Nat.not_lt_zero j)⟩
  | succ n ih =>
    obtain ⟨he, hc, hw, ho', hlen, hret⟩ := ih
    rw [closeEach, List.range_succ, List.map_append, run_append, ← closeEach, List.map_singleton,
      run_cons, run_nil, (h.run _).closeStep_of_finished ho' n]
    refine ⟨he, hc, hw, ho', by rw [List.length_set, hlen], fun j hj st hst => ?_⟩
    change ((c.run (closeEach n)).closes.set n .returned)[j]? = some st at hst
    by_cases hjn : j = n
    · subst hjn
      have hlt : j < (c.run (closeEach j)).closes.length := by
        simpa using (List.getElem?_eq_some_iff.mp hst).1
      rw [List.getElem?_set_self hlt] at hst
      exact (Option.some.inj hst).symm
    · rw [List.getElem?_set_ne (Ne.symm hjn)] at hst
      exact hret j (by omega) st hst

/-- Once the closing finished, the emits' steps and a step of each call of close return every
call, with the flag set and the lock free. -/
theorem Guarded.settles_of_finished (h : c.Guarded) (ho : c.once = .finished) :
    let d := c.run (stepEach c.emits.length ++ closeEach c.closes.length)
    d.closed = true ∧ d.writer = .free ∧ (∀ st ∈ d.closes, st = .returned) ∧
      ∀ em ∈ d.emits, ∃ ok, em.stage = .returned ok := by
  intro d
  obtain ⟨hd, hc, hw, -⟩ := h.finished ho
  obtain ⟨hs, -, -, -⟩ := h.run_stepEach hd c.emits.length
  obtain ⟨he, hc2, hw2, -, hlen, hret⟩ :=
    (h.run _).run_closeEach (hs.once.trans ho) c.closes.length
  have hd' : d = (c.run (stepEach c.emits.length)).run (closeEach c.closes.length) :=
    run_append _ _ _
  rw [hd']
  refine ⟨hc2.trans (hs.closed.trans hc), hw2.trans (hs.writer.trans hw), fun st hst => ?_,
    fun em hem => ?_⟩
  · obtain ⟨j, hj⟩ := List.mem_iff_getElem?.mp hst
    have hjl := (List.getElem?_eq_some_iff.mp hj).1
    rw [hlen, hs.closes] at hjl
    exact hret j hjl st hj
  · -- the lock is free, so every emit returned
    rw [he] at hem
    obtain ⟨i, hi⟩ := List.mem_iff_getElem?.mp hem
    rcases h.through_all hd i em hi with hr | ⟨-, hne⟩
    · exact hr
    · exact absurd hw hne

/-- The moves of calls already made, emits taking `done`: no read and no new call. -/
def OwnSteps (ms : List (Move α)) : Prop :=
  ∀ m ∈ ms, (∃ i, m = .step i .done) ∨ ∃ j, m = .closeStep j

theorem ownSteps_finishing (r n : Nat) : OwnSteps (finishing r n : List (Move α)) := by
  intro m hm
  simp only [finishing, List.mem_cons, List.mem_append, List.mem_replicate] at hm
  rcases hm with rfl | hm | ⟨-, rfl⟩
  · exact .inr ⟨r, rfl⟩
  · exact .inl (mem_stepEach hm)
  · exact .inr ⟨r, rfl⟩

/-- From any state after a call of close, steps of the calls already made finish the
closing. -/
theorem Guarded.exists_finished (h : c.Guarded) (hne : c.closes ≠ []) :
    ∃ ms, OwnSteps ms ∧ (c.run ms).once = .finished := by
  cases ho : c.once with
  | finished => exact ⟨[], by simp [OwnSteps], ho⟩
  | running =>
    obtain ⟨-, r, st, hr, hruns, -⟩ := h.running ho
    exact ⟨_, ownSteps_finishing r c.emits.length, h.run_finishing ho hr hruns⟩
  | idle =>
    -- the first call begins the closing
    obtain ⟨-, -, -, hall⟩ := h.idle ho
    have h0 : c.closes[0]? = some .called := by
      obtain ⟨st, rest, hcl⟩ := List.exists_cons_of_ne_nil hne
      rw [hcl, hall st (by rw [hcl]; exact List.mem_cons_self)]
      rfl
    have ho1 : (c.move (.closeStep 0)).once = .running := by
      rw [move_closeStep_of_some h0]
      simp [Calls.stepClose, ho]
    have hg1 := h.move (.closeStep 0)
    obtain ⟨-, r, st, hr, hruns, -⟩ := hg1.running ho1
    have he : (c.move (.closeStep 0)).emits = c.emits := by
      rw [move_closeStep_of_some h0]
      exact (stepClose_frame c 0 _).1
    refine ⟨.closeStep 0 :: finishing r c.emits.length, fun m hm => ?_, ?_⟩
    · rcases List.mem_cons.mp hm with rfl | hm
      · exact .inr ⟨0, rfl⟩
      · exact ownSteps_finishing r _ m hm
    · rw [run_cons, ← he]
      exact hg1.run_finishing ho1 hr hruns

/-- From any state after a call of close, steps of the calls already made, with no read and
every emit taking `done`, set the flag, free the lock and return every call. -/
theorem Guarded.settles (h : c.Guarded) (hne : c.closes ≠ []) :
    ∃ ms, OwnSteps ms ∧ (c.run ms).closed = true ∧ (c.run ms).writer = .free ∧
      (∀ st ∈ (c.run ms).closes, st = .returned) ∧
      ∀ em ∈ (c.run ms).emits, ∃ ok, em.stage = .returned ok := by
  obtain ⟨ms, hms, ho⟩ := h.exists_finished hne
  refine ⟨ms ++ (stepEach (c.run ms).emits.length ++ closeEach (c.run ms).closes.length),
    fun m hm => ?_, ?_⟩
  · rcases List.mem_append.mp hm with hm | hm
    · exact hms m hm
    rcases List.mem_append.mp hm with hm | hm
    · exact .inl (mem_stepEach hm)
    · obtain ⟨j, -, rfl⟩ := List.mem_map.mp hm
      exact .inr ⟨j, rfl⟩
  · rw [run_append]
    exact (h.run ms).settles_of_finished ho

/-! ## Emits begun on a closed feed -/

/-- The flag, once set, stays set. -/
theorem closed_move (hc : c.closed = true) (m : Move α) : (c.move m).closed = true := by
  cases m with
  | step i k => rw [(c.sameLock_step i k).closed]; exact hc
  | closeStep j =>
    cases hj : c.closes[j]? with
    | none => rw [move_closeStep_of_none hj]; exact hc
    | some st =>
      rw [move_closeStep_of_some hj]
      cases st <;> simp only [Calls.stepClose] <;> (try split) <;> first | exact hc | rfl
  | receive =>
    show (c.takeOldest none).closed = true
    unfold takeOldest
    cases c.buffer <;> exact hc
  | emit e => exact hc
  | close => exact hc

/-- Emit `i` began on a closed feed. -/
def Late (c : Calls α) (i : Nat) : Prop :=
  c.closed = true ∧ ∃ em, c.emits[i]? = some em ∧ em.stage.late = true

/-- An emit begun on a closed feed stays short of a send, whatever moves come. -/
theorem Late.move {i : Nat} (hl : c.Late i) (m : Move α) : (c.move m).Late i := by
  obtain ⟨hc, em, hi, hlate⟩ := hl
  refine ⟨closed_move hc m, ?_⟩
  have hlt := (List.getElem?_eq_some_iff.mp hi).1
  cases m with
  | emit e => exact ⟨em, by rw [← hi]; exact List.getElem?_append_left hlt, hlate⟩
  | close => exact ⟨em, hi, hlate⟩
  | receive =>
    rcases takeOldest_cases c none with ⟨-, hc'⟩ | ⟨-, -, -, -, -, -, he, -⟩
    · exact ⟨em, by rw [show c.move .receive = c.takeOldest none from rfl, hc']; exact hi, hlate⟩
    · exact ⟨em, by rw [show c.move .receive = c.takeOldest none from rfl, he]; exact hi, hlate⟩
  | closeStep j =>
    cases hj : c.closes[j]? with
    | none => rw [move_closeStep_of_none hj]; exact ⟨em, hi, hlate⟩
    | some st =>
      rw [move_closeStep_of_some hj, (stepClose_frame c j st).1]
      exact ⟨em, hi, hlate⟩
  | step j k =>
    cases hj : c.emits[j]? with
    | none => rw [move_step_of_none hj]; exact ⟨em, hi, hlate⟩
    | some emj =>
      rw [move_step_of_some hj]
      rcases c.stepEmit_cases j emj k with ⟨heq, -⟩ | ⟨s, eff, hadv, heq⟩
      · rw [heq]
        exact ⟨em, hi, hlate⟩
      rw [heq, setEmit_emits, (apply_frame c j eff).1]
      by_cases hji : j = i
      · -- the emit itself advanced
        subst hji
        obtain rfl := Option.some.inj (hj.symm.trans hi)
        exact ⟨_, List.getElem?_set_self hlt, hadv.late hc hlate⟩
      · exact ⟨em, by rw [List.getElem?_set_ne hji]; exact hi, hlate⟩

theorem Late.run {i : Nat} (hl : c.Late i) (ms : List (Move α)) : (c.run ms).Late i := by
  induction ms generalizing c with
  | nil => exact hl
  | cons m ms ih => exact ih (hl.move m)

/-- An emit begun on a closed feed has not sent. -/
theorem Late.not_sent {i : Nat} (hl : c.Late i) (hs : c.Sound) : i ∉ c.sent := by
  obtain ⟨-, em, hi, hlate⟩ := hl
  rw [hs.sent_iff]
  rintro ⟨em', hi', hsent⟩
  obtain rfl := Option.some.inj (hi.symm.trans hi')
  rw [Stage.sentIt_of_late hlate] at hsent
  cases hsent

/-- A call of emit made on a closed feed begins short of a send. -/
theorem late_emit (hc : c.closed = true) (e : α) : (c.move (.emit e)).Late c.emits.length :=
  ⟨hc, { event := e }, by simp [Calls.move], rfl⟩

end Calls

/-- Closing a feed is safe and cannot hang, whatever the emits, the reader and the calls of
close do, in whatever order their steps come, and under either backpressure mode:

* no emit sends into the closed channel of events;
* an emit begun once the flag is set never sends, and stays short of returning true;
* once `done` is closed, an emit holding the read side returns within five steps of its own,
  and one waiting at its send returns false;
* after a call of close, steps of the calls already made, with no read and every emit taking
  `done`, set the flag, free the lock and return every call;
* `done` and the events are closed while open, by the one call that runs the closing, and a
  call of close made after one returned returns at its first step, changing nothing else. -/
theorem closing_is_safe_and_never_hangs {α : Type} (size : Option Int) (mode : Backpressure)
    (ms : List (Move α)) :
    let c := (Calls.fresh size mode : Calls α).run ms
    (∀ em ∈ c.emits, em.stage ≠ .failed) ∧
    (c.closed = true → ∀ (e : α) (ms' : List (Move α)),
      let d := c.run (.emit e :: ms')
      c.emits.length ∉ d.sent ∧ ∃ em, d.emits[c.emits.length]? = some em ∧
        (em.stage = .waiting ∨ em.stage = .looking ∨ em.stage = .leaving false ∨
          em.stage = .returned false)) ∧
    (c.done = true → ∀ (i : Nat) (em : Emit α), c.emits[i]? = some em →
      em.stage.holdsRead = true →
      ∃ ok, ((c.run (List.replicate 5 (.step i .done))).emits[i]?).map (·.stage) =
        some (.returned ok) ∧ (em.stage = .sending → ok = false)) ∧
    (c.closes ≠ [] → ∃ ms' : List (Move α),
      (∀ m ∈ ms', (∃ i, m = .step i .done) ∨ ∃ j, m = .closeStep j) ∧
      let d := c.run ms'
      d.closed = true ∧ d.writer = .free ∧ (∀ st ∈ d.closes, st = .returned) ∧
        ∀ em ∈ d.emits, ∃ ok, em.stage = .returned ok) ∧
    (c.once = .idle → c.done = false) ∧
    (∀ j : Nat, c.closes[j]? = some .draining → c.closed = false) ∧
    (∀ (j k : Nat) (stj stk : Closing), c.closes[j]? = some stj → c.closes[k]? = some stk →
      stj.runs = true → stk.runs = true → j = k) ∧
    (.returned ∈ c.closes → ∀ j : Nat, c.closes[j]? = some .called →
      c.move (.closeStep j) = { c with closes := c.closes.set j .returned }) := by
  intro c
  have h : c.Guarded := (Calls.guarded_fresh size mode).run ms
  have hs : c.Sound := (Calls.sound_fresh size mode).run ms
  refine ⟨h.unfailed, fun hc e ms' => ?_, fun hd i em hi hhold => h.holder_returns hd hi hhold,
    h.settles, fun ho => (h.idle ho).1, fun j hj => h.open_of_draining hj,
    fun j k stj stk hj hk hrj hrk => h.runs_unique hj hk hrj hrk, fun hret j _ => ?_⟩
  · -- an emit begun on a closed feed stays short of a send
    have hl := (Calls.late_emit hc e).run ms'
    refine ⟨hl.not_sent ((hs.move _).run ms'), ?_⟩
    obtain ⟨-, em, hi, hlate⟩ := hl
    exact ⟨em, hi, Stage.late_eq_true_iff.mp hlate⟩
  · obtain ⟨i, hi⟩ := List.mem_iff_getElem?.mp hret
    exact h.closeStep_of_finished (h.finished_of_returned hi) j

end LiveTail.Feed
