import LiveTail.Signal.Calls
import Mathlib.Data.List.Basic
/-!
# Waiting on a shared signal

Whatever the threads do and in whatever order their steps come, a fresh signal keeps these
laws (`Calls.Lawful`):

* it reads cancelled exactly once some thread has cancelled it, and then for good;
* a wait that begins after a cancellation returns cancelled at its first step;
* a wait returns woken only from its second look, after taking a wake-up, and only if no
  cancellation came before that look;
* the waits that took a wake-up, woken or about to look again, together with the wake-up
  still pending, are never more than the notifications that left a wake-up. Every run is a
  prefix of a longer one, so at every moment the waits returned woken so far are at most the
  notifications so far that left a wake-up: the `n`-th such return is matched with the
  `n`-th such notification, which came before it.

A notification that finds a wake-up pending changes nothing but the count of notifications,
so notifications with nothing in between leave one wake-up (`run_notify_replicate`).

`Stage.next_accounted`, `Calls.Accounted.move` and the like are the step lemmas; the run
lemmas follow each by induction over the moves.
-/
namespace LiveTail.Signal

/-! ## One step of a call -/

namespace Stage

/-- A call's step never touches the cancellation. -/
@[simp] theorem next_cancelled (s : Signal) (st : Stage) (k : Case) :
    (st.next s k).2.cancelled = s.cancelled := by
  fun_cases next s st k <;> simp

/-- A call that looks for a cancellation and finds one returns cancelled. -/
theorem next_called_of_cancelled {s : Signal} (h : s.cancelled = true) (k : Case) :
    called.next s k = (.returned .cancelled, s) := by
  simp [next, h]

/-- A call that took a wake-up returns cancelled if the signal is cancelled by its second
look, and woken otherwise. -/
theorem next_took (s : Signal) (k : Case) :
    took.next s k = (if s.cancelled then .returned .cancelled else .returned .woken, s) := by
  rfl

/-- A call returns woken only from having taken a wake-up, with the signal not cancelled. -/
theorem next_eq_woken {s : Signal} {st : Stage} {k : Case}
    (h : (st.next s k).1 = .returned .woken) :
    st = .took ∧ s.cancelled = false ∨ st = .returned .woken := by
  cases st with
  | called =>
    simp only [next] at h
    split at h <;> cases h
  | blocked =>
    cases k with
    | cancelled =>
      simp only [next] at h
      split at h <;> cases h
    | notified =>
      simp only [next] at h
      split at h <;> cases h
    | expired => cases h
  | took =>
    rw [next_took] at h
    split at h
    · cases h
    · rename_i hc
      exact .inl ⟨rfl, by simpa using hc⟩
  | returned r =>
    cases h
    exact .inr rfl

/-- A step moves a wake-up from the signal to the call at most: what the call holds and
what is pending never grow. -/
theorem next_accounted (s : Signal) (st : Stage) (k : Case) :
    (st.next s k).1.holdsWakeUp.toNat + (st.next s k).2.pending.toNat ≤
      st.holdsWakeUp.toNat + s.pending.toNat := by
  cases st with
  | called => cases k <;> simp only [next] <;> split <;> simp [holdsWakeUp]
  | blocked =>
    cases k with
    | cancelled => simp only [next]; split <;> simp [holdsWakeUp]
    | notified =>
      simp only [next]
      split
      · rename_i hp
        simp [holdsWakeUp, hp]
      · simp [holdsWakeUp]
    | expired => simp [next, holdsWakeUp]
  | took => rw [next_took]; split <;> simp [holdsWakeUp]
  | returned r => simp [next]

/-- Alone, a call returns within three steps what `Signal.wait` returns, leaving the signal
as `Signal.wait` leaves it. -/
theorem solo_called (s : Signal) : called.solo s 3 = (.returned s.wait.1, s.wait.2) := by
  cases hc : s.cancelled <;> cases hp : s.pending <;>
    simp [solo, next, firstReady, Signal.wait, hc, hp]

end Stage

/-! ## Moves -/

namespace Calls

variable {c : Calls} {m : Move} {ms : List Move}

@[simp] theorem run_nil (c : Calls) : c.run [] = c := rfl

theorem run_cons (c : Calls) (m : Move) (ms : List Move) :
    c.run (m :: ms) = (c.move m).run ms := rfl

theorem run_append (c : Calls) (ms ms' : List Move) :
    c.run (ms ++ ms') = (c.run ms).run ms' := by
  simp [run, List.foldl_append]

theorem run_concat (c : Calls) (ms : List Move) (m : Move) :
    c.run (ms ++ [m]) = (c.run ms).move m := by
  rw [run_append]
  rfl

theorem move_step_of_some {i : Nat} {st : Stage} (h : c.waits[i]? = some st) (k : Case) :
    c.move (.step i k) =
      { c with signal := (st.next c.signal k).2, waits := c.waits.set i (st.next c.signal k).1 } := by
  simp [move, h]

theorem move_step_of_none {i : Nat} (h : c.waits[i]? = none) (k : Case) :
    c.move (.step i k) = c := by
  simp [move, h]

/-- A move other than a step of wait `i` leaves wait `i` where it stands. -/
theorem move_waits_of_ne {i : Nat} (hi : i < c.waits.length) (hm : ∀ k, m ≠ .step i k) :
    (c.move m).waits[i]? = c.waits[i]? := by
  cases m with
  | notify => rfl
  | cancel => rfl
  | wait => simp only [move, List.getElem?_append_left hi]
  | step j k =>
    have hj : j ≠ i := fun hj => hm k (hj ▸ rfl)
    cases hs : c.waits[j]? with
    | none => rw [move_step_of_none hs]
    | some st => rw [move_step_of_some hs, List.getElem?_set_ne hj]

/-- Only a cancellation cancels, and nothing takes it back. -/
theorem move_cancelled :
    (c.move m).signal.cancelled = true ↔ c.signal.cancelled = true ∨ m = .cancel := by
  cases m with
  | notify => simp [move, Signal.notify]
  | cancel => simp [move, Signal.cancel]
  | wait => simp [move]
  | step i k =>
    cases h : c.waits[i]? with
    | none => simp [move_step_of_none h]
    | some st => simp [move_step_of_some h]

/-- A signal reads cancelled after some moves exactly when it did before them or one of them
cancelled it. -/
theorem run_cancelled (c : Calls) (ms : List Move) :
    (c.run ms).signal.cancelled = true ↔ c.signal.cancelled = true ∨ Move.cancel ∈ ms := by
  induction ms generalizing c with
  | nil => simp
  | cons m ms ih =>
    rw [run_cons, ih, move_cancelled, List.mem_cons]
    constructor
    · rintro ((h | h) | h)
      · exact .inl h
      · exact .inr (.inl h.symm)
      · exact .inr (.inr h)
    · rintro (h | h | h)
      · exact .inl (.inl h)
      · exact .inl (.inr h.symm)
      · exact .inr h

/-! ## Waits that begin after a cancellation -/

/-- A wait that has not stepped, or returned cancelled. -/
def Late (c : Calls) (i : Nat) : Prop :=
  c.waits[i]? = some .called ∨ c.waits[i]? = some (.returned .cancelled)

/-- On a cancelled signal, a late wait stays late whatever happens: its own step returns it
cancelled, and other moves leave it alone. -/
theorem Late.move {i : Nat} (hc : c.signal.cancelled = true) (h : c.Late i) (m : Move) :
    (c.move m).Late i := by
  obtain ⟨st, hst, hlate⟩ : ∃ st, c.waits[i]? = some st ∧
      (st = .called ∨ st = .returned .cancelled) := by
    rcases h with h | h
    · exact ⟨_, h, .inl rfl⟩
    · exact ⟨_, h, .inr rfl⟩
  have hi : i < c.waits.length := (List.getElem?_eq_some_iff.mp hst).1
  by_cases hstep : ∃ k, m = .step i k
  · -- its own step: a call that finds the signal cancelled returns cancelled
    obtain ⟨k, rfl⟩ := hstep
    rw [move_step_of_some hst]
    unfold Late
    simp only [List.getElem?_set_self hi]
    rcases hlate with rfl | rfl
    · rw [Stage.next_called_of_cancelled hc]
      exact .inr rfl
    · exact .inr rfl
  · unfold Late
    rw [move_waits_of_ne hi fun k hk => hstep ⟨k, hk⟩]
    exact h

theorem Late.run {i : Nat} (hc : c.signal.cancelled = true) (h : c.Late i) (ms : List Move) :
    (c.run ms).Late i := by
  induction ms generalizing c with
  | nil => exact h
  | cons m ms ih =>
    exact ih ((move_cancelled).mpr (.inl hc)) (h.move hc m)

/-! ## Waits that return woken -/

/-- A step that makes a wait woken is that wait's second look, after it took a wake-up, on a
signal not cancelled. -/
theorem move_woken {i : Nat} (h : (c.move m).waits[i]? = some (.returned .woken)) :
    c.waits[i]? = some (.returned .woken) ∨
      ∃ k, m = .step i k ∧ c.waits[i]? = some .took ∧ c.signal.cancelled = false := by
  cases m with
  | notify => exact .inl h
  | cancel => exact .inl h
  | wait =>
    simp only [Calls.move, List.getElem?_append] at h
    split at h
    · exact .inl h
    · simp [List.getElem?_singleton] at h
  | step j k =>
    cases hs : c.waits[j]? with
    | none => rw [move_step_of_none hs] at h; exact .inl h
    | some st =>
      rw [move_step_of_some hs] at h
      simp only [List.getElem?_set] at h
      split at h
      · rename_i hj
        subst hj
        split at h
        · obtain ⟨rfl, hc⟩ | rfl := Stage.next_eq_woken (Option.some.inj h)
          · exact .inr ⟨k, rfl, hs, hc⟩
          · exact .inl hs
        · cases h
      · exact .inl h

/-- A wait that returned woken after some moves had returned woken before them, or returned
woken at its own step among them, from having taken a wake-up, on a signal not cancelled. -/
theorem run_woken {i : Nat} (c : Calls) (ms : List Move)
    (h : (c.run ms).waits[i]? = some (.returned .woken)) :
    c.waits[i]? = some (.returned .woken) ∨
      ∃ pre k post, ms = pre ++ .step i k :: post ∧ (c.run pre).waits[i]? = some .took ∧
        (c.run pre).signal.cancelled = false := by
  induction ms generalizing c with
  | nil => exact .inl h
  | cons m ms ih =>
    rcases ih (c.move m) h with h | ⟨pre, k, post, rfl, htook, hc⟩
    · rcases move_woken h with h | ⟨k, rfl, htook, hc⟩
      · exact .inl h
      · exact .inr ⟨[], k, ms, rfl, htook, hc⟩
    · exact .inr ⟨m :: pre, k, post, rfl, htook, hc⟩

/-! ## Wake-ups -/

/-- A notification that finds a wake-up pending changes nothing but the count of
notifications. -/
theorem move_notify_of_pending (h : c.signal.pending = true) :
    c.move .notify = { c with notified := c.notified + 1 } := by
  have hs : c.signal.notify = c.signal := by
    rw [Signal.notify, ← h]
  simp [Calls.move, hs, h]

/-- The wake-ups held by waits, with the pending one, are never more than the notifications
that left one, and these never more than the notifications. -/
structure Accounted (c : Calls) : Prop where
  held : c.waits.countP Stage.holdsWakeUp + c.signal.pending.toNat ≤ c.wakeUps
  left : c.wakeUps ≤ c.notified

theorem accounted_fresh : Accounted {} := ⟨by simp, Nat.le_refl 0⟩

/-- A wait's step moves at most the pending wake-up to the wait. -/
theorem Accounted.step {i : Nat} {st : Stage} (h : c.Accounted) (hs : c.waits[i]? = some st)
    (k : Case) : (c.move (.step i k)).Accounted := by
  obtain ⟨hi, rfl⟩ := List.getElem?_eq_some_iff.mp hs
  have hnext := Stage.next_accounted c.signal c.waits[i] k
  have hcount : (c.waits[i].holdsWakeUp).toNat ≤ c.waits.countP Stage.holdsWakeUp := by
    cases hw : c.waits[i].holdsWakeUp
    · simp
    · exact List.countP_pos_iff.mpr ⟨_, List.getElem_mem hi, hw⟩
  rw [move_step_of_some hs]
  refine ⟨?_, h.left⟩
  have hheld := h.held
  -- in the list, the call's share moves from its stage to the stage it steps to
  simp only [List.countP_set hi]
  cases hw : c.waits[i].holdsWakeUp <;> cases hw' : (c.waits[i].next c.signal k).1.holdsWakeUp <;>
    simp only [hw, hw', Bool.toNat_false, Bool.toNat_true, Bool.false_eq_true, ↓reduceIte]
      at hnext hcount ⊢ <;> omega

/-- Every move keeps the account. -/
theorem Accounted.move (h : c.Accounted) (m : Move) : (c.move m).Accounted := by
  cases m with
  | notify =>
    -- a notification leaves a wake-up exactly when it finds none pending
    cases hp : c.signal.pending with
    | true =>
      rw [move_notify_of_pending hp]
      exact ⟨h.held, Nat.le_succ_of_le h.left⟩
    | false =>
      have hheld := h.held
      have hleft := h.left
      rw [hp, Bool.toNat_false] at hheld
      constructor
      · simp [Calls.move, Signal.notify, hp]
        omega
      · simp [Calls.move, hp]
        omega
  | cancel => exact ⟨h.held, h.left⟩
  | wait =>
    refine ⟨?_, h.left⟩
    have hheld := h.held
    simpa [Calls.move, List.countP_append, Stage.holdsWakeUp] using hheld
  | step i k =>
    cases hs : c.waits[i]? with
    | none => rw [move_step_of_none hs]; exact h
    | some st => exact h.step hs k

theorem Accounted.run (h : c.Accounted) (ms : List Move) : (c.run ms).Accounted := by
  induction ms generalizing c with
  | nil => exact h
  | cons m ms ih => exact ih (h.move m)

/-- Waits returned woken hold their wake-ups. -/
theorem woken_le_held (c : Calls) : c.woken ≤ c.waits.countP Stage.holdsWakeUp := by
  rw [woken, List.count_eq_countP]
  apply List.countP_mono_left
  intro st _ hst
  simp only [beq_iff_eq] at hst
  subst hst
  rfl

/-! ## Repeated notifications -/

/-- A move other than a wait's step leaves a wake-up exactly when it sets the pending flag. -/
theorem move_wakeUps_of_not_step (hm : ∀ i k, m ≠ .step i k) :
    (c.move m).wakeUps + c.signal.pending.toNat = c.wakeUps + (c.move m).signal.pending.toNat := by
  cases m with
  | notify => cases hp : c.signal.pending <;> simp [Calls.move, Signal.notify, hp]
  | cancel => simp [Calls.move, Signal.cancel]
  | wait => simp [Calls.move]
  | step i k => exact absurd rfl (hm i k)

/-- With no wait stepping in between, only the first notification that finds no wake-up
pending leaves one: the wake-ups left grow by at most one. -/
theorem run_wakeUps_of_no_step (c : Calls) {ms : List Move}
    (hms : ∀ m ∈ ms, ∀ i k, m ≠ .step i k) : (c.run ms).wakeUps ≤ c.wakeUps + 1 := by
  have hflag : ∀ (c : Calls) (ms : List Move), (∀ m ∈ ms, ∀ i k, m ≠ .step i k) →
      (c.run ms).wakeUps + c.signal.pending.toNat =
        c.wakeUps + (c.run ms).signal.pending.toNat := by
    intro c ms hms
    induction ms generalizing c with
    | nil => rfl
    | cons m ms ih =>
      have hm := move_wakeUps_of_not_step (c := c) (hms m List.mem_cons_self)
      have hrest := ih (c.move m) fun m' hm' => hms m' (List.mem_cons_of_mem _ hm')
      rw [run_cons]
      omega
  have := hflag c ms hms
  have hle := Bool.toNat_le (c.run ms).signal.pending
  omega

/-- Notifications with nothing in between act as one. -/
theorem run_notify_replicate (c : Calls) (n : Nat) :
    c.run (List.replicate (n + 1) .notify) = { c.move .notify with notified := c.notified + (n + 1) } := by
  induction n with
  | zero => rfl
  | succ n ih =>
    rw [List.replicate_succ', run_concat, ih,
      move_notify_of_pending (by simp [Calls.move, Signal.notify])]
    simp only [Nat.add_assoc]

/-- What every run of calls on a fresh signal keeps. -/
structure Lawful (ms : List Move) : Prop where
  /-- The signal reads cancelled exactly once some thread has cancelled it. -/
  cancelled_iff : (Calls.run {} ms).signal.cancelled = true ↔ Move.cancel ∈ ms
  /-- A wait that begins after a cancellation has not stepped yet, or returned cancelled. -/
  late : ∀ pre post, ms = pre ++ .wait :: post → Move.cancel ∈ pre →
    (Calls.run {} ms).Late (Calls.run {} pre).waits.length
  /-- A wait that returned woken did so at its second look, after taking a wake-up, with no
  cancellation before that look. -/
  woken : ∀ i, (Calls.run {} ms).waits[i]? = some (.returned .woken) →
    ∃ pre k post, ms = pre ++ .step i k :: post ∧ (Calls.run {} pre).waits[i]? = some .took ∧
      Move.cancel ∉ pre
  /-- Each wake-up held by a wait, and the pending one, was left by its own notification. -/
  accounted : (Calls.run {} ms).Accounted
  /-- Waits returned woken are at most the notifications that left a wake-up, and these at
  most the notifications. -/
  matched : (Calls.run {} ms).woken ≤ (Calls.run {} ms).wakeUps ∧
    (Calls.run {} ms).wakeUps ≤ (Calls.run {} ms).notified

theorem lawful (ms : List Move) : Lawful ms where
  cancelled_iff := by
    rw [run_cancelled]
    simp
  late pre post hms hcancel := by
    subst hms
    rw [run_append, run_cons]
    apply Late.run
    · exact move_cancelled.mpr (.inl ((run_cancelled {} pre).mpr (.inr hcancel)))
    · left
      simp [Calls.move]
  woken i h := by
    rcases run_woken {} ms h with h | ⟨pre, k, post, hms, htook, hc⟩
    · simp at h
    · refine ⟨pre, k, post, hms, htook, fun hmem => ?_⟩
      have := (run_cancelled {} pre).mpr (.inr hmem)
      rw [hc] at this
      cases this
  accounted := accounted_fresh.run ms
  matched :=
    ⟨Nat.le_trans (woken_le_held _) (Nat.le_of_add_right_le (accounted_fresh.run ms).held),
      (accounted_fresh.run ms).left⟩

end Calls

/-- A shared signal keeps its laws under every interleaving of notifications, cancellations
and the steps of waits. Notifications with nothing in between act as one, and with no wait
stepping in between they leave at most one wake-up. -/
theorem shared_signal_keeps_its_laws (ms : List Move) :
    Calls.Lawful ms ∧
      (∀ (c : Calls) (n : Nat), c.run (List.replicate (n + 1) .notify) =
        { c.move .notify with notified := c.notified + (n + 1) }) ∧
      ∀ (c : Calls) (ns : List Move), (∀ m ∈ ns, ∀ i k, m ≠ .step i k) →
        (c.run ns).wakeUps ≤ c.wakeUps + 1 :=
  ⟨Calls.lawful ms, Calls.run_notify_replicate, fun c _ hns => Calls.run_wakeUps_of_no_step c hns⟩

/-- Two notifications, then a wait that takes the wake-up and returns woken; then a
cancellation, and a wait begun after it returns cancelled. Only one wake-up was left, as by
any notifications with no wait stepping in between. -/
theorem two_notifications_wake_one_wait :
    (Calls.run {} [.notify, .notify, .wait, .step 0 .expired, .step 0 .notified,
        .step 0 .expired, .cancel, .wait, .step 1 .expired]).waits =
      [.returned .woken, .returned .cancelled] ∧
    (Calls.run {} [.notify, .notify, .wait, .step 0 .expired, .step 0 .notified,
        .step 0 .expired, .cancel, .wait, .step 1 .expired]).wakeUps = 1 ∧
    (∃ pre k post, [Move.notify, .notify, .wait, .step 0 .expired, .step 0 .notified,
        .step 0 .expired, .cancel, .wait, .step 1 .expired] = pre ++ .step 0 k :: post ∧
      (Calls.run {} pre).waits[0]? = some .took ∧ Move.cancel ∉ pre) ∧
    (Calls.run {} [.notify, .notify, .wait, .step 0 .expired, .step 0 .notified,
        .step 0 .expired, .cancel, .wait, .step 1 .expired]).Late 1 ∧
    (Calls.run {} [.notify, .wait, .notify, .cancel, .notify]).wakeUps ≤ 1 := by
  have laws := shared_signal_keeps_its_laws [.notify, .notify, .wait, .step 0 .expired,
    .step 0 .notified, .step 0 .expired, .cancel, .wait, .step 1 .expired]
  refine ⟨by decide, by decide, laws.1.woken 0 (by decide), ?_, ?_⟩
  · exact laws.1.late [.notify, .notify, .wait, .step 0 .expired, .step 0 .notified,
      .step 0 .expired, .cancel] [.step 1 .expired] rfl (by decide)
  · exact laws.2.2 {} _ (by simp)

end LiveTail.Signal
