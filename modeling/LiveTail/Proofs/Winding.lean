import LiveTail.Proofs.Lifecycle
/-!
# A cancelled session ends after at most one more read

A session's thread looks for its cancellation at the head of its loop, while it waits to be
handed over and when it waits between polls; whatever it had begun when the cancellation
came, it finishes first. So from any point, a cancelled thread polls at most once more,
checks its path at most once more and waits at most once more, and it has ended after four
steps of its own, however fast its file grows. It ends as stopped unless that last poll or
check ended it with another kind; a thread cancelled while it opens its file or waits to be
handed over polls no more and ends, if by an ending, as stopped.

What each stage still allows is measured by `Stage.pollsLeft` and its siblings; `Winding`
is the invariant, `Winding.step` the step lemma and `winding_run` the run lemma.
-/
namespace LiveTail
namespace Session

/-- A chunk's lines end the session, if at all, by a listener's failure. -/
theorem deliver_ending (d : Dispatch) (p : Poll) (lines : List ByteArray) :
    (deliver d p lines).ending = p.ending ∨
      ∃ value, (deliver d p lines).ending = some (Ending.fault value) := by
  fun_induction deliver d p lines
  case case1 | case2 => exact .inl rfl
  case case3 => exact .inr ⟨_, rfl⟩
  case case4 ih | case5 ih | case6 ih => exact ih

/-- A poll never ends its session as stopped: it ends it, if at all, by a read error, a
shrunk file or a listener's failure. -/
theorem poll_ending_kind {o : TailOptions} {v : Volume} {s : Session} {e : Ending}
    (h : (s.poll o v).ending = some e) : e.kind ≠ .stopped := by
  unfold poll at h
  split at h
  · cases h
    nofun
  · dsimp only at h
    split at h
    · cases h
      nofun
    · split at h
      · cases h
        nofun
      · rcases deliver_ending o.dispatch _ _ with hd | ⟨value, hd⟩
        · rw [hd] at h
          cases h
        · rw [hd] at h
          cases h
          nofun

/-- A poll of a cancelled session hands nothing over, so nothing takes the cancellation
back. -/
theorem poll_cancelled (o : TailOptions) (v : Volume) {s : Session} (h : s.cancelled = true) :
    (s.poll o v).session.cancelled = true := by
  unfold poll
  split
  · exact h
  · dsimp only
    split
    · exact h
    · split
      · exact h
      · rw [deliver_of_cancelled _ _ _ h]
        exact h

@[simp] theorem finish_cancelled (s : Session) (e : Ending) :
    (s.finish e).1.cancelled = s.cancelled := rfl

namespace Stage

/-- Polls a cancelled thread may still make from the stage. -/
def pollsLeft : Stage → Nat
  | .polling => 1
  | _ => 0

/-- Existence checks a cancelled thread may still make from the stage. -/
def checksLeft : Stage → Nat
  | .polling | .polled 0 | .checking => 1
  | _ => 0

/-- Waits a cancelled thread may still begin from the stage. -/
def waitsLeft : Stage → Nat
  | .polling | .polled 0 | .checking | .waiting => 1
  | _ => 0

/-- Steps a cancelled thread may still take from the stage before it ends. -/
def stepsLeft : Stage → Nat
  | .opening => 2
  | .launching | .head | .waiting => 1
  | .polling => 4
  | .polled 0 => 3
  | .polled (_ + 1) | .checking => 2
  | .finished _ | .failed _ => 0

theorem pollsLeft_le (g : Stage) : g.pollsLeft ≤ 1 := by
  unfold pollsLeft
  split <;> omega

theorem checksLeft_le (g : Stage) : g.checksLeft ≤ 1 := by
  unfold checksLeft
  split <;> omega

theorem waitsLeft_le (g : Stage) : g.waitsLeft ≤ 1 := by
  unfold waitsLeft
  split <;> omega

theorem stepsLeft_le (g : Stage) : g.stepsLeft ≤ 4 := by
  unfold stepsLeft
  split <;> omega

theorem stepsLeft_polled_le (n : Nat) : (polled n).stepsLeft ≤ 3 := by
  cases n <;> simp [stepsLeft]

/-- A stage with no step left is an end. -/
theorem phase_of_stepsLeft_eq_zero {g : Stage} (h : g.stepsLeft = 0) : g.phase = .stopped := by
  rcases g with _ | _ | _ | _ | (_ | n) | _ | _ | e | f <;> simp_all [stepsLeft, phase]

end Stage

/-- The move is a step of the thread's own. -/
def Move.isStep : Move → Bool
  | .step => true
  | _ => false

namespace Thread

variable {t u : Thread}

/-- What a thread `u` keeps of the thread `t` it was when it was cancelled: each count grew
from `t`'s by at most what `t`'s stage still allowed, less what `u`'s stage still allows;
and if `t` had not ended, an ending of `u` other than stopped came from a poll or a check
made since. -/
structure Winding (t u : Thread) : Prop where
  cancelled : u.session.cancelled = true
  polls : t.polls ≤ u.polls ∧ u.polls + u.stage.pollsLeft ≤ t.polls + t.stage.pollsLeft
  checks : t.checks ≤ u.checks ∧ u.checks + u.stage.checksLeft ≤ t.checks + t.stage.checksLeft
  waits : t.waits ≤ u.waits ∧ u.waits + u.stage.waitsLeft ≤ t.waits + t.stage.waitsLeft
  ending : t.returned = false → ∀ e, u.stage = .finished e →
    e = Ending.stopped ∨ (e.kind ≠ .stopped ∧ (t.polls < u.polls ∨ t.checks < u.checks))

theorem Winding.refl (h : t.session.cancelled = true) : Winding t t := by
  refine ⟨h, by omega, by omega, by omega, fun hover e he => ?_⟩
  simp [Thread.returned, he] at hover

/-- A step from `u` to `u'` that spends no more than `u`'s stage allowed, and ends the
session only as stopped or by a poll or a check it made, keeps the invariant. -/
theorem Winding.next (h : Winding t u) {u' : Thread} (hc : u'.session.cancelled = true)
    (hp : u.polls ≤ u'.polls ∧ u'.polls + u'.stage.pollsLeft ≤ u.polls + u.stage.pollsLeft)
    (hk : u.checks ≤ u'.checks ∧
      u'.checks + u'.stage.checksLeft ≤ u.checks + u.stage.checksLeft)
    (hw : u.waits ≤ u'.waits ∧ u'.waits + u'.stage.waitsLeft ≤ u.waits + u.stage.waitsLeft)
    (he : ∀ e, u'.stage = .finished e →
      e = Ending.stopped ∨ (e.kind ≠ .stopped ∧ (u.polls < u'.polls ∨ u.checks < u'.checks))) :
    Winding t u' := by
  have := h.polls
  have := h.checks
  have := h.waits
  refine ⟨hc, by omega, by omega, by omega, fun _ e hfin => ?_⟩
  rcases he e hfin with hstop | ⟨hkind, hmore⟩
  · exact .inl hstop
  · exact .inr ⟨hkind, by omega⟩

/-- One step of a cancelled thread keeps the invariant, and a thread that has not ended
comes closer to its end. -/
theorem Winding.step (h : Winding t u) (o : TailOptions) :
    Winding t (u.step o) ∧ (u.returned = true ∨ (u.step o).stage.stepsLeft < u.stage.stepsLeft) := by
  have hc := h.cancelled
  unfold Thread.step
  dsimp only
  split
  next hg =>
    -- opening: storing a phase spends nothing
    split
    · refine ⟨h.next hc ?_ ?_ ?_ (by simp), .inr (by simp [hg, Stage.stepsLeft])⟩ <;>
        simp [hg, Stage.pollsLeft, Stage.checksLeft, Stage.waitsLeft]
    · refine ⟨h.next hc ?_ ?_ ?_ (by simp), .inr (by simp [hg, Stage.stepsLeft])⟩ <;>
        simp [hg, Stage.pollsLeft, Stage.checksLeft, Stage.waitsLeft]
  next hg =>
    -- waiting to be handed over: the cancellation ends the session
    rw [if_pos hc]
    refine ⟨h.next (by simpa using hc) ?_ ?_ ?_ (by simp),
      .inr (by simp [hg, Stage.stepsLeft])⟩ <;>
      simp [hg, Stage.pollsLeft, Stage.checksLeft, Stage.waitsLeft]
  next hg =>
    -- at the head of the loop: the cancellation ends the session
    rw [if_pos hc]
    refine ⟨h.next (by simpa using hc) ?_ ?_ ?_ (by simp),
      .inr (by simp [hg, Stage.stepsLeft])⟩ <;>
      simp [hg, Stage.pollsLeft, Stage.checksLeft, Stage.waitsLeft]
  next hg =>
    -- polling: the one poll left
    have hpc := poll_cancelled o u.volume hc
    split
    next e hend =>
      refine ⟨h.next (by simpa using hpc) ?_ ?_ ?_ ?_, .inr (by simp [hg, Stage.stepsLeft])⟩
      · simp [hg, Stage.pollsLeft]
      · simp [hg, Stage.checksLeft]
      · simp [hg, Stage.waitsLeft]
      · intro e' he'
        simp only [finish_stage, Stage.finished.injEq] at he'
        subst he'
        exact .inr ⟨poll_ending_kind hend, by simp⟩
    next hend =>
      refine ⟨h.next hpc ?_ ?_ ?_ (by simp), .inr ?_⟩
      · simp [hg, Stage.pollsLeft]
      · simpa [hg, Stage.checksLeft] using Stage.checksLeft_le _
      · simpa [hg, Stage.waitsLeft] using Stage.waitsLeft_le _
      · calc (Stage.polled _).stepsLeft ≤ 3 := Stage.stepsLeft_polled_le _
          _ < u.stage.stepsLeft := by simp [hg, Stage.stepsLeft]
  next n hg =>
    -- polled: on to the head, or to the check after storing waiting
    split
    next hn =>
      obtain ⟨k, rfl⟩ : ∃ k, n = k + 1 := ⟨n - 1, by omega⟩
      refine ⟨h.next hc ?_ ?_ ?_ (by simp), .inr (by simp [hg, Stage.stepsLeft])⟩ <;>
        simp [hg, Stage.pollsLeft, Stage.checksLeft, Stage.waitsLeft]
    next hn =>
      obtain rfl : n = 0 := by omega
      refine ⟨h.next hc ?_ ?_ ?_ (by simp), .inr (by simp [hg, Stage.stepsLeft])⟩ <;>
        simp [hg, Stage.pollsLeft, Stage.checksLeft, Stage.waitsLeft]
  next hg =>
    -- checking: the one check left
    split
    · refine ⟨h.next (by simpa using hc) ?_ ?_ ?_ ?_, .inr (by simp [hg, Stage.stepsLeft])⟩
      · simp [hg, Stage.pollsLeft]
      · simp [hg, Stage.checksLeft]
      · simp [hg, Stage.waitsLeft]
      · intro e he
        simp only [finish_stage, Stage.finished.injEq] at he
        subst he
        exact .inr ⟨nofun, .inr (by simp)⟩
    · refine ⟨h.next (by simpa using hc) ?_ ?_ ?_ ?_, .inr (by simp [hg, Stage.stepsLeft])⟩
      · simp [hg, Stage.pollsLeft]
      · simp [hg, Stage.checksLeft]
      · simp [hg, Stage.waitsLeft]
      · intro e he
        simp only [finish_stage, Stage.finished.injEq] at he
        subst he
        exact .inr ⟨nofun, .inr (by simp)⟩
    · refine ⟨h.next hc ?_ ?_ ?_ (by simp), .inr (by simp [hg, Stage.stepsLeft])⟩ <;>
        simp [hg, Stage.pollsLeft, Stage.checksLeft, Stage.waitsLeft]
  next hg =>
    -- waiting: the cancellation ends the wait and the session
    rw [if_pos hc]
    refine ⟨h.next (by simpa using hc) ?_ ?_ ?_ (by simp),
      .inr (by simp [hg, Stage.stepsLeft])⟩ <;>
      simp [hg, Stage.pollsLeft, Stage.checksLeft, Stage.waitsLeft]
  next e hg => exact ⟨h, .inl (by simp [Thread.returned, hg])⟩
  next f hg => exact ⟨h, .inl (by simp [Thread.returned, hg])⟩

theorem Winding.move (h : Winding t u) (o : TailOptions) : ∀ m, Winding t (u.move o m)
  | .step => (h.step o).1
  | .cancel => ⟨rfl, h.polls, h.checks, h.waits, h.ending⟩
  | .launch => ⟨h.cancelled, h.polls, h.checks, h.waits, h.ending⟩
  | .files _ => ⟨h.cancelled, h.polls, h.checks, h.waits, h.ending⟩

/-- Along any moves a cancelled thread keeps the invariant, and unless it has ended it is
still as many steps of its own short of its end as it has taken. -/
theorem winding_run (o : TailOptions) (ms : List Move) : ∀ {u : Thread}, Winding t u →
    Winding t (u.run o ms) ∧
      ((u.run o ms).returned = true ∨
        (u.run o ms).stage.stepsLeft + ms.countP Move.isStep ≤ u.stage.stepsLeft) := by
  induction ms with
  | nil => intro u h; exact ⟨h, .inr (by simp [run])⟩
  | cons m ms ih =>
    intro u h
    obtain ⟨hrun, hleft⟩ := ih (h.move o m)
    refine ⟨hrun, ?_⟩
    by_cases hover : u.returned = true
    · exact .inl ((still_run_of_returned hover o (m :: ms)).returned.trans hover)
    · refine hleft.imp_right fun hle => ?_
      rw [run_cons, List.countP_cons]
      cases m with
      | step =>
        have hlt := (h.step o).2.resolve_left hover
        simp only [move, Move.isStep, if_true] at hle hlt ⊢
        omega
      | cancel | launch | files v => simpa [move, Move.isStep] using hle

end Thread
end Session

open Session in
/-- A cancelled session ends after at most one more read. From the moment a thread is
cancelled, whatever it is doing and whatever moves follow, it polls at most once more, checks
its path at most once more and waits at most once more, and four steps of its own end it. If
it had not ended yet, it ends as stopped unless a poll or a check made since ended it with
another kind; cancelled while it opens its file or waits to be handed over, it polls no more
and, if it ends by an ending, ends as stopped. -/
theorem cancelled_session_polls_at_most_once_more (o : TailOptions) (t₀ : Thread)
    (ms : List Move) :
    let t := t₀.move o .cancel
    let u := t.run o ms
    u.polls ≤ t.polls + 1 ∧ u.checks ≤ t.checks + 1 ∧ u.waits ≤ t.waits + 1 ∧
    (4 ≤ ms.countP Move.isStep → u.returned = true) ∧
    (t.returned = false → ∀ e, u.stage = .finished e →
      e = Ending.stopped ∨ (e.kind ≠ .stopped ∧ (t.polls < u.polls ∨ t.checks < u.checks))) ∧
    (t.stage = .opening ∨ t.stage = .launching →
      u.polls = t.polls ∧ ∀ e, u.stage = .finished e → e = Ending.stopped) := by
  intro t u
  obtain ⟨h, hend⟩ : Thread.Winding t u ∧
      (u.returned = true ∨ u.stage.stepsLeft + ms.countP Move.isStep ≤ t.stage.stepsLeft) :=
    Thread.winding_run o ms (Thread.Winding.refl rfl)
  have hp := h.polls
  have hk := h.checks
  have hw := h.waits
  have := Stage.pollsLeft_le t.stage
  have := Stage.checksLeft_le t.stage
  have := Stage.waitsLeft_le t.stage
  refine ⟨by omega, by omega, by omega, fun hsteps => ?_, h.ending, fun hpre => ?_⟩
  · rcases hend with hover | hle
    · exact hover
    · -- no step is left, so the thread has ended
      have := Stage.stepsLeft_le t.stage
      exact (Thread.returned_iff u).mpr (Stage.phase_of_stepsLeft_eq_zero (by omega))
  · have hnot : t.returned = false := by rcases hpre with hg | hg <;> simp [Thread.returned, hg]
    have hp0 : t.stage.pollsLeft = 0 := by rcases hpre with hg | hg <;> simp [hg, Stage.pollsLeft]
    have hk0 : t.stage.checksLeft = 0 := by
      rcases hpre with hg | hg <;> simp [hg, Stage.checksLeft]
    refine ⟨by omega, fun e he => ?_⟩
    rcases h.ending hnot e he with hstop | ⟨-, hmore⟩
    · exact hstop
    · omega

end LiveTail
