import LiveTail.Dispatch.Calls
import Mathlib.Data.List.Nodup
/-!
# What a queue of callbacks runs

Whatever the calls of dispatch, the loop and the calls of close do, and in whatever order their
steps come, a queue keeps these laws (`Calls.Sound`):

* what ran, then what runs, then what waits in the buffer, is what was sent, in the order the
  sends completed, each callback once;
* a call's callback was sent exactly when the call accepted it;
* no call sends into the closed channel: once the flag is set, no call is past looking at it
  on its way to a send;
* a call of close returns only once the loop finished, having run everything sent.

Whether a callback panics changes nothing but the record of it (`Calls.calm_run`). And closing
cannot hang: from any state after a call of close, steps of the calls already made and of the
loop return every call, with every accepted callback run (`Calls.Sound.settles`).
-/
namespace LiveTail.Queue

open LiveTail.Feed (Writer)

namespace Stage

/-- The call accepted its callback: it returns, or is about to, having sent it. -/
def accepted : Stage → Bool
  | .leaving true | .returned true => true
  | _ => false

/-- The call dropped its callback, having found the queue closed. -/
def dropped : Stage → Bool
  | .leaving false | .returned false => true
  | _ => false

/-- No call both accepted and dropped its callback. -/
theorem dropped_of_accepted {s : Stage} (h : s.accepted = true) : s.dropped = false := by
  cases s with
  | leaving a => cases a <;> simp_all [accepted, dropped]
  | returned a => cases a <;> simp_all [accepted, dropped]
  | _ => rfl

/-- The standings a call can have on a closed queue. -/
def afterClose : Stage → Bool
  | .waiting | .looking | .leaving false | .returned _ => true
  | _ => false

/-- The most steps of its own a call has left before it returns. -/
def toGo : Stage → Nat
  | .waiting => 4
  | .looking => 3
  | .sending => 2
  | .leaving _ => 1
  | .returned _ | .failed => 0

theorem toGo_le (s : Stage) : s.toGo ≤ 4 := by
  cases s <;> simp [toGo]

end Stage

namespace Loop

/-- The callback the loop runs, if any. -/
def current : Loop → List Nat
  | .running i => [i]
  | _ => []

end Loop

namespace Closing

/-- The call has the write side, or has asked for it. -/
def holdsWrite : Closing → Bool
  | .draining | .releasing => true
  | _ => false

/-- The write side of the lock while the call that has it stands here. -/
def writer : Closing → Writer
  | .draining => .asked
  | .releasing => .held
  | _ => .free

end Closing

/-- What a step of a call of dispatch does to the channel. -/
inductive Effect where
  | keep
  /-- Its callback goes into the buffer. -/
  | push
  /-- Its callback goes straight to the loop, waiting with the buffer empty. -/
  | hand
  deriving DecidableEq, Repr

/-- The steps a call of dispatch can take, from one standing to the next, with what each does
to the channel. -/
inductive Advance {α : Type} (c : Calls α) : Stage → Stage → Effect → Prop where
  | enter : c.writer = .free → Advance c .waiting .looking .keep
  | refuse : c.closed = true → Advance c .looking (.leaving false) .keep
  | look : c.closed = false → Advance c .looking .sending .keep
  | push : c.closed = false → c.buffer.length < c.size → Advance c .sending (.leaving true) .push
  | hand : c.closed = false → c.size ≤ c.buffer.length → c.buffer = [] → c.loop = .receiving →
      Advance c .sending (.leaving true) .hand
  | fail : c.closed = true → Advance c .sending .failed .keep
  | leave (a : Bool) : Advance c (.leaving a) (.returned a) .keep

/-- The standings at which a step of a call of dispatch changes nothing: waiting for the read
side while a closing call has asked for the write side or holds it, blocked at its send, or
returned. -/
inductive Stuck {α : Type} (c : Calls α) : Stage → Prop where
  | waiting : c.writer ≠ .free → Stuck c .waiting
  | blocked : c.closed = false → c.size ≤ c.buffer.length →
      ¬ (c.buffer = [] ∧ c.loop = .receiving) → Stuck c .sending
  | returned (a : Bool) : Stuck c (.returned a)
  | failed : Stuck c .failed

namespace Advance

variable {α : Type} {c : Calls α} {s s' : Stage} {eff : Effect}

/-- Only a completed send makes the call accept its callback. -/
theorem accepted_of_keep (h : Advance c s s' .keep) : s'.accepted = s.accepted := by
  cases h with
  | leave a => cases a <;> rfl
  | _ => rfl

theorem of_send (h : Advance c s s' eff) (he : eff ≠ .keep) :
    s = .sending ∧ s' = .leaving true ∧ c.closed = false := by
  cases h with
  | push hc _ => exact ⟨rfl, rfl, hc⟩
  | hand hc _ _ _ => exact ⟨rfl, rfl, hc⟩
  | _ => exact absurd rfl he

/-- Every advance brings a call nearer its return. -/
theorem toGo_lt (h : Advance c s s' eff) : s'.toGo < s.toGo := by
  cases h <;> simp [Stage.toGo]

/-- On a closed queue a call advances only to standings a closed queue allows. -/
theorem afterClose (h : Advance c s s' eff) (hc : c.closed = true) (hs : s.afterClose = true) :
    s'.afterClose = true := by
  cases h with
  | enter => rfl
  | refuse => rfl
  | look hc' => rw [hc] at hc'; cases hc'
  | leave => rfl
  | _ => cases hs

/-- A call fails only by sending on a closed queue, which no standing a closed queue allows
leads to. -/
theorem ne_failed (h : Advance c s s' eff) (hq : c.closed = true → s.afterClose = true) :
    s' ≠ .failed := by
  rintro rfl
  cases h with
  | fail hc => cases hq hc

/-- A call that accepted its callback stays so. -/
theorem accepted (h : Advance c s s' eff) (hs : s.accepted = true) : s'.accepted = true := by
  by_cases he : eff = .keep
  · subst he
    rw [h.accepted_of_keep]
    exact hs
  · rw [(h.of_send he).2.1]
    rfl

/-- A call that dropped its callback stays so. -/
theorem dropped (h : Advance c s s' eff) (hs : s.dropped = true) : s'.dropped = true := by
  cases h with
  | leave a =>
    cases a
    · rfl
    · cases hs
  | _ => cases hs

/-- A call drops its callback only on a closed queue. -/
theorem closed_of_dropped (h : Advance c s s' eff) (hs : s.dropped = false)
    (hs' : s'.dropped = true) : c.closed = true := by
  cases h with
  | refuse hc => exact hc
  | leave a => cases a <;> simp [Stage.dropped] at hs hs'
  | _ => cases hs'

end Advance

/-- A call of dispatch is through: it returned, or it waits for the read side of a lock that is
not free. -/
def Through (w : Writer) (s : Stage) : Prop := (∃ a, s = .returned a) ∨ s = .waiting ∧ w ≠ .free

/-- A call that is through holds no read side. -/
theorem Through.holdsRead {w : Writer} {s : Stage} (h : Through w s) : s.holdsRead = false := by
  rcases h with ⟨a, rfl⟩ | ⟨rfl, -⟩ <;> rfl

/-- A call that is through takes no step. -/
theorem Advance.not_through {α : Type} {c : Calls α} {s s' : Stage} {eff : Effect}
    (h : Advance c s s' eff) : ¬ Through c.writer s := by
  rintro (⟨a, rfl⟩ | ⟨rfl, hw⟩)
  · cases h
  · cases h with
    | enter hf => exact hw hf

namespace Calls

variable {α : Type} {c : Calls α}

/-- What a step of call `i` does to the channel. -/
def apply (c : Calls α) (i : Nat) : Effect → Calls α
  | .keep => c
  | .push => { c with buffer := c.buffer ++ [i], sent := c.sent ++ [i] }
  | .hand => { c with loop := .running i, sent := c.sent ++ [i] }

/-! ## The parts each change leaves alone -/

section Frame

variable {i : Nat} {call : Call α}

@[simp] theorem setCall_calls : (c.setCall i call).calls = c.calls.set i call := rfl
@[simp] theorem setCall_buffer : (c.setCall i call).buffer = c.buffer := rfl
@[simp] theorem setCall_sent : (c.setCall i call).sent = c.sent := rfl
@[simp] theorem setCall_ran : (c.setCall i call).ran = c.ran := rfl
@[simp] theorem setCall_loop : (c.setCall i call).loop = c.loop := rfl
@[simp] theorem setCall_size : (c.setCall i call).size = c.size := rfl
@[simp] theorem setCall_closed : (c.setCall i call).closed = c.closed := rfl
@[simp] theorem setCall_writer : (c.setCall i call).writer = c.writer := rfl
@[simp] theorem setCall_closes : (c.setCall i call).closes = c.closes := rfl

/-- An effect on the channel leaves the calls, the lock and the calls of close alone. -/
theorem apply_frame (c : Calls α) (i : Nat) (eff : Effect) :
    (c.apply i eff).calls = c.calls ∧ (c.apply i eff).closes = c.closes ∧
      (c.apply i eff).closed = c.closed ∧ (c.apply i eff).writer = c.writer ∧
      (c.apply i eff).size = c.size ∧ (c.apply i eff).ran = c.ran := by
  cases eff <;> exact ⟨rfl, rfl, rfl, rfl, rfl, rfl⟩

end Frame

section Moves

variable {i j : Nat} {call : Call α} {st : Closing}

theorem move_step_of_some (h : c.calls[i]? = some call) : c.move (.step i) = c.stepCall i call := by
  simp [move, h]

theorem move_step_of_none (h : c.calls[i]? = none) : c.move (.step i) = c := by
  simp [move, h]

theorem move_closeStep_of_some (h : c.closes[j]? = some st) :
    c.move (.closeStep j) = c.stepClose j st := by
  simp [move, h]

theorem move_closeStep_of_none (h : c.closes[j]? = none) : c.move (.closeStep j) = c := by
  simp [move, h]

@[simp] theorem run_nil (c : Calls α) : c.run [] = c := rfl

theorem run_cons (c : Calls α) (m : Move α) (ms : List (Move α)) :
    c.run (m :: ms) = (c.move m).run ms := rfl

theorem run_append (c : Calls α) (ms ms' : List (Move α)) :
    c.run (ms ++ ms') = (c.run ms).run ms' := by
  simp [run, List.foldl_append]

end Moves

/-- A step of a call of dispatch changes nothing (it is stuck), or advances it, doing what the
advance does to the channel. -/
theorem stepCall_cases (c : Calls α) (i : Nat) (call : Call α) :
    c.stepCall i call = c ∧ Stuck c call.stage ∨ ∃ s eff, Advance c call.stage s eff ∧
      c.stepCall i call = (c.apply i eff).setCall i { call with stage := s } := by
  unfold stepCall
  cases hs : call.stage with
  | waiting =>
    by_cases hw : c.writer = .free
    · exact .inr ⟨_, _, .enter hw, by simp [hw, apply]⟩
    · exact .inl ⟨by simp [hw], .waiting hw⟩
  | looking =>
    cases hc : c.closed
    · exact .inr ⟨_, _, .look hc, by simp [apply]⟩
    · exact .inr ⟨_, _, .refuse hc, by simp [apply]⟩
  | sending =>
    cases hc : c.closed
    · by_cases hr : c.buffer.length < c.size
      · exact .inr ⟨_, _, .push hc hr, by simp [hr, hc, apply]⟩
      · by_cases hh : c.buffer = [] ∧ c.loop = .receiving
        · have hr0 : ¬ 0 < c.size := by simpa [hh.1] using hr
          exact .inr ⟨_, _, .hand hc (Nat.le_of_not_lt hr) hh.1 hh.2,
            by simp [hr0, hh.1, hh.2, hc, apply]⟩
        · refine .inl ⟨?_, .blocked hc (Nat.le_of_not_lt hr) hh⟩
          simp only [hr, if_false]
          rw [if_neg hh]
          rfl
    · exact .inr ⟨_, _, .fail hc, by simp [apply]⟩
  | leaving a => exact .inr ⟨_, _, .leave a, by simp [apply]⟩
  | returned a => exact .inl ⟨rfl, .returned a⟩
  | failed => exact .inl ⟨rfl, .failed⟩

/-- A step of a call of close leaves the calls, the channel and its records alone. -/
theorem stepClose_frame (c : Calls α) (j : Nat) (st : Closing) :
    (c.stepClose j st).calls = c.calls ∧ (c.stepClose j st).buffer = c.buffer ∧
      (c.stepClose j st).sent = c.sent ∧ (c.stepClose j st).ran = c.ran ∧
      (c.stepClose j st).loop = c.loop ∧ (c.stepClose j st).size = c.size := by
  cases st <;> simp only [Calls.stepClose] <;> (try split) <;> simp

section CloseSteps

variable {j : Nat}

/-! The steps of a call of close, each with the condition it waits on. -/

theorem stepClose_called (hw : c.writer = .free) :
    c.stepClose j .called = { c with closes := c.closes.set j .draining, writer := .asked } := by
  simp [Calls.stepClose, hw]

theorem stepClose_called_of_ne (hw : c.writer ≠ .free) : c.stepClose j .called = c := by
  simp [Calls.stepClose, hw]

theorem stepClose_draining (h0 : c.readers = 0) :
    c.stepClose j .draining =
      { c with closes := c.closes.set j .releasing, writer := .held, closed := true } := by
  simp [Calls.stepClose, h0]

theorem stepClose_draining_of_ne (h0 : c.readers ≠ 0) : c.stepClose j .draining = c := by
  simp [Calls.stepClose, h0]

theorem stepClose_awaiting (hl : c.loop = .finished) :
    c.stepClose j .awaiting = { c with closes := c.closes.set j .returned } := by
  simp [Calls.stepClose, hl]

theorem stepClose_awaiting_of_ne (hl : c.loop ≠ .finished) : c.stepClose j .awaiting = c := by
  simp [Calls.stepClose, hl]

end CloseSteps

/-- A step of the loop takes the oldest callback, finishes on a closed and empty channel, or runs
the callback it took; waiting on an open and empty channel, or finished, it changes nothing. -/
theorem stepLoop_cases (c : Calls α) (p : Bool) :
    (∃ i rest, c.loop = .receiving ∧ c.buffer = i :: rest ∧
      c.stepLoop p = { c with loop := .running i, buffer := rest }) ∨
    (c.loop = .receiving ∧ c.buffer = [] ∧ c.closed = true ∧
      c.stepLoop p = { c with loop := .finished }) ∨
    (∃ i, c.loop = .running i ∧
      c.stepLoop p = { c with loop := .receiving, ran := c.ran ++ [(i, p)] }) ∨
    ((c.loop = .receiving ∧ c.buffer = [] ∧ c.closed = false ∨ c.loop = .finished) ∧
      c.stepLoop p = c) := by
  unfold stepLoop
  cases hl : c.loop with
  | receiving =>
    cases hb : c.buffer with
    | cons i rest => exact .inl ⟨i, rest, rfl, rfl, rfl⟩
    | nil =>
      cases hc : c.closed
      · exact .inr (.inr (.inr ⟨.inl ⟨rfl, rfl, rfl⟩, by simp⟩))
      · exact .inr (.inl ⟨rfl, rfl, rfl, by simp⟩)
  | running i => exact .inr (.inr (.inl ⟨i, rfl, rfl⟩))
  | finished => exact .inr (.inr (.inr ⟨.inr rfl, rfl⟩))

/-- What stands at a place of a list after one place is set. -/
theorem getElem?_set_cases {β : Type} {l : List β} {j k : Nat} {x y : β}
    (h : (l.set j x)[k]? = some y) : k = j ∧ y = x ∨ k ≠ j ∧ l[k]? = some y := by
  by_cases hkj : k = j
  · subst hkj
    have hlt : k < l.length := by simpa using (List.getElem?_eq_some_iff.mp h).1
    rw [List.getElem?_set_self hlt] at h
    exact .inl ⟨rfl, (Option.some.inj h).symm⟩
  · rw [List.getElem?_set_ne (Ne.symm hkj)] at h
    exact .inr ⟨hkj, h⟩

/-! ## What every run keeps -/

/-- What a queue keeps under every interleaving of calls. -/
structure Sound (c : Calls α) : Prop where
  /-- What ran, then what runs, then what waits, is what was sent, in order. -/
  fifo : c.ran.map (·.1) ++ c.loop.current ++ c.buffer = c.sent
  nodup : c.sent.Nodup
  /-- A call's callback was sent exactly when the call accepted it. -/
  sent_iff : ∀ i, i ∈ c.sent ↔ ∃ call, c.calls[i]? = some call ∧ call.stage.accepted = true
  fits : c.buffer.length ≤ c.size
  /-- No call sent into the closed channel. -/
  unfailed : ∀ call ∈ c.calls, call.stage ≠ .failed
  /-- On a closed queue no call is past looking at the flag on its way to a send. -/
  quiet : c.closed = true → ∀ call ∈ c.calls, call.stage.afterClose = true
  /-- A call dropped its callback only on a closed queue, and only a call of close closes it. -/
  dropped : ∀ call ∈ c.calls, call.stage.dropped = true → c.closed = true
  flagged : c.closed = true → c.closes ≠ []
  /-- The loop finishes only on a closed and empty channel. -/
  finished : c.loop = .finished → c.closed = true ∧ c.buffer = []
  /-- With the lock free no call of close has the write side or asked for it. -/
  free : c.writer = .free → ∀ (k : Nat) (st : Closing), c.closes[k]? = some st →
    st.holdsWrite = false
  /-- Otherwise one call of close has it or asked for it, and no other. -/
  owner : c.writer ≠ .free → ∃ (r : Nat) (st : Closing), c.closes[r]? = some st ∧
    st.holdsWrite = true ∧ c.writer = st.writer ∧
    ∀ k, k ≠ r → ∀ (st' : Closing), c.closes[k]? = some st' → st'.holdsWrite = false
  /-- A call of close past taking the write side has set the flag. -/
  released : ∀ (k : Nat) (st : Closing), c.closes[k]? = some st →
    (st = .releasing ∨ st = .awaiting ∨ st = .returned) → c.closed = true
  /-- A call of close returns only once the loop finished. -/
  returned : ∀ k : Nat, c.closes[k]? = some .returned → c.loop = .finished

theorem sound_fresh (size : Int) : (fresh size : Calls α).Sound where
  fifo := rfl
  nodup := List.nodup_nil
  sent_iff i := by simp [fresh]
  fits := Nat.zero_le _
  unfailed call h := by simp [fresh] at h
  quiet h := by simp [fresh] at h
  dropped call h := by simp [fresh] at h
  flagged h := by simp [fresh] at h
  finished h := by simp [fresh] at h
  free _ k st h := by simp [fresh] at h
  owner h := absurd rfl h
  released k st h := by simp [fresh] at h
  returned k h := by simp [fresh] at h

/-- A new call of dispatch keeps what a queue keeps: it waits for the read side. -/
theorem Sound.dispatch (h : c.Sound) (fn : α) : (c.move (.dispatch fn)).Sound where
  fifo := h.fifo
  nodup := h.nodup
  sent_iff i := by
    show i ∈ c.sent ↔ ∃ call, (c.calls ++ [({ fn := fn } : Call α)])[i]? = some call ∧ _
    rw [h.sent_iff i]
    by_cases hi : i < c.calls.length
    · rw [List.getElem?_append_left hi]
    · rw [List.getElem?_eq_none (Nat.le_of_not_lt hi),
        List.getElem?_append_right (Nat.le_of_not_lt hi)]
      simp [List.getElem?_singleton, Stage.accepted]
  fits := h.fits
  unfailed call hcall := by
    rcases List.mem_append.mp hcall with hcall | hcall
    · exact h.unfailed call hcall
    · rw [List.mem_singleton.mp hcall]
      exact Stage.noConfusion
  quiet hc call hcall := by
    rcases List.mem_append.mp hcall with hcall | hcall
    · exact h.quiet hc call hcall
    · rw [List.mem_singleton.mp hcall]
      rfl
  dropped call hcall hd := by
    rcases List.mem_append.mp hcall with hcall | hcall
    · exact h.dropped call hcall hd
    · rw [List.mem_singleton.mp hcall] at hd
      cases hd
  flagged := h.flagged
  finished := h.finished
  free := h.free
  owner := h.owner
  released := h.released
  returned := h.returned

/-- What stands at a place of the calls of close after a new call: what stood there, or the
new call. -/
theorem getElem?_closes_append {k : Nat} {st : Closing}
    (hk : (c.closes ++ [.called])[k]? = some st) : c.closes[k]? = some st ∨ st = .called := by
  by_cases hkl : k < c.closes.length
  · rw [List.getElem?_append_left hkl] at hk
    exact .inl hk
  · rw [List.getElem?_append_right (Nat.le_of_not_lt hkl)] at hk
    exact .inr (List.mem_singleton.mp (List.mem_of_getElem? hk))

/-- A new call of close keeps what a queue keeps: it waits for the write side. -/
theorem Sound.close (h : c.Sound) : (c.move .close).Sound where
  fifo := h.fifo
  nodup := h.nodup
  sent_iff := h.sent_iff
  fits := h.fits
  unfailed := h.unfailed
  quiet := h.quiet
  dropped := h.dropped
  flagged _ := by simp [Calls.move]
  finished := h.finished
  free hw k st hk := by
    rcases getElem?_closes_append hk with hk | rfl
    · exact h.free hw k st hk
    · rfl
  owner hw := by
    obtain ⟨r, st, hr, hst, hwr, hothers⟩ := h.owner hw
    have hrl : r < c.closes.length := (List.getElem?_eq_some_iff.mp hr).1
    refine ⟨r, st, ?_, hst, hwr, fun k hk st' hst' => ?_⟩
    · show (c.closes ++ [.called])[r]? = some st
      rw [List.getElem?_append_left hrl, hr]
    · rcases getElem?_closes_append hst' with hst' | rfl
      · exact hothers k hk st' hst'
      · rfl
  released k st hk hst := by
    rcases getElem?_closes_append hk with hk | rfl
    · exact h.released k st hk hst
    · rcases hst with hst | hst | hst <;> cases hst
  returned k hk := by
    rcases getElem?_closes_append hk with hk | hk
    · exact h.returned k hk
    · cases hk

/-- A step of the loop keeps what a queue keeps. -/
theorem Sound.stepLoop (h : c.Sound) (p : Bool) : (c.stepLoop p).Sound := by
  -- while the loop is not finished no call of close has returned
  have hnot : c.loop ≠ .finished → ∀ k : Nat, c.closes[k]? ≠ some Closing.returned :=
    fun hl k hk => hl (h.returned k hk)
  rcases c.stepLoop_cases p with ⟨i, rest, hl, hb, heq⟩ | ⟨hl, hb, hc, heq⟩ | ⟨i, hl, heq⟩ |
    ⟨-, heq⟩
  · -- it takes the oldest callback
    rw [heq]
    exact { h with
      fifo := by rw [← h.fifo, hl, hb]; simp [Loop.current]
      fits := by
        have := h.fits
        rw [hb, List.length_cons] at this
        exact Nat.le_of_succ_le this
      finished := fun hf => by cases hf
      returned := fun k hk => absurd hk (hnot (by rw [hl]; exact Loop.noConfusion) k) }
  · -- it finds the channel closed and empty, and ends
    rw [heq]
    exact { h with
      fifo := by rw [← h.fifo, hl]; rfl
      finished := fun _ => ⟨hc, hb⟩
      returned := fun _ _ => rfl }
  · -- it runs the callback it took, whether that panics or not, and goes on
    rw [heq]
    exact { h with
      fifo := by rw [← h.fifo, hl]; simp [Loop.current]
      finished := fun hf => by cases hf
      returned := fun k hk => absurd hk (hnot (by rw [hl]; exact Loop.noConfusion) k) }
  · rw [heq]
    exact h

/-- With no call of dispatch holding the read side, every call waits for it or has returned. -/
theorem Sound.afterClose_of_readers (h : c.Sound) (hr : c.readers = 0) :
    ∀ call ∈ c.calls, call.stage.afterClose = true := by
  intro call hcall
  have hnot : call.stage.holdsRead = false := by
    simpa using List.countP_eq_zero.mp hr call hcall
  have hnf := h.unfailed call hcall
  cases hs : call.stage with
  | returned a => rfl
  | waiting => rfl
  | failed => exact absurd hs hnf
  | _ => rw [hs] at hnot; cases hnot

/-- The call of close that has the write side or asked for it is the one the lock names. -/
theorem Sound.owner_of_holds (h : c.Sound) {j : Nat} {st : Closing}
    (hj : c.closes[j]? = some st) (hst : st.holdsWrite = true) :
    c.writer = st.writer ∧ ∀ k, k ≠ j → ∀ st', c.closes[k]? = some st' → st'.holdsWrite = false := by
  have hw : c.writer ≠ .free := fun hw => by rw [h.free hw j st hj] at hst; cases hst
  obtain ⟨r, str, hr, hstr, hwr, hothers⟩ := h.owner hw
  by_cases hjr : j = r
  · subst hjr
    obtain rfl := Option.some.inj (hj.symm.trans hr)
    exact ⟨hwr, hothers⟩
  · rw [hothers j hjr st hj] at hst
    cases hst

/-- A step of a call of close keeps what a queue keeps: one writer at a time, and the flag set
once no call of dispatch holds the read side. -/
theorem Sound.stepClose (h : c.Sound) {j : Nat} {st : Closing} (hj : c.closes[j]? = some st) :
    (c.stepClose j st).Sound := by
  have hlt : j < c.closes.length := (List.getElem?_eq_some_iff.mp hj).1
  have hne : c.closes ≠ [] := List.ne_nil_of_length_pos (Nat.lt_of_le_of_lt (Nat.zero_le j) hlt)
  cases st with
  | called =>
    by_cases hw : c.writer = .free
    · -- it takes the writers' turn and asks for the write side
      rw [stepClose_called hw]
      exact { h with
        flagged := fun _ => by simpa using hne
        free := fun hw' => by cases hw'
        owner := fun _ => ⟨j, .draining, by simp [hlt], rfl, rfl, fun k hk st' hst' => by
          rw [List.getElem?_set_ne (Ne.symm hk)] at hst'
          exact h.free hw k st' hst'⟩
        released := fun k st' hk hst' => by
          rcases getElem?_set_cases hk with ⟨-, rfl⟩ | ⟨-, hk⟩
          · rcases hst' with hst' | hst' | hst' <;> cases hst'
          · exact h.released k st' hk hst'
        returned := fun k hk => by
          rcases getElem?_set_cases hk with ⟨-, hk⟩ | ⟨-, hk⟩
          · cases hk
          · exact h.returned k hk }
    · rw [stepClose_called_of_ne hw]
      exact h
  | draining =>
    obtain ⟨hw, hothers⟩ := h.owner_of_holds hj rfl
    by_cases hr0 : c.readers = 0
    · -- no call holds the read side: it takes the write side and closes the channel
      rw [stepClose_draining hr0]
      exact { h with
        quiet := fun _ => h.afterClose_of_readers hr0
        dropped := fun _ _ _ => rfl
        flagged := fun _ => by simpa using hne
        finished := fun hf => ⟨rfl, (h.finished hf).2⟩
        free := fun hw' => by cases hw'
        owner := fun _ => ⟨j, .releasing, by simp [hlt], rfl, rfl, fun k hk st' hst' => by
          rw [List.getElem?_set_ne (Ne.symm hk)] at hst'
          exact hothers k hk st' hst'⟩
        released := fun _ _ _ _ => rfl
        returned := fun k hk => by
          rcases getElem?_set_cases hk with ⟨-, hk⟩ | ⟨-, hk⟩
          · cases hk
          · exact h.returned k hk }
    · rw [stepClose_draining_of_ne hr0]
      exact h
  | releasing =>
    -- it releases the write side, the flag set
    obtain ⟨-, hothers⟩ := h.owner_of_holds hj rfl
    have hc := h.released j .releasing hj (.inl rfl)
    exact { h with
      flagged := fun _ => by simpa [Calls.stepClose] using hne
      free := fun _ k st' hk => by
        rcases getElem?_set_cases hk with ⟨-, rfl⟩ | ⟨hkj, hk⟩
        · rfl
        · exact hothers k hkj st' hk
      owner := fun hw' => absurd rfl hw'
      released := fun k st' hk hst' => by
        rcases getElem?_set_cases hk with ⟨-, -⟩ | ⟨-, hk⟩
        · exact hc
        · exact h.released k st' hk hst'
      returned := fun k hk => by
        rcases getElem?_set_cases hk with ⟨-, hk⟩ | ⟨-, hk⟩
        · cases hk
        · exact h.returned k hk }
  | awaiting =>
    by_cases hf : c.loop = .finished
    · -- the loop finished: it returns
      have hc := h.released j .awaiting hj (.inr (.inl rfl))
      rw [stepClose_awaiting hf]
      exact { h with
        flagged := fun _ => by simpa using hne
        free := fun hw k st' hk => by
          rcases getElem?_set_cases hk with ⟨-, rfl⟩ | ⟨-, hk⟩
          · rfl
          · exact h.free hw k st' hk
        owner := fun hw => by
          obtain ⟨r, str, hr, hstr, hwr, hothers⟩ := h.owner hw
          have hrj : r ≠ j := by
            rintro rfl
            obtain rfl := Option.some.inj (hj.symm.trans hr)
            cases hstr
          refine ⟨r, str, ?_, hstr, hwr, fun k hk st' hst' => ?_⟩
          · show (c.closes.set j .returned)[r]? = some str
            rw [List.getElem?_set_ne (Ne.symm hrj), hr]
          · rcases getElem?_set_cases hst' with ⟨-, rfl⟩ | ⟨-, hst'⟩
            · rfl
            · exact hothers k hk st' hst'
        released := fun k st' hk hst' => by
          rcases getElem?_set_cases hk with ⟨-, -⟩ | ⟨-, hk⟩
          · exact hc
          · exact h.released k st' hk hst'
        returned := fun k hk => by
          rcases getElem?_set_cases hk with ⟨-, -⟩ | ⟨-, hk⟩
          · exact hf
          · exact h.returned k hk }
    · rw [stepClose_awaiting_of_ne hf]
      exact h
  | returned => exact h

section Restage

variable {i : Nat} {call : Call α} {s : Stage}

/-- Call `i` stands anew; the others stand as they did. -/
theorem getElem?_setCall (hi : c.calls[i]? = some call) (call' : Call α) (k : Nat) :
    (c.setCall i call').calls[k]? = if i = k then some call' else c.calls[k]? := by
  have hlt := (List.getElem?_eq_some_iff.mp hi).1
  by_cases hik : i = k
  · subst hik
    rw [if_pos rfl, setCall_calls, List.getElem?_set_self hlt]
  · rw [if_neg hik, setCall_calls, List.getElem?_set_ne hik]

/-- A step of a call that does not send keeps what a queue keeps. -/
theorem Sound.restage (h : c.Sound) (hi : c.calls[i]? = some call)
    (hadv : Advance c call.stage s .keep) : (c.setCall i { call with stage := s }).Sound := by
  have hmem := List.mem_of_getElem? hi
  have hq : c.closed = true → call.stage.afterClose = true := fun hc => h.quiet hc call hmem
  -- only call `i` moved, to a standing the laws allow
  have hnew : ∀ x ∈ (c.setCall i { call with stage := s }).calls, x ∈ c.calls ∨ x.stage = s := by
    intro x hx
    rcases List.mem_or_eq_of_mem_set hx with hx | hx
    · exact .inl hx
    · exact .inr (by rw [hx])
  exact { h with
    sent_iff := fun k => by
      rw [setCall_sent, h.sent_iff k, getElem?_setCall hi]
      by_cases hik : i = k
      · subst hik
        rw [if_pos rfl, hi]
        simp [hadv.accepted_of_keep]
      · rw [if_neg hik]
    unfailed := fun x hx => by
      rcases hnew x hx with hx | hx
      · exact h.unfailed x hx
      · rw [hx]
        exact hadv.ne_failed hq
    quiet := fun hc x hx => by
      rcases hnew x hx with hx | hx
      · exact h.quiet hc x hx
      · rw [hx]
        exact hadv.afterClose hc (hq hc)
    dropped := fun x hx hd => by
      rcases hnew x hx with hx | hx
      · exact h.dropped x hx hd
      · rw [hx] at hd
        cases hs : call.stage.dropped
        · exact hadv.closed_of_dropped hs hd
        · exact h.dropped call hmem hs }

/-- Call `i` completing its send keeps what a queue keeps: its callback goes in behind the
others, into the buffer or straight to the loop. -/
theorem Sound.send (h : c.Sound) (hi : c.calls[i]? = some call) {eff : Effect}
    (hadv : Advance c call.stage s eff) (he : eff ≠ .keep) :
    ((c.apply i eff).setCall i { call with stage := s }).Sound := by
  obtain ⟨hsend, rfl, hc⟩ := hadv.of_send he
  have hmem := List.mem_of_getElem? hi
  have hfresh : i ∉ c.sent := by
    rw [h.sent_iff]
    rintro ⟨call', hi', hacc⟩
    obtain rfl := Option.some.inj (hi.symm.trans hi')
    rw [hsend] at hacc
    cases hacc
  have hsent : (c.apply i eff).sent = c.sent ++ [i] := by
    cases eff <;> first | rfl | exact absurd rfl he
  have hframe := apply_frame c i eff
  have hnew : ∀ x ∈ ((c.apply i eff).setCall i { call with stage := .leaving true }).calls,
      x ∈ c.calls ∨ x.stage = .leaving true := by
    intro x hx
    rw [setCall_calls, hframe.1] at hx
    rcases List.mem_or_eq_of_mem_set hx with hx | hx
    · exact .inl hx
    · exact .inr (by rw [hx])
  have hclosed : ((c.apply i eff).setCall i { call with stage := .leaving true }).closed = false :=
    by rw [setCall_closed, hframe.2.2.1, hc]
  have hsent_iff : ∀ k, k ∈ c.sent ++ [i] ↔ ∃ x,
      ((c.apply i eff).setCall i { call with stage := .leaving true }).calls[k]? = some x ∧
        x.stage.accepted = true := by
    intro k
    rw [setCall_calls, hframe.1, List.mem_append, List.mem_singleton, h.sent_iff k]
    by_cases hik : i = k
    · subst hik
      rw [List.getElem?_set_self (List.getElem?_eq_some_iff.mp hi).1]
      simp [Stage.accepted]
    · rw [List.getElem?_set_ne hik]
      simp [Ne.symm hik]
  have hunfailed : ∀ x ∈ ((c.apply i eff).setCall i { call with stage := .leaving true }).calls,
      x.stage ≠ .failed := by
    intro x hx
    rcases hnew x hx with hx | hx
    · exact h.unfailed x hx
    · rw [hx]
      exact Stage.noConfusion
  have hdropped : ∀ x ∈ ((c.apply i eff).setCall i { call with stage := .leaving true }).calls,
      x.stage.dropped = true → c.closed = true := by
    intro x hx hd
    rcases hnew x hx with hx | hx
    · exact h.dropped x hx hd
    · rw [hx] at hd
      cases hd
  have hnodup : (c.sent ++ [i]).Nodup :=
    h.nodup.append (List.nodup_singleton i) (List.disjoint_singleton.mpr hfresh)
  rw [hsend] at hadv
  cases hadv with
  | push _ hroom =>
    exact { h with
      fifo := by
        show c.ran.map (·.1) ++ c.loop.current ++ (c.buffer ++ [i]) = c.sent ++ [i]
        rw [← h.fifo]
        simp only [List.append_assoc]
      nodup := hnodup
      sent_iff := hsent_iff
      fits := by
        show (c.buffer ++ [i]).length ≤ c.size
        rw [List.length_append, List.length_singleton]
        exact hroom
      unfailed := hunfailed
      quiet := fun hc' => by rw [hclosed] at hc'; cases hc'
      dropped := hdropped
      finished := fun hf => by
        have := (h.finished hf).1
        rw [hc] at this
        cases this }
  | hand _ _ hb hl =>
    exact { h with
      fifo := by
        show c.ran.map (·.1) ++ (Loop.running i).current ++ c.buffer = c.sent ++ [i]
        rw [← h.fifo, hb, hl]
        simp [Loop.current]
      nodup := hnodup
      sent_iff := hsent_iff
      fits := by
        show c.buffer.length ≤ c.size
        exact h.fits
      unfailed := hunfailed
      quiet := fun hc' => by rw [hclosed] at hc'; cases hc'
      dropped := hdropped
      finished := fun hf => by cases hf
      returned := fun k hk => by
        rw [h.returned k hk] at hl
        cases hl }

/-- A step of a call of dispatch keeps what a queue keeps. -/
theorem Sound.stepCall (h : c.Sound) (hi : c.calls[i]? = some call) : (c.stepCall i call).Sound := by
  rcases c.stepCall_cases i call with ⟨heq, -⟩ | ⟨s, eff, hadv, heq⟩
  · rw [heq]
    exact h
  rw [heq]
  by_cases he : eff = .keep
  · subst he
    exact h.restage hi hadv
  · exact h.send hi hadv he

end Restage

/-- Every move keeps what a queue keeps. -/
theorem Sound.move (h : c.Sound) (m : Move α) : (c.move m).Sound := by
  cases m with
  | dispatch fn => exact h.dispatch fn
  | close => exact h.close
  | step i =>
    cases hi : c.calls[i]? with
    | none => rw [move_step_of_none hi]; exact h
    | some call => rw [move_step_of_some hi]; exact h.stepCall hi
  | closeStep j =>
    cases hj : c.closes[j]? with
    | none => rw [move_closeStep_of_none hj]; exact h
    | some st => rw [move_closeStep_of_some hj]; exact h.stepClose hj
  | loop p => exact h.stepLoop p

theorem Sound.run (h : c.Sound) (ms : List (Move α)) : (c.run ms).Sound := by
  induction ms generalizing c with
  | nil => exact h
  | cons m ms ih => exact ih (h.move m)

end Calls

/-! ## Panics change only their record -/

/-- The same move, with the callback the loop runs, if any, not panicking. -/
def Move.calm {α : Type} : Move α → Move α
  | .loop _ => .loop false
  | m => m

namespace Calls

variable {α : Type}

/-- The queue with its record of panics forgotten. -/
def calm (c : Calls α) : Calls α := { c with ran := c.ran.map fun r => (r.1, false) }

section Calm

variable (c : Calls α)

@[simp] theorem calm_calls : c.calm.calls = c.calls := rfl
@[simp] theorem calm_closes : c.calm.closes = c.closes := rfl
@[simp] theorem calm_buffer : c.calm.buffer = c.buffer := rfl
@[simp] theorem calm_closed : c.calm.closed = c.closed := rfl
@[simp] theorem calm_writer : c.calm.writer = c.writer := rfl
@[simp] theorem calm_loop : c.calm.loop = c.loop := rfl
@[simp] theorem calm_size : c.calm.size = c.size := rfl
@[simp] theorem calm_sent : c.calm.sent = c.sent := rfl

theorem calm_stepCall (i : Nat) (call : Call α) :
    (c.stepCall i call).calm = c.calm.stepCall i call := by
  obtain ⟨fn, s⟩ := call
  cases s with
  | waiting | sending =>
    -- both sides take the same branch: no condition reads the record of panics
    rw [stepCall, stepCall]
    simp only [apply_ite calm]
    rfl
  | _ => rfl

theorem calm_stepClose (j : Nat) (st : Closing) :
    (c.stepClose j st).calm = c.calm.stepClose j st := by
  cases st with
  | called | draining | awaiting =>
    rw [Calls.stepClose, Calls.stepClose]
    simp only [apply_ite calm]
    rfl
  | _ => rfl

/-- The loop goes on the same way whether the callback it runs panics or not. -/
theorem calm_stepLoop (p : Bool) : (c.stepLoop p).calm = c.calm.stepLoop false := by
  rw [stepLoop, stepLoop, calm_loop, calm_buffer]
  cases c.loop with
  | receiving =>
    cases c.buffer with
    | cons i rest => rfl
    | nil =>
      simp only [apply_ite calm]
      rfl
  | running i => simp [calm]
  | finished => rfl

theorem calm_move (m : Move α) : (c.move m).calm = c.calm.move m.calm := by
  cases m with
  | dispatch fn => rfl
  | close => rfl
  | step i =>
    show (c.move (.step i)).calm = c.calm.move (.step i)
    rw [move, move, calm_calls]
    cases c.calls[i]? with
    | none => rfl
    | some call => exact c.calm_stepCall i call
  | closeStep j =>
    show (c.move (.closeStep j)).calm = c.calm.move (.closeStep j)
    rw [move, move, calm_closes]
    cases c.closes[j]? with
    | none => rfl
    | some st => exact c.calm_stepClose j st
  | loop p => exact c.calm_stepLoop p

/-- Whether each callback panicked changes nothing but the record of it. -/
theorem calm_run (ms : List (Move α)) : (c.run ms).calm = c.calm.run (ms.map Move.calm) := by
  induction ms generalizing c with
  | nil => rfl
  | cons m ms ih => rw [List.map_cons, run_cons, run_cons, ih, calm_move]

theorem calm_fresh (size : Int) : (fresh size : Calls α).calm = fresh size := rfl

end Calm

/-! ## Closing cannot hang -/

section Drain

variable {c : Calls α}

/-- The most steps the loop takes before it waits on an empty channel or finishes. -/
def loopToGo (c : Calls α) : Nat :=
  2 * c.buffer.length + match c.loop with
    | .running _ => 2
    | .receiving => 1
    | .finished => 0

/-- The loop ran everything sent: the buffer is empty, and the loop waits for the next
callback, or finished on a closed channel. -/
def Drained (c : Calls α) : Prop :=
  c.buffer = [] ∧ c.loop = if c.closed then .finished else .receiving

/-- The loop takes enough steps to run all that a queue buffering `n` callbacks holds. -/
def drain (n : Nat) : List (Move α) := List.replicate (2 * n + 2) (.loop false)

/-- A step of the loop leaves the calls, the calls of close and the lock alone. -/
theorem stepLoop_frame (c : Calls α) (p : Bool) :
    (c.stepLoop p).calls = c.calls ∧ (c.stepLoop p).closes = c.closes ∧
      (c.stepLoop p).closed = c.closed ∧ (c.stepLoop p).writer = c.writer ∧
      (c.stepLoop p).size = c.size := by
  rcases c.stepLoop_cases p with ⟨i, rest, -, -, heq⟩ | ⟨-, -, -, heq⟩ | ⟨i, -, heq⟩ | ⟨-, heq⟩ <;>
    rw [heq] <;> exact ⟨rfl, rfl, rfl, rfl, rfl⟩

theorem run_loops_frame (c : Calls α) (k : Nat) :
    (c.run (List.replicate k (.loop false))).calls = c.calls ∧
      (c.run (List.replicate k (.loop false))).closes = c.closes ∧
      (c.run (List.replicate k (.loop false))).closed = c.closed ∧
      (c.run (List.replicate k (.loop false))).writer = c.writer ∧
      (c.run (List.replicate k (.loop false))).size = c.size := by
  induction k generalizing c with
  | zero => exact ⟨rfl, rfl, rfl, rfl, rfl⟩
  | succ k ih =>
    obtain ⟨h1, h2, h3, h4, h5⟩ := c.stepLoop_frame false
    rw [List.replicate_succ, run_cons]
    obtain ⟨k1, k2, k3, k4, k5⟩ := ih (c.stepLoop false)
    exact ⟨k1.trans h1, k2.trans h2, k3.trans h3, k4.trans h4, k5.trans h5⟩

/-- With nothing to run the loop stays where it is. -/
theorem Drained.stepLoop (hd : c.Drained) (p : Bool) : c.stepLoop p = c := by
  obtain ⟨hb, hl⟩ := hd
  rcases c.stepLoop_cases p with ⟨i, rest, -, hb', -⟩ | ⟨hl', -, hc, -⟩ | ⟨i, hl', -⟩ | ⟨-, heq⟩
  · rw [hb] at hb'
    cases hb'
  · rw [hc, if_pos rfl, hl'] at hl
    cases hl
  · rw [hl'] at hl
    split at hl <;> cases hl
  · exact heq

theorem Drained.run_loops (hd : c.Drained) (k : Nat) :
    c.run (List.replicate k (.loop false)) = c := by
  induction k with
  | zero => rfl
  | succ k ih =>
    rw [List.replicate_succ, run_cons]
    change (c.stepLoop false).run _ = c
    rw [hd.stepLoop, ih]

/-- Short of having run everything, a step of the loop brings it nearer. -/
theorem Sound.loopToGo_lt (h : c.Sound) (hd : ¬ c.Drained) (p : Bool) :
    (c.stepLoop p).loopToGo < c.loopToGo := by
  rcases c.stepLoop_cases p with ⟨i, rest, hl, hb, heq⟩ | ⟨hl, hb, hc, heq⟩ | ⟨i, hl, heq⟩ |
    ⟨hstay, -⟩
  · rw [heq]
    simp only [loopToGo, hl, hb, List.length_cons]
    omega
  · rw [heq]
    simp [loopToGo, hl]
  · rw [heq]
    simp only [loopToGo, hl]
    omega
  · -- the loop waits on an open and empty channel, or finished: it ran everything
    exfalso
    apply hd
    rcases hstay with ⟨hl, hb, hc⟩ | hl
    · exact ⟨hb, by rw [hc, hl]; rfl⟩
    · obtain ⟨hc, hb⟩ := h.finished hl
      exact ⟨hb, by rw [hc, hl]; rfl⟩

theorem Sound.loopToGo_le (h : c.Sound) : c.loopToGo ≤ 2 * c.size + 2 := by
  have := h.fits
  unfold loopToGo
  split <;> omega

/-- Steps of the loop, as many as it has to go, run everything sent. -/
theorem Sound.drained_run_loops (h : c.Sound) {k : Nat} (hk : c.loopToGo ≤ k) :
    (c.run (List.replicate k (.loop false))).Drained := by
  induction k generalizing c with
  | zero =>
    -- nothing to go: the loop finished on a closed and empty channel
    have hl : c.loop = .finished := by
      cases hl : c.loop <;> simp [loopToGo, hl] at hk ⊢
    obtain ⟨hc, hb⟩ := h.finished hl
    show c.Drained
    exact ⟨hb, by rw [hc, hl]; rfl⟩
  | succ k ih =>
    by_cases hd : c.Drained
    · rw [hd.run_loops]
      exact hd
    · rw [List.replicate_succ, run_cons]
      change ((c.stepLoop false).run _).Drained
      exact ih (h.stepLoop false) (by have := h.loopToGo_lt hd false; omega)

theorem Sound.run_drain (h : c.Sound) : (c.run (drain c.size)).Drained :=
  h.drained_run_loops h.loopToGo_le

end Drain

section Serve

variable {c : Calls α}

/-- What steps of the calls of dispatch and of the loop leave alone: the calls of close, the
lock and the size of the buffer. -/
structure SameLock (c c' : Calls α) : Prop where
  closes : c'.closes = c.closes
  closed : c'.closed = c.closed
  writer : c'.writer = c.writer
  size : c'.size = c.size

theorem SameLock.trans {c' c'' : Calls α} (h : SameLock c c') (h' : SameLock c' c'') :
    SameLock c c'' :=
  ⟨h'.closes.trans h.closes, h'.closed.trans h.closed, h'.writer.trans h.writer,
    h'.size.trans h.size⟩

/-- A step of call `i` leaves the lock alone, and every other call. -/
theorem stepCall_frame (c : Calls α) (i : Nat) (call : Call α) :
    SameLock c (c.stepCall i call) ∧ (c.stepCall i call).calls.length = c.calls.length ∧
      ∀ k, k ≠ i → (c.stepCall i call).calls[k]? = c.calls[k]? := by
  rcases c.stepCall_cases i call with ⟨heq, -⟩ | ⟨s, eff, -, heq⟩
  · rw [heq]
    exact ⟨⟨rfl, rfl, rfl, rfl⟩, rfl, fun _ _ => rfl⟩
  · obtain ⟨hcalls, hcloses, hclosed, hwriter, hsize, -⟩ := apply_frame c i eff
    rw [heq]
    refine ⟨⟨hcloses, hclosed, hwriter, hsize⟩, by simp [hcalls], fun k hk => ?_⟩
    rw [setCall_calls, hcalls, List.getElem?_set_ne (Ne.symm hk)]

/-- The loop runs what it can, then call `i` takes a step. -/
def round (n i : Nat) : List (Move α) := drain n ++ [.step i]

/-- `m` rounds of call `i`. -/
def rounds (n i : Nat) : Nat → List (Move α)
  | 0 => []
  | m + 1 => round n i ++ rounds n i m

theorem round_frame (c : Calls α) (n i : Nat) :
    SameLock c (c.run (round n i)) ∧ (c.run (round n i)).calls.length = c.calls.length ∧
      ∀ k, k ≠ i → (c.run (round n i)).calls[k]? = c.calls[k]? := by
  obtain ⟨hcalls, hcloses, hclosed, hwriter, hsize⟩ := c.run_loops_frame (2 * n + 2)
  rw [round, drain, run_append, run_cons, run_nil]
  set d := c.run (List.replicate (2 * n + 2) (.loop false))
  have hd : SameLock c d := ⟨hcloses, hclosed, hwriter, hsize⟩
  cases hi : d.calls[i]? with
  | none =>
    rw [move_step_of_none hi]
    exact ⟨hd, by rw [hcalls], fun k _ => by rw [hcalls]⟩
  | some call =>
    rw [move_step_of_some hi]
    obtain ⟨hs, hlen, hother⟩ := d.stepCall_frame i call
    exact ⟨hd.trans hs, by rw [hlen, hcalls], fun k hk => by rw [hother k hk, hcalls]⟩

theorem rounds_frame (c : Calls α) (n i m : Nat) :
    SameLock c (c.run (rounds n i m)) ∧ (c.run (rounds n i m)).calls.length = c.calls.length ∧
      ∀ k, k ≠ i → (c.run (rounds n i m)).calls[k]? = c.calls[k]? := by
  induction m generalizing c with
  | zero => exact ⟨⟨rfl, rfl, rfl, rfl⟩, rfl, fun _ _ => rfl⟩
  | succ m ih =>
    obtain ⟨hs, hlen, hother⟩ := c.round_frame n i
    obtain ⟨hs', hlen', hother'⟩ := ih (c.run (round n i))
    rw [rounds, run_append]
    exact ⟨hs.trans hs', hlen'.trans hlen, fun k hk => (hother' k hk).trans (hother k hk)⟩

/-- Once the loop ran everything, a step of a call gets it through or nearer its return: a call
blocked at its send finds room in the buffer, or the loop waiting for it. -/
theorem Sound.progress_round (h : c.Sound) {i : Nat} {call : Call α} (hi : c.calls[i]? = some call) :
    ∃ call', (c.run (round c.size i)).calls[i]? = some call' ∧
      (Through c.writer call'.stage ∨
        ¬ Through c.writer call.stage ∧ call'.stage.toGo < call.stage.toGo) := by
  obtain ⟨hcalls, -, -, hwriter, -⟩ := c.run_loops_frame (2 * c.size + 2)
  have hd : (c.run (drain c.size)).Drained := h.run_drain
  have hs := h.run (drain c.size)
  rw [drain] at hd hs
  rw [round, drain, run_append, run_cons, run_nil]
  set d := c.run (List.replicate (2 * c.size + 2) (.loop false))
  have hdi : d.calls[i]? = some call := by rw [hcalls]; exact hi
  rw [move_step_of_some hdi, ← hwriter]
  rcases d.stepCall_cases i call with ⟨heq, hstuck⟩ | ⟨s, eff, hadv, heq⟩
  · -- stuck with nothing left for the loop to run: the call is through
    refine ⟨call, by rw [heq]; exact hdi, .inl ?_⟩
    have hnf := hs.unfailed call (List.mem_of_getElem? hdi)
    generalize call.stage = st at hstuck hnf ⊢
    cases hstuck with
    | waiting hw => exact .inr ⟨rfl, hw⟩
    | blocked hc _ hnot =>
      obtain ⟨hb, hl⟩ := hd
      rw [hc, if_neg Bool.false_ne_true] at hl
      exact absurd ⟨hb, hl⟩ hnot
    | returned a => exact .inl ⟨a, rfl⟩
    | failed => exact absurd rfl hnf
  · refine ⟨{ call with stage := s }, ?_, .inr ⟨hadv.not_through, hadv.toGo_lt⟩⟩
    rw [heq, setCall_calls, (apply_frame d i eff).1,
      List.getElem?_set_self (List.getElem?_eq_some_iff.mp hdi).1]

/-- Rounds of a call, as many as it has to go, get it through. -/
theorem Sound.through_rounds (h : c.Sound) {i : Nat} {call : Call α}
    (hi : c.calls[i]? = some call) {m : Nat}
    (hm : Through c.writer call.stage ∨ call.stage.toGo ≤ m) :
    ∃ call', (c.run (rounds c.size i m)).calls[i]? = some call' ∧
      Through c.writer call'.stage := by
  induction m generalizing c call with
  | zero =>
    refine ⟨call, hi, hm.elim id fun h0 => ?_⟩
    -- nothing to go: the call returned, since it never fails
    have hnf := h.unfailed call (List.mem_of_getElem? hi)
    cases hs : call.stage with
    | returned a => exact .inl ⟨a, rfl⟩
    | failed => exact absurd hs hnf
    | _ => rw [hs] at h0; simp [Stage.toGo] at h0
  | succ m ih =>
    obtain ⟨call', hi', hprog⟩ := h.progress_round hi
    obtain ⟨hlock, -, -⟩ := c.round_frame c.size i
    have hm' : Through (c.run (round c.size i)).writer call'.stage ∨ call'.stage.toGo ≤ m := by
      rw [hlock.writer]
      rcases hprog with ht | ⟨hnt, hlt⟩
      · exact .inl ht
      · exact .inr (by rcases hm with ht | hle; exact absurd ht hnt; omega)
    have key := ih (h.run (round c.size i)) hi' hm'
    rw [hlock.size, hlock.writer] at key
    rw [rounds, run_append]
    exact key

/-- Each of the first `k` calls of dispatch in turn takes four rounds. -/
def serveAll (n k : Nat) : List (Move α) := (List.range k).flatMap fun i => rounds n i 4

theorem serveAll_succ (n k : Nat) :
    (serveAll n (k + 1) : List (Move α)) = serveAll n k ++ rounds n k 4 := by
  simp [serveAll, List.range_succ, List.flatMap_append]

/-- When the first `k` calls took their rounds in turn, each is through, the others stand as
they did, and the lock is as it was. -/
theorem Sound.run_serveAll (h : c.Sound) (k : Nat) :
    SameLock c (c.run (serveAll c.size k)) ∧
      (c.run (serveAll c.size k)).calls.length = c.calls.length ∧
      (∀ i < k, ∀ call, (c.run (serveAll c.size k)).calls[i]? = some call →
        Through c.writer call.stage) ∧
      ∀ i, k ≤ i → (c.run (serveAll c.size k)).calls[i]? = c.calls[i]? := by
  induction k with
  | zero =>
    exact ⟨⟨rfl, rfl, rfl, rfl⟩, rfl, fun i hi => absurd hi (Nat.not_lt_zero i), fun i _ => rfl⟩
  | succ k ih =>
    obtain ⟨hs, hlen, hthrough, hrest⟩ := ih
    set d := c.run (serveAll c.size k)
    obtain ⟨hs', hlen', hother⟩ := d.rounds_frame c.size k 4
    rw [serveAll_succ, run_append]
    refine ⟨hs.trans hs', by rw [hlen', hlen], fun i hi call hcall => ?_, fun i hi => ?_⟩
    · by_cases hik : i = k
      · -- the call that just took its rounds
        subst hik
        cases hdi : d.calls[i]? with
        | none =>
          have hle := List.getElem?_eq_none_iff.mp hdi
          rw [List.getElem?_eq_none (by rw [hlen']; exact hle)] at hcall
          cases hcall
        | some call0 =>
          have hm : Through d.writer call0.stage ∨ call0.stage.toGo ≤ 4 := .inr (Stage.toGo_le _)
          obtain ⟨call', hi', hthr⟩ := (h.run _).through_rounds hdi hm
          rw [hs.size] at hi'
          rw [hi'] at hcall
          cases hcall
          rw [← hs.writer]
          exact hthr
      · rw [hother i hik] at hcall
        exact hthrough i (by omega) call hcall
    · rw [hother i (by omega), hrest i (by omega)]

/-- With every call through, none holds the read side. -/
theorem readers_of_through (c : Calls α) {w : Writer}
    (hall : ∀ (i : Nat) (call : Call α), c.calls[i]? = some call → Through w call.stage) :
    c.readers = 0 := by
  rw [readers, List.countP_eq_zero]
  intro call hcall
  obtain ⟨i, hi⟩ := List.mem_iff_getElem?.mp hcall
  rw [(hall i call hi).holdsRead]
  decide

/-- When every call took its rounds in turn, each is through. -/
theorem Sound.through_all (h : c.Sound) :
    ∀ (i : Nat) (call : Call α), (c.run (serveAll c.size c.calls.length)).calls[i]? = some call →
      Through c.writer call.stage := by
  obtain ⟨-, hlen, hthrough, -⟩ := h.run_serveAll c.calls.length
  intro i call hcall
  have hi : i < c.calls.length := hlen ▸ (List.getElem?_eq_some_iff.mp hcall).1
  exact hthrough i hi call hcall

end Serve

section Settle

variable {c : Calls α} {j : Nat}

theorem move_closeStep_called (hj : c.closes[j]? = some .called) (hw : c.writer = .free) :
    c.move (.closeStep j) = { c with closes := c.closes.set j .draining, writer := .asked } := by
  rw [move_closeStep_of_some hj, stepClose_called hw]

theorem move_closeStep_draining (hj : c.closes[j]? = some .draining) (h0 : c.readers = 0) :
    c.move (.closeStep j) =
      { c with closes := c.closes.set j .releasing, writer := .held, closed := true } := by
  rw [move_closeStep_of_some hj, stepClose_draining h0]

theorem move_closeStep_releasing (hj : c.closes[j]? = some .releasing) :
    c.move (.closeStep j) = { c with closes := c.closes.set j .awaiting, writer := .free } := by
  rw [move_closeStep_of_some hj]
  rfl

theorem move_closeStep_awaiting (hj : c.closes[j]? = some .awaiting) (hl : c.loop = .finished) :
    c.move (.closeStep j) = { c with closes := c.closes.set j .returned } := by
  rw [move_closeStep_of_some hj, stepClose_awaiting hl]

theorem move_closeStep_returned (hj : c.closes[j]? = some .returned) :
    c.move (.closeStep j) = c := by
  rw [move_closeStep_of_some hj]
  rfl

/-- The moves of calls already made and of the loop: no new call. -/
def OwnSteps (ms : List (Move α)) : Prop :=
  ∀ m ∈ ms, (∃ i, m = .step i) ∨ (∃ j, m = .closeStep j) ∨ ∃ p, m = .loop p

theorem OwnSteps.append {ms ms' : List (Move α)} (h : OwnSteps ms) (h' : OwnSteps ms') :
    OwnSteps (ms ++ ms') := by
  intro m hm
  rcases List.mem_append.mp hm with hm | hm
  · exact h m hm
  · exact h' m hm

theorem ownSteps_closeSteps (j k : Nat) : OwnSteps (List.replicate k (.closeStep j) : List (Move α)) :=
  fun _ hm => .inr (.inl ⟨j, (List.mem_replicate.mp hm).2⟩)

theorem ownSteps_drain (n : Nat) : OwnSteps (drain n : List (Move α)) :=
  fun _ hm => .inr (.inr ⟨false, (List.mem_replicate.mp hm).2⟩)

theorem ownSteps_serveAll (n k : Nat) : OwnSteps (serveAll n k : List (Move α)) := by
  -- each round is the loop's steps and one step of a call
  have hrounds : ∀ i m, OwnSteps (rounds n i m : List (Move α)) := by
    intro i m
    induction m with
    | zero => exact fun _ hm => absurd hm List.not_mem_nil
    | succ m ih =>
      refine OwnSteps.append (OwnSteps.append (ownSteps_drain n) fun _ hm => ?_) ih
      exact .inl ⟨i, List.mem_singleton.mp hm⟩
  intro m hm
  obtain ⟨i, -, hm⟩ := List.mem_flatMap.mp hm
  exact hrounds i 4 m hm

/-- The call of close that asked for the write side gets it once every call of dispatch took
its rounds, then sets the flag and releases it. -/
theorem Sound.release_of_draining (h : c.Sound) {r : Nat} (hr : c.closes[r]? = some .draining) :
    (c.run (serveAll c.size c.calls.length ++ [.closeStep r, .closeStep r])).closed = true ∧
      (c.run (serveAll c.size c.calls.length ++ [.closeStep r, .closeStep r])).writer = .free := by
  obtain ⟨hs, -, -, -⟩ := h.run_serveAll c.calls.length
  rw [run_append]
  set e := c.run (serveAll c.size c.calls.length)
  have hre : e.closes[r]? = some .draining := by rw [hs.closes]; exact hr
  have hlt : r < e.closes.length := (List.getElem?_eq_some_iff.mp hre).1
  have e1 := move_closeStep_draining hre (e.readers_of_through h.through_all)
  have hre1 : (e.move (.closeStep r)).closes[r]? = some .releasing := by
    rw [e1]
    simp [hlt]
  rw [run_cons, run_cons, run_nil, move_closeStep_releasing hre1, e1]
  exact ⟨rfl, rfl⟩

/-- From any state after a call of close, steps of the calls already made and of the loop set
the flag and free the lock. -/
theorem Sound.exists_released (h : c.Sound) (hne : c.closes ≠ []) :
    ∃ ms, OwnSteps ms ∧ (c.run ms).closed = true ∧ (c.run ms).writer = .free := by
  -- once a call of close asked for the write side, the rounds of every call let it finish
  have finish : ∀ {e : Calls α}, e.Sound → ∀ r : Nat, e.closes[r]? = some .draining →
      ∃ ms, OwnSteps ms ∧ (e.run ms).closed = true ∧ (e.run ms).writer = .free :=
    fun he r hr =>
      ⟨_, (ownSteps_serveAll _ _).append (ownSteps_closeSteps r 2), he.release_of_draining hr⟩
  cases hw : c.writer with
  | free =>
    cases hc : c.closed with
    | true => exact ⟨[], fun _ hm => absurd hm List.not_mem_nil, hc, hw⟩
    | false =>
      -- every call of close waits for the write side: the first takes its turn
      obtain ⟨st, rest, hcl⟩ := List.exists_cons_of_ne_nil hne
      have hst : c.closes[0]? = some st := by rw [hcl]; rfl
      have h0 : c.closes[0]? = some .called := by
        have hfree := h.free hw 0 st hst
        rw [hst]
        cases st with
        | called => rfl
        | draining | releasing => cases hfree
        | awaiting | returned =>
          have := h.released 0 _ hst (by decide)
          rw [hc] at this
          cases this
      have e1 := move_closeStep_called h0 hw
      have hlt : 0 < c.closes.length := (List.getElem?_eq_some_iff.mp h0).1
      obtain ⟨ms, hms, hcl, hwr⟩ := finish (h.move (.closeStep 0)) 0 (by rw [e1]; simp [hlt])
      refine ⟨.closeStep 0 :: ms, fun m hm => ?_, hcl, hwr⟩
      rcases List.mem_cons.mp hm with rfl | hm
      · exact .inr (.inl ⟨0, rfl⟩)
      · exact hms m hm
  | asked =>
    -- the call of close that asked is draining
    obtain ⟨r, st, hr, hst, hwr, -⟩ := h.owner (by rw [hw]; exact Writer.noConfusion)
    rw [hw] at hwr
    cases st with
    | draining => exact finish h r hr
    | _ => cases hst <;> cases hwr
  | held =>
    -- the call of close that holds the write side set the flag; it releases the lock
    obtain ⟨r, st, hr, hst, hwr, -⟩ := h.owner (by rw [hw]; exact Writer.noConfusion)
    rw [hw] at hwr
    cases st with
    | releasing =>
      refine ⟨[.closeStep r], ownSteps_closeSteps r 1, ?_, ?_⟩ <;>
        rw [run_cons, run_nil, move_closeStep_releasing hr]
      exact h.released r .releasing hr (.inl rfl)
    | _ => cases hst <;> cases hwr

/-- With the flag set, the lock free, the loop finished and no call holding the read side, four
steps of a call of close return it, changing nothing else. -/
theorem Sound.run_closeSteps_settled (h : c.Sound) (hc : c.closed = true)
    (hw : c.writer = .free) (hl : c.loop = .finished) (h0 : c.readers = 0) {st : Closing}
    (hj : c.closes[j]? = some st) :
    c.run (List.replicate 4 (.closeStep j)) = { c with closes := c.closes.set j .returned } := by
  have hlt := (List.getElem?_eq_some_iff.mp hj).1
  have h4 : List.replicate 4 (Move.closeStep j : Move α) =
      [.closeStep j, .closeStep j, .closeStep j, .closeStep j] := rfl
  rw [h4]
  cases st with
  | called =>
    -- it takes the write side, sets the flag again, releases the lock and returns
    have e1 := move_closeStep_called hj hw
    set c1 : Calls α := { c with closes := c.closes.set j .draining, writer := .asked }
    have e2 := move_closeStep_draining (show c1.closes[j]? = some .draining by simp [c1, hlt]) h0
    set c2 : Calls α :=
      { c1 with closes := c1.closes.set j .releasing, writer := .held, closed := true }
    have e3 := move_closeStep_releasing (show c2.closes[j]? = some .releasing by simp [c2, c1, hlt])
    set c3 : Calls α := { c2 with closes := c2.closes.set j .awaiting, writer := .free }
    have e4 := move_closeStep_awaiting (show c3.closes[j]? = some .awaiting by simp [c3, c2, c1, hlt]) hl
    rw [run_cons, e1, run_cons, e2, run_cons, e3, run_cons, e4, run_nil]
    simp only [c3, c2, c1, List.set_set]
    rw [hc, hw]
  | draining | releasing => cases h.free hw j _ hj
  | awaiting =>
    -- it returns at once, and then stays returned
    have e1 := move_closeStep_awaiting hj hl
    set c1 : Calls α := { c with closes := c.closes.set j .returned }
    have h1 : c1.closes[j]? = some .returned := by simp [c1, hlt]
    rw [run_cons, e1, run_cons, move_closeStep_returned h1, run_cons, move_closeStep_returned h1,
      run_cons, move_closeStep_returned h1, run_nil]
  | returned =>
    rw [run_cons, move_closeStep_returned hj, run_cons, move_closeStep_returned hj, run_cons,
      move_closeStep_returned hj, run_cons, move_closeStep_returned hj, run_nil]
    obtain ⟨hlt', hget⟩ := List.getElem?_eq_some_iff.mp hj
    rw [← hget, List.set_getElem_self]

/-- Each of the first `k` calls of close in turn takes four steps. -/
def closeAll (k : Nat) : List (Move α) :=
  (List.range k).flatMap fun j => List.replicate 4 (.closeStep j)

theorem closeAll_succ (k : Nat) :
    (closeAll (k + 1) : List (Move α)) = closeAll k ++ List.replicate 4 (.closeStep k) := by
  simp [closeAll, List.range_succ, List.flatMap_append]

theorem ownSteps_closeAll (k : Nat) : OwnSteps (closeAll k : List (Move α)) := by
  intro m hm
  obtain ⟨j, -, hm⟩ := List.mem_flatMap.mp hm
  exact ownSteps_closeSteps j 4 m hm

/-- Once the loop finished and no call of dispatch holds the read side, the first `k` calls of
close in turn return, changing nothing else. -/
theorem Sound.run_closeAll (h : c.Sound) (hc : c.closed = true) (hw : c.writer = .free)
    (hl : c.loop = .finished) (h0 : c.readers = 0) {k : Nat} (hk : k ≤ c.closes.length) :
    ∃ cl : List Closing, c.run (closeAll k) = { c with closes := cl } ∧
      cl.length = c.closes.length ∧ ∀ j < k, ∀ st, cl[j]? = some st → st = .returned := by
  induction k with
  | zero => exact ⟨c.closes, rfl, rfl, fun j hj => absurd hj (Nat.not_lt_zero j)⟩
  | succ k ih =>
    obtain ⟨cl, heq, hlen, hret⟩ := ih (by omega)
    have hs : ({ c with closes := cl } : Calls α).Sound := heq ▸ h.run _
    have hkl : k < cl.length := by omega
    rw [closeAll_succ, run_append, heq,
      hs.run_closeSteps_settled hc hw hl h0 (List.getElem?_eq_getElem hkl)]
    refine ⟨cl.set k .returned, rfl, by rw [List.length_set, hlen], fun j hj st hst => ?_⟩
    rcases getElem?_set_cases hst with ⟨-, rfl⟩ | ⟨hjk, hst⟩
    · rfl
    · exact hret j (by omega) st hst

/-- With the flag set and the lock free, every call of dispatch takes its rounds, the loop runs
what is left and finishes, and every call of close in turn returns. -/
theorem Sound.settles_of_released (h : c.Sound) (hc : c.closed = true) (hw : c.writer = .free) :
    let d := c.run (serveAll c.size c.calls.length ++ drain c.size ++ closeAll c.closes.length)
    (∀ st ∈ d.closes, st = .returned) ∧ (∀ call ∈ d.calls, ∃ a, call.stage = .returned a) ∧
      d.loop = .finished ∧ d.ran.map (·.1) = d.sent := by
  intro d
  obtain ⟨hs1, -, -, -⟩ := h.run_serveAll c.calls.length
  have h1 := h.run (serveAll c.size c.calls.length)
  set e1 := c.run (serveAll c.size c.calls.length)
  -- with the lock free, every call of dispatch got through by returning
  have hret1 : ∀ (i : Nat) (call : Call α), e1.calls[i]? = some call →
      ∃ a, call.stage = .returned a := by
    intro i call hi
    rcases h.through_all i call hi with hr | ⟨-, hne⟩
    · exact hr
    · exact absurd hw hne
  -- the loop runs what is left and finishes
  obtain ⟨hcalls2, hcloses2, hclosed2, hwriter2, -⟩ := e1.run_loops_frame (2 * c.size + 2)
  have hd2 := h1.run_drain
  rw [hs1.size] at hd2
  set e2 := e1.run (drain c.size)
  have h2 : e2.Sound := h1.run _
  have hc2 : e2.closed = true := by rw [← hc, ← hs1.closed]; exact hclosed2
  have hw2 : e2.writer = .free := by rw [← hw, ← hs1.writer]; exact hwriter2
  have hl2 : e2.loop = .finished := by rw [hd2.2, hc2]; rfl
  have hcalls2' : e2.calls = e1.calls := hcalls2
  have hlen2 : e2.closes.length = c.closes.length := by
    rw [← hs1.closes]
    exact congrArg List.length hcloses2
  have h02 : e2.readers = 0 := by
    refine e2.readers_of_through fun i call hi => (.inl ?_ : Through .free call.stage)
    rw [hcalls2'] at hi
    exact hret1 i call hi
  -- then every call of close in turn returns
  obtain ⟨cl, heq, hlen, hret⟩ := h2.run_closeAll hc2 hw2 hl2 h02 (Nat.le_refl e2.closes.length)
  have hd : d = e2.run (closeAll e2.closes.length) := by
    rw [hlen2]
    show c.run (serveAll c.size c.calls.length ++ drain c.size ++ closeAll c.closes.length) = _
    rw [run_append, run_append]
  rw [hd, heq]
  refine ⟨fun st hst => ?_, fun call hcall => ?_, hl2, ?_⟩
  · obtain ⟨j, hj⟩ := List.mem_iff_getElem?.mp hst
    have hjl := (List.getElem?_eq_some_iff.mp hj).1
    exact hret j (by rw [← hlen]; exact hjl) st hj
  · obtain ⟨i, hi⟩ := List.mem_iff_getElem?.mp hcall
    exact hret1 i call (by rw [← hcalls2']; exact hi)
  · -- nothing runs and nothing waits: everything sent ran
    have hfifo := h2.fifo
    rw [hl2, hd2.1] at hfifo
    simpa [Loop.current] using hfifo

/-- From any state after a call of close, steps of the calls already made and of the loop
return every call of dispatch and of close, with the loop finished and every callback sent
run. -/
theorem Sound.settles (h : c.Sound) (hne : c.closes ≠ []) :
    ∃ ms, OwnSteps ms ∧ (∀ st ∈ (c.run ms).closes, st = .returned) ∧
      (∀ call ∈ (c.run ms).calls, ∃ a, call.stage = .returned a) ∧
      (c.run ms).loop = .finished ∧ (c.run ms).ran.map (·.1) = (c.run ms).sent := by
  obtain ⟨ms, hms, hc, hw⟩ := h.exists_released hne
  set e := c.run ms
  refine ⟨ms ++ (serveAll e.size e.calls.length ++ drain e.size ++ closeAll e.closes.length),
    hms.append (((ownSteps_serveAll _ _).append (ownSteps_drain _)).append (ownSteps_closeAll _)),
    ?_⟩
  rw [run_append]
  exact (h.run ms).settles_of_released hc hw

end Settle

/-! ## What stays of a call -/

section Stays

variable {c : Calls α}

/-- A property of a call's standing that every advance keeps holds of the call whatever move
comes. -/
theorem stays_move (P : Stage → Prop)
    (hP : ∀ {d : Calls α} {s s' : Stage} {eff : Effect}, Advance d s s' eff → P s → P s')
    {i : Nat} (hi : ∃ call, c.calls[i]? = some call ∧ P call.stage) (m : Move α) :
    ∃ call, (c.move m).calls[i]? = some call ∧ P call.stage := by
  obtain ⟨call, hi, hp⟩ := hi
  have hlt := (List.getElem?_eq_some_iff.mp hi).1
  cases m with
  | dispatch fn => exact ⟨call, by rw [← hi]; exact List.getElem?_append_left hlt, hp⟩
  | close => exact ⟨call, hi, hp⟩
  | loop p =>
    refine ⟨call, ?_, hp⟩
    show (c.stepLoop p).calls[i]? = some call
    rw [(c.stepLoop_frame p).1]
    exact hi
  | closeStep j =>
    cases hj : c.closes[j]? with
    | none => rw [move_closeStep_of_none hj]; exact ⟨call, hi, hp⟩
    | some st =>
      rw [move_closeStep_of_some hj, (stepClose_frame c j st).1]
      exact ⟨call, hi, hp⟩
  | step j =>
    cases hj : c.calls[j]? with
    | none => rw [move_step_of_none hj]; exact ⟨call, hi, hp⟩
    | some callj =>
      rw [move_step_of_some hj]
      rcases c.stepCall_cases j callj with ⟨heq, -⟩ | ⟨s, eff, hadv, heq⟩
      · rw [heq]
        exact ⟨call, hi, hp⟩
      rw [heq, setCall_calls, (apply_frame c j eff).1]
      by_cases hji : j = i
      · -- the call itself advanced
        subst hji
        obtain rfl := Option.some.inj (hj.symm.trans hi)
        exact ⟨_, List.getElem?_set_self hlt, hP hadv hp⟩
      · exact ⟨call, by rw [List.getElem?_set_ne hji]; exact hi, hp⟩

theorem stays_run (P : Stage → Prop)
    (hP : ∀ {d : Calls α} {s s' : Stage} {eff : Effect}, Advance d s s' eff → P s → P s')
    {i : Nat} (hi : ∃ call, c.calls[i]? = some call ∧ P call.stage) (ms : List (Move α)) :
    ∃ call, (c.run ms).calls[i]? = some call ∧ P call.stage := by
  induction ms generalizing c with
  | nil => exact hi
  | cons m ms ih => exact ih (stays_move P hP hi m)

/-- What ran was sent. -/
theorem Sound.mem_sent_of_ran (h : c.Sound) {i : Nat} (hi : i ∈ c.ran.map (·.1)) :
    i ∈ c.sent := by
  rw [← h.fifo, List.append_assoc]
  exact List.mem_append_left _ hi

/-- The callback of a call that found the queue closed has not run. -/
theorem Sound.not_ran_of_dropped (h : c.Sound) {i : Nat} {call : Call α}
    (hi : c.calls[i]? = some call) (hd : call.stage.dropped = true) :
    i ∉ c.ran.map (·.1) := by
  intro hran
  obtain ⟨call', hi', hacc⟩ := (h.sent_iff i).mp (h.mem_sent_of_ran hran)
  obtain rfl := Option.some.inj (hi.symm.trans hi')
  rw [Stage.dropped_of_accepted hacc] at hd
  cases hd

/-- A call of close returns only once the loop finished, having run everything sent. -/
theorem Sound.ran_of_returned (h : c.Sound) {j : Nat} (hj : c.closes[j]? = some .returned) :
    c.loop = .finished ∧ c.ran.map (·.1) = c.sent := by
  have hl := h.returned j hj
  refine ⟨hl, ?_⟩
  have hfifo := h.fifo
  rw [hl, (h.finished hl).2] at hfifo
  simpa [Loop.current] using hfifo

/-- Before the first call of close, a call that returned accepted its callback. -/
theorem Sound.accepted_of_returned (h : c.Sound) (hcl : c.closes = []) {i : Nat}
    {call : Call α} {a : Bool} (hi : c.calls[i]? = some call) (hs : call.stage = .returned a) :
    a = true := by
  cases a with
  | true => rfl
  | false =>
    -- a call drops its callback only on a closed queue, and only a call of close closes it
    have hc := h.dropped call (List.mem_of_getElem? hi) (by rw [hs]; rfl)
    exact absurd hcl (h.flagged hc)

end Stays

end Calls

/-- A queue runs each accepted callback once, in order, and closing it drains it, whatever the
calls of dispatch, the loop and the calls of close do, and in whatever order their steps come:

* what ran, then what runs, then what waits in the buffer, is what was sent, in the order the
  sends completed, each once; a callback was sent exactly when its call accepted it;
* no call sends into the closed channel, and the callback of a call that found the queue
  closed never runs;
* whether a callback panics changes nothing but the record of it;
* a call of close returns only once the loop finished, having run everything sent;
* after a call of close, steps of the calls already made and of the loop return every call of
  dispatch and of close, with every callback sent run;
* a call that returned before the first call of close accepted its callback, and it has run
  by the time any call of close returns. -/
theorem queue_runs_accepted_callbacks_once_in_order {α : Type} (size : Int)
    (ms : List (Move α)) :
    let c := (Calls.fresh size : Calls α).run ms
    c.ran.map (·.1) ++ c.loop.current ++ c.buffer = c.sent ∧ c.sent.Nodup ∧
    (∀ i, i ∈ c.sent ↔ ∃ call, c.calls[i]? = some call ∧ call.stage.accepted = true) ∧
    (∀ call ∈ c.calls, call.stage ≠ .failed) ∧
    (∀ (i : Nat) (call : Call α), c.calls[i]? = some call → call.stage.dropped = true →
      ∀ ms' : List (Move α), i ∉ (c.run ms').ran.map (·.1)) ∧
    c.calm = (Calls.fresh size).run (ms.map Move.calm) ∧
    (∀ j : Nat, c.closes[j]? = some .returned → c.loop = .finished ∧ c.ran.map (·.1) = c.sent) ∧
    (c.closes ≠ [] → ∃ ms' : List (Move α),
      (∀ m ∈ ms', (∃ i, m = .step i) ∨ (∃ j, m = .closeStep j) ∨ ∃ p, m = .loop p) ∧
      let d := c.run ms'
      (∀ st ∈ d.closes, st = .returned) ∧ (∀ call ∈ d.calls, ∃ a, call.stage = .returned a) ∧
        d.loop = .finished ∧ d.ran.map (·.1) = d.sent) ∧
    (c.closes = [] → ∀ (i : Nat) (call : Call α) (a : Bool), c.calls[i]? = some call →
      call.stage = .returned a → a = true ∧ ∀ (ms' : List (Move α)) (j : Nat),
        (c.run ms').closes[j]? = some .returned → i ∈ (c.run ms').ran.map (·.1)) := by
  intro c
  have h : c.Sound := (Calls.sound_fresh size).run ms
  refine ⟨h.fifo, h.nodup, h.sent_iff, h.unfailed, fun i call hi hd ms' => ?_, ?_,
    fun j hj => h.ran_of_returned hj, h.settles, fun hcl i call a hi hs => ?_⟩
  · -- a call that found the queue closed stays so, and its callback is never sent
    obtain ⟨call', hi', hd'⟩ :=
      Calls.stays_run (fun s => s.dropped = true) (fun hadv => hadv.dropped) ⟨call, hi, hd⟩ ms'
    exact (h.run ms').not_ran_of_dropped hi' hd'
  · rw [Calls.calm_run, Calls.calm_fresh]
  · -- it accepted its callback, which stays sent until a call of close returns with it run
    have ha := h.accepted_of_returned hcl hi hs
    refine ⟨ha, fun ms' j hj => ?_⟩
    obtain ⟨call', hi', hacc⟩ := Calls.stays_run (fun s => s.accepted = true)
      (fun hadv => hadv.accepted) ⟨call, hi, by rw [hs, ha]; rfl⟩ ms'
    have hs' := h.run ms'
    rw [(hs'.ran_of_returned hj).2]
    exact (hs'.sent_iff i).mpr ⟨call', hi', hacc⟩

end LiveTail.Queue
