import LiveTail.Feed.Calls
import Mathlib.Data.List.Nodup
/-!
# What a shared feed hands its reader

Whatever the emits, the reader and the closing calls do, and in whatever order their steps
come, a feed keeps these laws (`Calls.Sound`):

* first in, first out: what left the buffer, followed by what is still in it, is what was
  sent, in the order the sends completed, with each emit's event at most once;
* an emit's event was sent exactly when the emit returns true, or is about to;
* an emit takes at most one event away, only after it found the buffer full, and an emit of
  a blocking feed takes none away.

So the reader gets events in the order their sends completed and never one twice, and from
a blocking feed it gets every event an emit returned true for, once it has read a closed feed
to the end. An emit that makes room takes the oldest buffered event.

`Advance` says once what a step of an emit can do; `Calls.Sound.move` is the step lemma and
`Calls.Sound.run` the run lemma.
-/
namespace LiveTail.Feed

namespace Stage

/-- The call completed its send: it returns true, or is about to. -/
def sentIt : Stage → Bool
  | .leaving true | .returned true => true
  | _ => false

/-- The call has not yet made room for its event. -/
def beforeDrop : Stage → Bool
  | .waiting | .looking | .offering | .dropping => true
  | _ => false

end Stage

/-- What a step of an emit does to the buffer. -/
inductive Effect where
  | keep
  | push
  | take
  deriving DecidableEq, Repr

/-- The steps an emit can take on a feed, from one standing to the next, with what each does
to the buffer. -/
inductive Advance {α : Type} (c : Calls α) : Stage → Stage → Effect → Prop where
  | enter : c.writer = .free → Advance c .waiting .looking .keep
  | refuse : c.closed = true → Advance c .looking (.leaving false) .keep
  | offer : c.closed = false → c.mode = .dropOldest → Advance c .looking .offering .keep
  | wait : c.closed = false → c.mode ≠ .dropOldest → Advance c .looking .sending .keep
  | sendNow : c.closed = false → c.buffer.length < c.capacity →
      Advance c .offering (.leaving true) .push
  | full : c.closed = false → c.capacity ≤ c.buffer.length → Advance c .offering .dropping .keep
  | drop : Advance c .dropping .sending .take
  | send : c.closed = false → c.buffer.length < c.capacity →
      Advance c .sending (.leaving true) .push
  | giveUp : c.done = true → Advance c .sending (.leaving false) .keep
  | failOffering : c.closed = true → Advance c .offering .failed .keep
  | failSending : c.closed = true → Advance c .sending .failed .keep
  | leave (ok : Bool) : Advance c (.leaving ok) (.returned ok) .keep

namespace Advance

variable {α : Type} {c : Calls α} {s s' : Stage} {eff : Effect}

/-- Only a completed send marks the call as having sent. -/
theorem sentIt_of_keep (h : Advance c s s' .keep) : s'.sentIt = s.sentIt := by
  cases h with
  | leave ok => cases ok <;> rfl
  | _ => rfl

theorem of_push (h : Advance c s s' .push) :
    s.sentIt = false ∧ s' = .leaving true ∧ c.closed = false ∧ c.buffer.length < c.capacity := by
  cases h with
  | sendNow hc hr => exact ⟨rfl, rfl, hc, hr⟩
  | send hc hr => exact ⟨rfl, rfl, hc, hr⟩

theorem of_take (h : Advance c s s' .take) : s = .dropping ∧ s' = .sending := by
  cases h
  exact ⟨rfl, rfl⟩

theorem sentIt_of_take (h : Advance c s s' .take) : s'.sentIt = s.sentIt := by
  obtain ⟨rfl, rfl⟩ := h.of_take
  rfl

/-- A call that has made room stays past it. -/
theorem beforeDrop_of_past (h : Advance c s s' eff) (hs : s.beforeDrop = false) :
    s'.beforeDrop = false := by
  cases h <;> first | rfl | cases hs

/-- A call moves to making room only from trying to send without waiting. -/
theorem eq_offering_of_dropping (h : Advance c s .dropping eff) : s = .offering := by
  cases h
  rfl

/-- A call tries to send without waiting only on a feed that drops the oldest. -/
theorem mode_of_offering (h : Advance c s .offering eff) : c.mode = .dropOldest := by
  cases h with
  | offer _ hm => exact hm

end Advance

namespace Calls

variable {α : Type} {c : Calls α}

/-- What a step of emit `i` does to the buffer. -/
def apply (c : Calls α) (i : Nat) : Effect → Calls α
  | .keep => c
  | .push => c.pushEvent i
  | .take => c.takeOldest (some i)

/-! ## The parts each change leaves alone -/

section Frame

variable {i : Nat} {em : Emit α} {w : Option Nat} {eff : Effect}

@[simp] theorem setEmit_buffer : (c.setEmit i em).buffer = c.buffer := rfl
@[simp] theorem setEmit_sent : (c.setEmit i em).sent = c.sent := rfl
@[simp] theorem setEmit_taken : (c.setEmit i em).taken = c.taken := rfl
@[simp] theorem setEmit_mode : (c.setEmit i em).mode = c.mode := rfl
@[simp] theorem setEmit_capacity : (c.setEmit i em).capacity = c.capacity := rfl
@[simp] theorem setEmit_emits : (c.setEmit i em).emits = c.emits.set i em := rfl

/-- An effect on the buffer leaves the emits and the feed's settings alone. -/
theorem apply_frame (c : Calls α) (i : Nat) (eff : Effect) :
    (c.apply i eff).emits = c.emits ∧ (c.apply i eff).mode = c.mode ∧
      (c.apply i eff).capacity = c.capacity := by
  cases eff with
  | keep => exact ⟨rfl, rfl, rfl⟩
  | push => exact ⟨rfl, rfl, rfl⟩
  | take =>
    unfold apply takeOldest
    cases c.buffer <;> exact ⟨rfl, rfl, rfl⟩

/-- The oldest event leaves, when there is one, and is recorded as taken. -/
theorem takeOldest_cases (c : Calls α) (w : Option Nat) :
    c.buffer = [] ∧ c.takeOldest w = c ∨
      ∃ t rest, c.buffer = t :: rest ∧ (c.takeOldest w).buffer = rest ∧
        (c.takeOldest w).taken = c.taken ++ [(t, w)] ∧ (c.takeOldest w).sent = c.sent ∧
        (c.takeOldest w).emits = c.emits ∧ (c.takeOldest w).mode = c.mode := by
  unfold takeOldest
  split
  · rename_i h
    exact .inl ⟨h, rfl⟩
  · rename_i t rest h
    exact .inr ⟨t, rest, h, rfl, rfl, rfl, rfl, rfl⟩

/-- A closing step leaves the emits, the buffer and its records alone. -/
theorem stepClose_frame (c : Calls α) (j : Nat) (st : Closing) :
    (c.stepClose j st).emits = c.emits ∧ (c.stepClose j st).buffer = c.buffer ∧
      (c.stepClose j st).sent = c.sent ∧ (c.stepClose j st).taken = c.taken ∧
      (c.stepClose j st).mode = c.mode := by
  cases st with
  | called => simp only [stepClose]; split <;> exact ⟨rfl, rfl, rfl, rfl, rfl⟩
  | asking => exact ⟨rfl, rfl, rfl, rfl, rfl⟩
  | draining => simp only [stepClose]; split <;> exact ⟨rfl, rfl, rfl, rfl, rfl⟩
  | releasing => exact ⟨rfl, rfl, rfl, rfl, rfl⟩
  | returned => exact ⟨rfl, rfl, rfl, rfl, rfl⟩

end Frame

section Moves

variable {i j : Nat} {em : Emit α} {st : Closing} {k : Case}

theorem move_step_of_some (h : c.emits[i]? = some em) : c.move (.step i k) = c.stepEmit i em k := by
  simp [move, h]

theorem move_step_of_none (h : c.emits[i]? = none) : c.move (.step i k) = c := by
  simp [move, h]

theorem move_closeStep_of_some (h : c.closes[j]? = some st) :
    c.move (.closeStep j) = c.stepClose j st := by
  simp [move, h]

theorem move_closeStep_of_none (h : c.closes[j]? = none) : c.move (.closeStep j) = c := by
  simp [move, h]

@[simp] theorem run_nil (c : Calls α) : c.run [] = c := rfl

theorem run_cons (c : Calls α) (m : Move α) (ms : List (Move α)) :
    c.run (m :: ms) = (c.move m).run ms := rfl

theorem run_append (c : Calls α) (ms ms' : List (Move α)) :
    c.run (ms ++ ms') = (c.run ms).run ms' := by
  simp [run, List.foldl_append]

end Moves

/-- The standings at which a step of an emit taking case `k` changes nothing: waiting for the
read side while a closing call has asked for the write side or holds it, blocked at its select
with the case it took not ready, or returned. -/
inductive Stuck {α : Type} (c : Calls α) : Stage → Case → Prop where
  | waiting {k : Case} : c.writer ≠ .free → Stuck c .waiting k
  | full : c.closed = false → c.capacity ≤ c.buffer.length → Stuck c .sending .room
  | undone : c.done = false → Stuck c .sending .done
  | returned (ok : Bool) {k : Case} : Stuck c (.returned ok) k
  | failed {k : Case} : Stuck c .failed k

/-- A step of an emit changes nothing (it is stuck), or advances it, doing what the advance
does to the buffer, and marking that it found the buffer full when it moves to making room. -/
theorem stepEmit_cases (c : Calls α) (i : Nat) (em : Emit α) (k : Case) :
    c.stepEmit i em k = c ∧ Stuck c em.stage k ∨ ∃ s eff, Advance c em.stage s eff ∧
      c.stepEmit i em k =
        (c.apply i eff).setEmit i { em with stage := s, foundFull := em.foundFull || decide (s = .dropping) } := by
  unfold stepEmit
  cases hs : em.stage with
  | waiting =>
    by_cases hw : c.writer = .free
    · exact .inr ⟨_, _, .enter hw, by simp [hw, apply]⟩
    · exact .inl ⟨by simp [hw], .waiting hw⟩
  | looking =>
    cases hc : c.closed
    · by_cases hm : c.mode = .dropOldest
      · exact .inr ⟨_, _, .offer hc hm, by simp [hm, apply]⟩
      · exact .inr ⟨_, _, .wait hc hm, by simp [hm, apply]⟩
    · exact .inr ⟨_, _, .refuse hc, by simp [apply]⟩
  | offering =>
    cases hc : c.closed
    · by_cases hr : c.buffer.length < c.capacity
      · exact .inr ⟨_, _, .sendNow hc hr, by simp [hr, apply]⟩
      · exact .inr ⟨_, _, .full hc (Nat.le_of_not_lt hr), by simp [hr, apply]⟩
    · exact .inr ⟨_, _, .failOffering hc, by simp [apply]⟩
  | dropping => exact .inr ⟨_, _, .drop, by simp [apply]⟩
  | sending =>
    cases k with
    | room =>
      cases hc : c.closed
      · by_cases hr : c.buffer.length < c.capacity
        · exact .inr ⟨_, _, .send hc hr, by simp [hr, apply]⟩
        · exact .inl ⟨by simp [hr], .full hc (Nat.le_of_not_lt hr)⟩
      · exact .inr ⟨_, _, .failSending hc, by simp [apply]⟩
    | done =>
      cases hd : c.done
      · exact .inl ⟨by simp, .undone hd⟩
      · exact .inr ⟨_, _, .giveUp hd, by simp [apply]⟩
  | leaving ok => exact .inr ⟨_, _, .leave ok, by simp [apply]⟩
  | returned ok => exact .inl ⟨rfl, .returned ok⟩
  | failed => exact .inl ⟨rfl, .failed⟩

/-! ## What every run keeps -/

/-- What a feed keeps under every interleaving of calls. -/
structure Sound (c : Calls α) : Prop where
  /-- What left the buffer, then what is in it, is what was sent, in order. -/
  fifo : c.taken.map (·.1) ++ c.buffer = c.sent
  /-- An emit's event was sent exactly when the emit completed its send. -/
  sent_iff : ∀ i, i ∈ c.sent ↔ ∃ em, c.emits[i]? = some em ∧ em.stage.sentIt = true
  nodup : c.sent.Nodup
  /-- An emit that took an event away had found the buffer full, and is past making room. -/
  dropper : ∀ t i, (t, some i) ∈ c.taken →
    ∃ em, c.emits[i]? = some em ∧ em.foundFull = true ∧ em.stage.beforeDrop = false
  /-- An emit that has not made room took nothing away. -/
  undropped : ∀ i em, c.emits[i]? = some em → em.stage.beforeDrop = true →
    ∀ t, (t, some i) ∉ c.taken
  /-- An emit takes at most one event away. -/
  drops_le : ∀ i, (c.taken.filter (·.2 = some i)).length ≤ 1
  /-- An emit making room found the buffer full. -/
  dropping_full : ∀ em ∈ c.emits, em.stage = .dropping → em.foundFull = true
  /-- An emit of a blocking feed never tries to send without waiting. -/
  blocking : c.mode = .block → ∀ em ∈ c.emits,
    em.foundFull = false ∧ em.stage ≠ .offering ∧ em.stage ≠ .dropping

theorem sound_fresh (size : Option Int) (mode : Backpressure) : (fresh size mode : Calls α).Sound where
  fifo := rfl
  sent_iff i := by simp [fresh]
  nodup := List.nodup_nil
  dropper t i h := by simp [fresh] at h
  undropped i em h := by simp [fresh] at h
  drops_le i := by simp [fresh]
  dropping_full em h := by simp [fresh] at h
  blocking _ em h := by simp [fresh] at h

/-- A change that leaves the emits, the buffer, its records and the mode alone keeps what a
feed keeps. -/
theorem Sound.of_frame {c' : Calls α} (h : c.Sound) (he : c'.emits = c.emits)
    (hb : c'.buffer = c.buffer) (hs : c'.sent = c.sent) (ht : c'.taken = c.taken)
    (hm : c'.mode = c.mode) : c'.Sound where
  fifo := by rw [ht, hb, hs]; exact h.fifo
  sent_iff := by rw [he, hs]; exact h.sent_iff
  nodup := by rw [hs]; exact h.nodup
  dropper := by rw [ht, he]; exact h.dropper
  undropped := by rw [ht, he]; exact h.undropped
  drops_le := by rw [ht]; exact h.drops_le
  dropping_full := by rw [he]; exact h.dropping_full
  blocking := by rw [hm, he]; exact h.blocking

/-- A new call of emit keeps what a feed keeps: it has sent nothing and taken nothing. -/
theorem Sound.emit (h : c.Sound) (e : α) : (c.move (.emit e)).Sound where
  fifo := h.fifo
  sent_iff i := by
    show i ∈ c.sent ↔ ∃ em, (c.emits ++ [{ event := e }])[i]? = some em ∧ _
    rw [h.sent_iff i]
    by_cases hi : i < c.emits.length
    · rw [List.getElem?_append_left hi]
    · rw [List.getElem?_eq_none (Nat.le_of_not_lt hi), List.getElem?_append_right (Nat.le_of_not_lt hi)]
      simp [List.getElem?_singleton, Stage.sentIt]
  nodup := h.nodup
  dropper t i hti := by
    obtain ⟨em, hem, hfull, hpast⟩ := h.dropper t i hti
    exact ⟨em, List.getElem?_append_left (List.getElem?_eq_some_iff.mp hem).1 ▸ hem, hfull, hpast⟩
  undropped i em hem hbefore t hti := by
    obtain ⟨em', hem', -⟩ := h.dropper t i hti
    have hi := (List.getElem?_eq_some_iff.mp hem').1
    change (c.emits ++ [{ event := e }])[i]? = some em at hem
    rw [List.getElem?_append_left hi] at hem
    exact h.undropped i em hem hbefore t hti
  drops_le := h.drops_le
  dropping_full em hem hdrop := by
    rcases List.mem_append.mp hem with hem | hem
    · exact h.dropping_full em hem hdrop
    · rw [List.mem_singleton.mp hem] at hdrop
      cases hdrop
  blocking hm em hem := by
    rcases List.mem_append.mp hem with hem | hem
    · exact h.blocking hm em hem
    · rw [List.mem_singleton.mp hem]
      exact ⟨rfl, nofun, nofun⟩

/-- The reader taking the oldest event keeps what a feed keeps. -/
theorem Sound.receive (h : c.Sound) : (c.move .receive).Sound := by
  rcases takeOldest_cases c none with ⟨-, hc⟩ | ⟨t, rest, hb, hb', ht, hs, he, hm⟩
  · change (c.takeOldest none).Sound
    rw [hc]
    exact h
  change (c.takeOldest none).Sound
  exact {
    fifo := by rw [ht, hb', hs, ← h.fifo, hb]; simp
    sent_iff := by rw [hs, he]; exact h.sent_iff
    nodup := by rw [hs]; exact h.nodup
    dropper := fun t' i hti => by
      rw [he]
      rw [ht, List.mem_append, List.mem_singleton] at hti
      rcases hti with hti | hti
      · exact h.dropper t' i hti
      · cases hti
    undropped := fun i em hem hbefore t' hti => by
      rw [he] at hem
      rw [ht, List.mem_append, List.mem_singleton] at hti
      rcases hti with hti | hti
      · exact h.undropped i em hem hbefore t' hti
      · cases hti
    drops_le := fun i => by
      rw [ht, List.filter_append]
      simpa using h.drops_le i
    dropping_full := by rw [he]; exact h.dropping_full
    blocking := by rw [hm, he]; exact h.blocking }

section Restage

variable {i : Nat} {em em' : Emit α}

/-- Emit `i` stands anew; the others stand as they did. -/
theorem getElem?_setEmit (hi : c.emits[i]? = some em) (j : Nat) :
    (c.setEmit i em').emits[j]? = if i = j then some em' else c.emits[j]? := by
  rw [setEmit_emits, List.getElem?_set]
  simp [(List.getElem?_eq_some_iff.mp hi).1]

theorem mem_setEmit {x : Emit α} (hx : x ∈ (c.setEmit i em').emits) : x = em' ∨ x ∈ c.emits := by
  rw [setEmit_emits] at hx
  rcases List.mem_or_eq_of_mem_set hx with hx | hx
  · exact .inr hx
  · exact .inl hx

/-- Moving emit `i` without touching the buffer keeps what a feed keeps, when the move keeps
whether it sent, does not forget that it found the buffer full or made room, makes room only
having found the buffer full, and never tries to send without waiting on a blocking feed. -/
theorem Sound.restage (h : c.Sound) (hi : c.emits[i]? = some em)
    (hsent : em'.stage.sentIt = em.stage.sentIt)
    (hfull : em.foundFull = true → em'.foundFull = true)
    (hpast : em.stage.beforeDrop = false → em'.stage.beforeDrop = false)
    (hdrop : em'.stage = .dropping → em'.foundFull = true)
    (hblock : c.mode = .block →
      em'.foundFull = false ∧ em'.stage ≠ .offering ∧ em'.stage ≠ .dropping) :
    (c.setEmit i em').Sound where
  fifo := h.fifo
  sent_iff j := by
    rw [setEmit_sent, getElem?_setEmit hi, h.sent_iff j]
    by_cases hj : i = j
    · subst hj
      simp [hi, hsent]
    · simp [hj]
  nodup := h.nodup
  dropper t j htj := by
    rw [getElem?_setEmit hi]
    obtain ⟨x, hx, hxfull, hxpast⟩ := h.dropper t j htj
    by_cases hj : i = j
    · subst hj
      rw [hi] at hx
      cases hx
      simpa using ⟨hfull hxfull, hpast hxpast⟩
    · simpa [hj] using ⟨x, hx, hxfull, hxpast⟩
  undropped j x hx hbefore t htj := by
    rw [getElem?_setEmit hi] at hx
    by_cases hj : i = j
    · subst hj
      rw [if_pos rfl, Option.some.injEq] at hx
      subst hx
      -- a call that had made room would still be past it
      have hbefore' : em.stage.beforeDrop = true := by
        cases hb : em.stage.beforeDrop
        · rw [hpast hb] at hbefore
          cases hbefore
        · rfl
      exact h.undropped i em hi hbefore' t htj
    · rw [if_neg hj] at hx
      exact h.undropped j x hx hbefore t htj
  drops_le := h.drops_le
  dropping_full x hx hxdrop := by
    rcases mem_setEmit hx with rfl | hx
    · exact hdrop hxdrop
    · exact h.dropping_full x hx hxdrop
  blocking hm x hx := by
    rcases mem_setEmit hx with rfl | hx
    · exact hblock hm
    · exact h.blocking hm x hx

/-- Emit `i` completing its send keeps what a feed keeps. -/
theorem Sound.push (h : c.Sound) (hi : c.emits[i]? = some em) (hnot : em.stage.sentIt = false)
    (hst : em'.stage = .leaving true) (hfull : em'.foundFull = em.foundFull) :
    ((c.pushEvent i).setEmit i em').Sound where
  fifo := by
    show c.taken.map (·.1) ++ (c.buffer ++ [i]) = c.sent ++ [i]
    rw [← h.fifo, List.append_assoc]
  sent_iff j := by
    rw [setEmit_sent, getElem?_setEmit (c := c.pushEvent i) hi]
    show j ∈ c.sent ++ [i] ↔ _
    by_cases hj : i = j
    · subst hj
      simp [hst, Stage.sentIt]
    · simp only [if_neg hj, List.mem_append, List.mem_singleton, h.sent_iff j]
      constructor
      · rintro (h | rfl)
        exacts [h, absurd rfl hj]
      · exact .inl
  nodup := by
    show (c.sent ++ [i]).Nodup
    have hi' : i ∉ c.sent := by
      rw [h.sent_iff i]
      rintro ⟨x, hx, hsent⟩
      rw [hi] at hx
      cases hx
      rw [hnot] at hsent
      cases hsent
    exact List.nodup_append.mpr ⟨h.nodup, List.nodup_singleton i,
      fun a ha b hb hab => hi' (List.mem_singleton.mp hb ▸ hab ▸ ha)⟩
  dropper t j htj := by
    rw [getElem?_setEmit (c := c.pushEvent i) hi]
    obtain ⟨x, hx, hxfull, hxpast⟩ := h.dropper t j htj
    by_cases hj : i = j
    · subst hj
      rw [hi] at hx
      cases hx
      simp [hfull, hxfull, hst, Stage.beforeDrop]
    · simpa [hj] using ⟨x, hx, hxfull, hxpast⟩
  undropped j x hx hbefore t htj := by
    rw [getElem?_setEmit (c := c.pushEvent i) hi] at hx
    by_cases hj : i = j
    · subst hj
      rw [if_pos rfl, Option.some.injEq] at hx
      subst hx
      rw [hst] at hbefore
      cases hbefore
    · rw [if_neg hj] at hx
      exact h.undropped j x hx hbefore t htj
  drops_le := h.drops_le
  dropping_full x hx hxdrop := by
    rcases mem_setEmit hx with rfl | hx
    · rw [hst] at hxdrop
      cases hxdrop
    · exact h.dropping_full x hx hxdrop
  blocking hm x hx := by
    rcases mem_setEmit hx with rfl | hx
    · rw [hfull, hst]
      exact ⟨(h.blocking hm em (List.mem_of_getElem? hi)).1, nofun, nofun⟩
    · exact h.blocking hm x hx

/-- Emit `i` taking the oldest event away to make room keeps what a feed keeps. -/
theorem Sound.take {t : Nat} {rest : List Nat} (h : c.Sound) (hi : c.emits[i]? = some em)
    (hdropping : em.stage = .dropping) (hb : c.buffer = t :: rest)
    (hst : em'.stage = .sending) (hfull : em'.foundFull = em.foundFull) :
    ((c.takeOldest (some i)).setEmit i em').Sound := by
  rcases takeOldest_cases c (some i) with ⟨hnil, -⟩ | ⟨t', rest', hb'', hb', ht, hs, he, hm⟩
  · rw [hb] at hnil
    cases hnil
  rw [hb] at hb''
  obtain ⟨rfl, rfl⟩ := List.cons_eq_cons.mp hb''
  have hi' : (c.takeOldest (some i)).emits[i]? = some em := by rw [he]; exact hi
  have hemfull : em.foundFull = true := h.dropping_full em (List.mem_of_getElem? hi) hdropping
  -- emit i had taken nothing away before
  have hnone : c.taken.filter (·.2 = some i) = [] := by
    rw [List.filter_eq_nil_iff]
    rintro ⟨t'', w⟩ htw hw
    simp only [decide_eq_true_eq] at hw
    subst hw
    exact h.undropped i em hi (by rw [hdropping]; rfl) t'' htw
  exact {
    fifo := by rw [setEmit_taken, setEmit_buffer, setEmit_sent, ht, hb', hs, ← h.fifo, hb]; simp
    sent_iff := fun j => by
      rw [setEmit_sent, hs, getElem?_setEmit hi', h.sent_iff j, he]
      by_cases hj : i = j
      · subst hj
        simp [hi, hst, hdropping, Stage.sentIt]
      · simp [hj]
    nodup := by rw [setEmit_sent, hs]; exact h.nodup
    dropper := fun t'' j htj => by
      rw [getElem?_setEmit hi', he]
      rw [setEmit_taken, ht, List.mem_append, List.mem_singleton] at htj
      by_cases hj : i = j
      · subst hj
        simp [hfull, hemfull, hst, Stage.beforeDrop]
      · rcases htj with htj | htj
        · simpa [hj] using h.dropper t'' j htj
        · cases htj
          exact absurd rfl hj
    undropped := fun j x hx hbefore t'' htj => by
      rw [getElem?_setEmit hi', he] at hx
      rw [setEmit_taken, ht, List.mem_append, List.mem_singleton] at htj
      by_cases hj : i = j
      · subst hj
        rw [if_pos rfl, Option.some.injEq] at hx
        subst hx
        rw [hst] at hbefore
        cases hbefore
      · rw [if_neg hj] at hx
        rcases htj with htj | htj
        · exact h.undropped j x hx hbefore t'' htj
        · cases htj
          exact hj rfl
    drops_le := fun j => by
      rw [setEmit_taken, ht, List.filter_append]
      by_cases hj : i = j
      · subst hj
        simp [hnone]
      · have hne : [(t, some i)].filter (fun x => decide (x.2 = some j)) = [] := by simp [hj]
        rw [hne, List.append_nil]
        exact h.drops_le j
    dropping_full := fun x hx hxdrop => by
      rw [setEmit_emits, he] at hx
      rcases List.mem_or_eq_of_mem_set hx with hx | rfl
      · exact h.dropping_full x hx hxdrop
      · rw [hst] at hxdrop
        cases hxdrop
    blocking := fun hmode => by
      -- a blocking feed has no emit making room
      rw [setEmit_mode, hm] at hmode
      exact absurd hdropping (h.blocking hmode em (List.mem_of_getElem? hi)).2.2 }

/-- Every step that advances an emit keeps what a feed keeps. -/
theorem Sound.advance {s : Stage} {eff : Effect} (h : c.Sound) (hi : c.emits[i]? = some em)
    (ha : Advance c em.stage s eff) :
    ((c.apply i eff).setEmit i
      { em with stage := s, foundFull := em.foundFull || decide (s = .dropping) }).Sound := by
  have hmem := List.mem_of_getElem? hi
  -- a step that sends nothing only moves the call on
  have hmoved : eff ≠ .push → (c.setEmit i
      { em with stage := s, foundFull := em.foundFull || decide (s = .dropping) }).Sound := by
    intro hne
    refine h.restage hi ?_ (fun hf => by simp [hf]) ha.beforeDrop_of_past
      (fun hs => by simp [show s = .dropping from hs]) (fun hm => ?_)
    · cases eff with
      | keep => exact ha.sentIt_of_keep
      | push => exact absurd rfl hne
      | take => exact ha.sentIt_of_take
    · obtain ⟨hfull, hoff, hdrop⟩ := h.blocking hm em hmem
      have hs_off : s ≠ .offering := by
        rintro rfl
        rw [ha.mode_of_offering] at hm
        cases hm
      have hs_drop : s ≠ .dropping := by
        rintro rfl
        exact hoff ha.eq_offering_of_dropping
      exact ⟨by simp [hfull, hs_drop], hs_off, hs_drop⟩
  cases eff with
  | keep => exact hmoved nofun
  | push =>
    obtain ⟨hnot, rfl, -, -⟩ := ha.of_push
    exact h.push hi hnot rfl (by simp)
  | take =>
    obtain ⟨hdrop, rfl⟩ := ha.of_take
    cases hb : c.buffer with
    | nil =>
      have hkeep : c.apply i .take = c := by simp [apply, takeOldest, hb]
      rw [hkeep]
      exact hmoved nofun
    | cons t rest => exact h.take hi hdrop hb rfl (by simp)

end Restage

/-- Every move keeps what a feed keeps. -/
theorem Sound.move (h : c.Sound) (m : Move α) : (c.move m).Sound := by
  cases m with
  | emit e => exact h.emit e
  | close => exact h.of_frame rfl rfl rfl rfl rfl
  | step i k =>
    cases hi : c.emits[i]? with
    | none => rwa [move_step_of_none hi]
    | some em =>
      rw [move_step_of_some hi]
      rcases stepEmit_cases c i em k with ⟨heq, -⟩ | ⟨s, eff, ha, heq⟩
      · rwa [heq]
      · rw [heq]
        exact h.advance hi ha
  | closeStep j =>
    cases hj : c.closes[j]? with
    | none => rwa [move_closeStep_of_none hj]
    | some st =>
      rw [move_closeStep_of_some hj]
      obtain ⟨he, hb, hs, ht, hm⟩ := stepClose_frame c j st
      exact h.of_frame he hb hs ht hm
  | receive => exact h.receive

theorem Sound.run (h : c.Sound) (ms : List (Move α)) : (c.run ms).Sound := by
  induction ms generalizing c with
  | nil => exact h
  | cons m ms ih => exact ih (h.move m)

/-! ## What the reader gets -/

/-- The reader's events are the ones it took, in order. -/
theorem received_eq (c : Calls α) : c.received = (c.taken.filter (·.2 = none)).map (·.1) := by
  unfold received
  induction c.taken with
  | nil => rfl
  | cons p ps ih =>
    obtain ⟨t, w⟩ := p
    cases w <;> simp [ih]

theorem received_sublist (c : Calls α) : c.received.Sublist (c.taken.map (·.1)) := by
  rw [received_eq]
  exact (List.filter_sublist).map _

/-- Taking from the buffer takes its oldest event, if there is one. -/
theorem takeOldest_taken (c : Calls α) (w : Option Nat) :
    (c.takeOldest w).taken = c.taken ∨ ∃ t rest w', c.buffer = t :: rest ∧
      (c.takeOldest w).buffer = rest ∧ (c.takeOldest w).taken = c.taken ++ [(t, w')] := by
  rcases takeOldest_cases c w with ⟨-, hc⟩ | ⟨t, rest, hb, hb', ht, -⟩
  · rw [hc]
    exact .inl rfl
  · exact .inr ⟨t, rest, w, hb, hb', ht⟩

/-- A move takes at most one event out of the buffer, and then the oldest. -/
theorem move_taken (c : Calls α) (m : Move α) :
    (c.move m).taken = c.taken ∨ ∃ t rest w, c.buffer = t :: rest ∧ (c.move m).buffer = rest ∧
      (c.move m).taken = c.taken ++ [(t, w)] := by
  cases m with
  | emit e => exact .inl rfl
  | close => exact .inl rfl
  | step i k =>
    cases hi : c.emits[i]? with
    | none => rw [move_step_of_none hi]; exact .inl rfl
    | some em =>
      rw [move_step_of_some hi]
      rcases stepEmit_cases c i em k with ⟨heq, -⟩ | ⟨s, eff, -, heq⟩
      · rw [heq]
        exact .inl rfl
      · rw [heq, setEmit_taken, setEmit_buffer]
        cases eff with
        | keep => exact .inl rfl
        | push => exact .inl rfl
        | take => exact takeOldest_taken c (some i)
  | closeStep j =>
    cases hj : c.closes[j]? with
    | none => rw [move_closeStep_of_none hj]; exact .inl rfl
    | some st =>
      rw [move_closeStep_of_some hj]
      exact .inl (stepClose_frame c j st).2.2.2.1
  | receive => exact takeOldest_taken c none

/-- No move changes how a feed treats a full buffer. -/
theorem move_mode (c : Calls α) (m : Move α) : (c.move m).mode = c.mode := by
  cases m with
  | emit e => rfl
  | close => rfl
  | step i k =>
    cases hi : c.emits[i]? with
    | none => rw [move_step_of_none hi]
    | some em =>
      rw [move_step_of_some hi]
      rcases stepEmit_cases c i em k with ⟨heq, -⟩ | ⟨s, eff, -, heq⟩
      · rw [heq]
      · rw [heq, setEmit_mode]
        exact (apply_frame c i eff).2.1
  | closeStep j =>
    cases hj : c.closes[j]? with
    | none => rw [move_closeStep_of_none hj]
    | some st =>
      rw [move_closeStep_of_some hj]
      exact (stepClose_frame c j st).2.2.2.2
  | receive =>
    rcases takeOldest_cases c none with ⟨-, hc⟩ | ⟨-, -, -, -, -, -, -, hm⟩
    · exact congrArg Calls.mode hc
    · exact hm

theorem run_mode (c : Calls α) (ms : List (Move α)) : (c.run ms).mode = c.mode := by
  induction ms generalizing c with
  | nil => rfl
  | cons m ms ih => rw [run_cons, ih, move_mode]

/-! ## One emitter and no reads -/

/-- One call of emit of `e`, the `n`-th call made, running alone: it begins, then takes six
steps, as many as a call can take. -/
def alone (n : Nat) (e : α) : List (Move α) := .emit e :: List.replicate 6 (.step n .room)

/-- Calls of emit made one after another, each running alone, the first being the `n`-th call
made. -/
def emitsAlone : Nat → List α → List (Move α)
  | _, [] => []
  | n, e :: es => alone n e ++ emitsAlone (n + 1) es

/-- The first call of close, running alone to its end. -/
def closeAlone : List (Move α) := .close :: List.replicate 4 (.closeStep 0)

/-- The events the reader took, in order. -/
def receivedEvents (c : Calls α) : List α := c.received.filterMap fun i => c.emits[i]?.map (·.event)

/-- A feed that drops the oldest, at rest after calls of emit made one at a time: every one
returned true, the lock is free, nothing closed it, the reader took nothing, and the buffer
holds the last emits, as many as fit. -/
structure Quiet (c : Calls α) : Prop where
  returned : ∀ em ∈ c.emits, em.stage = .returned true
  free : c.writer = .free
  opened : c.closed = false
  dropping : c.mode = .dropOldest
  room : 0 < c.capacity
  buffer : c.buffer = (List.range c.emits.length).drop (c.emits.length - c.capacity)
  unread : c.received = []
  idle : c.once = .idle
  no_closes : c.closes = []

theorem quiet_fresh (size : Option Int) : (fresh size .dropOldest : Calls α).Quiet where
  returned em h := by simp [fresh] at h
  free := rfl
  opened := rfl
  dropping := rfl
  room := Nat.lt_of_lt_of_le Nat.one_pos (Nat.le_max_left _ _)
  buffer := by simp [fresh]
  unread := rfl
  idle := rfl
  no_closes := rfl

/-- An emit running alone on a feed at rest returns true, and leaves the feed at rest with
its event last. -/
theorem Quiet.run_alone (h : c.Quiet) (e : α) :
    (c.run (alone c.emits.length e)).Quiet ∧
      (c.run (alone c.emits.length e)).emits.map (·.event) = c.emits.map (·.event) ++ [e] := by
  have hlen : c.buffer.length = min c.emits.length c.capacity := by
    rw [h.buffer, List.length_drop, List.length_range]
    omega
  by_cases hroom : c.buffer.length < c.capacity
  · -- room: the event goes in behind the others
    have hrun : c.run (alone c.emits.length e) = { c with
        emits := c.emits ++ [{ event := e, stage := .returned true }],
        buffer := c.buffer ++ [c.emits.length], sent := c.sent ++ [c.emits.length] } := by
      simp [alone, run, move, stepEmit, setEmit, pushEvent, h.free, h.opened, h.dropping, hroom]
    rw [hrun]
    refine ⟨⟨fun em hem => ?_, h.free, h.opened, h.dropping, h.room, ?_, h.unread, h.idle,
      h.no_closes⟩, by simp⟩
    · rcases List.mem_append.mp hem with hem | hem
      · exact h.returned em hem
      · rw [List.mem_singleton.mp hem]
    · have hn : c.emits.length < c.capacity := by omega
      simp only [List.length_append, List.length_singleton, h.buffer,
        Nat.sub_eq_zero_of_le (Nat.le_of_lt hn), Nat.sub_eq_zero_of_le hn, List.drop_zero,
        List.range_succ]
  · -- full: the oldest event makes room
    obtain ⟨b, rest, hb⟩ : ∃ b rest, c.buffer = b :: rest := by
      cases hb : c.buffer with
      | nil => rw [hb] at hroom; simp at hroom; exact absurd hroom (Nat.pos_iff_ne_zero.mp h.room)
      | cons b rest => exact ⟨b, rest, rfl⟩
    have hrest : rest.length < c.capacity := by
      have := congrArg List.length hb
      simp at this
      omega
    have hfull : ¬ rest.length + 1 < c.capacity := by
      rw [hb] at hroom
      simpa using hroom
    have hrun : c.run (alone c.emits.length e) = { c with
        emits := c.emits ++ [{ event := e, stage := .returned true, foundFull := true }],
        buffer := rest ++ [c.emits.length], sent := c.sent ++ [c.emits.length],
        taken := c.taken ++ [(b, some c.emits.length)] } := by
      simp [alone, run, move, stepEmit, setEmit, pushEvent, takeOldest, h.free, h.opened,
        h.dropping, hb, hfull, hrest]
    rw [hrun]
    refine ⟨⟨fun em hem => ?_, h.free, h.opened, h.dropping, h.room, ?_, ?_, h.idle,
      h.no_closes⟩, by simp⟩
    · rcases List.mem_append.mp hem with hem | hem
      · exact h.returned em hem
      · rw [List.mem_singleton.mp hem]
    · -- what stays is the last emits but the oldest, then the new one
      have hn : c.capacity ≤ c.emits.length := by omega
      have hrest' : rest = (List.range c.emits.length).drop (c.emits.length - c.capacity + 1) := by
        rw [← List.drop_drop, ← h.buffer, hb, List.drop_one, List.tail_cons]
      simp only [List.length_append, List.length_singleton, hrest', List.range_succ]
      rw [List.drop_append_of_le_length (by simp; omega)]
      congr 2
      omega
    · have hu := h.unread
      unfold received at hu ⊢
      simp [hu]

/-- Emits running alone one after another on a feed at rest all return true and leave it at
rest, with their events last, in order. -/
theorem Quiet.run_emitsAlone (h : c.Quiet) (es : List α) :
    (c.run (Calls.emitsAlone c.emits.length es)).Quiet ∧
      (c.run (Calls.emitsAlone c.emits.length es)).emits.map (·.event) =
        c.emits.map (·.event) ++ es := by
  induction es generalizing c with
  | nil => exact ⟨h, by simp [Calls.emitsAlone]⟩
  | cons e es ih =>
    obtain ⟨h', hevents⟩ := h.run_alone e
    have hlen : (c.run (alone c.emits.length e)).emits.length = c.emits.length + 1 := by
      simpa using congrArg List.length hevents
    obtain ⟨h'', hevents'⟩ := ih h'
    rw [hlen] at h'' hevents'
    rw [Calls.emitsAlone, run_append]
    exact ⟨h'', by rw [hevents', hevents]; simp⟩

/-- Closing a feed at rest alone closes `done`, sets the closed flag and returns, touching
nothing else. -/
theorem Quiet.run_closeAlone (h : c.Quiet) :
    c.run closeAlone =
      { c with closes := [.returned], once := .finished, done := true, closed := true } := by
  -- no emit holds the read side, so the closing call is not kept waiting
  have hreaders : c.emits.countP (·.stage.holdsRead) = 0 := by
    rw [List.countP_eq_zero]
    intro em hem
    rw [h.returned em hem]
    decide
  simp [Calls.closeAlone, run, move, stepClose, readers, h.idle, h.no_closes, hreaders, h.free]

/-- Reading at least as many times as there are buffered events hands all of them to the
reader, oldest first. -/
theorem run_receives (c : Calls α) {k : Nat} (hk : c.buffer.length ≤ k) :
    c.run (List.replicate k .receive) =
      { c with buffer := [], taken := c.taken ++ c.buffer.map (·, none) } := by
  induction k generalizing c with
  | zero =>
    have hb : c.buffer = [] := List.eq_nil_of_length_eq_zero (Nat.le_zero.mp hk)
    cases c
    simp_all [run]
  | succ k ih =>
    rw [List.replicate_succ, run_cons]
    cases hb : c.buffer with
    | nil =>
      have hc : c.move .receive = c := by simp [move, takeOldest, hb]
      rw [hc, ih c (by rw [hb]; simp), hb]
    | cons t rest =>
      have hc : c.move .receive = { c with buffer := rest, taken := c.taken ++ [(t, none)] } := by
        simp [move, takeOldest, hb]
      have hrest : rest.length ≤ k := by
        rw [hb] at hk
        simpa using hk
      rw [hc, ih _ hrest]
      simp

/-- The reader's events, read off the indices of the emits it took. -/
theorem filterMap_getElem?_drop_range {β : Type} (l : List β) (m : Nat) :
    ((List.range l.length).drop m).filterMap (fun i => l[i]?) = l.drop m := by
  -- the indices of `x :: t` are `0` and those of `t`, shifted
  induction l generalizing m with
  | nil => simp
  | cons x t ih =>
    cases m with
    | zero => simpa [List.range_succ_eq_map, List.filterMap_map, Function.comp_def] using ih 0
    | succ m =>
      simpa [List.range_succ_eq_map, List.filterMap_map, Function.comp_def, ← List.map_drop]
        using ih m

/-- With a single emitter and no reads, the reader that drains a feed dropping the oldest
after closing it gets exactly the last events emitted, as many as the buffer holds: every
emit returned true, and the older events were dropped to make room. -/
theorem drain_after_close_keeps_the_last (size : Option Int) (es : List α) :
    let d := (fresh size .dropOldest : Calls α).run
      (emitsAlone 0 es ++ closeAlone ++ List.replicate es.length .receive)
    (∀ em ∈ d.emits, em.stage = .returned true) ∧ d.closed = true ∧ d.buffer = [] ∧
      d.receivedEvents = es.drop (es.length - d.capacity) := by
  intro d
  have hemits := (quiet_fresh (α := α) size).run_emitsAlone es
  rw [show (fresh size .dropOldest : Calls α).emits = [] from rfl] at hemits
  simp only [List.length_nil, List.map_nil, List.nil_append] at hemits
  -- the state after the emits
  set c := (fresh size .dropOldest : Calls α).run (emitsAlone 0 es)
  obtain ⟨hq, hevents⟩ := hemits
  have hn : c.emits.length = es.length := by simpa using congrArg List.length hevents
  have hk : (c.run closeAlone).buffer.length ≤ es.length := by
    rw [hq.run_closeAlone, hq.buffer, hn]
    simp
  have hd : d =
      { c with
        buffer := [], taken := c.taken ++ c.buffer.map (·, none), closes := [.returned],
        once := .finished, done := true, closed := true } := by
    rw [show d = (c.run closeAlone).run (List.replicate es.length .receive) by
      simp only [d, c, run_append], run_receives _ hk, hq.run_closeAlone]
  -- the emits' events, looked up by index, are the events emitted
  have hlook : (fun i : Nat => c.emits[i]?.map (·.event)) = fun i => es[i]? := by
    funext i
    rw [← hevents, List.getElem?_map]
  refine ⟨?_, ?_, ?_, ?_⟩
  · rw [hd]
    exact hq.returned
  · rw [hd]
  · rw [hd]
  · rw [hd, receivedEvents]
    simp only [received, List.filterMap_append, List.filterMap_map]
    have hu := hq.unread
    unfold received at hu
    simp only [hu, Function.comp_def, if_true]
    rw [hlook, hq.buffer, hn, ← filterMap_getElem?_drop_range es]
    simp

end Calls

/-- A feed shared by any number of emits, one reader and any number of closing calls hands out
its events first in, first out, and drops them only by its rule, whatever the order of the
calls' steps. What left the buffer, then what is in it, is what was sent, in the order the
sends completed, each event once; the reader gets a part of that, in order, never an event
twice. An emit's event was sent exactly when the emit returns true or is about to. A blocking
feed drops nothing: the reader gets, and the buffer then holds, all that was sent, and a
reader that read a closed feed to the end got every event an emit returned true for. An emit
takes at most one event away, only after it found the buffer full, and what any move takes
from the buffer is its oldest event.

So with one emitter and no reads, draining a feed that drops the oldest after closing it gives
exactly the last events emitted, as many as the buffer holds. -/
theorem feed_keeps_order_and_drops_by_rule {α : Type} (size : Option Int) :
    (∀ (mode : Backpressure) (ms : List (Move α)),
      let c := (Calls.fresh size mode : Calls α).run ms
      c.taken.map (·.1) ++ c.buffer = c.sent ∧ c.sent.Nodup ∧
        c.received.Sublist c.sent ∧ c.received.Nodup ∧
        (∀ i, i ∈ c.sent ↔ ∃ em, c.emits[i]? = some em ∧
          (em.stage = .leaving true ∨ em.stage = .returned true)) ∧
        (mode = .block → c.received ++ c.buffer = c.sent ∧
          (c.closed = true → c.buffer = [] → ∀ i em, c.emits[i]? = some em →
            em.stage = .returned true → i ∈ c.received)) ∧
        (∀ i, (c.taken.filter (·.2 = some i)).length ≤ 1) ∧
        (∀ t i, (t, some i) ∈ c.taken → ∃ em, c.emits[i]? = some em ∧ em.foundFull = true) ∧
        ∀ m, (c.move m).taken = c.taken ∨ ∃ t rest w, c.buffer = t :: rest ∧
          (c.move m).buffer = rest ∧ (c.move m).taken = c.taken ++ [(t, w)]) ∧
    ∀ es : List α,
      let d := (Calls.fresh size .dropOldest : Calls α).run
        (Calls.emitsAlone 0 es ++ Calls.closeAlone ++ List.replicate es.length .receive)
      (∀ em ∈ d.emits, em.stage = .returned true) ∧ d.closed = true ∧ d.buffer = [] ∧
        d.receivedEvents = es.drop (es.length - d.capacity) := by
  refine ⟨fun mode ms => ?_, Calls.drain_after_close_keeps_the_last size⟩
  intro c
  have h : c.Sound := (Calls.sound_fresh size mode).run ms
  have hmode : c.mode = mode := Calls.run_mode _ ms
  -- a stage sends exactly when it returns true or is about to
  have hsentIt : ∀ st : Stage, st.sentIt = true ↔ st = .leaving true ∨ st = .returned true := by
    intro st
    cases st with
    | leaving ok => cases ok <;> simp [Stage.sentIt]
    | returned ok => cases ok <;> simp [Stage.sentIt]
    | _ => simp [Stage.sentIt]
  have hsub : c.received.Sublist c.sent := h.fifo ▸ (c.received_sublist.trans (List.sublist_append_left _ _))
  refine ⟨h.fifo, h.nodup, hsub, h.nodup.sublist hsub, fun i => by simp only [h.sent_iff, hsentIt],
    fun hblock => ?_, h.drops_le, fun t i hti => ?_, fun m => ?_⟩
  · -- a blocking feed: everything taken was taken by the reader
    have hreader : ∀ p ∈ c.taken, p.2 = none := by
      rintro ⟨t, w⟩ hp
      cases w with
      | none => rfl
      | some i =>
        obtain ⟨em, hem, hfull, -⟩ := h.dropper t i hp
        rw [(h.blocking (hmode.trans hblock) em (List.mem_of_getElem? hem)).1] at hfull
        cases hfull
    have hrec : c.received = c.taken.map (·.1) := by
      rw [Calls.received_eq, List.filter_eq_self.mpr (fun p hp => by simp [hreader p hp])]
    refine ⟨hrec ▸ h.fifo, fun _ hempty i em hem hret => ?_⟩
    have hi : i ∈ c.sent := (h.sent_iff i).mpr ⟨em, hem, by rw [hret]; rfl⟩
    rw [← h.fifo, hempty, List.append_nil, ← hrec] at hi
    exact hi
  · obtain ⟨em, hem, hfull, -⟩ := h.dropper t i hti
    exact ⟨em, hem, hfull⟩
  · exact c.move_taken m

end LiveTail.Feed
