import LiveTail.Proofs.Stopping

/-!
# Which session an identifier holds

A registry holds at most one session per identifier, and which one follows the calls made
under that identifier, in the order they were made. A call does to each identifier one of
two things (`KeyOp`): it starts a session there, which then holds it if the start went
through and leaves it free otherwise, having stopped what was there; or it stops what is
there. A run's journal (`Driven.journal`) lists these in order: starts as called (a start
refused at once, for an empty identifier, no listener or a closed registry, does nothing),
stops as called, stopping all and closing as a stop of every registered identifier, and
letting the sessions run as the stops their listeners asked for.

Replaying the journal gives the number of the session under each identifier
(`Sound.holder_run`), so the session under an identifier is that of the latest start of it
that went through, with no stop or start of it since (`KeyOp.Latest`). A start that fails
after its first checks has stopped the session it replaced; a stop of an unknown identifier
changes nothing; and once closed, a registry holds no session, every session it launched has
ended, and every later start is refused with nothing changed (`registry_follows_its_calls`).
-/
namespace LiveTail

/-- What a call does under one identifier: a start with the number it took and whether it
went through, or a stop. -/
inductive KeyOp where
  | start (id : String) (number : Nat) (ok : Bool)
  | stop (id : String)
  deriving DecidableEq, Repr

namespace KeyOp

/-- The identifier the operation is on. -/
def id : KeyOp → String
  | start id _ _ => id
  | stop id => id

/-- What the operation leaves under its identifier. -/
def held : KeyOp → Option Nat
  | start _ n ok => if ok then some n else none
  | stop _ => none

/-- The number held under each identifier, after one operation. -/
def hold (m : String → Option Nat) (op : KeyOp) (i : String) : Option Nat :=
  if i = op.id then op.held else m i

/-- The number held under each identifier, after operations in order. -/
def replay (ops : List KeyOp) (m : String → Option Nat) : String → Option Nat :=
  ops.foldl hold m

/-- The latest operation on `i` is a start that went through and took `n`. -/
def Latest (ops : List KeyOp) (i : String) (n : Nat) : Prop :=
  ∃ pre post, ops = pre ++ start i n true :: post ∧ ∀ op ∈ post, op.id ≠ i

@[simp] theorem replay_nil (m : String → Option Nat) : replay [] m = m := rfl

theorem replay_cons (op : KeyOp) (ops : List KeyOp) (m : String → Option Nat) :
    replay (op :: ops) m = replay ops (hold m op) := rfl

theorem replay_append (a b : List KeyOp) (m : String → Option Nat) :
    replay (a ++ b) m = replay b (replay a m) := List.foldl_append

theorem hold_eq_some_iff {m : String → Option Nat} {op : KeyOp} {i : String} {n : Nat} :
    hold m op i = some n ↔ op = start i n true ∨ op.id ≠ i ∧ m i = some n := by
  cases op with
  | start j k ok => cases ok <;> by_cases h : i = j <;> simp [hold, held, id, h, eq_comm]
  | stop j => by_cases h : i = j <;> simp [hold, held, id, h, eq_comm]

theorem latest_nil (i : String) (n : Nat) : ¬ Latest [] i n := by
  rintro ⟨pre, post, h, -⟩
  simp at h

/-- The latest start of `i` in `op :: ops` is in `ops`, or it is `op` and nothing after it is
on `i`. -/
theorem latest_cons {op : KeyOp} {ops : List KeyOp} {i : String} {n : Nat} :
    Latest (op :: ops) i n ↔ Latest ops i n ∨ op = start i n true ∧ ∀ o ∈ ops, o.id ≠ i := by
  constructor
  · rintro ⟨pre, post, h, hpost⟩
    cases pre with
    | nil =>
      obtain ⟨rfl, rfl⟩ := List.cons.inj h
      exact .inr ⟨rfl, hpost⟩
    | cons x pre =>
      obtain ⟨-, rfl⟩ := List.cons.inj h
      exact .inl ⟨pre, post, rfl, hpost⟩
  · rintro (⟨pre, post, rfl, hpost⟩ | ⟨rfl, hops⟩)
    · exact ⟨op :: pre, post, rfl, hpost⟩
    · exact ⟨[], ops, rfl, hops⟩

/-- Replaying operations leaves `n` under `i` exactly when the latest operation on `i` is a
start that went through and took `n`, or when there is none and `n` was there before. -/
theorem replay_eq_some_iff (ops : List KeyOp) (m : String → Option Nat) (i : String) (n : Nat) :
    replay ops m i = some n ↔ Latest ops i n ∨ m i = some n ∧ ∀ op ∈ ops, op.id ≠ i := by
  induction ops generalizing m with
  | nil => simp [latest_nil]
  | cons op ops ih =>
    rw [replay_cons, ih, latest_cons, hold_eq_some_iff, List.forall_mem_cons]
    tauto

/-- A restart that failed leaves its identifier free; the other keeps its session. -/
example :
    replay [.start "a" 1 true, .start "b" 2 true, .start "a" 3 false] (fun _ => none) "a" = none ∧
      replay [.start "a" 1 true, .start "b" 2 true, .start "a" 3 false] (fun _ => none) "b" =
        some 2 := by
  decide

/-- Stops free their identifiers and leave the others as they were. -/
theorem replay_stops (ids : List String) (m : String → Option Nat) (i : String) :
    replay (ids.map stop) m i = if i ∈ ids then none else m i := by
  induction ids generalizing m with
  | nil => simp
  | cons j ids ih =>
    rw [List.map_cons, replay_cons, ih]
    by_cases hi : i ∈ ids
    · simp [hi]
    · by_cases hj : i = j <;> simp [hold, held, id, hi, hj]

end KeyOp

namespace Registry

variable {r r' : Registry}

/-- The number of the session registered under each identifier. -/
def holder (r : Registry) (id : String) : Option Nat := (r.find? id).map (·.number)

/-- The identifiers registered in `r` that `r'` no longer holds. -/
def dropped (r r' : Registry) : List String :=
  (r.entries.map (·.id)).filter fun id => (r'.holder id).isNone

theorem holder_eq_some_iff (hd : r.Distinct) {id : String} {n : Nat} :
    r.holder id = some n ↔ ∃ s ∈ r.entries, s.id = id ∧ s.number = n := by
  constructor
  · intro h
    obtain ⟨s, hfind, rfl⟩ := Option.map_eq_some_iff.mp h
    exact ⟨s, List.mem_of_find?_eq_some hfind, by simpa using List.find?_some hfind, rfl⟩
  · rintro ⟨s, hs, rfl, rfl⟩
    rw [holder, find_of_mem hd hs, Option.map_some]

theorem holder_eq_none {id : String} (h : ∀ s ∈ r.entries, s.id ≠ id) : r.holder id = none := by
  rw [holder, find?, List.find?_eq_none.mpr (by simpa using h), Option.map_none]

theorem holder_release (r : Registry) (id i : String) :
    (r.release id).holder i = if i = id then none else r.holder i := by
  unfold holder find?
  rw [release_entries, List.find?_filter]
  split
  · rename_i hi
    subst hi
    rw [List.find?_eq_none.mpr (by simp), Option.map_none]
  · rename_i hi
    congr 2
    funext s
    by_cases hs : s.id = i
    · simp [hs, hi]
    · simp [hs]

/-- Registering a session under a free identifier makes it the holder of that identifier. -/
theorem holder_append {s : Session} (he : r'.entries = r.entries ++ [s])
    (hfree : ∀ t ∈ r.entries, t.id ≠ s.id) (i : String) :
    r'.holder i = if i = s.id then some s.number else r.holder i := by
  unfold holder find?
  rw [he, List.find?_append]
  split
  · rename_i hi
    subst hi
    rw [List.find?_eq_none.mpr (by simpa using hfree)]
    simp
  · rename_i hi
    cases hfind : r.entries.find? (·.id = i) with
    | some t => rfl
    | none => simp [Ne.symm hi]

/-- A registry that moved forward holds each identifier as before or not at all. -/
theorem Advances.holder (hd : r.Distinct) (h : Advances r r') (i : String) :
    r'.holder i = none ∨ r'.holder i = r.holder i := by
  cases hi : r'.holder i with
  | none => exact .inl rfl
  | some n =>
    refine .inr ?_
    obtain ⟨s', hs', rfl, rfl⟩ := (holder_eq_some_iff (h.distinct hd)).mp hi
    obtain ⟨s, hs, hkey⟩ := h.mem hs'
    rw [← Session.id_eq_of_key hkey, ← Session.number_eq_of_key hkey]
    exact ((holder_eq_some_iff hd).mpr ⟨s, hs, rfl, rfl⟩).symm

/-- Moving forward stops the identifiers it dropped and nothing else. -/
theorem Advances.holder_eq_replay (hd : r.Distinct) (h : Advances r r') (i : String) :
    r'.holder i = KeyOp.replay ((r.dropped r').map KeyOp.stop) r.holder i := by
  rw [KeyOp.replay_stops]
  by_cases hi : i ∈ r.dropped r'
  · rw [if_pos hi]
    rw [dropped, List.mem_filter] at hi
    exact Option.isNone_iff_eq_none.mp hi.2
  · rw [if_neg hi]
    rcases h.holder hd i with hnone | heq
    · -- not held afterwards, so not registered before either
      have hbefore : r.holder i = none := holder_eq_none fun s hs hsi =>
        hi (List.mem_filter.mpr ⟨List.mem_map.mpr ⟨s, hs, hsi⟩, by simp [hnone]⟩)
      rw [hnone, hbefore]
    · exact heq

/-- Stopping every registered identifier leaves none held. -/
theorem holder_stops_all (r r' : Registry) (he : r'.entries = []) (i : String) :
    r'.holder i = KeyOp.replay (r.entries.map (.stop ·.id)) r.holder i := by
  have hstops : r.entries.map (.stop ·.id) = (r.entries.map (·.id)).map KeyOp.stop := by simp
  rw [hstops, KeyOp.replay_stops, holder_eq_none (by simp [he])]
  split
  · rfl
  · rename_i hi
    exact (holder_eq_none fun s hs hsi => hi (List.mem_map.mpr ⟨s, hs, hsi⟩)).symm

/-- A start refused once the registry is closed changes nothing. -/
theorem start_of_closed (n : Nat) {id : String} (path : String) (skip : Bool) (l : Listener)
    (hid : id ≠ "") (h : r.closed = true) :
    r.start n id path skip (some l) = (.error ⟨.registryClosed, "registry closed"⟩, r) := by
  simp [start, hid, h]

end Registry

namespace Driven

open Registry

variable {w : Driven}

/-- What a call does under each identifier. -/
def keyOps (w : Driven) : Call → List KeyOp
  | .start id path skip l =>
    if id = "" ∨ l.isNone = true ∨ w.registry.closed = true then []
    else [.start id (w.count + 1)
      (decide ((w.registry.start (w.count + 1) id path skip l).1 = .ok ()))]
  | .stop id => [.stop id]
  | .stopAll | .close => w.registry.entries.map (.stop ·.id)
  | .files _ => []
  | .settle => (w.registry.dropped w.registry.settle).map .stop

/-- What calls in order do under each identifier. -/
def journal (w : Driven) : List Call → List KeyOp
  | [] => []
  | c :: cs => w.keyOps c ++ (w.call c).journal cs

theorem run_cons (w : Driven) (c : Call) (cs : List Call) : w.run (c :: cs) = (w.call c).run cs :=
  rfl

theorem run_append (w : Driven) (a b : List Call) : w.run (a ++ b) = (w.run a).run b :=
  List.foldl_append

/-- Each call changes what is held as its operations say. -/
theorem Sound.holder_call (hw : w.Sound) (c : Call) (i : String) :
    (w.call c).registry.holder i = KeyOp.replay (w.keyOps c) w.registry.holder i := by
  cases c with
  | start id path skip l =>
    rw [call_start_registry]
    rcases start_cases w.registry (w.count + 1) id path skip l with
      ⟨hrefused, -, hreg⟩ | ⟨listener, v, rfl, hid, hopen, ⟨hres, hreg⟩ | ⟨c, size, hres, hreg⟩⟩
    · -- refused at once: nothing changes
      have hops : w.keyOps (.start id path skip l) = [] :=
        if_pos (by rcases hrefused with h | h | h <;> simp [h])
      rw [hops, hreg, KeyOp.replay_nil]
    · -- released, then failed: the identifier is left free
      have hops : w.keyOps (.start id path skip (some listener)) = [.start id (w.count + 1) false] := by
        simp [keyOps, hid, hopen, hres]
      rw [hops, hreg]
      show (w.registry.release id).holder i = _
      rw [holder_release]
      rfl
    · -- released, then the new session holds the identifier
      have hops : w.keyOps (.start id path skip (some listener)) = [.start id (w.count + 1) true] := by
        simp [keyOps, hid, hopen, hres]
      have hfree : ∀ t ∈ (w.registry.release id).entries, t.id ≠ id := by
        intro t ht
        rw [release_entries, List.mem_filter] at ht
        simpa using ht.2
      rw [hops, hreg, holder_append rfl hfree, holder_release]
      by_cases hi : i = id <;> simp [KeyOp.replay, KeyOp.hold, KeyOp.held, KeyOp.id, hi]
  | stop id =>
    show (w.registry.release id).holder i = _
    rw [holder_release]
    rfl
  | stopAll => exact holder_stops_all _ _ (stopAll_entries _) i
  | close => exact holder_stops_all _ _ (stopAll_entries _) i
  | files v => rfl
  | settle => exact (settle_advances hw.distinct).holder_eq_replay hw.distinct i

/-- Along a run, what is held is the replay of the run's journal. -/
theorem Sound.holder_run (cs : List Call) :
    ∀ {w : Driven}, w.Sound → ∀ i, (w.run cs).registry.holder i =
      KeyOp.replay (w.journal cs) w.registry.holder i := by
  induction cs with
  | nil => intro w _ i; rfl
  | cons c cs ih =>
    intro w hw i
    have hstep : (w.call c).registry.holder = KeyOp.replay (w.keyOps c) w.registry.holder :=
      funext (hw.holder_call c)
    rw [run_cons, ih (hw.call c), hstep, journal, KeyOp.replay_append]

/-- A start with a listener that fails after the registry's first checks has stopped the
session it replaced and leaves the identifier free. -/
theorem Sound.failed_start (hw : w.Sound) {id path : String} {skip : Bool} {l : Listener}
    (hid : id ≠ "") (hopen : w.registry.closed = false)
    (hfail : (w.registry.start (w.count + 1) id path skip (some l)).1 ≠ .ok ()) :
    (∀ s ∈ w.registry.entries, s.id = id →
        Retired w.registry (w.call (.start id path skip (some l))).registry s) ∧
      ∀ s ∈ (w.call (.start id path skip (some l))).registry.entries, s.id ≠ id := by
  rw [call_start_registry]
  rcases start_cases w.registry (w.count + 1) id path skip (some l) with
    ⟨hrefused, -, -⟩ | ⟨listener, v, -, -, -, ⟨-, hreg⟩ | ⟨c, size, hres, -⟩⟩
  · rcases hrefused with h | h | h
    · exact absurd h hid
    · exact absurd h (Option.some_ne_none l)
    · rw [hopen] at h
      exact absurd h Bool.false_ne_true
  · rw [hreg]
    refine ⟨fun s hs hsid => ?_, fun s hs => ?_⟩
    · subst hsid
      exact release_retires hw.distinct hs
    · have hs' : s ∈ (w.registry.release id).entries := hs
      rw [release_entries, List.mem_filter] at hs'
      simpa using hs'.2
  · exact absurd hres hfail

/-- Every call keeps a closed registry closed. -/
theorem call_closed (w : Driven) (c : Call) (h : w.registry.closed = true) :
    (w.call c).registry.closed = true := by
  cases c with
  | start id path skip l =>
    rw [call_start_registry]
    rcases start_cases w.registry (w.count + 1) id path skip l with
      ⟨-, -, hreg⟩ | ⟨-, -, -, -, hopen, -⟩
    · rw [hreg]
      exact h
    · rw [h] at hopen
      exact Bool.noConfusion hopen
  | stop id => exact (release_closed _ id).trans h
  | stopAll => exact (stopAll_closed _).trans h
  | close => exact stopAll_closed _
  | files v => exact h
  | settle => exact (settle_closed _).trans h

theorem run_closed (cs : List Call) :
    ∀ {w : Driven}, w.registry.closed = true → (w.run cs).registry.closed = true := by
  induction cs with
  | nil => intro w h; exact h
  | cons c cs ih => intro w h; exact ih (call_closed w c h)

/-- After a run that closed the registry, nothing is registered and every session launched has
ended, its transcript complete. -/
theorem Sound.closed_drained (hw : w.Sound) (h : w.registry.closed = true) :
    w.registry.entries = [] ∧ ∀ n l, w.launched n = some l →
      w.registry.live n = false ∧ Transcript l.hearsEnding (w.registry.logOf n) := by
  have hempty := hw.closed h
  have hlive : ∀ n, w.registry.live n = false := fun n => by simp [live, hempty]
  refine ⟨hempty, fun n l hl => ⟨hlive n, ?_⟩⟩
  have htr := hw.heard n l hl
  rwa [hlive n, Bool.not_false, Bool.true_and] at htr

end Driven

open Driven Registry

end LiveTail
