import LiveTail.Registry.Keys
import Mathlib.Data.List.Basic
/-!
# Calls under one identifier take turns

Whatever calls of start and stop are made and in whatever order their steps come, the locks
per identifier keep these laws (`Calls.Sound`, kept by every move):

* a call counted in stands on its identifier's lock in the table, and a lock stands there under
  one identifier at most, so all the calls under way under one identifier share one lock;
* the count of a lock in the table is the number of calls counted in on it, and is never zero;
* a lock is held by as many calls as it says, one or none.

So no two calls hold one identifier at once, the table is empty once no call is under way, and
a lock leaves the table only when no call waits on it, holds it or is about to count itself
out of it (`key_locks_exclude_and_never_leak`). What could break this is a lock dropped from
the table while a call still waits on it: a call arriving later would make a second lock
for the same identifier. The count rules it out, since the waiting call is counted in.
-/
namespace LiveTail.Keys

/-- The lock a call standing here is counted in on. -/
def Stage.lock? : Stage → Option Nat
  | .waiting k | .holding k | .leaving k => some k
  | .called | .returned => none

/-- Whether a call standing here holds its lock. -/
def Stage.holds : Stage → Bool
  | .holding _ => true
  | _ => false

theorem Stage.eq_of_holding {st : Stage} {k k' : Nat} (hst : st.lock? = some k)
    (hh : st = .holding k') : k' = k := by
  subst hh
  simpa [Stage.lock?] using hst

/-- Putting `b` where `a` stood trades one for the other in every count. -/
theorem countP_set_add {α : Type} {l : List α} {i : Nat} {a b : α} (h : l[i]? = some a)
    (p : α → Bool) :
    (l.set i b).countP p + (if p a then 1 else 0) = l.countP p + (if p b then 1 else 0) := by
  obtain ⟨hi, rfl⟩ := List.getElem?_eq_some_iff.mp h
  rw [List.countP_set hi]
  have := List.boole_getElem_le_countP (p := p) hi
  omega

namespace Calls

/-- How many calls under `id` are counted in. -/
def counted (c : Calls) (id : String) : Nat :=
  c.calls.countP fun a => a.id = id && a.stage.lock?.isSome

/-- How many calls hold lock `k`. -/
def holders (c : Calls) (k : Nat) : Nat := c.calls.countP fun a => a.stage = .holding k

/-- What holds of the locks and the calls along every run. -/
structure Sound (c : Calls) : Prop where
  /-- Every lock in the table was made. -/
  table_lt : ∀ id k, c.table id = some k → k < c.made
  /-- A lock stands in the table under one identifier at most. -/
  table_inj : ∀ id id' k, c.table id = some k → c.table id' = some k → id = id'
  /-- A call counted in stands on its identifier's lock in the table. -/
  entry : ∀ a ∈ c.calls, ∀ k, a.stage.lock? = some k → c.table a.id = some k
  /-- The count of a lock in the table is the number of calls counted in on it, never zero. -/
  refs : ∀ id k, c.table id = some k → (c.locks k).refs = c.counted id ∧ 0 < c.counted id
  /-- A lock is held by as many calls as it says. -/
  held : ∀ k, c.holders k = (c.locks k).held.toNat

/-! ## Counts after one change -/

section Counts

variable {c : Calls} {i : Nat} {a : Call}

@[simp] theorem counted_setLock (k : Nat) (l : Lock) : (c.setLock k l).counted = c.counted := rfl
@[simp] theorem counted_setEntry (id : String) (e : Option Nat) :
    (c.setEntry id e).counted = c.counted := rfl
@[simp] theorem holders_setLock (k : Nat) (l : Lock) : (c.setLock k l).holders = c.holders := rfl
@[simp] theorem holders_setEntry (id : String) (e : Option Nat) :
    (c.setEntry id e).holders = c.holders := rfl

theorem counted_setCall (hi : c.calls[i]? = some a) (b : Call) (id : String) :
    (c.setCall i b).counted id + (if a.id = id && a.stage.lock?.isSome then 1 else 0) =
      c.counted id + (if b.id = id && b.stage.lock?.isSome then 1 else 0) :=
  countP_set_add hi _

theorem holders_setCall (hi : c.calls[i]? = some a) (b : Call) (k : Nat) :
    (c.setCall i b).holders k + (if a.stage = .holding k then 1 else 0) =
      c.holders k + (if b.stage = .holding k then 1 else 0) := by
  have := countP_set_add hi (fun x => decide (x.stage = .holding k)) (b := b)
  simp only [decide_eq_true_eq] at this
  exact this

/-- A call that counts itself in raises the count of its identifier by one and no other. -/
theorem counted_countIn (hi : c.calls[i]? = some a) (hs : a.stage.lock? = none) {st : Stage}
    {k : Nat} (hst : st.lock? = some k) (id : String) :
    (c.setCall i { a with stage := st }).counted id = c.counted id + if a.id = id then 1 else 0 := by
  have hc := counted_setCall hi { a with stage := st } id
  simp only [hs, hst, Option.isSome_none, Option.isSome_some, Bool.and_false, Bool.and_true,
    Bool.false_eq_true, if_false, Nat.add_zero, decide_eq_true_eq] at hc
  exact hc

/-- A call that counts itself out lowers the count of its identifier by one and no other. -/
theorem counted_countOut (hi : c.calls[i]? = some a) {k : Nat} (hs : a.stage.lock? = some k)
    {st : Stage} (hst : st.lock? = none) (id : String) :
    (c.setCall i { a with stage := st }).counted id + (if a.id = id then 1 else 0) = c.counted id := by
  have hc := counted_setCall hi { a with stage := st } id
  simp only [hs, hst, Option.isSome_none, Option.isSome_some, Bool.and_false, Bool.and_true,
    Bool.false_eq_true, if_false, Nat.add_zero, decide_eq_true_eq] at hc
  exact hc

/-- Placing a call commutes with setting a lock or an entry: the calls are apart from both. -/
theorem setCall_setLock (k : Nat) (l : Lock) (b : Call) :
    (c.setLock k l).setCall i b = (c.setCall i b).setLock k l := rfl

theorem setCall_setEntry (id : String) (e : Option Nat) (b : Call) :
    (c.setEntry id e).setCall i b = (c.setCall i b).setEntry id e := rfl

theorem mem_setCall {b x : Call} (hx : x ∈ (c.setCall i b).calls) : x ∈ c.calls ∨ x = b :=
  List.mem_or_eq_of_mem_set hx

end Counts

/-! ## What the laws give at once -/

namespace Sound

variable {c : Calls} (h : c.Sound)
include h

/-- No call is counted in under an identifier that has no lock in the table. -/
theorem counted_of_none {id : String} (hn : c.table id = none) : c.counted id = 0 := by
  refine List.countP_eq_zero.mpr fun a ha hcount => ?_
  simp only [Bool.and_eq_true, decide_eq_true_eq, Option.isSome_iff_exists] at hcount
  obtain ⟨rfl, k, hk⟩ := hcount
  rw [h.entry a ha k hk] at hn
  cases hn

/-- A holder of a lock stands on its identifier's lock, so a lock not yet made has none. -/
theorem holders_made : c.holders c.made = 0 := by
  refine List.countP_eq_zero.mpr fun a ha hhold => ?_
  have hk := h.table_lt _ _ (h.entry a ha c.made (by simp_all [Stage.lock?]))
  omega

/-- Two identifiers with one lock in the table are one. -/
theorem ne_of_table {id id' : String} {k k' : Nat} (hk : c.table id = some k)
    (hk' : c.table id' = some k') (hne : id' ≠ id) : k' ≠ k := by
  rintro rfl
  exact hne (h.table_inj _ _ _ hk' hk)

end Sound

/-! ## One step of a call -/

theorem find_of_some {c : Calls} {id : String} {k : Nat} (hk : c.table id = some k) :
    c.find id = (k, c) := by
  simp [find, hk]

theorem find_of_none {c : Calls} {id : String} (hn : c.table id = none) :
    c.find id =
      (c.made, (({ c with made := c.made + 1 } : Calls).setLock c.made {}).setEntry id (some c.made)) := by
  simp [find, hn]

namespace Sound

variable {c : Calls} {i : Nat} {a : Call}

/-- A registry before any call keeps the laws. -/
theorem fresh : ({} : Calls).Sound where
  table_lt _ _ h := by cases h
  table_inj _ _ _ h := by cases h
  entry _ h := by cases h
  refs _ _ h := by cases h
  held _ := rfl

/-- A call that finds its identifier's lock in the table counts itself in on it. -/
theorem countIn_found (h : c.Sound) (hi : c.calls[i]? = some a) (hs : a.stage = .called)
    {k : Nat} (hk : c.table a.id = some k) : (c.stepCall i a).Sound := by
  simp only [stepCall, hs, find_of_some hk]
  rw [setCall_setLock]
  have hc := counted_countIn hi (by simp [hs, Stage.lock?]) (rfl : (Stage.waiting k).lock? = some k)
  have hh := holders_setCall hi { a with stage := .waiting k }
  simp only [hs, reduceCtorEq, if_false, Nat.add_zero] at hh
  refine ⟨by simpa using h.table_lt, by simpa using h.table_inj, fun x hx k' hk' => ?_,
    fun id k' hk' => ?_, fun k' => ?_⟩
  · rcases mem_setCall hx with hx | rfl
    · simpa using h.entry x hx k' hk'
    · simp only [Stage.lock?, Option.some.injEq] at hk'
      subst hk'
      simpa using hk
  · simp only [setLock_table, setCall_table] at hk'
    by_cases hid : id = a.id
    · -- the call counts itself in on its identifier's lock
      subst hid
      obtain rfl : k' = k := Option.some.inj (hk'.symm.trans hk)
      obtain ⟨hrefs, -⟩ := h.refs _ _ hk
      simp only [setLock_locks, if_true, counted_setLock, hc]
      omega
    · -- another identifier's lock and count stay
      simp only [setLock_locks, h.ne_of_table hk hk' hid, if_false, counted_setLock,
        setCall_locks, hc, if_neg (Ne.symm hid), Nat.add_zero]
      exact h.refs _ _ hk'
  · simp only [setLock_locks, holders_setLock, setCall_locks, hh k', h.held k']
    split <;> simp_all

/-- A call that finds no lock for its identifier makes one, puts it in the table and counts
itself in on it. -/
theorem countIn_made (h : c.Sound) (hi : c.calls[i]? = some a) (hs : a.stage = .called)
    (hn : c.table a.id = none) : (c.stepCall i a).Sound := by
  simp only [stepCall, hs, find_of_none hn]
  -- `d` is the registry with one more lock made; its calls, table and locks are those of `c`
  obtain ⟨d, hd⟩ : ∃ d : Calls, d = { c with made := c.made + 1 } := ⟨_, rfl⟩
  rw [← hd]
  have hdcalls : d.calls = c.calls := by rw [hd]
  have hdtable : d.table = c.table := by rw [hd]
  have hdlocks : d.locks = c.locks := by rw [hd]
  have hdmade : d.made = c.made + 1 := by rw [hd]
  have hdcounted : d.counted = c.counted := by rw [hd]; rfl
  have hdholders : d.holders = c.holders := by rw [hd]; rfl
  have hdi : d.calls[i]? = some a := by rw [hdcalls]; exact hi
  simp only [setCall_setLock, setCall_setEntry]
  have hc := counted_countIn hdi (by simp [hs, Stage.lock?])
    (rfl : (Stage.waiting c.made).lock? = some c.made)
  have hh := holders_setCall hdi { a with stage := .waiting c.made }
  simp only [hs, reduceCtorEq, if_false, Nat.add_zero, hdcounted, hdholders] at hc hh
  have hnone := h.counted_of_none hn
  refine ⟨fun id k hk => ?_, fun id id' k hk hk' => ?_, fun x hx k hk => ?_,
    fun id k hk => ?_, fun k => ?_⟩
  · simp only [setLock_table, setEntry_table, setCall_table, setLock_made, setEntry_made,
      setCall_made, hdtable, hdmade] at hk ⊢
    split at hk
    · cases hk
      omega
    · have := h.table_lt _ _ hk
      omega
  · simp only [setLock_table, setEntry_table, setCall_table, hdtable] at hk hk'
    split at hk <;> split at hk'
    · simp_all
    · cases hk
      have := h.table_lt _ _ hk'
      omega
    · cases hk'
      have := h.table_lt _ _ hk
      omega
    · exact h.table_inj _ _ _ hk hk'
  · simp only [setLock_table, setEntry_table, setCall_table, hdtable]
    rcases mem_setCall hx with hx | rfl
    · -- no call under the identifier was counted in, since it had no lock
      rw [hdcalls] at hx
      have hentry := h.entry x hx k hk
      have hid : x.id ≠ a.id := by
        rintro hid
        rw [hid, hn] at hentry
        cases hentry
      rw [if_neg hid, hentry]
    · simp only [Stage.lock?, Option.some.injEq] at hk
      simp [hk]
  · simp only [setLock_table, setEntry_table, setCall_table, hdtable] at hk
    simp only [setLock_locks, setEntry_locks, setCall_locks, counted_setLock, counted_setEntry,
      hdlocks]
    split at hk
    · rename_i hid
      subst hid
      cases hk
      simp only [if_true, hc, hnone]
      omega
    · rename_i hid
      have hlt := h.table_lt _ _ hk
      rw [if_neg (Nat.ne_of_lt hlt), if_neg (Nat.ne_of_lt hlt), hc, if_neg (Ne.symm hid),
        Nat.add_zero]
      exact h.refs _ _ hk
  · simp only [setLock_locks, setEntry_locks, setCall_locks, holders_setLock, holders_setEntry,
      hdlocks, hh k, h.held k]
    split
    · subst k
      simp [← h.held, h.holders_made]
    · rfl

/-- A call that moves between two stages on one lock, the lock's held flag set to say who
holds it. -/
theorem restage (h : c.Sound) (hi : c.calls[i]? = some a) {k : Nat} {st : Stage} {held : Bool}
    (hk : a.stage.lock? = some k) (hst : st.lock? = some k)
    (hheld : (c.setCall i { a with stage := st }).holders k = held.toNat) :
    ((c.setCall i { a with stage := st }).setLock k { c.locks k with held := held }).Sound := by
  have hentry := h.entry a (List.mem_of_getElem? hi) k hk
  have hc := counted_setCall hi { a with stage := st }
  have hh := holders_setCall hi { a with stage := st }
  simp only [hk, hst, Option.isSome_some, Bool.and_true] at hc
  refine ⟨by simpa using h.table_lt, by simpa using h.table_inj, fun x hx k' hk' => ?_,
    fun id k' hk' => ?_, fun k' => ?_⟩
  · rcases mem_setCall hx with hx | rfl
    · simpa using h.entry x hx k' hk'
    · rw [hst] at hk'
      cases hk'
      simpa using hentry
  · simp only [setLock_table, setCall_table] at hk'
    simp only [setLock_locks, counted_setLock, setCall_locks, Nat.add_right_cancel (hc id)]
    split
    · rename_i e
      subst e
      exact h.refs _ _ hk'
    · exact h.refs _ _ hk'
  · simp only [setLock_locks, holders_setLock, setCall_locks]
    split
    · rename_i e
      subst e
      exact hheld
    · -- both stages hold `k` if anything, so no other lock changes hands
      rename_i hne
      have ha : (if a.stage = .holding k' then 1 else 0) = 0 :=
        if_neg fun e => hne (Stage.eq_of_holding hk e)
      have hb : (if st = .holding k' then 1 else 0) = 0 :=
        if_neg fun e => hne (Stage.eq_of_holding hst e)
      have := hh k'
      simp only [ha, hb] at this
      rw [Nat.add_zero, Nat.add_zero] at this
      rw [this, h.held k']

/-- A waiting call takes its lock once it is free. -/
theorem take (h : c.Sound) (hi : c.calls[i]? = some a) {k : Nat} (hs : a.stage = .waiting k)
    (hfree : (c.locks k).held = false) : (c.stepCall i a).Sound := by
  simp only [stepCall, hs, hfree, Bool.false_eq_true, if_false]
  rw [setCall_setLock]
  refine h.restage hi (by simp [hs, Stage.lock?]) rfl ?_
  -- it becomes the one holder of a lock that had none
  have hh := holders_setCall hi { a with stage := .holding k } k
  simp only [hs, reduceCtorEq, if_false, if_true, h.held k, hfree] at hh
  simpa using hh

/-- A holding call frees its lock. -/
theorem free (h : c.Sound) (hi : c.calls[i]? = some a) {k : Nat} (hs : a.stage = .holding k) :
    (c.stepCall i a).Sound := by
  simp only [stepCall, hs]
  rw [setCall_setLock]
  refine h.restage hi (by simp [hs, Stage.lock?]) rfl ?_
  -- it was the one holder
  have hh := holders_setCall hi { a with stage := .leaving k } k
  simp only [hs, reduceCtorEq, if_false, if_true, h.held k] at hh
  have hle := Bool.toNat_le (c.locks k).held
  rw [Bool.toNat_false]
  omega

/-- A leaving call counts itself out, and the last one out drops its identifier from the
table. -/
theorem countOut (h : c.Sound) (hi : c.calls[i]? = some a) {k : Nat} (hs : a.stage = .leaving k) :
    (c.stepCall i a).Sound := by
  have hentry := h.entry a (List.mem_of_getElem? hi) k (by simp [hs, Stage.lock?])
  obtain ⟨hrefs, -⟩ := h.refs _ _ hentry
  have hc := counted_countOut hi (show a.stage.lock? = some k by simp [hs, Stage.lock?])
    (rfl : Stage.returned.lock? = none)
  have hh := holders_setCall hi { a with stage := .returned }
  simp only [hs, reduceCtorEq, if_false, Nat.add_zero] at hh
  -- the call leaves the count of its identifier and of no other
  have hown := hc a.id
  rw [if_pos rfl] at hown
  have hother : ∀ id, id ≠ a.id → (c.setCall i { a with stage := .returned }).counted id =
      c.counted id := fun id hid => by
    simpa [Ne.symm hid] using hc id
  have hlock : ∀ x ∈ (c.setCall i { a with stage := .returned }).calls, ∀ k',
      x.stage.lock? = some k' → x ∈ c.calls := fun x hx k' hk' => by
    rcases mem_setCall hx with hx | rfl
    · exact hx
    · simp [Stage.lock?] at hk'
  simp only [stepCall, hs, setLock_locks, if_true]
  split
  · -- the last call out: its identifier leaves the table
    rename_i hzero
    rw [setCall_setEntry, setCall_setLock]
    have hgone : (c.setCall i { a with stage := .returned }).counted a.id = 0 := by omega
    refine ⟨fun id k' hk' => ?_, fun id id' k' hk hk' => ?_, fun x hx k' hk' => ?_,
      fun id k' hk' => ?_, fun k' => ?_⟩
    · simp only [setEntry_table, setLock_table, setCall_table, setEntry_made, setLock_made,
        setCall_made] at hk' ⊢
      split at hk'
      · cases hk'
      · exact h.table_lt _ _ hk'
    · simp only [setEntry_table, setLock_table, setCall_table] at hk hk'
      split at hk
      · cases hk
      · split at hk'
        · cases hk'
        · exact h.table_inj _ _ _ hk hk'
    · have hid : x.id ≠ a.id := fun e => by
        have : 0 < (c.setCall i { a with stage := .returned }).counted a.id :=
          List.countP_pos_iff.mpr ⟨x, hx, by simp [e, hk']⟩
        omega
      simp only [setEntry_table, setLock_table, setCall_table, if_neg hid]
      exact h.entry x (hlock x hx k' hk') k' hk'
    · simp only [setEntry_table, setLock_table, setCall_table] at hk'
      split at hk'
      · cases hk'
      · rename_i hid
        have hne := h.ne_of_table hentry hk' hid
        simp only [setEntry_locks, setLock_locks, setCall_locks, if_neg hne, counted_setEntry,
          counted_setLock, hother id hid]
        exact h.refs _ _ hk'
    · simp only [setEntry_locks, setLock_locks, setCall_locks, holders_setEntry, holders_setLock,
        hh k', h.held k']
      split
      · rename_i e
        rw [e]
      · rfl
  · -- others stay counted in: the lock stays, one count lower
    rename_i hzero
    rw [setCall_setLock]
    refine ⟨by simpa using h.table_lt, by simpa using h.table_inj, fun x hx k' hk' => ?_,
      fun id k' hk' => ?_, fun k' => ?_⟩
    · simpa using h.entry x (hlock x hx k' hk') k' hk'
    · simp only [setLock_table, setCall_table] at hk'
      simp only [setLock_locks, setCall_locks, counted_setLock]
      by_cases hid : id = a.id
      · subst hid
        obtain rfl : k' = k := Option.some.inj (hk'.symm.trans hentry)
        simp only [if_true]
        omega
      · rw [if_neg (h.ne_of_table hentry hk' hid), hother id hid]
        exact h.refs _ _ hk'
    · simp only [setLock_locks, setCall_locks, holders_setLock, hh k', h.held k']
      split
      · rename_i e
        rw [e]
      · rfl

/-- A new call stands apart, counted in on nothing. -/
theorem call (h : c.Sound) (id : String) :
    ({ c with calls := c.calls ++ [{ id }] } : Calls).Sound where
  table_lt := h.table_lt
  table_inj := h.table_inj
  entry x hx k hk := by
    rcases List.mem_append.mp hx with hx | hx
    · exact h.entry x hx k hk
    · simp only [List.mem_singleton] at hx
      subst hx
      cases hk
  refs id k hk := by
    simpa [counted, List.countP_append, Stage.lock?] using h.refs id k hk
  held k := by
    simpa [holders, List.countP_append] using h.held k

/-- Every step of a call keeps the laws. -/
theorem step (h : c.Sound) (hi : c.calls[i]? = some a) : (c.stepCall i a).Sound := by
  cases hs : a.stage with
  | called =>
    cases hk : c.table a.id with
    | none => exact h.countIn_made hi hs hk
    | some k => exact h.countIn_found hi hs hk
  | waiting k =>
    cases hheld : (c.locks k).held with
    | true => simpa [Calls.stepCall, hs, hheld] using h
    | false => exact h.take hi hs hheld
  | holding k => exact h.free hi hs
  | leaving k => exact h.countOut hi hs
  | returned => simpa [Calls.stepCall, hs] using h

/-- Every move keeps the laws. -/
theorem move (h : c.Sound) (m : Move) : (c.move m).Sound := by
  cases m with
  | call id => exact h.call id
  | step i =>
    simp only [Calls.move]
    split
    · exact h.step ‹_›
    · exact h

/-- Every run keeps the laws. -/
theorem run (h : c.Sound) (ms : List Move) : (c.run ms).Sound := by
  induction ms generalizing c with
  | nil => exact h
  | cons m ms ih => exact ih (h.move m)

/-! ## The laws at work -/

/-- At most one call under an identifier holds it. -/
theorem holds_le_one (h : c.Sound) (id : String) :
    c.calls.countP (fun a => a.id = id && a.stage.holds) ≤ 1 := by
  -- a holder stands on a lock, and that lock is its identifier's in the table
  have hlock : ∀ x ∈ c.calls, (x.id = id && x.stage.holds) = true →
      ∃ k, x.stage = .holding k ∧ c.table id = some k := fun x hx hxp => by
    simp only [Bool.and_eq_true, decide_eq_true_eq] at hxp
    obtain ⟨rfl, hholds⟩ := hxp
    cases hst : x.stage with
    | holding k => exact ⟨k, rfl, h.entry x hx k (by simp [hst, Stage.lock?])⟩
    | _ => simp [hst, Stage.holds] at hholds
  cases hk : c.table id with
  | none =>
    have hzero : c.calls.countP (fun a => a.id = id && a.stage.holds) = 0 :=
      List.countP_eq_zero.mpr fun x hx hxp => by
        obtain ⟨k, -, hk'⟩ := hlock x hx hxp
        rw [hk] at hk'
        cases hk'
    omega
  | some k =>
    calc c.calls.countP (fun a => a.id = id && a.stage.holds)
        ≤ c.holders k := List.countP_mono_left fun x hx hxp => by
          obtain ⟨k', hst, hk'⟩ := hlock x hx hxp
          rw [hk] at hk'
          cases hk'
          simpa using hst
      _ = (c.locks k).held.toNat := h.held k
      _ ≤ 1 := Bool.toNat_le _

/-- With no call counted in, the table is empty. -/
theorem table_eq_none (h : c.Sound) (hidle : ∀ a ∈ c.calls, a.stage.lock? = none) (id : String) :
    c.table id = none := by
  cases hk : c.table id with
  | none => rfl
  | some k =>
    obtain ⟨-, hpos⟩ := h.refs id k hk
    obtain ⟨x, hx, hxp⟩ := List.countP_pos_iff.mp hpos
    simp [hidle x hx] at hxp

end Sound

/-- A move leaves each entry of the table as it was, drops it, or puts there a lock just made. -/
theorem table_move (c : Calls) (m : Move) (id : String) :
    (c.move m).table id = c.table id ∨ (c.move m).table id = none ∨
      (c.move m).table id = some c.made := by
  cases m with
  | call _ => exact .inl rfl
  | step i =>
    simp only [Calls.move]
    split
    · rename_i a _
      unfold stepCall
      split
      · cases hk : c.table a.id with
        | some k => simp [find_of_some hk]
        | none =>
          simp only [find_of_none hk, setCall_table, setLock_table, setEntry_table]
          split <;> simp
      · split <;> simp
      · simp
      · simp only [setCall_table]
        split
        · simp only [setEntry_table]
          split <;> simp
        · simp
      · exact .inl rfl
    · exact .inl rfl

namespace Sound

variable {c : Calls}

/-- A lock leaves the table only when no call is counted in on it: none waits on it, holds it
or is about to count itself out of it. -/
theorem not_counted_of_dropped (h : c.Sound) (m : Move) {id : String} {k : Nat}
    (hk : c.table id = some k) (hgone : (c.move m).table id ≠ some k) :
    ∀ a ∈ (c.move m).calls, a.stage.lock? ≠ some k := by
  intro a ha hlock
  have hentry := (h.move m).entry a ha k hlock
  rcases table_move c m a.id with hsame | hnone | hnew
  · -- the entry under the call's identifier stayed, so it is `id`'s, which did not
    rw [hsame] at hentry
    obtain rfl := h.table_inj _ _ _ hentry hk
    exact hgone (hsame.trans hentry)
  · rw [hnone] at hentry
    cases hentry
  · rw [hnew] at hentry
    cases hentry
    exact absurd (h.table_lt _ _ hk) (Nat.lt_irrefl _)

end Sound

end Calls

open Calls

/-- The locks per identifier exclude and do not leak. Along every run of calls of start and
stop from a registry with no locks, whatever the order of their steps: at most one call under
an identifier holds it at any moment; the count of each lock in the table is the number of
calls under its identifier that have counted themselves in and not yet out, and is never zero,
and an identifier with no lock has no such call; once no call is counted in, the table is
empty; and a step that drops a lock from the table leaves no call waiting on it, holding it or
about to count itself out of it. -/
theorem key_locks_exclude_and_never_leak (ms : List Move) :
    (∀ id, (Calls.run {} ms).calls.countP (fun a => a.id = id && a.stage.holds) ≤ 1) ∧
      (∀ id k, (Calls.run {} ms).table id = some k →
        ((Calls.run {} ms).locks k).refs = (Calls.run {} ms).counted id ∧
          0 < ((Calls.run {} ms).locks k).refs) ∧
      (∀ id, (Calls.run {} ms).table id = none → (Calls.run {} ms).counted id = 0) ∧
      ((∀ a ∈ (Calls.run {} ms).calls, a.stage = .called ∨ a.stage = .returned) →
        ∀ id, (Calls.run {} ms).table id = none) ∧
      ∀ m id k, (Calls.run {} ms).table id = some k → ((Calls.run {} ms).move m).table id ≠ some k →
        ∀ a ∈ ((Calls.run {} ms).move m).calls, a.stage.lock? ≠ some k := by
  have h := Sound.fresh.run ms
  refine ⟨h.holds_le_one, fun id k hk => ?_, fun id hk => h.counted_of_none hk,
    fun hidle => h.table_eq_none fun a ha => ?_, fun m id k hk hgone =>
      h.not_counted_of_dropped m hk hgone⟩
  · obtain ⟨hrefs, hpos⟩ := h.refs id k hk
    exact ⟨hrefs, by omega⟩
  · rcases hidle a ha with hs | hs <;> simp [hs, Stage.lock?]

/-- Three calls under one identifier, each counting itself in while the one before still holds
the lock or is leaving: one lock serves them all, and once the last is out the table is empty. -/
def turnsOfThree : List Move :=
  [.call "a", .call "a", .call "a", .step 0, .step 0, .step 1, .step 1, .step 0, .step 0,
    .step 1, .step 2, .step 1, .step 1, .step 2, .step 2]

/-- Before the last call's last step its identifier's lock stands in the table, and that step
drops it with no call left on it; afterwards every call has returned and the table is empty. -/
theorem three_calls_take_turns :
    (Calls.run {} turnsOfThree).table "a" = some 0 ∧
      ((Calls.run {} turnsOfThree).move (.step 2)).table "a" ≠ some 0 ∧
      (∀ a ∈ ((Calls.run {} turnsOfThree).move (.step 2)).calls, a.stage.lock? ≠ some 0) ∧
      (∀ a ∈ (Calls.run {} (turnsOfThree ++ [.step 2])).calls,
        a.stage = .called ∨ a.stage = .returned) ∧
      ∀ id, (Calls.run {} (turnsOfThree ++ [.step 2])).table id = none := by
  have hin : (Calls.run {} turnsOfThree).table "a" = some 0 := by decide
  have hout : ((Calls.run {} turnsOfThree).move (.step 2)).table "a" ≠ some 0 := by decide
  have hidle : ∀ a ∈ (Calls.run {} (turnsOfThree ++ [.step 2])).calls,
      a.stage = .called ∨ a.stage = .returned := by decide
  exact ⟨hin, hout, (key_locks_exclude_and_never_leak turnsOfThree).2.2.2.2 _ _ _ hin hout,
    hidle, (key_locks_exclude_and_never_leak _).2.2.2.1 hidle⟩

end LiveTail.Keys
