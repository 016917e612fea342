import LiveTail.Proofs.Advancing
import LiveTail.Proofs.Following

/-!
# Driving a registry

A caller drives a registry by calls: starts, stops, stopping all, closing, changes of the
files it follows (growth, shrinking, removal, delays and injected faults alike), and
letting the sessions run until nothing changes, in any order. `Driven` keeps, beside the
registry, the number the last start took and, for each number whose start succeeded, the
listener it was given.

Along every run (`sound_run`) the registry holds each identifier and number once, and what
each session number handed out reads as a transcript (`launched_sessions_end_once`): nothing
for a number whose start failed, and for a session whose start succeeded, its lines and then
one ending exactly when it no longer runs and its listener hears endings. A session that no
longer runs stays silent whatever follows (`Sound.silent_run`).
-/
namespace LiveTail

/-- What a caller can do to a registry. -/
inductive Call where
  | start (id path : String) (skipToEnd : Bool) (listener : Option Listener)
  | stop (id : String)
  | stopAll
  | close
  /-- The files change in any way. -/
  | files (v : Volume)
  /-- The sessions run until nothing changes. -/
  | settle

/-- A registry as its caller drives it: the number the last start took, and the listener of
each number whose start succeeded. -/
structure Driven where
  registry : Registry
  count : Nat := 0
  launched : Nat → Option Listener := fun _ => none

namespace Driven

/-- A registry over a volume, before any call. -/
def init (v : Volume) (o : TailOptions) : Driven := { registry := { volume := v, options := o } }

/-- One call. Each start takes the next number, whether it succeeds or not. -/
def call (w : Driven) : Call → Driven
  | .start id path skip l =>
    let n := w.count + 1
    match w.registry.start n id path skip l, l with
    | (.ok (), r), some l =>
      { registry := r, count := n, launched := fun m => if m = n then some l else w.launched m }
    | (_, r), _ => { w with registry := r, count := n }
  | .stop id => { w with registry := w.registry.stop id }
  | .stopAll => { w with registry := w.registry.stopAll }
  | .close => { w with registry := w.registry.close }
  | .files v => { w with registry := { w.registry with volume := v } }
  | .settle => { w with registry := w.registry.settle }

/-- Calls one after another. -/
def run (w : Driven) (cs : List Call) : Driven := cs.foldl call w

end Driven

namespace Registry

theorem release_entries (r : Registry) (id : String) :
    (r.release id).entries = r.entries.filter (·.id ≠ id) := by
  unfold release
  split
  · rename_i hnone
    symm
    apply List.filter_eq_self.mpr
    intro s hs
    have := List.find?_eq_none.mp hnone s hs
    simpa using this
  · split <;> rfl

@[simp] theorem release_closed (r : Registry) (id : String) : (r.release id).closed = r.closed := by
  unfold release
  split
  · rfl
  · split <;> rfl

/-- Releasing identifiers one after another takes out exactly the sessions under them. -/
theorem foldl_release_entries (ids : List String) (r : Registry) :
    (ids.foldl release r).entries = r.entries.filter (fun s => s.id ∉ ids) := by
  induction ids generalizing r with
  | nil => simp
  | cons id ids ih =>
    rw [List.foldl_cons, ih, release_entries, List.filter_filter]
    congr 1
    funext s
    simp [Bool.and_comm]

theorem stopAll_entries (r : Registry) : r.stopAll.entries = [] := by
  rw [stopAll, foldl_release_entries]
  exact List.filter_eq_nil_iff.mpr (fun s hs => by simpa using List.mem_map_of_mem hs)

/-- Steps that each leave the closed flag alone leave it alone along a list. -/
theorem foldl_closed {α : Type} (f : Registry → α → Registry)
    (hf : ∀ r a, (f r a).closed = r.closed) :
    ∀ (as : List α) (r : Registry), (as.foldl f r).closed = r.closed
  | [], _ => rfl
  | a :: as, r => (foldl_closed f hf as (f r a)).trans (hf r a)

@[simp] theorem stopAll_closed (r : Registry) : r.stopAll.closed = r.closed :=
  foldl_closed release release_closed _ r

@[simp] theorem apply_closed (r : Registry) (q : Request) : (r.apply q).closed = r.closed := by
  cases q <;> simp [apply]

@[simp] theorem settleOne_closed (r : Registry) (n : Nat) : (r.settleOne n).closed = r.closed := by
  unfold settleOne
  split
  · rfl
  · split
    · rfl
    · rw [foldl_closed apply apply_closed]

@[simp] theorem settle_closed (r : Registry) : r.settle.closed = r.closed :=
  foldl_closed settleOne settleOne_closed _ r

/-- A closed registry that advanced holds no session. -/
theorem Advances.empty {r r' : Registry} (h : Advances r r') (he : r.entries = []) :
    r'.entries = [] := by
  have hk := h.keys
  rw [he, List.map_nil, List.sublist_nil, List.map_eq_nil_iff] at hk
  exact hk

/-- What a start does: it is refused with nothing changed (an empty identifier, no
listener, a closed registry), or it releases the identifier and then fails, having touched
only the files, or it registers a new session, which has not ended, under the identifier
with the number it was given. -/
theorem start_cases (r : Registry) (number : Nat) (id path : String) (skip : Bool)
    (l : Option Listener) :
    (id = "" ∨ l = none ∨ r.closed = true) ∧ (r.start number id path skip l).1 ≠ .ok () ∧
        (r.start number id path skip l).2 = r ∨
      ∃ listener v, l = some listener ∧ id ≠ "" ∧ r.closed = false ∧
        ((r.start number id path skip l).1 ≠ .ok () ∧
            (r.start number id path skip l).2 = { r.release id with volume := v } ∨
          ∃ c size, (r.start number id path skip l).1 = .ok () ∧
            (r.start number id path skip l).2 =
              { r.release id with
                volume := v
                entries := (r.release id).entries ++
                  [{ number, id, path, cursor := c, lastSize := size, listener }] }) := by
  unfold start
  split
  · exact .inl ⟨.inl ‹_›, by simp, rfl⟩
  · rename_i hid
    split
    · exact .inl ⟨.inr (.inl rfl), by simp, rfl⟩
    · rename_i listener
      split
      · exact .inl ⟨.inr (.inr ‹_›), by simp, rfl⟩
      · rename_i hclosed
        refine .inr ⟨listener, ?_⟩
        dsimp only
        split
        · exact ⟨(r.release id).volume, rfl, hid, by simpa using hclosed,
            .inl ⟨by simp, rfl⟩⟩
        · rcases hl : launch (r.release id).volume path skip with ⟨_ | ⟨c, size⟩, v⟩
          · exact ⟨v, rfl, hid, by simpa using hclosed, .inl ⟨by simp, rfl⟩⟩
          · exact ⟨v, rfl, hid, by simpa using hclosed, .inr ⟨c, size, rfl, rfl⟩⟩

end Registry

namespace Driven

open Registry

/-- What holds along every run: each identifier and number is registered once, under a
non-empty identifier and with the listener its start was given; numbers past the last one
taken have no session; what each number handed out reads as its transcript, empty for a
number whose start failed; and a closed registry holds no session. -/
structure Sound (w : Driven) : Prop where
  distinct : w.registry.Distinct
  named : ∀ s ∈ w.registry.entries, s.id ≠ ""
  listeners : ∀ s ∈ w.registry.entries, w.launched s.number = some s.listener
  fresh : ∀ n, w.count < n → w.launched n = none
  unheard : ∀ n, w.launched n = none → w.registry.logOf n = []
  heard : ∀ n l, w.launched n = some l →
    Transcript (!w.registry.live n && l.hearsEnding) (w.registry.logOf n)
  closed : w.registry.closed = true → w.registry.entries = []

theorem sound_init (v : Volume) (o : TailOptions) : (init v o).Sound where
  distinct := ⟨List.nodup_nil, List.nodup_nil⟩
  named := by simp [init]
  listeners := by simp [init]
  fresh := fun _ _ => rfl
  unheard := fun n _ => by simp [init, logOf]
  heard := fun n l h => by simp [init] at h
  closed := fun _ => rfl

/-- A session that runs was launched under its number. -/
theorem Sound.launched_of_live {w : Driven} (hw : w.Sound) {n : Nat}
    (h : w.registry.live n = true) : w.launched n ≠ none := by
  obtain ⟨s, hs, rfl, -⟩ := live_iff.mp h
  rw [hw.listeners s hs]
  exact Option.some_ne_none _

/-- Moving the registry forward keeps everything that holds along a run. -/
theorem Sound.advance {w : Driven} (hw : w.Sound) {r' : Registry} (h : Advances w.registry r')
    (hclosed : r'.closed = true → r'.entries = []) (k : Nat) (hk : w.count ≤ k) :
    Sound { w with registry := r', count := k } := by
  obtain ⟨out, hout, hc⟩ := h.heard
  refine ⟨h.distinct hw.distinct, fun s hs => ?_, fun s hs => ?_,
    fun n hn => hw.fresh n (by simp at hn; omega), fun n hn => ?_, fun n l hl => ?_, hclosed⟩
  · obtain ⟨t, ht, hkey⟩ := h.mem hs
    rw [← Session.id_eq_of_key hkey]
    exact hw.named t ht
  · obtain ⟨t, ht, hkey⟩ := h.mem hs
    rw [← Session.number_eq_of_key hkey, ← Session.listener_eq_of_key hkey]
    exact hw.listeners t ht
  · -- a number never launched never ran, so it gained nothing
    have hlive : w.registry.live n = false := by
      cases hl : w.registry.live n
      · rfl
      · exact absurd hn (hw.launched_of_live hl)
    dsimp only
    rw [logOf_of_heard hout, (hc n).1 hlive, hw.unheard n hn, List.append_nil]
  · dsimp only at hl ⊢
    rw [logOf_of_heard hout]
    cases hlive : w.registry.live n with
    | true =>
      -- it ran: its transcript so far has no ending, and it continues
      obtain ⟨s, hs, rfl, hended⟩ := live_iff.mp hlive
      have hls : s.listener = l := Option.some_inj.mp ((hw.listeners s hs).symm.trans hl)
      have htr := hw.heard s.number l hl
      rw [hlive, Bool.not_true, Bool.false_and] at htr
      have hnext := (hc s.number).2 s hs rfl hended
      rw [hls] at hnext
      exact htr.append hnext
    | false =>
      -- it no longer ran: nothing more, and it does not run again
      rw [(hc n).1 hlive, List.append_nil, (h.silent hlive).2]
      have htr := hw.heard n l hl
      rwa [hlive] at htr

/-- Registering a new session, under a fresh number and an identifier not in use, keeps
everything that holds along a run. -/
theorem Sound.launch {w : Driven} (hw : w.Sound) (hopen : w.registry.closed = false)
    (v : Volume) (s : Session) (hnum : s.number = w.count + 1) (hid : s.id ≠ "")
    (hfree : ∀ t ∈ w.registry.entries, t.id ≠ s.id) (hended : s.ended = false) :
    Sound { registry := { w.registry with volume := v, entries := w.registry.entries ++ [s] },
            count := w.count + 1,
            launched := fun m => if m = w.count + 1 then some s.listener else w.launched m } := by
  -- every registered number was launched, so it is at most the last one taken
  have hold : ∀ t ∈ w.registry.entries, t.number ≠ w.count + 1 := by
    intro t ht htn
    have := hw.fresh (w.count + 1) (by omega)
    rw [← htn, hw.listeners t ht] at this
    exact Option.some_ne_none _ this
  have hlog : ∀ n, ({ w.registry with volume := v, entries := w.registry.entries ++ [s] } :
      Registry).logOf n = w.registry.logOf n := fun _ => rfl
  have hlive : ∀ n, n ≠ w.count + 1 →
      ({ w.registry with volume := v, entries := w.registry.entries ++ [s] } : Registry).live n =
        w.registry.live n := by
    intro n hn
    simp [live, List.any_append, hnum, Ne.symm hn]
  refine ⟨⟨?_, ?_⟩, ?_, ?_, ?_, ?_, ?_, ?_⟩
  · rw [List.map_append, List.nodup_append]
    exact ⟨hw.distinct.ids, by simp, by simpa using fun t ht h => hfree t ht h⟩
  · rw [List.map_append, List.nodup_append]
    exact ⟨hw.distinct.numbers, by simp, by simpa [hnum] using fun t ht h => hold t ht h⟩
  · intro t ht
    rcases List.mem_append.mp ht with ht | ht
    · exact hw.named t ht
    · rw [List.mem_singleton.mp ht]
      exact hid
  · intro t ht
    rcases List.mem_append.mp ht with ht | ht
    · simp only [if_neg (hold t ht)]
      exact hw.listeners t ht
    · rw [List.mem_singleton.mp ht]
      simp [hnum]
  · intro n hn
    have hne : n ≠ w.count + 1 := by simp at hn; omega
    simp only [if_neg hne]
    exact hw.fresh n (by simp at hn; omega)
  · intro n hn
    by_cases hne : n = w.count + 1
    · simp [hne] at hn
    · simp only [if_neg hne] at hn
      rw [hlog]
      exact hw.unheard n hn
  · intro n l hl
    by_cases hne : n = w.count + 1
    · -- the new session: it runs and has handed out nothing
      subst hne
      have hnone := hw.fresh (w.count + 1) (by omega)
      rw [hlog, hw.unheard _ hnone]
      have hrun : ({ w.registry with volume := v, entries := w.registry.entries ++ [s] } :
          Registry).live (w.count + 1) = true := by
        rw [← hnum]
        exact live_of_mem (List.mem_append_right _ (List.mem_singleton_self s)) hended
      rw [hrun, Bool.not_true, Bool.false_and]
      exact Transcript.nil
    · simp only [if_neg hne] at hl
      rw [hlog, hlive n hne]
      exact hw.heard n l hl
  · intro h
    simp [hopen] at h

theorem call_start_of_ne_ok {w : Driven} {id path : String} {skip : Bool}
    {l : Option Listener} (h : (w.registry.start (w.count + 1) id path skip l).1 ≠ .ok ()) :
    w.call (.start id path skip l) =
      { w with registry := (w.registry.start (w.count + 1) id path skip l).2,
               count := w.count + 1 } := by
  dsimp only [call]
  rcases hst : w.registry.start (w.count + 1) id path skip l with ⟨_ | u, r⟩
  · rfl
  · rw [hst] at h
    exact absurd rfl h

theorem call_start_of_ok {w : Driven} {id path : String} {skip : Bool} {l : Listener}
    (h : (w.registry.start (w.count + 1) id path skip (some l)).1 = .ok ()) :
    w.call (.start id path skip (some l)) =
      { registry := (w.registry.start (w.count + 1) id path skip (some l)).2,
        count := w.count + 1,
        launched := fun m => if m = w.count + 1 then some l else w.launched m } := by
  dsimp only [call]
  rcases hst : w.registry.start (w.count + 1) id path skip (some l) with ⟨_ | u, r⟩
  · rw [hst] at h
    simp at h
  · rfl

/-- What a call does: it moves the registry forward, perhaps taking a number for a start
that failed, or it moves it forward and registers a new session under the next number and
an identifier no longer in use. -/
theorem Sound.call_cases {w : Driven} (hw : w.Sound) (c : Call) :
    ∃ r₁, Advances w.registry r₁ ∧ (r₁.closed = true → r₁.entries = []) ∧
      ((∃ k, w.count ≤ k ∧ w.call c = { w with registry := r₁, count := k }) ∨
        ∃ s : Session, s.number = w.count + 1 ∧ s.id ≠ "" ∧ (∀ t ∈ r₁.entries, t.id ≠ s.id) ∧
          s.ended = false ∧ r₁.closed = false ∧
          w.call c = { registry := { r₁ with entries := r₁.entries ++ [s] },
                       count := w.count + 1,
                       launched := fun m =>
                         if m = w.count + 1 then some s.listener else w.launched m }) := by
  have hkeep : ∀ {r' : Registry}, Advances w.registry r' → r'.closed = w.registry.closed →
      (r'.closed = true → r'.entries = []) := by
    intro r' h hc hcl
    rw [hc] at hcl
    exact h.empty (hw.closed hcl)
  cases c with
  | start id path skip l =>
    rcases start_cases w.registry (w.count + 1) id path skip l with
      ⟨-, hres, hreg⟩ | ⟨listener, v, rfl, hid, hopen, ⟨hres, hreg⟩ | ⟨c, size, hres, hreg⟩⟩
    · -- refused: nothing changes but the number
      refine ⟨w.registry, Advances.refl _, hw.closed, .inl ⟨w.count + 1, by omega, ?_⟩⟩
      rw [call_start_of_ne_ok hres, hreg]
    · -- released, then failed
      have hadv : Advances w.registry { w.registry.release id with volume := v } :=
        Advances.trans hw.distinct (release_advances hw.distinct id) (Advances.of_eq rfl rfl)
      refine ⟨_, hadv, hkeep hadv (by simp), .inl ⟨w.count + 1, by omega, ?_⟩⟩
      rw [call_start_of_ne_ok hres, hreg]
    · -- released, then a new session registered
      have hadv : Advances w.registry { w.registry.release id with volume := v } :=
        Advances.trans hw.distinct (release_advances hw.distinct id) (Advances.of_eq rfl rfl)
      let snew : Session :=
        { number := w.count + 1, id, path, cursor := c, lastSize := size, listener }
      refine ⟨_, hadv, hkeep hadv (by simp),
        .inr ⟨snew, rfl, hid, ?_, rfl, by simpa using hopen, ?_⟩⟩
      · intro t ht
        have ht' : t ∈ (w.registry.release id).entries := ht
        rw [release_entries, List.mem_filter] at ht'
        simpa using ht'.2
      · rw [call_start_of_ok hres, hreg]
  | stop id =>
    have hadv := release_advances hw.distinct id
    exact ⟨_, hadv, hkeep hadv (by simp), .inl ⟨w.count, Nat.le_refl _, rfl⟩⟩
  | stopAll =>
    have hadv := stopAll_advances hw.distinct
    exact ⟨_, hadv, hkeep hadv (by simp), .inl ⟨w.count, Nat.le_refl _, rfl⟩⟩
  | close =>
    -- closing is marking the registry closed, then stopping all
    have hmark : Advances w.registry { w.registry with closed := true } := Advances.of_eq rfl rfl
    have hadv : Advances w.registry w.registry.close :=
      Advances.trans hw.distinct hmark (stopAll_advances (hmark.distinct hw.distinct))
    exact ⟨_, hadv, fun _ => stopAll_entries _, .inl ⟨w.count, Nat.le_refl _, rfl⟩⟩
  | files v =>
    have hadv : Advances w.registry { w.registry with volume := v } := Advances.of_eq rfl rfl
    exact ⟨_, hadv, hw.closed, .inl ⟨w.count, Nat.le_refl _, rfl⟩⟩
  | settle =>
    have hadv := settle_advances hw.distinct
    exact ⟨_, hadv, hkeep hadv (by simp), .inl ⟨w.count, Nat.le_refl _, rfl⟩⟩

/-- Every call keeps what holds along a run. -/
theorem Sound.call {w : Driven} (hw : w.Sound) (c : Call) : (w.call c).Sound := by
  obtain ⟨r₁, hadv, hclosed, ⟨k, hk, hcall⟩ | ⟨s, hnum, hid, hfree, hended, hopen, hcall⟩⟩ :=
    hw.call_cases c
  · rw [hcall]
    exact hw.advance hadv hclosed k hk
  · rw [hcall]
    exact (hw.advance hadv hclosed w.count (Nat.le_refl _)).launch hopen r₁.volume s hnum hid hfree
      hended

theorem sound_run (cs : List Call) : ∀ {w : Driven}, w.Sound → (w.run cs).Sound := by
  induction cs with
  | nil => intro w hw; exact hw
  | cons c cs ih => intro w hw; exact ih (hw.call c)

/-- A session that no longer runs hands out nothing more and does not run again, whatever
is called. -/
theorem Sound.silent_call {w : Driven} (hw : w.Sound) {n : Nat} (hn : w.registry.live n = false)
    (hle : n ≤ w.count) (c : Call) :
    (w.call c).registry.logOf n = w.registry.logOf n ∧ (w.call c).registry.live n = false ∧
      n ≤ (w.call c).count := by
  obtain ⟨r₁, hadv, -, hcases⟩ := hw.call_cases c
  obtain ⟨hlog, hlive⟩ := hadv.silent hn
  rcases hcases with ⟨k, hk, hcall⟩ | ⟨s, hnum, -, -, -, -, hcall⟩
  · rw [hcall]
    exact ⟨hlog, hlive, by simp; omega⟩
  · -- the new session has the next number, not `n`
    rw [hcall]
    refine ⟨hlog, ?_, by simp; omega⟩
    rw [← hlive]
    simp [live, List.any_append, hnum]
    omega

/-- ... and so along any run. -/
theorem Sound.silent_run {n : Nat} (cs : List Call) : ∀ {w : Driven}, w.Sound →
    w.registry.live n = false → n ≤ w.count → (w.run cs).registry.logOf n = w.registry.logOf n := by
  induction cs with
  | nil => intro w _ _ _; rfl
  | cons c cs ih =>
    intro w hw hn hle
    obtain ⟨hlog, hn', hle'⟩ := hw.silent_call hn hle c
    exact (ih (hw.call c) hn' hle').trans hlog

/-- Starting a session on the one-line file registers it under number 1 with its listener. -/
theorem one_line_start (l : Listener) :
    let w := (init Session.oneLineVolume {}).run [.start "a" "/a" false (some l)]
    w.launched 1 = some l ∧ ∃ s ∈ w.registry.entries, s.id = "a" ∧ s.number = 1 := by
  intro w
  have hok := Session.oneLineVolume_start l
  have hw : w = (init Session.oneLineVolume {}).call (.start "a" "/a" false (some l)) := rfl
  have hstart : ({ volume := Session.oneLineVolume } : Registry).start 1 "a" "/a" false (some l) =
      (.ok (), (({ volume := Session.oneLineVolume } : Registry).start 1 "a" "/a" false
        (some l)).2) := by
    rw [← hok]
  obtain ⟨c, size, -, -, hentries⟩ := start_eq_ok hstart
  rw [hw, call_start_of_ok hok]
  refine ⟨by simp [init],
    { number := 1, id := "a", path := "/a", cursor := c, lastSize := size, listener := l }, ?_,
    rfl, rfl⟩
  show _ ∈
    (({ volume := Session.oneLineVolume } : Registry).start 1 "a" "/a" false (some l)).2.entries
  rw [hentries]
  exact List.mem_append_right _ (List.mem_singleton_self _)

end Driven

end LiveTail
