import Mathlib.Data.List.Chain
import LiveTail.Session.Thread
import LiveTail.Proofs.Stopping
import LiveTail.Proofs.Shrinking
/-!
# The lifecycle of a session

A session's thread stores its phase at fixed points: polling once its file is open, stopped
instead when opening fails, waiting when a poll caught up, polling again when the wait is
over, and stopped when it ends. Whatever the files do and whenever the session is cancelled
or handed over, the values the phase takes form a path of that lifecycle
(`Thread.Sound.path`); stopped is stored at most once, last, and exactly when the thread has
returned; it comes straight after initializing exactly when opening failed; and a stopped
session holds no open cursor and no fragment, and polls no more.

`Thread.Sound.move` is the step lemma, and `Thread.sound_run` the run lemma. Letting a
session run until nothing changes (`Session.runFor`) is its thread taking steps with nothing
else happening (`runFor_steps`), so a registry, whose sessions only ever run that way, never
shows a session as initializing.
-/
namespace LiveTail

theorem Phase.Step.ne_initializing {a b : Phase} (h : Phase.Step a b) : b ≠ .initializing := by
  cases h <;> simp

/-- Nothing follows stopped. -/
theorem Phase.Step.not_stopped {b : Phase} : ¬ Phase.Step .stopped b := nofun

/-- In a chain of a relation under which `x` relates to nothing, `x` occurs once, as the last
element, or not at all. -/
theorem List.IsChain.count_of_sink {α : Type} [DecidableEq α] {R : α → α → Prop} {x : α}
    (hx : ∀ b, ¬ R x b) : ∀ {l : List α}, l.IsChain R →
      l.count x = if l.getLast? = some x then 1 else 0
  | [], _ => rfl
  | [a], _ => by by_cases ha : a = x <;> simp [ha]
  | a :: b :: l, hc => by
    rw [List.isChain_cons_cons] at hc
    have ha : a ≠ x := by
      rintro rfl
      exact hx b hc.1
    rw [List.count_cons, count_of_sink hx hc.2, List.getLast?_cons_cons]
    simp [ha]

namespace Session

/-- The phase a thread has stored while it stands at a stage. -/
def Stage.phase : Stage → Phase
  | .opening => .initializing
  | .launching | .head | .polling | .polled _ => .polling
  | .checking | .waiting => .waiting
  | .finished _ | .failed _ => .stopped

namespace Thread

/-- The values the session's phase took, in order: the initial one, then every value
stored. -/
def history (t : Thread) : List Phase := .initializing :: t.stored

/-- The phases stored so far form a path of the lifecycle that ends at the phase the session
shows. -/
structure Logged (t : Thread) : Prop where
  path : t.history.IsChain Phase.Step
  last : t.history.getLast? = some t.session.phase

/-- What every thread keeps from its start: its phases form a path of the lifecycle ending at
the phase it shows, which is the phase of its stage; its first stored phase is stopped
exactly when opening failed; and an initializing or stopped session holds no open cursor
and no fragment. -/
structure Sound (t : Thread) : Prop extends t.Logged where
  stage : t.session.phase = t.stage.phase
  failed : (∃ f, t.stage = .failed f) ↔ t.stored = [.stopped]
  idle : t.session.phase = .initializing ∨ t.session.phase = .stopped →
    t.session.cursor.closed = true ∧ t.session.splitter.pending.size = 0

variable {t u : Thread}

theorem Logged.stored_eq_nil (h : t.Logged) (hp : t.session.phase = .initializing) :
    t.stored = [] := by
  obtain ⟨l, x, hl⟩ | hnil : (∃ l x, t.stored = l ++ [x]) ∨ t.stored = [] := by
    rcases List.eq_nil_or_concat t.stored with h | ⟨l, x, h⟩
    · exact .inr h
    · exact .inl ⟨l, x, by rw [h, List.concat_eq_append]⟩
  · -- the last phase stored is the target of a step, so it is not initializing
    have hlast := h.last
    have hpath := h.path
    rw [history, hl, ← List.cons_append, List.getLast?_append_of_ne_nil _ (by simp)] at hlast
    rw [history, hl, ← List.cons_append, List.isChain_append] at hpath
    obtain ⟨y, hy⟩ : ∃ y, (Phase.initializing :: l).getLast? = some y :=
      ⟨_, List.getLast?_eq_some_getLast (by simp)⟩
    have hx : x = t.session.phase := by simpa using hlast
    exact absurd (hp ▸ hx) (hpath.2.2 y hy x (by simp)).ne_initializing
  · exact hnil

theorem Logged.stored_ne_nil (h : t.Logged) (hp : t.session.phase ≠ .initializing) :
    t.stored ≠ [] := by
  intro hnil
  have hlast := h.last
  rw [history, hnil] at hlast
  exact hp (by simpa using hlast.symm)

/-- Storing a phase the lifecycle allows next keeps the path. -/
theorem Logged.store (h : t.Logged) {ph : Phase} (hstep : Phase.Step t.session.phase ph)
    (u : Thread) (hu : u.stored = t.stored) : (u.store ph).Logged := by
  have hlast := h.last
  refine ⟨?_, ?_⟩
  · rw [history, store_stored, hu, ← List.cons_append]
    exact h.path.append (.singleton ph) (by simp_all [history])
  · rw [history, store_stored, ← List.cons_append, List.getLast?_append_of_ne_nil _ (by simp)]
    simp

/-- Ending a session that polls or waits leaves a sound thread. -/
theorem Logged.finish_sound (h : t.Logged) (hrun : t.session.phase = .polling ∨
    t.session.phase = .waiting) (e : Ending) : (t.finish e).Sound := by
  have hstep : Phase.Step t.session.phase .stopped := by
    rcases hrun with hp | hp <;> rw [hp]
    exacts [.endedPolling, .endedWaiting]
  have hlog := h.store hstep { t with } rfl
  refine ⟨⟨hlog.path, hlog.last⟩, rfl, ?_, fun _ => ?_⟩
  · have hne := h.stored_ne_nil (by rcases hrun with hp | hp <;> simp [hp])
    simp only [finish_stage, finish_stored, reduceCtorEq, exists_false, false_iff]
    intro hs
    exact hne (List.append_eq_singleton_iff.mp hs |>.resolve_right (by simp)).1
  · simp [Session.finish, Cursor.close, Cursor.closed]

theorem Logged.of_eq (h : t.Logged) (u : Thread) (hs : u.stored = t.stored)
    (hp : u.session.phase = t.session.phase) : u.Logged := by
  have hh : u.history = t.history := by rw [history, history, hs]
  exact ⟨hh ▸ h.path, by rw [hh, hp]; exact h.last⟩

/-- Storing a phase the lifecycle allows next, other than stopped, at a stage that runs in
it, leaves a sound thread. -/
theorem Logged.store_sound (h : t.Logged) {ph : Phase} (hstep : Phase.Step t.session.phase ph)
    (hne : ph ≠ .stopped) (u : Thread) (hu : u.stored = t.stored) (hg : u.stage.phase = ph)
    (hnf : ∀ f, u.stage ≠ .failed f) : (u.store ph).Sound := by
  refine ⟨h.store hstep u hu, hg.symm, ?_, ?_⟩
  · simp only [store_stage, store_stored, List.append_eq_singleton_iff, List.cons.injEq,
      and_true]
    exact ⟨fun ⟨f, hf⟩ => absurd hf (hnf f), fun hs => by simp_all⟩
  · rintro (hp | hp)
    · exact absurd hp hstep.ne_initializing
    · exact absurd hp hne

/-- A change of stage that stores nothing, while the session polls or waits, leaves a sound
thread. -/
theorem Sound.restage (h : t.Sound) (hrun : t.session.phase = .polling ∨
    t.session.phase = .waiting) (u : Thread) (hs : u.stored = t.stored)
    (hp : u.session.phase = t.session.phase) (hg : u.stage.phase = t.stage.phase)
    (hnf : ∀ f, u.stage ≠ .failed f) : u.Sound := by
  refine ⟨h.toLogged.of_eq u hs hp, by rw [hp, hg, h.stage], ?_, ?_⟩
  · refine ⟨fun ⟨f, hf⟩ => absurd hf (hnf f), fun hstop => ?_⟩
    -- the session would have stopped already
    obtain ⟨f, hf⟩ := h.failed.mpr (hs ▸ hstop)
    have := h.stage
    rw [hf] at this
    rcases hrun with hr | hr <;> simp_all [Stage.phase]
  · rintro (hi | hi) <;> rcases hrun with hr | hr <;> simp_all

theorem Logged.finish_of_eq (h : t.Logged) (hrun : t.session.phase = .polling ∨
    t.session.phase = .waiting) (u : Thread) (hs : u.stored = t.stored)
    (hp : u.session.phase = t.session.phase) (e : Ending) : (u.finish e).Sound :=
  (h.of_eq u hs hp).finish_sound (hp ▸ hrun) e

/-- One step of the thread keeps it sound. -/
theorem Sound.step (h : t.Sound) (o : TailOptions) : (t.step o).Sound := by
  unfold Thread.step
  dsimp only
  split
  next hg =>
    -- opening: the session is initializing and nothing was stored
    have hst : t.session.phase = .initializing := by rw [h.stage, hg]; rfl
    have hnil := h.stored_eq_nil hst
    split
    next f v _ =>
      refine ⟨⟨?_, ?_⟩, rfl, by simp [hnil], fun _ => ?_⟩
      · simpa [history, hnil] using Phase.Step.failed
      · simp [history, hnil]
      · simpa using h.idle (.inl hst)
    next c size v _ =>
      exact h.toLogged.store_sound (hst ▸ .opened) (by simp) _ rfl rfl (by simp)
  next hg =>
    -- launching
    have hst : t.session.phase = .polling := by rw [h.stage, hg]; rfl
    split
    · exact h.toLogged.finish_sound (.inl hst) _
    · split
      · exact h.restage (.inl hst) _ rfl rfl (by simp [hg, Stage.phase]) (by simp)
      · exact h
  next hg =>
    -- at the head of the loop
    have hst : t.session.phase = .polling := by rw [h.stage, hg]; rfl
    split
    · exact h.toLogged.finish_sound (.inl hst) _
    · exact h.restage (.inl hst) _ rfl rfl (by simp [hg, Stage.phase]) (by simp)
  next hg =>
    -- polling: the poll keeps the phase
    have hst : t.session.phase = .polling := by rw [h.stage, hg]; rfl
    have hpoll := (Session.poll_key o t.volume t.session).2.1
    split
    next e _ => exact h.toLogged.finish_of_eq (.inl hst) _ (by rfl) (by exact hpoll) e
    next _ => exact h.restage (.inl hst) _ rfl hpoll (by simp [hg, Stage.phase]) (by simp)
  next n hg =>
    -- polled
    have hst : t.session.phase = .polling := by rw [h.stage, hg]; rfl
    split
    · exact h.restage (.inl hst) _ rfl rfl (by simp [hg, Stage.phase]) (by simp)
    · exact h.toLogged.store_sound (hst ▸ .caughtUp) (by simp) _ rfl rfl (by simp)
  next hg =>
    -- checking that the path exists
    have hst : t.session.phase = .waiting := by rw [h.stage, hg]; rfl
    split
    · exact h.toLogged.finish_of_eq (.inr hst) _ (by rfl) (by rfl) _
    · exact h.toLogged.finish_of_eq (.inr hst) _ (by rfl) (by rfl) _
    · exact h.restage (.inr hst) _ rfl rfl (by simp [hg, Stage.phase]) (by simp)
  next hg =>
    -- waiting
    have hst : t.session.phase = .waiting := by rw [h.stage, hg]; rfl
    split
    · exact h.toLogged.finish_of_eq (.inr hst) _ (by rfl) (by rfl) _
    · exact (h.toLogged.of_eq { t with waits := t.waits + 1 } rfl rfl).store_sound
        (hst ▸ .woke) (by simp) _ rfl rfl (by simp)
  next => exact h
  next => exact h

/-- Whatever moves, a sound thread stays sound: a cancellation, a hand-over or a change of the
files stores nothing and leaves the stage, the phase, the cursor and the fragment alone. -/
theorem Sound.move (h : t.Sound) (o : TailOptions) : ∀ m, (t.move o m).Sound
  | .step => h.step o
  | .cancel => ⟨⟨h.path, h.last⟩, h.stage, h.failed, h.idle⟩
  | .launch => ⟨⟨h.path, h.last⟩, h.stage, h.failed, h.idle⟩
  | .files _ => ⟨⟨h.path, h.last⟩, h.stage, h.failed, h.idle⟩

theorem run_cons (o : TailOptions) (t : Thread) (m : Move) (ms : List Move) :
    t.run o (m :: ms) = (t.move o m).run o ms := rfl

theorem Sound.run (h : t.Sound) (o : TailOptions) (ms : List Move) : (t.run o ms).Sound := by
  induction ms generalizing t with
  | nil => exact h
  | cons m ms ih => exact ih (h.move o m)

theorem sound_start (number : Nat) (id path : String) (skipToEnd : Bool) (listener : Listener)
    (v : Volume) : (start number id path skipToEnd listener v).Sound where
  path := .singleton _
  last := rfl
  stage := rfl
  failed := by simp [start]
  idle := fun _ => ⟨rfl, rfl⟩

theorem returned_iff (t : Thread) : t.returned = true ↔ t.stage.phase = .stopped := by
  unfold Thread.returned
  cases t.stage <;> simp [Stage.phase]

theorem Sound.returned_iff (h : t.Sound) : t.returned = true ↔ t.session.phase = .stopped := by
  rw [Thread.returned_iff, h.stage]

/-- Stopped is stored once when the session shows it, and never otherwise. -/
theorem Sound.count_stopped (h : t.Sound) :
    t.stored.count .stopped = if t.session.phase = .stopped then 1 else 0 := by
  have hc := List.IsChain.count_of_sink (fun _ => Phase.Step.not_stopped) h.path
  rw [h.last] at hc
  simpa [history] using hc

/-- The first phase stored is stopped exactly when opening failed. -/
theorem Sound.head_stopped (h : t.Sound) :
    t.stored.head? = some .stopped ↔ ∃ f, t.stage = .failed f := by
  rw [h.failed]
  constructor
  · intro hh
    obtain ⟨rest, hrest⟩ : ∃ rest, t.stored = .stopped :: rest := by
      cases hs : t.stored with
      | nil => simp [hs] at hh
      | cons a rest => exact ⟨rest, by simp_all⟩
    cases rest with
    | nil => exact hrest
    | cons b rest =>
      -- nothing follows stopped on the path
      have hp := h.path
      rw [history, hrest, List.isChain_cons_cons, List.isChain_cons_cons] at hp
      exact absurd hp.2.1 Phase.Step.not_stopped
  · intro hs
    rw [hs]
    rfl

/-- Between two points the thread did no work: its stage, the phases it stored, its phase and
its counts are the same. -/
structure Still (t u : Thread) : Prop where
  stage : u.stage = t.stage
  stored : u.stored = t.stored
  phase : u.session.phase = t.session.phase
  polls : u.polls = t.polls
  checks : u.checks = t.checks
  waits : u.waits = t.waits

theorem Still.refl (t : Thread) : Still t t := ⟨rfl, rfl, rfl, rfl, rfl, rfl⟩

theorem Still.trans {w : Thread} (h₁ : Still t u) (h₂ : Still u w) : Still t w :=
  ⟨h₂.stage.trans h₁.stage, h₂.stored.trans h₁.stored, h₂.phase.trans h₁.phase,
    h₂.polls.trans h₁.polls, h₂.checks.trans h₁.checks, h₂.waits.trans h₁.waits⟩

theorem Still.returned (h : Still t u) : u.returned = t.returned := by
  simp only [Thread.returned, h.stage]

theorem step_of_returned (h : t.returned = true) (o : TailOptions) : t.step o = t := by
  unfold Thread.returned at h
  unfold step
  split <;> simp_all

/-- An ended thread does nothing more, whatever moves. -/
theorem still_move_of_returned (h : t.returned = true) (o : TailOptions) : ∀ m, Still t (t.move o m)
  | .step => by rw [move, step_of_returned h]; exact Still.refl t
  | .cancel => ⟨rfl, rfl, rfl, rfl, rfl, rfl⟩
  | .launch => ⟨rfl, rfl, rfl, rfl, rfl, rfl⟩
  | .files _ => ⟨rfl, rfl, rfl, rfl, rfl, rfl⟩

theorem still_run_of_returned (h : t.returned = true) (o : TailOptions) (ms : List Move) :
    Still t (t.run o ms) := by
  induction ms generalizing t with
  | nil => exact Still.refl t
  | cons m ms ih =>
    have hm := still_move_of_returned h o m
    exact hm.trans (ih (hm.returned.trans h))

end Thread
end Session

/-- A run never takes a session that opened its file back to initializing. -/
theorem Session.runFor_phase_ne_initializing (o : TailOptions) (fuel : Nat) (r : Session.Run)
    (h : r.session.phase ≠ .initializing) : (Session.runFor o fuel r).session.phase ≠ .initializing :=
  Session.runFor_induction_running o (fun r => r.session.phase ≠ .initializing)
    (fun _ _ _ => by simp [Session.finish])
    (fun r h => by rw [(Session.poll_key o r.volume r.session).2.1]; exact h)
    (fun _ _ hph _ => by rcases hph with rfl | rfl <;> simp)
    fuel r h

namespace Registry

/-- Every registered session has opened its file: none shows initializing. -/
def Begun (r : Registry) : Prop := ∀ s ∈ r.entries, s.phase ≠ .initializing

variable {r r' : Registry}

theorem Begun.of_subset (h : r.Begun) (hsub : r'.entries ⊆ r.entries) : r'.Begun :=
  fun s hs => h s (hsub hs)

theorem Begun.foldl {α : Type} (f : Registry → α → Registry)
    (hf : ∀ r a, r.Begun → (f r a).Begun) : ∀ (as : List α) {r : Registry}, r.Begun →
      (as.foldl f r).Begun
  | [], _, h => h
  | a :: as, r, h => Begun.foldl f hf as (hf r a h)

theorem Begun.release (h : r.Begun) (id : String) : (r.release id).Begun :=
  h.of_subset fun s hs => by rw [release_entries] at hs; exact (List.mem_filter.mp hs).1

theorem begun_stopAll (r : Registry) : r.stopAll.Begun := by
  intro s hs
  rw [stopAll_entries] at hs
  cases hs

theorem Begun.apply (h : r.Begun) (q : Request) : (r.apply q).Begun := by
  cases q with
  | stop id => exact h.release id
  | stopAll => exact begun_stopAll r

theorem Begun.settleOne (h : r.Begun) (n : Nat) : (r.settleOne n).Begun := by
  unfold Registry.settleOne
  split
  · exact h
  next s hs =>
    split
    · exact h
    · refine Begun.foldl Registry.apply (fun _ q h => h.apply q) _ ?_
      intro t ht
      obtain ⟨t₀, ht₀, rfl⟩ := List.mem_map.mp ht
      split
      · exact Session.runFor_phase_ne_initializing _ _ _ (h s (List.mem_of_find?_eq_some hs))
      · exact h t₀ ht₀

theorem Begun.settle (h : r.Begun) : r.settle.Begun :=
  Begun.foldl Registry.settleOne (fun _ n h => h.settleOne n) _ h

/-- A start registers its session polling, having opened the file. -/
theorem Begun.start (h : r.Begun) (number : Nat) (id path : String) (skip : Bool)
    (l : Option Listener) : (r.start number id path skip l).2.Begun := by
  rcases start_cases r number id path skip l with
    ⟨-, -, hreg⟩ | ⟨listener, v, -, -, -, ⟨-, hreg⟩ | ⟨c, size, -, hreg⟩⟩
  · rw [hreg]
    exact h
  · rw [hreg]
    exact h.release id
  · rw [hreg]
    intro s hs
    rcases List.mem_append.mp hs with hs | hs
    · exact h.release id s hs
    · rw [List.mem_singleton.mp hs]
      simp

theorem Begun.phase?_ne (h : r.Begun) (id : String) : r.phase? id ≠ some .initializing := by
  intro hp
  obtain ⟨s, hs, hph⟩ := Option.map_eq_some_iff.mp hp
  exact h s (List.mem_of_find?_eq_some hs) hph

end Registry

namespace Driven

theorem begun_call (w : Driven) (h : w.registry.Begun) (c : Call) : (w.call c).registry.Begun := by
  cases c with
  | start id path skip l =>
    rw [call_start_registry]
    exact h.start _ id path skip l
  | stop id => exact h.release id
  | stopAll => exact Registry.begun_stopAll _
  | close => exact Registry.begun_stopAll _
  | files v => exact h
  | settle => exact h.settle

theorem begun_run (calls : List Call) : ∀ {w : Driven}, w.registry.Begun → (w.run calls).registry.Begun := by
  induction calls with
  | nil => intro w h; exact h
  | cons c calls ih => intro w h; exact ih (begun_call w h c)

theorem begun_init (v : Volume) (o : TailOptions) : (init v o).registry.Begun := by
  intro s hs
  cases hs

end Driven

open Session in
/-- The lifecycle of a session: along every run of its thread, whatever the files do and
whenever it is cancelled or handed over, the phases stored form a path of the lifecycle that
ends at the phase the session shows; stopped is stored exactly once when the session shows it
and never otherwise; it comes first, straight after initializing, exactly when opening
failed; and a session that shows stopped holds no open cursor and no fragment, and its thread
polls and stores nothing more. A registry driven by any calls never shows a session as
initializing. -/
theorem session_phases_follow_their_lifecycle (o : TailOptions) (number : Nat) (id path : String)
    (skipToEnd : Bool) (listener : Listener) (v : Volume) (ms : List Move) :
    let t := (Thread.start number id path skipToEnd listener v).run o ms
    t.history.IsChain Phase.Step ∧ t.history.getLast? = some t.session.phase ∧
    t.stored.count .stopped = (if t.session.phase = .stopped then 1 else 0) ∧
    (t.stored.head? = some .stopped ↔ ∃ f, t.stage = .failed f) ∧
    (t.session.phase = .stopped → t.session.cursor.closed = true ∧
      t.session.splitter.pending.size = 0 ∧
      ∀ ms', (t.run o ms').stored = t.stored ∧ (t.run o ms').polls = t.polls) ∧
    ∀ (v' : Volume) (o' : TailOptions) (calls : List Call) (i : String),
      ((Driven.init v' o').run calls).registry.phase? i ≠ some .initializing := by
  intro t
  have h : t.Sound := (Thread.sound_start number id path skipToEnd listener v).run o ms
  refine ⟨h.path, h.last, h.count_stopped, h.head_stopped, fun hst => ?_, ?_⟩
  · have hover := h.returned_iff.mpr hst
    refine ⟨(h.idle (.inr hst)).1, (h.idle (.inr hst)).2, fun ms' => ?_⟩
    have hstill := Thread.still_run_of_returned hover o ms'
    exact ⟨hstill.stored, hstill.polls⟩
  · intro v' o' calls i
    exact (Driven.begun_run calls (Driven.begun_init v' o')).phase?_ne i

end LiveTail
