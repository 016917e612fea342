import LiveTail.Proofs.Watching
import LiveTail.Proofs.Stopping
/-!
# A registry's subscriptions to changes

A registry with a change watcher subscribes a session, under its file and its number, once the
session is registered, and unsubscribes it when it takes it out, whichever call does that: a
stop, stopping all, closing, a start under its identifier, or a listener's request while the
sessions run. A session stays on the file it was started on, so the subscription taken out is
the one put in.

Along every run the watcher's subscriptions are exactly those of the registered sessions whose
subscription went through, its counts those of their directories, and the system watches
exactly the directories counted (`Watched.Sound`); once all sessions are stopped, no directory
is counted or watched.
-/
namespace LiveTail

namespace Session

theorem react_path (s : Session) (r : Reaction) : (s.react r).1.path = s.path := by
  cases r <;> rfl

theorem path_of_finish {s s' : Session} {e : Ending} {out : Array Delivery}
    (h : s.finish e = (s', out)) : s'.path = s.path :=
  (congrArg (·.1.path) h).symm

theorem deliver_path (d : Dispatch) (p : Poll) (lines : List ByteArray) :
    (deliver d p lines).session.path = p.session.path := by
  induction p, lines using deliver.induct d with
  | case1 p => rfl
  | case2 p line rest s hcan => simp [deliver, s, hcan]
  | case3 p line rest s hcan htrig value hfail hd =>
    simp [deliver, s, hcan, htrig, hfail, hd]
  | case4 p line rest s hcan heard p' htrig value hfail hd ih =>
    simp only [deliver, s, hcan, htrig, hfail, hd, Bool.false_eq_true, if_false, if_true]
    exact ih
  | case5 p line rest s hcan heard p' htrig s' reqs hnf hreact ih =>
    -- a reaction other than a failure: the session reacts, on the same file, and goes on
    have hstep : deliver d p (line :: rest) =
        deliver d { p' with session := s', requests := p'.requests ++ reqs } rest :=
      deliver_react hcan htrig hnf hreact rfl
    have hs' := react_path p.session p.session.listener.reaction
    rw [show p.session.react p.session.listener.reaction = (s', reqs) from hreact] at hs'
    rw [hstep]
    exact ih.trans hs'
  | case6 p line rest s hcan heard p' htrig ih =>
    simp only [deliver, s, hcan, htrig, Bool.false_eq_true, if_false]
    exact ih

theorem poll_path (o : TailOptions) (v : Volume) (s : Session) :
    (s.poll o v).session.path = s.path := by
  unfold poll
  rcases s.cursor.read v o.bufferSize with ⟨_ | data, c, v₁⟩
  · rfl
  · dsimp only
    rcases c.size v₁ with ⟨_ | size, v₂⟩
    · rfl
    · dsimp only
      split
      · rfl
      · exact deliver_path _ _ _

/-- A session runs on the file it was started on. -/
theorem runFor_path (o : TailOptions) (fuel : Nat) (r : Run) :
    (runFor o fuel r).session.path = r.session.path := by
  induction fuel, r using runFor.induct o with
  | case1 r => rw [runFor]
  | case2 fuel r s hs =>
    rw [runFor]
    simp only [s] at hs
    simp [hs]
  | case3 fuel r s hs hcan s' out hfin =>
    rw [runFor]
    simp only [s] at hs hcan hfin
    simp only [hs, hcan, hfin, if_false, if_true, Bool.false_eq_true]
    exact path_of_finish hfin
  | case4 fuel r s hs hcan p e hend s' out hfin =>
    rw [runFor]
    simp only [s, p] at hs hcan hend hfin
    simp only [hs, hcan, hend, hfin, if_false, Bool.false_eq_true]
    exact (path_of_finish hfin).trans (poll_path o r.volume r.session)
  | case5 fuel r s hs hcan p r₁ hend hread ih =>
    rw [runFor]
    simp only [s, p] at hs hcan hend hread
    simp only [hs, hcan, hend, hread, if_false, if_true, Bool.false_eq_true]
    exact ih.trans (poll_path o r.volume r.session)
  | case6 fuel r s hs hcan p r₁ hend hread sw f hex s' out hfin =>
    rw [runFor]
    simp only [s, p, r₁, sw] at hs hcan hend hread hex hfin
    simp only [hs, hcan, hend, hread, hex, hfin, if_false, Bool.false_eq_true]
    exact (path_of_finish hfin).trans (poll_path o r.volume r.session)
  | case7 fuel r s hs hcan p r₁ hend hread sw hex s' out hfin =>
    rw [runFor]
    simp only [s, p, r₁, sw] at hs hcan hend hread hex hfin
    simp only [hs, hcan, hend, hread, hex, hfin, if_false, Bool.false_eq_true]
    exact (path_of_finish hfin).trans (poll_path o r.volume r.session)
  | case8 fuel r s hs hcan p r₁ hend hread sw hex hgo ih =>
    rw [runFor]
    simp only [s, p, r₁, sw] at hs hcan hend hread hex hgo
    simp only [hs, hcan, hend, hread, hex, hgo, if_false, if_true, Bool.false_eq_true]
    exact ih.trans (poll_path o r.volume r.session)
  | case9 fuel r s hs hcan p r₁ hend hread sw hex hgo =>
    rw [runFor]
    simp only [s, p, r₁, sw] at hs hcan hend hread hex hgo
    simp only [hs, hcan, hend, hread, hex, hgo, if_false, Bool.false_eq_true]
    exact poll_path o r.volume r.session

theorem settle_path (o : TailOptions) (v : Volume) (s : Session) :
    (s.settle o v).session.path = s.path :=
  runFor_path o _ _

end Session

namespace Registry

variable {r r₁ r₂ : Registry}

/-- Every session of `r'` was registered in `r` under its number, on the same file. -/
def OnSameFiles (r r' : Registry) : Prop :=
  ∀ u ∈ r'.entries, ∃ s ∈ r.entries, s.number = u.number ∧ s.path = u.path

theorem OnSameFiles.refl (r : Registry) : OnSameFiles r r := fun u hu => ⟨u, hu, rfl, rfl⟩

theorem OnSameFiles.trans (h₁ : OnSameFiles r r₁) (h₂ : OnSameFiles r₁ r₂) : OnSameFiles r r₂ := by
  intro u hu
  obtain ⟨t, ht, htn, htp⟩ := h₂ u hu
  obtain ⟨s, hs, hsn, hsp⟩ := h₁ t ht
  exact ⟨s, hs, hsn.trans htn, hsp.trans htp⟩

theorem OnSameFiles.of_subset (h : r₁.entries ⊆ r.entries) : OnSameFiles r r₁ :=
  fun u hu => ⟨u, h hu, rfl, rfl⟩

theorem OnSameFiles.foldl {α : Type} (f : Registry → α → Registry)
    (hf : ∀ r a, OnSameFiles r (f r a)) : ∀ (as : List α) (r : Registry), OnSameFiles r (as.foldl f r)
  | [], r => OnSameFiles.refl r
  | a :: as, r => (hf r a).trans (OnSameFiles.foldl f hf as (f r a))

theorem release_onSameFiles (r : Registry) (id : String) : OnSameFiles r (r.release id) :=
  OnSameFiles.of_subset (by rw [release_entries]; exact fun _ hs => (List.mem_filter.mp hs).1)

theorem stopAll_onSameFiles (r : Registry) : OnSameFiles r r.stopAll :=
  OnSameFiles.foldl release release_onSameFiles _ r

theorem apply_onSameFiles (r : Registry) (q : Request) : OnSameFiles r (r.apply q) := by
  cases q with
  | stop id => exact release_onSameFiles r id
  | stopAll => exact stopAll_onSameFiles r

theorem settleOne_onSameFiles (r : Registry) (n : Nat) : OnSameFiles r (r.settleOne n) := by
  unfold settleOne
  split
  · exact OnSameFiles.refl r
  · rename_i s hfind
    have hs : s ∈ r.entries := List.mem_of_find?_eq_some hfind
    split
    · exact OnSameFiles.refl r
    · rename_i he
      refine OnSameFiles.trans ?_ (OnSameFiles.foldl apply apply_onSameFiles _ _)
      -- the session that ran stands in its own place, under its number and on its file
      have hkey := (Session.settle_transcript r.options r.volume s (by simpa using he)).1
      intro u hu
      obtain ⟨t, ht, rfl⟩ := List.mem_map.mp hu
      split
      · exact ⟨s, hs, (Session.number_eq_of_key hkey).symm, (Session.settle_path _ _ _).symm⟩
      · exact ⟨t, ht, rfl, rfl⟩

theorem settle_onSameFiles (r : Registry) : OnSameFiles r r.settle :=
  OnSameFiles.foldl settleOne settleOne_onSameFiles _ r

/-- A start that succeeds registers, after releasing its identifier, one session under its
number and on its file. -/
theorem start_entries_of_ok {number : Nat} {id path : String} {skip : Bool} {l : Option Listener}
    (h : (r.start number id path skip l).1 = .ok ()) :
    ∃ s : Session, s.number = number ∧ s.path = path ∧
      (r.start number id path skip l).2.entries = (r.release id).entries ++ [s] := by
  rcases start_cases r number id path skip l with
    ⟨-, hres, -⟩ | ⟨listener, v, -, -, -, ⟨hres, -⟩ | ⟨c, size, -, hreg⟩⟩
  · exact absurd h hres
  · exact absurd h hres
  · exact ⟨_, rfl, rfl, by rw [hreg]⟩

end Registry

namespace Driven

open Registry

/-- After any call each registered session was registered before, on the same file, or it is
the session the call started, under the next number. -/
theorem onSameFiles_call (w : Driven) (c : Call) :
    ∀ u ∈ (w.call c).registry.entries,
      (∃ s ∈ w.registry.entries, s.number = u.number ∧ s.path = u.path) ∨ u.number = w.count + 1 := by
  cases c with
  | start id path skip l =>
    intro u hu
    rw [call_start_registry] at hu
    rcases start_cases w.registry (w.count + 1) id path skip l with
      ⟨-, -, hreg⟩ | ⟨listener, v, -, -, -, ⟨-, hreg⟩ | ⟨c, size, -, hreg⟩⟩
    · rw [hreg] at hu
      exact .inl (OnSameFiles.refl _ u hu)
    · rw [hreg] at hu
      exact .inl (release_onSameFiles _ id u hu)
    · rw [hreg] at hu
      rcases List.mem_append.mp hu with hu | hu
      · exact .inl (release_onSameFiles _ id u hu)
      · rw [List.mem_singleton.mp hu]
        exact .inr rfl
  | stop id => exact fun u hu => .inl (release_onSameFiles _ id u hu)
  | stopAll => exact fun u hu => .inl (stopAll_onSameFiles _ u hu)
  | close =>
    exact fun u hu => .inl (stopAll_onSameFiles { w.registry with closed := true } u hu)
  | files v => exact fun u hu => .inl (OnSameFiles.refl _ u hu)
  | settle => exact fun u hu => .inl (settle_onSameFiles _ u hu)

theorem call_start_count (w : Driven) (id path : String) (skip : Bool) (l : Option Listener) :
    (w.call (.start id path skip l)).count = w.count + 1 := by
  dsimp only [call]
  rcases w.registry.start (w.count + 1) id path skip l with ⟨_ | _, r⟩ <;> cases l <;> rfl

end Driven

namespace Registry

variable {r r' : Registry} {cwd : String} {sub : List Nat}

/-- The subscriptions of the sessions of `r` whose numbers are in `sub`: each one's file, made
absolute against `cwd`, with its number. -/
def subscriptions (cwd : String) (r : Registry) (sub : List Nat) : Finset (String × Nat) :=
  ((r.entries.filter fun s => s.number ∈ sub).map fun s => (Path.abs cwd s.path, s.number)).toFinset

theorem mem_subscriptions {p : String} {n : Nat} :
    (p, n) ∈ r.subscriptions cwd sub ↔
      ∃ s ∈ r.entries, s.number ∈ sub ∧ Path.abs cwd s.path = p ∧ s.number = n := by
  simp [subscriptions, and_assoc]

/-- The sessions of `r` that `r'` no longer holds, in the order they were registered. -/
def leaving (r r' : Registry) : List Session :=
  r.entries.filter fun s => s.number ∉ r'.entries.map (·.number)

/-- Taking out the subscriptions of the sessions that left leaves those of the sessions that
stayed, when every subscribed session of `r'` was in `r` on the same file. -/
theorem subscriptions_sdiff_leaving (hd : r.Distinct)
    (h : ∀ u ∈ r'.entries, u.number ∈ sub →
      ∃ s ∈ r.entries, s.number = u.number ∧ s.path = u.path) :
    r.subscriptions cwd sub \
        ((r.leaving r').map fun s => (Path.abs cwd s.path, s.number)).toFinset =
      r'.subscriptions cwd sub := by
  ext ⟨p, n⟩
  simp only [Finset.mem_sdiff, mem_subscriptions, List.mem_toFinset, List.mem_map, leaving,
    List.mem_filter, Prod.mk.injEq, decide_eq_true_eq]
  constructor
  · rintro ⟨⟨s, hs, hsub, rfl, rfl⟩, hstay⟩
    -- the session stayed, since it did not leave, and it stayed on its file
    have hin : ∃ u ∈ r'.entries, u.number = s.number := by
      by_contra hout
      exact hstay ⟨s, ⟨hs, hout⟩, rfl, rfl⟩
    obtain ⟨u, hu, hun⟩ := hin
    obtain ⟨t, ht, htn, htp⟩ := h u hu (hun ▸ hsub)
    have hts : t = s := hd.eq_of_number hs ht (htn.trans hun)
    subst hts
    exact ⟨u, hu, hun ▸ hsub, by rw [← htp], hun⟩
  · rintro ⟨u, hu, hsub, rfl, rfl⟩
    obtain ⟨s, hs, hsn, hsp⟩ := h u hu hsub
    refine ⟨⟨s, hs, hsn ▸ hsub, by rw [hsp], hsn⟩, ?_⟩
    rintro ⟨g, ⟨-, hout⟩, -, hgn⟩
    exact hout ⟨u, hu, hgn.symm⟩

/-- The new session's subscription joins the others when it goes through. -/
theorem subscriptions_append_new {s : Session} (hd : r.Distinct) (hs : s ∈ r.entries) :
    r.subscriptions cwd (sub ++ [s.number]) =
      insert (Path.abs cwd s.path, s.number) (r.subscriptions cwd sub) := by
  ext ⟨p, n⟩
  simp only [Finset.mem_insert, mem_subscriptions, List.mem_append, List.mem_singleton,
    Prod.mk.injEq]
  constructor
  · rintro ⟨u, hu, hsub | hnew, rfl, rfl⟩
    · exact .inr ⟨u, hu, hsub, rfl, rfl⟩
    · rw [hd.eq_of_number hs hu hnew]
      exact .inl ⟨rfl, rfl⟩
  · rintro (⟨rfl, rfl⟩ | ⟨u, hu, hsub, rfl, rfl⟩)
    · exact ⟨s, hs, .inr rfl, rfl, rfl⟩
    · exact ⟨u, hu, .inl hsub, rfl, rfl⟩

theorem subscriptions_nil (h : r.entries = []) : r.subscriptions cwd sub = ∅ := by
  simp [subscriptions, h]

end Registry

/-- A registry driven by its caller, with a change watcher: `subscribed` lists the numbers of
the sessions whose subscription went through. -/
structure Watched where
  driven : Driven
  watcher : Watcher Nat := {}
  subscribed : List Nat := []

namespace Watched

open Registry

/-- A registry over a volume, before any call, watching nothing. -/
def init (v : Volume) (o : TailOptions) : Watched := { driven := Driven.init v o }

/-- One call, with the system's refusal should a watch be asked and refused. The sessions the
call took out of the registry are unsubscribed, each under its file and number; then a start
that succeeded subscribes its session, and the start succeeds whether or not that does. -/
def call (cwd : String) (x : Watched) (c : Call) (refusal : Option String) : Watched :=
  let d := x.driven.call c
  let w := x.watcher.run cwd
    (Watcher.removes ((x.driven.registry.leaving d.registry).map fun s => (s.path, s.number)))
  match c with
  | .start id path skip l =>
    if (x.driven.registry.start (x.driven.count + 1) id path skip l).1 = .ok () then
      match w.add cwd path (x.driven.count + 1) refusal with
      | (.ok (), w) => { driven := d, watcher := w, subscribed := x.subscribed ++ [x.driven.count + 1] }
      | (.error _, w) => { driven := d, watcher := w, subscribed := x.subscribed }
    else { driven := d, watcher := w, subscribed := x.subscribed }
  | _ => { driven := d, watcher := w, subscribed := x.subscribed }

/-- Calls one after another, each with the system's refusal for it. -/
def run (cwd : String) (x : Watched) (cs : List (Call × Option String)) : Watched :=
  cs.foldl (fun x c => x.call cwd c.1 c.2) x

/-- What holds between calls: the registry is sound, every number subscribed was taken, the
watcher tracks exactly the subscriptions of the registered sessions whose subscription went
through, and the system watches exactly the directories counted. -/
structure Sound (cwd : String) (x : Watched) : Prop where
  driven : x.driven.Sound
  taken : ∀ n ∈ x.subscribed, n ≤ x.driven.count
  tracks : x.watcher.Tracks (x.driven.registry.subscriptions cwd x.subscribed)
  watches : x.watcher.Watches

theorem sound_init (cwd : String) (v : Volume) (o : TailOptions) : (init v o).Sound cwd where
  driven := Driven.sound_init v o
  taken := by simp [init]
  tracks := by
    rw [subscriptions_nil rfl]
    exact Watcher.Tracks.empty
  watches := Watcher.watches_empty

variable {cwd : String} {x : Watched}

/-- Unsubscribing the sessions a call took out leaves the watcher tracking the subscriptions of
the sessions that stayed, and the system watching what the watcher counts. -/
theorem Sound.unsubscribe (hx : x.Sound cwd) (c : Call) :
    (x.watcher.run cwd (Watcher.removes
        ((x.driven.registry.leaving (x.driven.call c).registry).map fun s => (s.path, s.number)))).Tracks
      ((x.driven.call c).registry.subscriptions cwd x.subscribed) ∧
    (x.watcher.run cwd (Watcher.removes
        ((x.driven.registry.leaving (x.driven.call c).registry).map fun s => (s.path, s.number)))).Watches := by
  obtain ⟨htracks, hwatches⟩ :=
    Watcher.Tracks.run _ hx.tracks hx.watches (Watcher.freshAdds_removes cwd _ x.watcher)
  rw [Watcher.heldAfter_removes, List.map_map] at htracks
  refine ⟨?_, hwatches⟩
  -- every subscribed session after the call was there before it: only a start adds one, under a
  -- number not yet subscribed
  have hstay : ∀ u ∈ (x.driven.call c).registry.entries, u.number ∈ x.subscribed →
      ∃ s ∈ x.driven.registry.entries, s.number = u.number ∧ s.path = u.path := by
    intro u hu hsub
    rcases Driven.onSameFiles_call x.driven c u hu with h | h
    · exact h
    · have := hx.taken _ hsub
      omega
  rw [← subscriptions_sdiff_leaving hx.driven.distinct hstay]
  exact htracks

/-- Every call keeps what holds between calls. -/
theorem Sound.call (hx : x.Sound cwd) (c : Call) (refusal : Option String) :
    (x.call cwd c refusal).Sound cwd := by
  obtain ⟨htracks, hwatches⟩ := hx.unsubscribe c
  have hd := hx.driven.call c
  have htaken : ∀ n ∈ x.subscribed, n ≤ (x.driven.call c).count :=
    fun n hn => (hx.taken n hn).trans (Driven.count_le_call _ _)
  cases c with
  | start id path skip l =>
    simp only [Watched.call]
    split
    case isFalse => exact ⟨hd, htaken, htracks, hwatches⟩
    case isTrue hok =>
      -- the started session is registered under the next number, on its file, and no
      -- subscription is under that number yet
      obtain ⟨snew, hnum, hpath, hentries⟩ := start_entries_of_ok hok
      have hmem : snew ∈ (x.driven.call (.start id path skip l)).registry.entries := by
        rw [Driven.call_start_registry, hentries]
        exact List.mem_append_right _ (List.mem_singleton_self snew)
      have hfresh : x.driven.count + 1 ∉
          (x.watcher.run cwd (Watcher.removes ((x.driven.registry.leaving
            (x.driven.call (.start id path skip l)).registry).map fun s => (s.path, s.number)))).notified
            (Path.abs cwd path) := by
        rw [htracks.mem, mem_subscriptions]
        rintro ⟨u, -, hsub, -, hun⟩
        have := hx.taken _ (hun ▸ hsub)
        omega
      have hadd := htracks.add hfresh refusal
      have hwatch := (Watcher.asks_add _ cwd path (x.driven.count + 1) refusal).watches hwatches
        htracks.count_nonneg hadd.count_nonneg
      rcases hres : Watcher.add _ cwd path (x.driven.count + 1) refusal with ⟨_ | ⟨⟩, w⟩
      all_goals
        rw [hres] at hadd hwatch
        dsimp only
      · -- the system refused: the session runs unsubscribed
        exact ⟨hd, htaken, hadd, hwatch⟩
      · refine ⟨hd, ?_, ?_, hwatch⟩
        · intro n hn
          rcases List.mem_append.mp hn with hn | hn
          · exact htaken n hn
          · rw [List.mem_singleton.mp hn, Driven.call_start_count]
        · rw [← hnum, subscriptions_append_new hd.distinct hmem, hpath, hnum]
          exact hadd
  | _ => exact ⟨hd, htaken, htracks, hwatches⟩

theorem sound_run (cwd : String) (cs : List (Call × Option String)) :
    ∀ {x : Watched}, x.Sound cwd → (x.run cwd cs).Sound cwd := by
  induction cs with
  | nil => intro x hx; exact hx
  | cons c cs ih => intro x hx; exact ih (hx.call c.1 c.2)

/-- With no session registered, no directory is counted or watched. -/
theorem Sound.unwatched (hx : x.Sound cwd) (h : x.driven.registry.entries = []) (d : String) :
    x.watcher.count d = 0 ∧ watching x.watcher.asked d = false := by
  have hzero : x.watcher.count d = 0 := by
    rw [hx.tracks.count, subscriptions_nil h]
    simp
  refine ⟨hzero, ?_⟩
  cases hw : watching x.watcher.asked d
  · rfl
  · exact absurd ((hx.watches d).mp hw) (not_not.mpr hzero)

theorem call_stopAll_entries (x : Watched) (r : Option String) :
    (x.call cwd .stopAll r).driven.registry.entries = [] :=
  stopAll_entries _

theorem call_close_entries (x : Watched) (r : Option String) :
    (x.call cwd .close r).driven.registry.entries = [] :=
  stopAll_entries _

end Watched

/-- A watcher driven by subscriptions and unsubscriptions that never subscribe a file and signal
already subscribed, failed subscriptions, repeated and unknown unsubscriptions included, counts
for each directory exactly the held pairs of a file in it and a signal, keeps no count of zero
and no empty set, wakes on a change of a path exactly the signals held under it, and asks the
system to watch a directory exactly as its count leaves zero and to stop exactly as it comes
back to zero, so that the system watches exactly the directories counted. A registry with a
watcher keeps its subscriptions exactly those of its registered sessions whose subscription went
through, and stopping all sessions, or closing, leaves no directory counted or watched. -/
theorem watched_directories_follow_the_sessions (cwd : String) :
    (∀ {σ : Type} [DecidableEq σ] (cs : List (Watcher.Call σ)), Watcher.FreshAdds cwd {} cs →
      (({} : Watcher σ).run cwd cs).Tracks (Watcher.heldAfter cwd {} ∅ cs) ∧
        (({} : Watcher σ).run cwd cs).Watches ∧
        ∀ c, ∃ r, Watcher.Asks (({} : Watcher σ).run cwd cs) ((({} : Watcher σ).run cwd cs).call cwd c) r) ∧
    ∀ (v : Volume) (o : TailOptions) (cs : List (Call × Option String)),
      (∀ p n, n ∈ ((Watched.init v o).run cwd cs).watcher.notified p ↔
        ∃ s ∈ ((Watched.init v o).run cwd cs).driven.registry.entries,
          s.number ∈ ((Watched.init v o).run cwd cs).subscribed ∧ Path.abs cwd s.path = p ∧
            s.number = n) ∧
      ((Watched.init v o).run cwd cs).watcher.Tracks
        (((Watched.init v o).run cwd cs).driven.registry.subscriptions cwd
          ((Watched.init v o).run cwd cs).subscribed) ∧
      ((Watched.init v o).run cwd cs).watcher.Watches ∧
      ∀ r d, (((Watched.init v o).run cwd cs).call cwd .stopAll r).watcher.count d = 0 ∧
        watching (((Watched.init v o).run cwd cs).call cwd .stopAll r).watcher.asked d = false ∧
        (((Watched.init v o).run cwd cs).call cwd .close r).watcher.count d = 0 ∧
        watching (((Watched.init v o).run cwd cs).call cwd .close r).watcher.asked d = false := by
  refine ⟨fun cs hfresh => ?_, fun v o cs => ?_⟩
  · obtain ⟨htracks, hwatches⟩ := Watcher.Tracks.run cs Watcher.Tracks.empty Watcher.watches_empty hfresh
    exact ⟨htracks, hwatches, htracks.asks cwd⟩
  · have hx := Watched.sound_run cwd cs (Watched.sound_init cwd v o)
    refine ⟨fun p n => ?_, hx.tracks, hx.watches, fun r d => ?_⟩
    · rw [hx.tracks.mem, Registry.mem_subscriptions]
    · obtain ⟨hstop, hstopw⟩ := (hx.call .stopAll r).unwatched (Watched.call_stopAll_entries _ r) d
      obtain ⟨hclose, hclosew⟩ := (hx.call .close r).unwatched (Watched.call_close_entries _ r) d
      exact ⟨hstop, hstopw, hclose, hclosew⟩

/-- Two files subscribed, each with its own signal, then the first one unsubscribed. -/
def twoFilesOneLeft : List (Watcher.Call Nat) :=
  [.add "a.log" 1 none, .add "b.log" 2 none, .remove "a.log" 1]

/-- After subscribing two files and unsubscribing the first, a change of the first wakes
nothing, a change of the second wakes its signal, and the second's directory is counted once
and watched. -/
theorem one_of_two_files_left_watched :
    Watcher.FreshAdds "/tmp" {} twoFilesOneLeft ∧
      1 ∉ (({} : Watcher Nat).run "/tmp" twoFilesOneLeft).notified (Path.abs "/tmp" "a.log") ∧
      2 ∈ (({} : Watcher Nat).run "/tmp" twoFilesOneLeft).notified (Path.abs "/tmp" "b.log") ∧
      (({} : Watcher Nat).run "/tmp" twoFilesOneLeft).count (Path.dir (Path.abs "/tmp" "b.log")) = 1 ∧
      watching (({} : Watcher Nat).run "/tmp" twoFilesOneLeft).asked
        (Path.dir (Path.abs "/tmp" "b.log")) = true := by
  have hok : ∀ (w : Watcher Nat) path sig, (w.add "/tmp" path sig none).1 = .ok () :=
    fun w path sig => (Watcher.add_ok_iff w "/tmp" path sig).mpr (.inr rfl)
  have hfresh : Watcher.FreshAdds "/tmp" {} twoFilesOneLeft := by
    refine ⟨?_, ?_, ?_, trivial⟩
    · rintro path sig refusal ⟨⟩
      simp [Watcher.notified]
    · rintro path sig refusal ⟨⟩
      rw [Watcher.call, Watcher.notified, (Watcher.add_of_ok _ _ _ _ (hok _ _ _)).2,
        Function.update_apply]
      split <;> simp [Watcher.notified]
    · rintro path sig refusal ⟨⟩
  obtain ⟨htracks, hwatches, -⟩ :=
    (watched_directories_follow_the_sessions "/tmp").1 twoFilesOneLeft hfresh
  have hheld : Watcher.heldAfter "/tmp" {} ∅ twoFilesOneLeft = {(Path.abs "/tmp" "b.log", 2)} := by
    simp only [twoFilesOneLeft, Watcher.heldAfter, Watcher.held, hok, if_true]
    ext x
    simp only [Finset.mem_erase, Finset.mem_insert, Finset.mem_singleton]
    constructor
    · rintro ⟨hne, hx | hx | hx⟩
      · exact hx
      · exact absurd hx hne
      · simp at hx
    · rintro rfl
      simp
  rw [hheld] at htracks
  have hcount : (({} : Watcher Nat).run "/tmp" twoFilesOneLeft).count
      (Path.dir (Path.abs "/tmp" "b.log")) = 1 := by
    rw [htracks.count, Finset.filter_singleton, if_pos rfl, Finset.card_singleton]
    rfl
  exact ⟨hfresh, by simp [htracks.mem], by simp [htracks.mem], hcount,
    (hwatches _).mpr (by rw [hcount]; decide)⟩

end LiveTail
