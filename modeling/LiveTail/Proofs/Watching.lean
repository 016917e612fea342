import LiveTail.Watcher
import Mathlib.Data.Finset.Card
/-!
# Watched directories follow the subscriptions

Whatever subscriptions and unsubscriptions are made, provided no subscription is of a file and
signal already subscribed, the watcher tracks the pairs whose subscription reported success and
that were not unsubscribed since (`Watcher.heldAfter`): it counts for each directory exactly
those pairs with a file in it, keeps no count of zero and no empty set of signals, and wakes on
a change of a path exactly the signals held under it (`Watcher.Tracks`, `Tracks.run`). Every
call asks the system to watch a directory exactly when its count goes from zero to one, or, when
the system refuses, while the count stays at zero, and to stop watching exactly when the count
comes back from one to zero (`Watcher.Asks`); so the system watches exactly the directories with
a count (`Watcher.Watches`).
-/
namespace LiveTail

/-- The directory a request is about. -/
def DirRequest.dir : DirRequest → String
  | .watch d _ => d
  | .unwatch d => d

/-- Whether the system watches `dir` after the requests `rs`: the last request about it was a
watch that it accepted. -/
def watching (rs : List DirRequest) (dir : String) : Bool :=
  (rs.filter (·.dir = dir)).getLast? = some (.watch dir true)

theorem watching_append_singleton (rs : List DirRequest) (r : DirRequest) (dir : String) :
    watching (rs ++ [r]) dir = if r.dir = dir then decide (r = .watch dir true) else watching rs dir := by
  by_cases h : r.dir = dir <;> simp [watching, List.filter_append, h]

namespace Watcher

variable {σ : Type}

/-- A call on a watcher: a subscription, with the system's refusal should it be asked and
refuse, or an unsubscription. -/
inductive Call (σ : Type) where
  | add (path : String) (sig : σ) (refusal : Option String)
  | remove (path : String) (sig : σ)

/-- The subscriptions of the watcher are the pairs of `S`, of an absolute path and a signal: its
count of each directory is the number of those pairs with a file in it, no count is zero and
no set of signals is empty. -/
structure Tracks (w : Watcher σ) (S : Finset (String × σ)) : Prop where
  mem : ∀ p sig, sig ∈ w.notified p ↔ (p, sig) ∈ S
  count : ∀ d, w.count d = ((S.filter fun x => Path.dir x.1 = d).card : Int)
  dirs_ne_zero : ∀ d n, w.dirs d = some n → n ≠ 0
  subs_nonempty : ∀ p set, w.subs p = some set → set.Nonempty

/-- The system watches exactly the directories that have a count. -/
def Watches (w : Watcher σ) : Prop := ∀ d, watching w.asked d = true ↔ w.count d ≠ 0

/-- What a call from `w` to `w'` asked of the system, `r` if anything, against how the counts
moved: no count moved by more than one; a watch the system accepted exactly when a count went
from zero to one, a watch it refused only when the count stayed at zero, and a stop exactly
when a count went from one to zero. -/
structure Asks (w w' : Watcher σ) (r : Option DirRequest) : Prop where
  asked : w'.asked = w.asked ++ r.toList
  near : ∀ d, w'.count d - w.count d ≤ 1 ∧ w.count d - w'.count d ≤ 1
  watch : ∀ d, r = some (.watch d true) ↔ w.count d = 0 ∧ w'.count d = 1
  refused : ∀ d, r = some (.watch d false) → w.count d = 0 ∧ w'.count d = 0
  unwatch : ∀ d, r = some (.unwatch d) ↔ w.count d = 1 ∧ w'.count d = 0

/-! ## The subscriptions a watcher tracks -/

section Tracking

variable {w : Watcher σ} {S : Finset (String × σ)}

theorem Tracks.empty : Tracks ({} : Watcher σ) ∅ where
  mem := by simp [notified]
  count := by simp [Watcher.count]
  dirs_ne_zero := by simp
  subs_nonempty := by simp

/-- What a watcher tracks depends on its counts and signals alone. -/
theorem Tracks.congr {w' : Watcher σ} (h : Tracks w S) (hdirs : w'.dirs = w.dirs)
    (hsubs : w'.subs = w.subs) : Tracks w' S where
  mem p sig := by rw [notified, hsubs]; exact h.mem p sig
  count d := by rw [Watcher.count, hdirs]; exact h.count d
  dirs_ne_zero := hdirs ▸ h.dirs_ne_zero
  subs_nonempty := hsubs ▸ h.subs_nonempty

theorem Tracks.count_nonneg (h : Tracks w S) (d : String) : 0 ≤ w.count d := by
  rw [h.count d]
  exact Int.natCast_nonneg _

/-- A directory with a subscribed file in it has a count. -/
theorem Tracks.count_pos (h : Tracks w S) {p : String} {sig : σ} (hm : (p, sig) ∈ S) :
    0 < w.count (Path.dir p) := by
  have hdir : (p, sig) ∈ S.filter fun x => Path.dir x.1 = Path.dir p :=
    Finset.mem_filter.mpr ⟨hm, rfl⟩
  have hcard := Finset.card_pos.mpr ⟨_, hdir⟩
  rw [h.count]
  omega

theorem watches_empty : Watches ({} : Watcher σ) := by
  simp [Watches, watching, Watcher.count]

/-- A call that changes nothing asks nothing. -/
theorem asks_self (w : Watcher σ) : Asks w w none where
  asked := by simp
  near d := by simp
  watch d := iff_of_false (by simp) (by omega)
  refused d := by simp
  unwatch d := iff_of_false (by simp) (by omega)

/-- A count leaves zero or comes back to it only with a request about its directory. -/
theorem Asks.count_ne_zero_iff {w w' : Watcher σ} {r : Option DirRequest} (h : Asks w w' r)
    {d : String} (h0 : 0 ≤ w.count d) (h0' : 0 ≤ w'.count d)
    (hw : r ≠ some (.watch d true)) (hu : r ≠ some (.unwatch d)) :
    w'.count d ≠ 0 ↔ w.count d ≠ 0 := by
  have hnear := h.near d
  constructor
  · intro hne hzero
    exact hw ((h.watch d).mpr ⟨hzero, by omega⟩)
  · intro hne hzero
    exact hu ((h.unwatch d).mpr ⟨by omega, hzero⟩)

/-- Asking as a call asks keeps the system watching exactly the directories with a count. -/
theorem Asks.watches {w w' : Watcher σ} {r : Option DirRequest} (h : Asks w w' r)
    (hw : Watches w) (h0 : ∀ d, 0 ≤ w.count d) (h0' : ∀ d, 0 ≤ w'.count d) : Watches w' := by
  intro d
  have hsame := fun hw' hu' => (h.count_ne_zero_iff (h0 d) (h0' d) hw' hu').symm
  rw [h.asked]
  cases r with
  | none =>
    rw [Option.toList_none, List.append_nil, hw d]
    exact hsame (by simp) (by simp)
  | some r =>
    rw [Option.toList_some, watching_append_singleton]
    cases r with
    | watch d' accepted =>
      by_cases hd : d' = d
      case neg =>
        rw [DirRequest.dir, if_neg hd, hw d]
        exact hsame (by simp [hd]) (by simp)
      subst hd
      cases accepted
      case false => simp [DirRequest.dir, (h.refused d' rfl).2]
      case true => simp [DirRequest.dir, ((h.watch d').mp rfl).2]
    | unwatch d' =>
      by_cases hd : d' = d
      case neg =>
        rw [DirRequest.dir, if_neg hd, hw d]
        exact hsame (by simp) (by simp [hd])
      subst hd
      simp [DirRequest.dir, ((h.unwatch d').mp rfl).2]

end Tracking

variable [DecidableEq σ]

/-- One call. -/
def call (cwd : String) (w : Watcher σ) : Call σ → Watcher σ
  | .add path sig refusal => (w.add cwd path sig refusal).2
  | .remove path sig => w.remove cwd path sig

/-- Calls one after another. -/
def run (cwd : String) (w : Watcher σ) (cs : List (Call σ)) : Watcher σ := cs.foldl (call cwd) w

/-- No subscription of the calls is of a file and signal already subscribed when it is made. -/
def FreshAdds (cwd : String) : Watcher σ → List (Call σ) → Prop
  | _, [] => True
  | w, c :: cs =>
    (∀ path sig refusal, c = .add path sig refusal → sig ∉ w.notified (Path.abs cwd path)) ∧
      FreshAdds cwd (w.call cwd c) cs

/-- The pairs the caller holds subscribed after a call on `w`, `S` before it: a subscription that
reports success adds its pair, an unsubscription takes its pair out. -/
def held (cwd : String) (w : Watcher σ) (S : Finset (String × σ)) : Call σ → Finset (String × σ)
  | .add path sig refusal =>
    if (w.add cwd path sig refusal).1 = .ok () then insert (Path.abs cwd path, sig) S else S
  | .remove path sig => S.erase (Path.abs cwd path, sig)

/-- The pairs held after calls one after another. -/
def heldAfter (cwd : String) : Watcher σ → Finset (String × σ) → List (Call σ) → Finset (String × σ)
  | _, S, [] => S
  | w, S, c :: cs => heldAfter cwd (w.call cwd c) (held cwd w S c) cs

/-- Unsubscribes each pair of a path and a signal in turn. -/
def removes (ps : List (String × σ)) : List (Call σ) := ps.map fun p => .remove p.1 p.2

theorem freshAdds_removes (cwd : String) :
    ∀ (ps : List (String × σ)) (w : Watcher σ), FreshAdds cwd w (removes ps)
  | [], _ => trivial
  | _ :: ps, _ => ⟨(fun _ _ _ h => nomatch h), freshAdds_removes cwd ps _⟩

/-- Unsubscribing pairs one after another takes them out of the pairs held. -/
theorem heldAfter_removes (cwd : String) :
    ∀ (ps : List (String × σ)) (w : Watcher σ) (S : Finset (String × σ)),
      heldAfter cwd w S (removes ps) = S \ (ps.map fun p => (Path.abs cwd p.1, p.2)).toFinset
  | [], _, S => by simp [removes, heldAfter]
  | p :: ps, w, S => by
    rw [removes, List.map_cons, heldAfter, ← removes, heldAfter_removes cwd ps, held,
      List.map_cons, List.toFinset_cons, Finset.sdiff_insert, Finset.erase_sdiff_comm]

/-! ## A subscription and an unsubscription, field by field -/

section Calls

variable (w : Watcher σ) (cwd path : String) (sig : σ)

/-- A subscription goes through unless it is the first in its directory and the system
refuses to watch that. -/
theorem add_fst (refusal : Option String) :
    (w.add cwd path sig refusal).1 =
      if w.count (Path.dir (Path.abs cwd path)) = 0 ∧ refusal.isSome then
        .error ("watching directory " ++ Path.dir (Path.abs cwd path) ++ ": " ++ refusal.getD "")
      else .ok () := by
  by_cases hzero : w.count (Path.dir (Path.abs cwd path)) = 0
  · cases refusal <;> simp [add, hzero]
  · simp [add, hzero]

/-- The first subscription in a directory asks the system to watch it, whatever it answers. -/
theorem add_asked (refusal : Option String) :
    (w.add cwd path sig refusal).2.asked =
      w.asked ++ if w.count (Path.dir (Path.abs cwd path)) = 0 then
        [.watch (Path.dir (Path.abs cwd path)) refusal.isNone] else [] := by
  by_cases hzero : w.count (Path.dir (Path.abs cwd path)) = 0
  · cases refusal <;> simp [add, hzero]
  · simp [add, hzero]

/-- A subscription that goes through counts one more in its directory and adds its signal
under its path. -/
theorem add_of_ok {refusal : Option String} (hok : (w.add cwd path sig refusal).1 = .ok ()) :
    (w.add cwd path sig refusal).2.dirs = Function.update w.dirs (Path.dir (Path.abs cwd path))
        (some (w.count (Path.dir (Path.abs cwd path)) + 1)) ∧
      (w.add cwd path sig refusal).2.subs = Function.update w.subs (Path.abs cwd path)
        (some (insert sig (w.notified (Path.abs cwd path)))) := by
  rw [add_fst] at hok
  by_cases hzero : w.count (Path.dir (Path.abs cwd path)) = 0
  · cases refusal
    · simp only [add, if_pos hzero]
      exact ⟨rfl, rfl⟩
    · simp [hzero] at hok
  · simp [add, hzero]

/-- A refused subscription changes only the requests. -/
theorem add_of_error {refusal : Option String} (herr : (w.add cwd path sig refusal).1 ≠ .ok ()) :
    (w.add cwd path sig refusal).2.dirs = w.dirs ∧ (w.add cwd path sig refusal).2.subs = w.subs := by
  rw [add_fst] at herr
  by_cases hzero : w.count (Path.dir (Path.abs cwd path)) = 0
  · cases refusal
    · simp at herr
    · simp [add, hzero]
  · simp [hzero] at herr

theorem add_ok_iff {refusal : Option String} :
    (w.add cwd path sig refusal).1 = .ok () ↔
      w.count (Path.dir (Path.abs cwd path)) ≠ 0 ∨ refusal = none := by
  rw [add_fst]
  cases refusal <;> by_cases hzero : w.count (Path.dir (Path.abs cwd path)) = 0 <;> simp [hzero]

/-- Unsubscribing a signal not subscribed under the path changes nothing. -/
theorem remove_of_not_mem (h : sig ∉ w.notified (Path.abs cwd path)) : w.remove cwd path sig = w := by
  unfold notified at h
  cases hset : w.subs (Path.abs cwd path) with
  | none => simp [remove, hset]
  | some set =>
    rw [hset, Option.getD_some] at h
    simp [remove, hset, h]

/-- Unsubscribing a subscribed signal takes it from under its path, dropping the path with its
last signal, and counts one less in the directory, dropping the directory, and asking the
system to stop watching it, with its last subscription. -/
theorem remove_of_mem (h : sig ∈ w.notified (Path.abs cwd path)) :
    (w.remove cwd path sig).subs = Function.update w.subs (Path.abs cwd path)
        (if (w.notified (Path.abs cwd path)).erase sig = ∅ then none
          else some ((w.notified (Path.abs cwd path)).erase sig)) ∧
      (w.remove cwd path sig).dirs = Function.update w.dirs (Path.dir (Path.abs cwd path))
        (if w.count (Path.dir (Path.abs cwd path)) - 1 ≤ 0 then none
          else some (w.count (Path.dir (Path.abs cwd path)) - 1)) ∧
      (w.remove cwd path sig).asked = w.asked ++
        if w.count (Path.dir (Path.abs cwd path)) - 1 ≤ 0 then [.unwatch (Path.dir (Path.abs cwd path))]
        else [] := by
  unfold notified at h
  cases hset : w.subs (Path.abs cwd path) with
  | none => simp [hset] at h
  | some set =>
    rw [hset, Option.getD_some] at h
    -- whether this is the directory's last subscription decides both the count and the request
    by_cases hlast : (w.dirs (Path.dir (Path.abs cwd path))).getD 0 - 1 ≤ 0 <;>
      simp [remove, hset, h, hlast, notified, count]

/-- A subscription that goes through counts one more in its directory only. -/
theorem count_add_of_ok {refusal : Option String} (hok : (w.add cwd path sig refusal).1 = .ok ())
    (d : String) :
    (w.add cwd path sig refusal).2.count d =
      if d = Path.dir (Path.abs cwd path) then w.count d + 1 else w.count d := by
  rw [count, (add_of_ok w cwd path sig hok).1, Function.update_apply]
  split
  case isTrue hd => rw [hd, Option.getD_some]
  case isFalse => rfl

theorem count_add_of_error {refusal : Option String}
    (herr : (w.add cwd path sig refusal).1 ≠ .ok ()) (d : String) :
    (w.add cwd path sig refusal).2.count d = w.count d := by
  rw [count, (add_of_error w cwd path sig herr).1, count]

/-- An unsubscription of a subscribed signal, in a directory with a count, counts one less in
that directory only. -/
theorem count_remove_of_mem (h : sig ∈ w.notified (Path.abs cwd path))
    (hpos : 0 < w.count (Path.dir (Path.abs cwd path))) (d : String) :
    (w.remove cwd path sig).count d =
      if d = Path.dir (Path.abs cwd path) then w.count d - 1 else w.count d := by
  rw [count, (remove_of_mem w cwd path sig h).2.1, Function.update_apply]
  split
  case isTrue hd =>
    rw [hd]
    split
    case isTrue =>
      rw [Option.getD_none]
      omega
    case isFalse => rfl
  case isFalse => rfl

end Calls

section Stepping

variable {w : Watcher σ} {S : Finset (String × σ)}

/-- A subscription of a pair not yet subscribed adds that pair, if it goes through. -/
theorem Tracks.add (h : Tracks w S) {cwd path : String} {sig : σ}
    (hfresh : sig ∉ w.notified (Path.abs cwd path)) (refusal : Option String) :
    Tracks (w.add cwd path sig refusal).2
      (if (w.add cwd path sig refusal).1 = .ok () then insert (Path.abs cwd path, sig) S else S) := by
  split
  case isFalse herr =>
    obtain ⟨hdirs, hsubs⟩ := add_of_error w cwd path sig herr
    exact h.congr hdirs hsubs
  case isTrue hok =>
    obtain ⟨hdirs, hsubs⟩ := add_of_ok w cwd path sig hok
    have hnew : (Path.abs cwd path, sig) ∉ S := fun hm => hfresh ((h.mem _ _).mpr hm)
    constructor
    · intro p sig'
      rw [notified, hsubs, Function.update_apply, Finset.mem_insert, Prod.ext_iff]
      split
      case isTrue hp =>
        rw [hp, Option.getD_some, Finset.mem_insert, h.mem]
        simp
      case isFalse hp => simp [hp, ← h.mem, notified]
    · intro d
      rw [count_add_of_ok w cwd path sig hok, Finset.filter_insert]
      split
      case isTrue hd =>
        rw [hd, if_pos rfl, Finset.card_insert_of_notMem
          (fun hm => hnew (Finset.mem_filter.mp hm).1), h.count]
        push_cast
        rfl
      case isFalse hd =>
        rw [if_neg (Ne.symm hd)]
        exact h.count d
    · intro d n hn
      rw [hdirs, Function.update_apply] at hn
      split at hn
      case isTrue =>
        have := h.count_nonneg (Path.dir (Path.abs cwd path))
        cases hn
        omega
      case isFalse => exact h.dirs_ne_zero d n hn
    · intro p set hp
      rw [hsubs, Function.update_apply] at hp
      split at hp
      case isTrue =>
        cases hp
        exact Finset.insert_nonempty _ _
      case isFalse => exact h.subs_nonempty p set hp

theorem getD_unless_empty (rest : Finset σ) :
    (if rest = ∅ then none else some rest).getD ∅ = rest := by
  split
  case isTrue h => rw [h, Option.getD_none]
  case isFalse => rfl

/-- An unsubscription takes its pair out, whether or not it was subscribed. -/
theorem Tracks.remove (h : Tracks w S) (cwd path : String) (sig : σ) :
    Tracks (w.remove cwd path sig) (S.erase (Path.abs cwd path, sig)) := by
  by_cases hmem : sig ∈ w.notified (Path.abs cwd path)
  case neg =>
    rw [remove_of_not_mem w cwd path sig hmem,
      Finset.erase_eq_of_notMem (fun hm => hmem ((h.mem _ _).mpr hm))]
    exact h
  have hin : (Path.abs cwd path, sig) ∈ S := (h.mem _ _).mp hmem
  have hpos := h.count_pos hin
  obtain ⟨hsubs, hdirs, -⟩ := remove_of_mem w cwd path sig hmem
  constructor
  · intro p sig'
    rw [notified, hsubs, Function.update_apply, Finset.mem_erase, ← h.mem]
    split
    case isTrue hp =>
      rw [hp, getD_unless_empty, Finset.mem_erase]
      simp [notified]
    case isFalse hp => simp [hp, notified]
  · intro d
    rw [count_remove_of_mem w cwd path sig hmem hpos, Finset.filter_erase]
    split
    case isTrue hd =>
      rw [hd]
      have hdir : (Path.abs cwd path, sig) ∈
          S.filter fun x => Path.dir x.1 = Path.dir (Path.abs cwd path) :=
        Finset.mem_filter.mpr ⟨hin, rfl⟩
      have hcard := Finset.card_pos.mpr ⟨_, hdir⟩
      rw [Finset.card_erase_of_mem hdir, h.count]
      omega
    case isFalse hd =>
      rw [Finset.erase_eq_of_notMem (fun hm => hd (Finset.mem_filter.mp hm).2.symm)]
      exact h.count d
  · intro d n hn
    rw [hdirs, Function.update_apply] at hn
    split at hn
    case isTrue =>
      split at hn
      case isTrue => cases hn
      case isFalse hlast =>
        cases hn
        omega
    case isFalse => exact h.dirs_ne_zero d n hn
  · intro p set hp
    rw [hsubs, Function.update_apply] at hp
    split at hp
    case isTrue =>
      split at hp
      case isTrue => cases hp
      case isFalse hne =>
        cases hp
        exact Finset.nonempty_iff_ne_empty.mpr hne
    case isFalse => exact h.subs_nonempty p set hp

/-- A subscription asks the system to watch its directory when its count is zero; the count
then goes to one if the system accepts and stays at zero if it refuses. -/
theorem asks_add (w : Watcher σ) (cwd path : String) (sig : σ) (refusal : Option String) :
    Asks w (w.add cwd path sig refusal).2
      (if w.count (Path.dir (Path.abs cwd path)) = 0 then
        some (.watch (Path.dir (Path.abs cwd path)) refusal.isNone) else none) := by
  by_cases hok : (w.add cwd path sig refusal).1 = .ok ()
  case neg =>
    -- the first subscription in its directory, and the system refused
    have hcount := count_add_of_error w cwd path sig hok
    obtain ⟨hzero, hrefused⟩ := not_or.mp ((not_congr (add_ok_iff w cwd path sig)).mp hok)
    rw [not_not] at hzero
    obtain ⟨e, rfl⟩ := Option.ne_none_iff_exists'.mp hrefused
    refine ⟨by rw [add_asked, if_pos hzero, if_pos hzero]; rfl, fun d => ?_, fun d => ?_,
      fun d => ?_, fun d => ?_⟩
    · rw [hcount]
      omega
    · simp [hzero, hcount]
      omega
    · intro hr
      simp only [hzero, if_true, Option.some.injEq, DirRequest.watch.injEq] at hr
      rw [hcount, ← hr.1]
      exact ⟨hzero, hzero⟩
    · simp [hzero, hcount]
      omega
  have hcount := count_add_of_ok w cwd path sig hok
  have hnone : w.count (Path.dir (Path.abs cwd path)) = 0 → refusal = none := fun hzero => by
    simpa [hzero] using (add_ok_iff w cwd path sig).mp hok
  refine ⟨by rw [add_asked]; split <;> rfl, fun d => ?_, fun d => ?_, fun d => ?_, fun d => ?_⟩
  · rw [hcount]
    split <;> omega
  · rw [hcount]
    by_cases hd : d = Path.dir (Path.abs cwd path)
    case neg =>
      simp [hd, Ne.symm hd]
      omega
    rw [hd]
    by_cases hzero : w.count (Path.dir (Path.abs cwd path)) = 0
    · simp [hzero, hnone hzero]
    · simp [hzero]
  · intro hr
    split at hr
    case isFalse => cases hr
    case isTrue hzero =>
      simp only [Option.some.injEq, DirRequest.watch.injEq] at hr
      simp [hnone hzero] at hr
  · -- a subscription never asks to stop watching, and no count goes down
    simp only [hcount]
    split <;> simp <;> omega

/-- An unsubscription asks the system to stop watching its directory exactly when it takes the
last subscription there. -/
theorem Tracks.asks_remove (h : Tracks w S) (cwd path : String) (sig : σ) :
    Asks w (w.remove cwd path sig)
      (if sig ∈ w.notified (Path.abs cwd path) ∧ w.count (Path.dir (Path.abs cwd path)) = 1 then
        some (.unwatch (Path.dir (Path.abs cwd path))) else none) := by
  by_cases hmem : sig ∈ w.notified (Path.abs cwd path)
  case neg =>
    rw [remove_of_not_mem w cwd path sig hmem, if_neg (fun h => hmem h.1)]
    exact asks_self w
  have hpos := h.count_pos ((h.mem _ _).mp hmem)
  have hasked := (remove_of_mem w cwd path sig hmem).2.2
  have hlast : w.count (Path.dir (Path.abs cwd path)) - 1 ≤ 0 ↔
      w.count (Path.dir (Path.abs cwd path)) = 1 := by omega
  have hcount := count_remove_of_mem w cwd path sig hmem hpos
  refine ⟨?_, fun d => ?_, fun d => ?_, fun d => ?_, fun d => ?_⟩
  · rw [hasked]
    simp only [hmem, hlast, true_and]
    split <;> rfl
  · rw [hcount]
    split <;> omega
  · -- an unsubscription never asks to watch, and no count goes up
    simp only [hcount]
    split <;> simp <;> omega
  · simp
  · rw [hcount]
    by_cases hd : d = Path.dir (Path.abs cwd path)
    case neg =>
      simp [hd, Ne.symm hd]
      omega
    rw [hd]
    simp [hmem]
    omega

/-- One call keeps the watcher tracking the pairs the caller holds. -/
theorem Tracks.call (h : Tracks w S) {cwd : String} {c : Call σ}
    (hfresh : ∀ path sig refusal, c = .add path sig refusal → sig ∉ w.notified (Path.abs cwd path)) :
    Tracks (w.call cwd c) (held cwd w S c) := by
  cases c with
  | add path sig refusal => exact h.add (hfresh path sig refusal rfl) refusal
  | remove path sig => exact h.remove cwd path sig

/-- Every call asks of the system as `Asks` says. -/
theorem Tracks.asks (h : Tracks w S) (cwd : String) (c : Call σ) :
    ∃ r, Asks w (w.call cwd c) r := by
  cases c with
  | add path sig refusal => exact ⟨_, asks_add w cwd path sig refusal⟩
  | remove path sig => exact ⟨_, h.asks_remove cwd path sig⟩

/-- Calls that never subscribe a pair twice keep the watcher tracking the pairs the caller
holds, and the system watching exactly the directories with a count. -/
theorem Tracks.run {cwd : String} :
    ∀ {w : Watcher σ} {S : Finset (String × σ)} (cs : List (Call σ)), Tracks w S → Watches w →
      FreshAdds cwd w cs → Tracks (w.run cwd cs) (heldAfter cwd w S cs) ∧ Watches (w.run cwd cs)
  | _, _, [], h, hw, _ => ⟨h, hw⟩
  | w, S, c :: cs, h, hw, ⟨hfresh, hrest⟩ => by
    have h' := h.call hfresh
    obtain ⟨r, hasks⟩ := h.asks cwd c
    exact Tracks.run cs h' (hasks.watches hw h.count_nonneg h'.count_nonneg) hrest

end Stepping

end Watcher
end LiveTail
