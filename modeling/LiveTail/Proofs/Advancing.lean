import Mathlib.Data.List.Nodup
import LiveTail.Proofs.Transcript

/-!
# What stopping and running sessions can do to a registry

Every call that starts nothing (a stop, stopping all, closing, letting the sessions run, a
change of the files) moves a registry forward in one way, `Advances`: sessions only leave
it or go on as themselves, none comes back to life, and what was heard grows; for each
session the new deliveries are a continuation of its transcript, nothing at all for a
session that no longer ran, and for one that ran, lines and then its ending exactly when it
stops running and its listener hears endings.

`release_advances` and `settleOne_advances` are the step lemmas; stopping all, closing,
settling and carrying out a listener's requests are runs of them (`Advances.trans`). They
assume the registry holds each identifier and each number once (`Distinct`), which every
such move keeps.
-/
namespace LiveTail
namespace Registry

/-- What the session numbered `n` has handed to its listener, in order. -/
def logOf (r : Registry) (n : Nat) : List Delivery := r.heard.toList.filter (·.session == n)

/-- The session numbered `n` is registered and has not ended. -/
def live (r : Registry) (n : Nat) : Bool := r.entries.any fun s => s.number == n && !s.ended

theorem live_iff {r : Registry} {n : Nat} :
    r.live n = true ↔ ∃ s ∈ r.entries, s.number = n ∧ s.ended = false := by
  simp [live]

theorem live_of_mem {r : Registry} {s : Session} (hs : s ∈ r.entries) (he : s.ended = false) :
    r.live s.number = true :=
  live_iff.mpr ⟨s, hs, rfl, he⟩

theorem logOf_of_heard {r r' : Registry} {out : List Delivery}
    (h : r'.heard.toList = r.heard.toList ++ out) (n : Nat) :
    r'.logOf n = r.logOf n ++ out.filter (·.session == n) := by
  rw [logOf, h, List.filter_append, logOf]

/-- Each identifier and each number is registered at most once. -/
structure Distinct (r : Registry) : Prop where
  ids : (r.entries.map (·.id)).Nodup
  numbers : (r.entries.map (·.number)).Nodup

theorem Distinct.eq_of_number {r : Registry} (hd : r.Distinct) {s t : Session}
    (hs : s ∈ r.entries) (ht : t ∈ r.entries) (h : t.number = s.number) : t = s :=
  List.inj_on_of_nodup_map hd.numbers ht hs h

theorem Distinct.eq_of_id {r : Registry} (hd : r.Distinct) {s t : Session}
    (hs : s ∈ r.entries) (ht : t ∈ r.entries) (h : t.id = s.id) : t = s :=
  List.inj_on_of_nodup_map hd.ids ht hs h

/-- What the session numbered `n` may hand out while the registry goes from `r` to `r'`:
nothing if it did not run in `r`; if it did, lines and then its ending exactly when it no
longer runs in `r'` and its listener hears endings. -/
def Continues (r r' : Registry) (n : Nat) (ds : List Delivery) : Prop :=
  (r.live n = false → ds = []) ∧
    ∀ s ∈ r.entries, s.number = n → s.ended = false →
      Transcript (!r'.live n && s.listener.hearsEnding) ds

/-- How a registry moves when nothing is started: sessions only leave or go on known as
before, none comes back to life, and what is heard grows by continuations of each session's
transcript. -/
structure Advances (r r' : Registry) : Prop where
  keys : (r'.entries.map Session.key).Sublist (r.entries.map Session.key)
  revive : ∀ n, r'.live n = true → r.live n = true
  heard : ∃ out, r'.heard.toList = r.heard.toList ++ out ∧
    ∀ n, Continues r r' n (out.filter (·.session == n))

theorem Advances.mem {r r' : Registry} (h : Advances r r') {s' : Session} (hs' : s' ∈ r'.entries) :
    ∃ s ∈ r.entries, s.key = s'.key := by
  have hk : s'.key ∈ r.entries.map Session.key := h.keys.subset (List.mem_map_of_mem hs')
  simpa using hk

theorem Advances.distinct {r r' : Registry} (h : Advances r r') (hd : r.Distinct) :
    r'.Distinct := by
  constructor
  · have hsub := h.keys.map (fun k => k.2.1)
    simp only [List.map_map] at hsub
    exact hd.ids.sublist hsub
  · have hsub := h.keys.map Prod.fst
    simp only [List.map_map] at hsub
    exact hd.numbers.sublist hsub

/-- A session that does not run hands out nothing more and does not run again. -/
theorem Advances.silent {r r' : Registry} (h : Advances r r') {n : Nat} (hn : r.live n = false) :
    r'.logOf n = r.logOf n ∧ r'.live n = false := by
  obtain ⟨out, hout, hc⟩ := h.heard
  refine ⟨by rw [logOf_of_heard hout, (hc n).1 hn, List.append_nil], ?_⟩
  cases h' : r'.live n
  · rfl
  · rw [h.revive n h'] at hn
    exact absurd hn Bool.noConfusion

/-- A registry whose sessions and hearing did not change has advanced. -/
theorem Advances.of_eq {r r' : Registry} (he : r'.entries = r.entries) (hh : r'.heard = r.heard) :
    Advances r r' := by
  refine ⟨he ▸ List.Sublist.refl _, fun n h => by rwa [live, he] at h, [], by simp [hh],
    fun n => ?_⟩
  refine ⟨fun _ => rfl, fun s hs hn hended => ?_⟩
  have hlive : r'.live n = true := by
    rw [live, he, ← live, ← hn]
    exact live_of_mem hs hended
  rw [hlive]
  exact Transcript.nil

theorem Advances.refl (r : Registry) : Advances r r := Advances.of_eq rfl rfl

/-- Two moves make one; the sessions of the first registry are known by their numbers. -/
theorem Advances.trans {r r₁ r₂ : Registry} (hd : r.Distinct) (h₁ : Advances r r₁)
    (h₂ : Advances r₁ r₂) : Advances r r₂ := by
  obtain ⟨out₁, hout₁, hc₁⟩ := h₁.heard
  obtain ⟨out₂, hout₂, hc₂⟩ := h₂.heard
  refine ⟨h₂.keys.trans h₁.keys, fun n h => h₁.revive n (h₂.revive n h), out₁ ++ out₂,
    by rw [hout₂, hout₁, List.append_assoc], fun n => ⟨?_, ?_⟩⟩
  · intro hn
    have hn₁ : r₁.live n = false := by
      cases h : r₁.live n
      · rfl
      · rw [h₁.revive n h] at hn
        exact absurd hn Bool.noConfusion
    rw [List.filter_append, (hc₁ n).1 hn, (hc₂ n).1 hn₁, List.append_nil]
  · intro s hs hn hended
    have htr₁ := (hc₁ n).2 s hs hn hended
    rw [List.filter_append]
    cases hl : r₁.live n with
    | false =>
      -- the session stopped running in the first move: the second adds nothing of it
      rw [(hc₂ n).1 hl, List.append_nil, (h₂.silent hl).2]
      rwa [hl] at htr₁
    | true =>
      -- it still runs, as the same session: its lines so far, then what the second adds
      rw [hl, Bool.not_true, Bool.false_and] at htr₁
      obtain ⟨s₁, hs₁, hn₁, hended₁⟩ := live_iff.mp hl
      obtain ⟨t, ht, hkey⟩ := h₁.mem hs₁
      have hts : t = s := hd.eq_of_number hs ht
        ((Session.number_eq_of_key hkey.symm).symm.trans (hn₁.trans hn.symm))
      have hlis : s₁.listener = s.listener := by
        rw [← hts]
        exact Session.listener_eq_of_key hkey.symm
      have htr₂ := (hc₂ n).2 s₁ hs₁ hn₁ hended₁
      rw [hlis] at htr₂
      exact htr₁.append htr₂

/-- Moves along a list, each from where the last one left. -/
theorem Advances.foldl {α : Type} (f : Registry → α → Registry)
    (hf : ∀ r a, r.Distinct → Advances r (f r a)) :
    ∀ (as : List α) (r : Registry), r.Distinct → Advances r (as.foldl f r)
  | [], r, _ => Advances.refl r
  | a :: as, r, hd =>
    Advances.trans hd (hf r a hd) (Advances.foldl f hf as (f r a) ((hf r a hd).distinct hd))

theorem find_of_mem {r : Registry} (hd : r.Distinct) {s : Session} (hs : s ∈ r.entries) :
    r.find? s.id = some s := by
  obtain ⟨t, ht⟩ := Option.isSome_iff_exists.mp
    (List.find?_isSome.mpr ⟨s, hs, by simp⟩ : (r.entries.find? (·.id = s.id)).isSome)
  have hmem := List.mem_of_find?_eq_some ht
  have hid : t.id = s.id := by simpa using List.find?_some ht
  rw [find?, ht, hd.eq_of_id hs hmem hid]

theorem release_of_not_mem {r : Registry} {id : String} (h : ∀ s ∈ r.entries, s.id ≠ id) :
    r.release id = r := by
  have hnone : r.find? id = none := List.find?_eq_none.mpr (by simpa using h)
  rw [release, hnone]

/-- Releasing a registered session takes it out of the registry; if it still ran, it ends as
stopped, its ending is handed out and its handle is closed. -/
theorem release_of_mem {r : Registry} (hd : r.Distinct) {s : Session} (hs : s ∈ r.entries) :
    (r.release s.id).entries = r.entries.filter (·.id ≠ s.id) ∧
      (r.release s.id).heard = r.heard ++ (if s.ended then #[] else (s.finish Ending.stopped).2) ∧
      (r.release s.id).volume = (if s.ended then r.volume else s.cursor.closeHandle r.volume) ∧
      (r.release s.id).closed = r.closed := by
  rw [release, find_of_mem hd hs]
  by_cases he : s.ended <;> simp [he]

/-- Without the session `s`, the others run as before and `s` no longer runs. -/
theorem live_filter {r r' : Registry} (hd : r.Distinct) {s : Session} (hs : s ∈ r.entries)
    (he : r'.entries = r.entries.filter (·.id ≠ s.id)) (n : Nat) :
    r'.live n = (if n = s.number then false else r.live n) := by
  split
  · subst n
    cases h : r'.live s.number
    · rfl
    · obtain ⟨t, ht, hn, -⟩ := live_iff.mp h
      rw [he, List.mem_filter] at ht
      have hts := hd.eq_of_number hs ht.1 hn
      simp [hts] at ht
  · rename_i hne
    apply Bool.eq_iff_iff.mpr
    rw [live_iff, live_iff, he]
    constructor
    · rintro ⟨t, ht, hn, hended⟩
      exact ⟨t, (List.mem_filter.mp ht).1, hn, hended⟩
    · rintro ⟨t, ht, hn, hended⟩
      refine ⟨t, List.mem_filter.mpr ⟨ht, ?_⟩, hn, hended⟩
      have hid : t.id ≠ s.id := fun h => hne (hn ▸ congrArg Session.number
        (hd.eq_of_id hs ht h))
      simpa using hid

theorem finish_filter (s : Session) (e : Ending) (n : Nat) :
    (s.finish e).2.toList.filter (·.session == n) =
      if n = s.number then (s.finish e).2.toList else [] := by
  rw [(Session.finish_key s e).2.2]
  by_cases hh : s.listener.hearsEnding
  · by_cases hn : n = s.number
    · simp [hn, hh]
    · simp [hn, hh, Ne.symm hn]
  · simp [hh]

/-- Releasing an identifier moves the registry forward. -/
theorem release_advances {r : Registry} (hd : r.Distinct) (id : String) :
    Advances r (r.release id) := by
  by_cases hex : ∃ s ∈ r.entries, s.id = id
  case neg =>
    rw [release_of_not_mem (fun s hs h => hex ⟨s, hs, h⟩)]
    exact Advances.refl r
  obtain ⟨s, hs, rfl⟩ := hex
  obtain ⟨hentries, hheard, -⟩ := release_of_mem hd hs
  have hlive := live_filter hd hs hentries
  refine ⟨hentries ▸ (List.filter_sublist).map _, fun n h => ?_,
    if s.ended then [] else (s.finish Ending.stopped).2.toList, by rw [hheard]; split <;> simp,
    fun n => ⟨fun hn => ?_, fun t ht hn hended => ?_⟩⟩
  · rw [hlive] at h
    split at h
    · exact absurd h Bool.noConfusion
    · exact h
  · -- a session that did not run is not the one released, which ran, or hands out nothing
    split
    · rfl
    · rename_i hse
      rw [finish_filter]
      split
      · rename_i hns
        rw [hns, live_of_mem hs (by simpa using hse)] at hn
        exact absurd hn Bool.noConfusion
      · rfl
  · rw [hlive]
    by_cases hns : n = s.number
    · -- the released session: it ran, so it hands out its ending as stopped
      have hts : t = s := hd.eq_of_number hs ht (hn.trans hns)
      subst hts
      have hse : t.ended = false := hended
      simp only [hns, if_true, hse, Bool.false_eq_true, if_false, Bool.not_false,
        Bool.true_and]
      rw [finish_filter, if_pos rfl]
      exact Session.finish_transcript t Ending.stopped
    · -- another session runs on and hands out nothing
      rw [if_neg hns, ← hn, live_of_mem ht hended, Bool.not_true, Bool.false_and]
      split
      · exact Transcript.nil
      · rw [finish_filter, if_neg (hn ▸ hns)]
        exact Transcript.nil

/-- Stopping every registered session moves the registry forward. -/
theorem stopAll_advances {r : Registry} (hd : r.Distinct) : Advances r r.stopAll :=
  Advances.foldl release (fun _ id hd => release_advances hd id) _ r hd

theorem apply_advances {r : Registry} (hd : r.Distinct) (q : Request) : Advances r (r.apply q) := by
  cases q with
  | stop id => exact release_advances hd id
  | stopAll => exact stopAll_advances hd

/-- The sessions of `r` with `s` replaced by `t`, which has its number. -/
theorem live_replace {r r' : Registry} {s t : Session} (hs : s ∈ r.entries)
    (hnum : t.number = s.number)
    (he : r'.entries = r.entries.map fun u => if u.number = s.number then t else u) (n : Nat) :
    r'.live n = (if n = s.number then !t.ended else r.live n) := by
  apply Bool.eq_iff_iff.mpr
  rw [live_iff, he]
  simp only [List.mem_map]
  split
  · subst n
    constructor
    · rintro ⟨_, ⟨u, hu, rfl⟩, hn, hended⟩
      by_cases hus : u.number = s.number
      · simpa [hus] using hended
      · simp only [hus, if_false] at hn
    · intro hended
      exact ⟨t, ⟨s, hs, by simp⟩, hnum, by simpa using hended⟩
  · rename_i hne
    rw [live_iff]
    constructor
    · rintro ⟨_, ⟨u, hu, rfl⟩, hn, hended⟩
      by_cases hus : u.number = s.number
      · simp only [hus, if_true] at hn
        exact absurd (hnum ▸ hn).symm hne
      · simp only [hus, if_false] at hn hended
        exact ⟨u, hu, hn, hended⟩
    · rintro ⟨u, hu, hn, hended⟩
      refine ⟨u, ⟨u, hu, ?_⟩, hn, hended⟩
      rw [if_neg (hn ▸ hne)]

/-- Letting a registered session that has not ended run until nothing changes replaces it by
how it ended up and adds what it handed out. -/
theorem run_advances {r r' : Registry} (hd : r.Distinct) {s : Session} (hs : s ∈ r.entries)
    (he : s.ended = false)
    (hentries : r'.entries = r.entries.map fun t =>
      if t.number = s.number then (s.settle r.options r.volume).session else t)
    (hheard : r'.heard = r.heard ++ (s.settle r.options r.volume).heard) : Advances r r' := by
  obtain ⟨hkey, hsess, htr⟩ := Session.settle_transcript r.options r.volume s he
  have hnum := Session.number_eq_of_key hkey
  have hlive := live_replace hs hnum hentries
  have hfilter : ∀ n, (s.settle r.options r.volume).heard.toList.filter (·.session == n) =
      if n = s.number then (s.settle r.options r.volume).heard.toList else [] := by
    intro n
    split
    · exact List.filter_eq_self.mpr (fun d hd => by simp [hsess d hd, *])
    · exact List.filter_eq_nil_iff.mpr (fun d hd => by simp [hsess d hd, Ne.symm ‹_›])
  refine ⟨?_, fun n h => ?_, (s.settle r.options r.volume).heard.toList, by simp [hheard],
    fun n => ⟨fun hn => ?_, fun t ht hn hended => ?_⟩⟩
  · -- every session keeps its key: the one replaced is `s`, known as before
    have hsame : ∀ t ∈ r.entries, (if t.number = s.number then
        (s.settle r.options r.volume).session else t).key = t.key := by
      intro t ht
      split
      · rename_i htn
        rw [hkey, hd.eq_of_number hs ht htn]
      · rfl
    rw [hentries, List.map_map]
    exact (List.map_congr_left hsame) ▸ List.Sublist.refl _
  · rw [hlive] at h
    split at h
    · rename_i hn
      rw [hn]
      exact live_of_mem hs he
    · exact h
  · rw [hfilter, if_neg]
    rintro rfl
    rw [live_of_mem hs he] at hn
    exact absurd hn Bool.noConfusion
  · rw [hfilter, hlive]
    split
    · -- the session that ran: its transcript, ending exactly when it ended
      rename_i hns
      have hts : t = s := hd.eq_of_number hs ht (hn.trans hns)
      subst hts
      rw [Bool.not_not]
      exact htr
    · rw [← hn, live_of_mem ht hended, Bool.not_true, Bool.false_and]
      exact Transcript.nil

/-- Letting one session run and carrying out what its listener asked moves the registry
forward. -/
theorem settleOne_advances {r : Registry} (hd : r.Distinct) (number : Nat) :
    Advances r (r.settleOne number) := by
  unfold settleOne
  split
  · exact Advances.refl r
  · rename_i s hfind
    have hs : s ∈ r.entries := List.mem_of_find?_eq_some hfind
    have hnum : s.number = number := by simpa using List.find?_some hfind
    subst hnum
    split
    · exact Advances.refl r
    · rename_i he
      have he' : s.ended = false := by simpa using he
      refine Advances.trans hd ?_
        (Advances.foldl apply (fun _ q hd => apply_advances hd q) _ _ ?_)
      · exact run_advances hd hs he' rfl rfl
      · exact (run_advances hd hs he' rfl rfl).distinct hd

/-- Letting every session run until nothing changes moves the registry forward. -/
theorem settle_advances {r : Registry} (hd : r.Distinct) : Advances r r.settle :=
  Advances.foldl settleOne (fun _ n hd => settleOne_advances hd n) _ r hd

end Registry
end LiveTail
