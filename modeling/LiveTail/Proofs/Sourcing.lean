import LiveTail.Proofs.Driving
import LiveTail.Proofs.Shrinking
import LiveTail.Source.Files

/-!
# A file source hands out each session's transcript and closes once stopped

A file source starts one session per file its patterns name and hands what the sessions
deliver to one reader, in the order they deliver it. Whatever happens once it is started
(the files change, the reader takes what is there, the source is stopped), what the reader
gets of each file's session reads as that session's transcript, and only files that
started hand anything out. After a stop, the next take hands out the ending of every
session and closes the events, provided the patterns named some file: a source whose
patterns could not be expanded, or named nothing, or that was never started, keeps its
events open whatever is done to it.

The reader's share is followed through `Registry.withEarlier`: the registry as it would be
had the reader taken nothing. Every move of a source's registry leaves what was heard
before it alone (`settle_withEarlier`, `release_withEarlier`), so the registry and the
deliveries taken so far move together as one registry that `Advances` from the one the
start left, and in which every delivery carries the identifier of the session that made it
(`Labelled`).
-/
namespace LiveTail

namespace Session

/-- What a session hands out while it runs carries its identifier. -/
theorem settle_ids (o : TailOptions) (v : Volume) (s : Session) :
    ∀ d ∈ (s.settle o v).heard.toList, d.id = s.id := by
  refine (runFor_induction o (fun r => r.session.id = s.id ∧ ∀ d ∈ r.heard.toList, d.id = s.id)
    ?_ ?_ ?_ (budget v s) ⟨s, v, #[], []⟩ ⟨rfl, by simp⟩).2
  · rintro r e ⟨hid, hheard⟩
    refine ⟨hid, fun d hd => ?_⟩
    simp only [Array.toList_append, List.mem_append] at hd
    rcases hd with hd | hd
    · exact hheard d hd
    · -- ending a session hands out at most its own ending
      rw [(finish_key r.session e).2.2] at hd
      split at hd
      · rw [List.mem_singleton.mp hd]
        exact hid
      · simp at hd
  · rintro r ⟨hid, hheard⟩
    obtain ⟨hkey, -, texts, htexts⟩ := poll_key o r.volume r.session
    refine ⟨(id_eq_of_key hkey).trans hid, fun d hd => ?_⟩
    simp only [Array.toList_append, List.mem_append, htexts] at hd
    rcases hd with hd | hd
    · exact hheard d hd
    · obtain ⟨t, -, rfl⟩ := List.mem_map.mp hd
      exact hid
  · rintro r ph ⟨hid, hheard⟩
    exact ⟨hid, hheard⟩

end Session

namespace Registry

/-- The registry as it would stand had `earlier` been heard before all it heard, and not
been handed over. -/
def withEarlier (r : Registry) (earlier : List Delivery) : Registry :=
  { r with heard := earlier.toArray ++ r.heard }

@[simp] theorem withEarlier_entries (r : Registry) (e : List Delivery) :
    (r.withEarlier e).entries = r.entries := rfl

@[simp] theorem withEarlier_heard (r : Registry) (e : List Delivery) :
    (r.withEarlier e).heard.toList = e ++ r.heard.toList := by
  simp [withEarlier]

@[simp] theorem withEarlier_nil (r : Registry) : r.withEarlier [] = r := by
  simp [withEarlier]

/-- Handing over what was heard and keeping it as heard before changes nothing. -/
theorem drain_withEarlier (r : Registry) (e : List Delivery) :
    r.drain.2.withEarlier (e ++ r.drain.1.toList) = r.withEarlier e := by
  simp [drain, withEarlier]

theorem release_withEarlier (r : Registry) (e : List Delivery) (id : String) :
    (r.withEarlier e).release id = (r.release id).withEarlier e := by
  have hfind : (r.withEarlier e).find? id = r.find? id := rfl
  rcases h : r.find? id with _ | s
  · rw [release, hfind, h, release, h]
  · rw [release, hfind, h, release, h]
    by_cases he : s.ended <;> simp [he, withEarlier, Array.append_assoc]

/-- Moves one after another that each leave what was heard before alone leave it alone. -/
theorem foldl_withEarlier {α : Type} (f : Registry → α → Registry)
    (hf : ∀ r e a, f (r.withEarlier e) a = (f r a).withEarlier e) (e : List Delivery) :
    ∀ (as : List α) (r : Registry), as.foldl f (r.withEarlier e) = (as.foldl f r).withEarlier e
  | [], _ => rfl
  | a :: as, r => by rw [List.foldl_cons, hf, foldl_withEarlier f hf e as, List.foldl_cons]

theorem apply_withEarlier (r : Registry) (e : List Delivery) (q : Request) :
    (r.withEarlier e).apply q = (r.apply q).withEarlier e := by
  cases q with
  | stop id => exact release_withEarlier r e id
  | stopAll =>
    simp only [apply, stopAll, withEarlier_entries]
    exact foldl_withEarlier release (fun r e id => release_withEarlier r e id) e _ r

theorem settleOne_withEarlier (r : Registry) (e : List Delivery) (n : Nat) :
    (r.withEarlier e).settleOne n = (r.settleOne n).withEarlier e := by
  have hfind : (r.withEarlier e).entries.find? (·.number = n) = r.entries.find? (·.number = n) :=
    rfl
  unfold settleOne
  rw [hfind]
  split
  · rfl
  · split
    · rfl
    · rw [← foldl_withEarlier apply (fun r e q => apply_withEarlier r e q)]
      simp [withEarlier, Array.append_assoc]

theorem settle_withEarlier (r : Registry) (e : List Delivery) :
    (r.withEarlier e).settle = r.settle.withEarlier e := by
  simp only [settle, withEarlier_entries]
  exact foldl_withEarlier settleOne (fun r e n => settleOne_withEarlier r e n) e _ r

/-- Every registered session, and every session that delivered something heard, is known by
the identifier `ids` gives its number. -/
structure Labelled (ids : Nat → Option String) (r : Registry) : Prop where
  entries : ∀ s ∈ r.entries, ids s.number = some s.id
  heard : ∀ d ∈ r.heard.toList, ids d.session = some d.id

variable {ids : Nat → Option String}

theorem Labelled.release {r : Registry} (h : Labelled ids r) (id : String) :
    Labelled ids (r.release id) := by
  refine ⟨fun s hs => ?_, fun d hd => ?_⟩
  · rw [release_entries] at hs
    exact h.entries s (List.mem_filter.mp hs).1
  · unfold Registry.release at hd
    split at hd
    · exact h.heard d hd
    · rename_i s hfind
      have hs : s ∈ r.entries := List.mem_of_find?_eq_some hfind
      split at hd
      · exact h.heard d hd
      · -- the released session's ending carries its number and identifier
        simp only [Array.toList_append, List.mem_append] at hd
        rcases hd with hd | hd
        · exact h.heard d hd
        · rw [(Session.finish_key s Ending.stopped).2.2] at hd
          split at hd
          · rw [List.mem_singleton.mp hd]
            exact h.entries s hs
          · simp at hd

theorem Labelled.foldl {α : Type} (f : Registry → α → Registry)
    (hf : ∀ r a, Labelled ids r → Labelled ids (f r a)) :
    ∀ (as : List α) (r : Registry), Labelled ids r → Labelled ids (as.foldl f r)
  | [], _, h => h
  | a :: as, r, h => Labelled.foldl f hf as (f r a) (hf r a h)

theorem Labelled.apply {r : Registry} (h : Labelled ids r) (q : Request) :
    Labelled ids (r.apply q) := by
  cases q with
  | stop id => exact h.release id
  | stopAll => exact Labelled.foldl Registry.release (fun _ id h => h.release id) _ r h

theorem Labelled.settleOne {r : Registry} (h : Labelled ids r) (n : Nat) :
    Labelled ids (r.settleOne n) := by
  unfold Registry.settleOne
  split
  · exact h
  · rename_i s hfind
    have hs : s ∈ r.entries := List.mem_of_find?_eq_some hfind
    split
    · exact h
    · rename_i hended
      obtain ⟨hkey, hsess, -⟩ := Session.settle_transcript r.options r.volume s (by simpa using hended)
      have hids := Session.settle_ids r.options r.volume s
      refine Labelled.foldl Registry.apply (fun _ q h => h.apply q) _ _ ⟨fun t ht => ?_, fun d hd => ?_⟩
      · -- the session that ran is known as before; the others are untouched
        obtain ⟨u, hu, rfl⟩ := List.mem_map.mp ht
        split
        · rw [Session.number_eq_of_key hkey, Session.id_eq_of_key hkey]
          exact h.entries s hs
        · exact h.entries u hu
      · simp only [Array.toList_append, List.mem_append] at hd
        rcases hd with hd | hd
        · exact h.heard d hd
        · rw [hsess d hd, hids d hd]
          exact h.entries s hs

theorem Labelled.settle {r : Registry} (h : Labelled ids r) : Labelled ids r.settle :=
  Labelled.foldl Registry.settleOne (fun _ n h => h.settleOne n) _ r h

/-- The identifier of the registered session with a given number. -/
def idOf (r : Registry) (n : Nat) : Option String := (r.entries.find? (·.number = n)).map (·.id)

theorem idOf_of_mem {r : Registry} (hd : r.Distinct) {s : Session} (hs : s ∈ r.entries) :
    r.idOf s.number = some s.id := by
  obtain ⟨t, ht⟩ := Option.isSome_iff_exists.mp
    (List.find?_isSome.mpr ⟨s, hs, by simp⟩ : (r.entries.find? (·.number = s.number)).isSome)
  have hnum : t.number = s.number := by simpa using List.find?_some ht
  rw [idOf, ht, hd.eq_of_number hs (List.mem_of_find?_eq_some ht) hnum]
  rfl

theorem exists_of_idOf {r : Registry} {n : Nat} {i : String} (h : r.idOf n = some i) :
    ∃ s ∈ r.entries, s.number = n ∧ s.id = i := by
  obtain ⟨s, hs, rfl⟩ := Option.map_eq_some_iff.mp h
  exact ⟨s, List.mem_of_find?_eq_some hs, by simpa using List.find?_some hs, rfl⟩

/-- A registry that has heard nothing is known by its own sessions' identifiers. -/
theorem labelled_idOf {r : Registry} (hd : r.Distinct) (hh : r.heard = #[]) :
    Labelled r.idOf r :=
  ⟨fun _ hs => idOf_of_mem hd hs, fun d hd => by simp [hh] at hd⟩

end Registry

/-- A fold in `Except` that succeeds keeps what each successful step keeps. -/
theorem foldlM_except_keeps {ε α β : Type} (P : β → Prop) (f : β → α → Except ε β)
    (hf : ∀ b a b', P b → f b a = .ok b' → P b') :
    ∀ (l : List α) (b b' : β), P b → l.foldlM f b = .ok b' → P b'
  | [], b, b', hb, h => by
    cases h
    exact hb
  | a :: l, b, b', hb, h => by
    rw [List.foldlM_cons] at h
    cases hstep : f b a with
    | error e =>
      rw [hstep] at h
      cases h
    | ok c =>
      rw [hstep] at h
      exact foldlM_except_keeps P f hf l c b' (hf b a c hb hstep) h

theorem nodup_addNew {ps : List String} (h : ps.Nodup) (p : String) : (addNew ps p).Nodup := by
  unfold addNew
  split
  · exact h
  · rename_i hp
    simp only [List.contains_iff_mem] at hp
    rw [List.nodup_append]
    refine ⟨h, List.nodup_singleton p, ?_⟩
    intro a ha b hb hab
    rw [List.mem_singleton] at hb
    rw [hab, hb] at ha
    exact hp ha

/-- Expanding patterns names every file once. -/
theorem resolvePatterns_nodup {v : Volume} {patterns files : List String}
    (h : resolvePatterns v patterns = .ok files) : files.Nodup := by
  refine foldlM_except_keeps List.Nodup _ ?_ patterns [] files List.nodup_nil h
  intro acc pattern acc' hacc hstep
  split at hstep
  · cases hstep
  · dsimp only at hstep
    split at hstep
    · cases hstep
      exact nodup_addNew hacc _
    · cases hstep
  · -- the matches of a pattern are added one by one, files only
    cases hstep
    refine List.foldlRecOn _ _ hacc fun acc hacc m _ => ?_
    dsimp only
    split
    · exact nodup_addNew hacc _
    · exact hacc


namespace FileSource

/-- One start of the fold `start` makes over the files named: the files started, the
reports, the registry, and the number the last start took. -/
def startStep (fromStart : Bool) (acc : List String × List String × Registry × Nat) (p : String) :
    List String × List String × Registry × Nat :=
  let (started, reports, r, number) := acc
  match r.start (number + 1) p p (!fromStart) (some {}) with
  | (.ok (), r) => (started ++ [p], reports, r, number + 1)
  | (.error f, r) => (started, reports ++ ["tailing " ++ p ++ ": " ++ f.message], r, number + 1)

/-- Patterns that cannot be expanded, or that name nothing, leave the source as it was. -/
theorem start_of_error {fs : FileSource} {e : Expansion}
    (h : resolvePatterns fs.registry.volume fs.patterns = .error e) :
    fs.start = (.error ("resolving file patterns: " ++ e.message), [], fs) := by
  rw [start, h]

theorem start_of_nil {fs : FileSource} (h : resolvePatterns fs.registry.volume fs.patterns = .ok []) :
    fs.start =
      (.error ("no files matched patterns: [" ++ " ".intercalate fs.patterns ++ "]"), [], fs) := by
  rw [start, h]

/-- Patterns that name files start one session per file, in order; the source runs if some
started, and is closed if none did. -/
theorem start_of_files {fs : FileSource} {files : List String}
    (h : resolvePatterns fs.registry.volume fs.patterns = .ok files) (hne : files ≠ []) :
    fs.start =
      let acc := files.foldl (startStep fs.fromStart) ([], [], fs.registry, 0)
      if acc.1.isEmpty then
        (.error ("none of " ++ toString files.length ++ " matched files could be tailed"),
          acc.2.1.take reportCapacity, { fs with registry := acc.2.2.1, closed := true })
      else (.ok (), acc.2.1.take reportCapacity,
        { fs with registry := acc.2.2.1, paths := acc.1, running := true }) := by
  rw [start, h]
  cases files with
  | nil => exact absurd rfl hne
  | cons p ps =>
    -- the fold is the one `startStep` makes, so each branch is the one the statement names
    dsimp only
    split
    · rename_i hemp
      exact (if_pos hemp).symm
    · rename_i hemp
      exact (if_neg hemp).symm

/-- What the starts keep along the files: the registry holds one session per file started,
in order, each fresh with the plain listener, under distinct numbers no larger than the last
one taken, and it has heard nothing. -/
structure Starting (started : List String) (number : Nat) (r : Registry) : Prop where
  ids : r.entries.map (·.id) = started
  numbers : (r.entries.map (·.number)).Nodup
  below : ∀ s ∈ r.entries, s.number ≤ number
  fresh : ∀ s ∈ r.entries, s.ended = false ∧ s.listener = {}
  unheard : r.heard = #[]

theorem Starting.distinct {started : List String} {number : Nat} {r : Registry}
    (h : Starting started number r) (hnd : started.Nodup) : r.Distinct :=
  ⟨h.ids ▸ hnd, h.numbers⟩

/-- A start that leaves the sessions and the hearing alone, under a later number. -/
theorem Starting.later {started : List String} {number : Nat} {r r' : Registry}
    (h : Starting started number r) (he : r'.entries = r.entries) (hh : r'.heard = r.heard) :
    Starting started (number + 1) r' :=
  ⟨he ▸ h.ids, he ▸ h.numbers, fun s hs => Nat.le_succ_of_le (h.below s (he ▸ hs)),
    fun s hs => h.fresh s (he ▸ hs), hh.trans h.unheard⟩

/-- One start of a file not yet started takes the next number and either adds the file's
session after the others or leaves the sessions as they were. -/
theorem Starting.step {started : List String} {number : Nat} {r : Registry} {p : String}
    (h : Starting started number r) (hp : p ∉ started) (fromStart : Bool) (reports : List String) :
    let acc := startStep fromStart (started, reports, r, number) p
    Starting acc.1 acc.2.2.2 acc.2.2.1 ∧ (acc.1 = started ∨ acc.1 = started ++ [p]) := by
  have hrel : r.release p = r :=
    Registry.release_of_not_mem fun s hs hid => hp (h.ids ▸ hid ▸ List.mem_map_of_mem hs)
  have hcases := Registry.start_cases r (number + 1) p p (!fromStart) (some {})
  -- the step follows the start's result; what the registry became comes from its cases
  rcases hs : r.start (number + 1) p p (!fromStart) (some {}) with ⟨_ | _, r'⟩
  · -- refused, or failed after releasing the free identifier: only the files changed
    rw [hs] at hcases
    have hr : r'.entries = r.entries ∧ r'.heard = r.heard := by
      rcases hcases with ⟨-, -, hr⟩ | ⟨l, v, -, -, -, ⟨-, hr⟩ | ⟨-, -, hok, -⟩⟩
      · obtain rfl : r' = r := hr
        exact ⟨rfl, rfl⟩
      · rw [hrel] at hr
        obtain rfl : r' = { r with volume := v } := hr
        exact ⟨rfl, rfl⟩
      · cases hok
    simp only [startStep, hs, true_or, and_true]
    exact h.later hr.1 hr.2
  · -- started: the new session comes last, under the next number
    rw [hs] at hcases
    rcases hcases with ⟨-, hne, -⟩ | ⟨l, v, hl, -, -, ⟨hne, -⟩ | ⟨c, size, -, hr⟩⟩
    · exact absurd rfl hne
    · exact absurd rfl hne
    obtain rfl : l = {} := (Option.some.inj hl).symm
    rw [hrel] at hr
    simp only at hr
    simp only [startStep, hs, or_true, and_true]
    subst hr
    refine ⟨?_, ?_, ?_, ?_, h.unheard⟩
    · simp [h.ids]
    · rw [List.map_append, List.nodup_append]
      refine ⟨h.numbers, List.nodup_singleton _, ?_⟩
      intro a ha b hb hab
      simp only [List.map_cons, List.map_nil, List.mem_singleton] at hb
      obtain ⟨s, hs, rfl⟩ := List.mem_map.mp ha
      have := h.below s hs
      omega
    · intro s hs
      rcases List.mem_append.mp hs with hs | hs
      · exact Nat.le_succ_of_le (h.below s hs)
      · obtain rfl := List.mem_singleton.mp hs
        exact Nat.le_refl _
    · intro s hs
      rcases List.mem_append.mp hs with hs | hs
      · exact h.fresh s hs
      · obtain rfl := List.mem_singleton.mp hs
        exact ⟨rfl, rfl⟩

/-- The starts over files named once each: the files started are some of them, in order. -/
theorem Starting.foldl (fromStart : Bool) :
    ∀ (ps : List String) (acc : List String × List String × Registry × Nat), ps.Nodup →
      (∀ p ∈ ps, p ∉ acc.1) → Starting acc.1 acc.2.2.2 acc.2.2.1 →
      Starting (ps.foldl (startStep fromStart) acc).1 (ps.foldl (startStep fromStart) acc).2.2.2
          (ps.foldl (startStep fromStart) acc).2.2.1 ∧
        ∃ sub, sub.Sublist ps ∧ (ps.foldl (startStep fromStart) acc).1 = acc.1 ++ sub
  | [], acc, _, _, h => ⟨h, [], List.Sublist.slnil, by simp⟩
  | p :: ps, ⟨started, reports, r, number⟩, hnd, hfresh, h => by
    obtain ⟨hp, hps⟩ := List.nodup_cons.mp hnd
    obtain ⟨hstep, hgrew⟩ := h.step (hfresh p List.mem_cons_self) fromStart reports
    -- the files after `p` are neither among those started before nor `p` itself
    have hfresh' : ∀ q ∈ ps, q ∉ (startStep fromStart (started, reports, r, number) p).1 := by
      intro q hq hmem
      rcases hgrew with hg | hg <;> rw [hg] at hmem
      · exact hfresh q (List.mem_cons_of_mem p hq) hmem
      · rcases List.mem_append.mp hmem with hmem | hmem
        · exact hfresh q (List.mem_cons_of_mem p hq) hmem
        · exact hp (List.mem_singleton.mp hmem ▸ hq)
    obtain ⟨hend, sub, hsub, heq⟩ := Starting.foldl fromStart ps _ hps hfresh' hstep
    refine ⟨hend, ?_⟩
    rw [List.foldl_cons, heq]
    rcases hgrew with hg | hg <;> rw [hg]
    · exact ⟨sub, hsub.cons p, rfl⟩
    · exact ⟨p :: sub, hsub.cons_cons p, by simp⟩

/-- Nothing registered and nothing heard: where the starts begin. -/
theorem starting_nil {r : Registry} (he : r.entries = []) (hh : r.heard = #[]) :
    Starting [] 0 r :=
  ⟨by simp [he], by simp [he], by simp [he], by simp [he], hh⟩

/-- What a start left, given the source as it was before: the registry holds one fresh
session per file started, in order, under distinct numbers, and has heard nothing; the files
started are some of those the patterns name; the start succeeded, and the source runs,
exactly when some file started; and a source is closed only when none started, which is the
case exactly when the patterns named files and none of them could be tailed. -/
structure StartedFrom (fs : FileSource) (result : Except String Unit) (started : FileSource) :
    Prop where
  starting : ∃ n, Starting started.paths n started.registry
  distinct : started.registry.Distinct
  named : ∀ files, resolvePatterns fs.registry.volume fs.patterns = .ok files →
    started.paths.Sublist files
  ok : result = .ok () ↔ started.paths ≠ []
  running : started.running = !started.paths.isEmpty
  closed : started.closed = true → started.paths = []
  namedSome : (started.closed = true ∨ started.paths ≠ []) ↔
    ∃ files, resolvePatterns fs.registry.volume fs.patterns = .ok files ∧ files ≠ []

/-- A start that leaves the source as it was, which had tailed nothing. -/
theorem startedFrom_self {fs : FileSource} {message : String} (hentries : fs.registry.entries = [])
    (hheard : fs.registry.heard = #[]) (hpaths : fs.paths = []) (hrunning : fs.running = false)
    (hclosed : fs.closed = false)
    (hnone : ¬∃ files, resolvePatterns fs.registry.volume fs.patterns = .ok files ∧ files ≠ []) :
    StartedFrom fs (.error message) fs where
  starting := ⟨0, hpaths ▸ starting_nil hentries hheard⟩
  distinct := ⟨by simp [hentries], by simp [hentries]⟩
  named _ _ := by rw [hpaths]; exact List.nil_sublist _
  ok := by simp [hpaths]
  running := by simp [hpaths, hrunning]
  closed h := absurd h (by simp [hclosed])
  namedSome := by simpa [hpaths, hclosed] using hnone

/-- What a start leaves of a source that has no session, has heard nothing and was not
started before. -/
theorem start_startedFrom {fs : FileSource} (hentries : fs.registry.entries = [])
    (hheard : fs.registry.heard = #[]) (hpaths : fs.paths = []) (hrunning : fs.running = false)
    (hclosed : fs.closed = false) : StartedFrom fs fs.start.1 fs.start.2.2 := by
  rcases hres : resolvePatterns fs.registry.volume fs.patterns with e | files
  · -- the patterns could not be expanded: nothing changes
    rw [start_of_error hres]
    exact startedFrom_self hentries hheard hpaths hrunning hclosed (by simp [hres])
  cases files with
  | nil =>
    rw [start_of_nil hres]
    exact startedFrom_self hentries hheard hpaths hrunning hclosed (by simp [hres])
  | cons p ps =>
    rw [start_of_files hres (List.cons_ne_nil p ps)]
    have hnd := resolvePatterns_nodup hres
    obtain ⟨hst, sub, hsub, heq⟩ := Starting.foldl fs.fromStart (p :: ps) ([], [], fs.registry, 0)
      hnd (by simp) (starting_nil hentries hheard)
    generalize (p :: ps).foldl (startStep fs.fromStart) ([], [], fs.registry, 0) = acc at hst heq ⊢
    obtain ⟨started, reports, r, number⟩ := acc
    dsimp only at hst heq ⊢
    rw [List.nil_append] at heq
    subst heq
    have hdist := hst.distinct (hnd.sublist hsub)
    have hnamed : ∀ files, resolvePatterns fs.registry.volume fs.patterns = .ok files →
        started.Sublist files := by
      intro files h
      rw [hres] at h
      cases h
      exact hsub
    split
    · -- none started: the source is closed, and tails nothing
      rename_i hemp
      obtain rfl : started = [] := List.isEmpty_iff.mp hemp
      exact { starting := ⟨number, by simpa [hpaths] using hst⟩, distinct := hdist
              named := fun _ _ => by simp [hpaths]
              ok := by simp [hpaths]
              running := by simp [hpaths, hrunning]
              closed := fun _ => hpaths
              namedSome := ⟨fun _ => ⟨p :: ps, hres, List.cons_ne_nil p ps⟩, fun _ => .inl rfl⟩ }
    · rename_i hemp
      have hne : started ≠ [] := fun h => hemp (List.isEmpty_iff.mpr h)
      exact { starting := ⟨number, hst⟩, distinct := hdist, named := hnamed
              ok := by simp [hne]
              running := by simp [hne]
              closed := fun h => absurd h (by simp [hclosed])
              namedSome := ⟨fun _ => ⟨p :: ps, hres, List.cons_ne_nil p ps⟩, fun _ => .inr hne⟩ }

end FileSource

/-- What can happen to a file source once it is started: the files change, the reader takes
what the sessions handed out, or the source is stopped. -/
inductive SourceStep where
  | files (v : Volume)
  | take
  | stop

namespace FileSource

/-- One step: the events the reader gets, and the source after it. -/
def step (fs : FileSource) : SourceStep → List Event × FileSource
  | .files v => ([], { fs with registry.volume := v })
  | .take => fs.poll
  | .stop => ([], fs.stop)

/-- Steps one after another: the events the reader gets, in order, and the source after
them. -/
def steps (fs : FileSource) : List SourceStep → List Event × FileSource
  | [] => ([], fs)
  | a :: as =>
    let (es, fs) := fs.step a
    let (rest, fs) := fs.steps as
    (es ++ rest, fs)

theorem steps_append (fs : FileSource) (as bs : List SourceStep) :
    fs.steps (as ++ bs) =
      ((fs.steps as).1 ++ ((fs.steps as).2.steps bs).1, ((fs.steps as).2.steps bs).2) := by
  induction as generalizing fs with
  | nil => rfl
  | cons a as ih => simp [steps, ih]

@[simp] theorem poll_events (fs : FileSource) :
    fs.poll.1 = if fs.closed then [] else fs.registry.settle.heard.toList.map Delivery.event := rfl

@[simp] theorem poll_registry (fs : FileSource) :
    fs.poll.2.registry = { fs.registry.settle with heard := #[] } := rfl

@[simp] theorem poll_paths (fs : FileSource) : fs.poll.2.paths = fs.paths := rfl

@[simp] theorem poll_running (fs : FileSource) : fs.poll.2.running = fs.running := rfl

@[simp] theorem poll_closed (fs : FileSource) :
    fs.poll.2.closed = (fs.closed || (!fs.running && !fs.paths.isEmpty)) := rfl

@[simp] theorem stop_paths (fs : FileSource) : fs.stop.paths = fs.paths := by
  unfold stop
  split <;> rfl

@[simp] theorem stop_running (fs : FileSource) : fs.stop.running = false := by
  unfold stop
  split
  · rfl
  · rename_i h
    simpa using h

@[simp] theorem stop_closed (fs : FileSource) : fs.stop.closed = fs.closed := by
  unfold stop
  split <;> rfl

@[simp] theorem step_paths (fs : FileSource) (a : SourceStep) : (fs.step a).2.paths = fs.paths := by
  cases a <;> simp [step]

theorem steps_paths (fs : FileSource) (as : List SourceStep) : (fs.steps as).2.paths = fs.paths := by
  induction as generalizing fs with
  | nil => rfl
  | cons a as ih => simp [steps, ih]

/-- A source closed stays closed. -/
theorem steps_closed {fs : FileSource} (h : fs.closed = true) (as : List SourceStep) :
    (fs.steps as).2.closed = true := by
  induction as generalizing fs with
  | nil => exact h
  | cons a as ih =>
    apply ih
    cases a with
    | files v => exact h
    | take => simp [h]
    | stop => simp [h]

/-- A source that tails no file and does not run stays open whatever is done to it. -/
theorem steps_open {fs : FileSource} (hpaths : fs.paths = []) (hrunning : fs.running = false)
    (hclosed : fs.closed = false) (as : List SourceStep) : (fs.steps as).2.closed = false := by
  induction as generalizing fs with
  | nil => exact hclosed
  | cons a as ih =>
    cases a with
    | files v => exact ih hpaths hrunning hclosed
    | take => exact ih hpaths hrunning (by simp [hpaths, hrunning, hclosed])
    | stop => exact ih (by simp [hpaths]) (by simp) (by simp [hclosed])

theorem steps_cons (fs : FileSource) (a : SourceStep) (as : List SourceStep) :
    fs.steps (a :: as) = ((fs.step a).1 ++ ((fs.step a).2.steps as).1, ((fs.step a).2.steps as).2) :=
  rfl

/-- What holds of a started source along its life, where `taken` is what the reader got
since the start left the registry `r₀`: put in front of what the registry heard, `taken`
and the registry together have advanced from `r₀` and know every delivery by the
identifier of its session in `r₀`; every registered session tails one of the source's
files; a source that does not run holds no session, and a closed one has nothing left to
hand out. -/
structure Life (r₀ : Registry) (fs : FileSource) (taken : List Delivery) : Prop where
  advances : r₀.Advances (fs.registry.withEarlier taken)
  labelled : (fs.registry.withEarlier taken).Labelled r₀.idOf
  tracked : ∀ s ∈ fs.registry.entries, s.id ∈ fs.paths
  idle : fs.running = false → fs.registry.entries = []
  closed : fs.closed = true → fs.running = false ∧ fs.registry.heard = #[]

/-- The life of a source begins where its start left it. -/
theorem life_start {fs : FileSource} {n : Nat} (h : Starting fs.paths n fs.registry)
    (hd : fs.registry.Distinct) (hrunning : fs.running = !fs.paths.isEmpty)
    (hclosed : fs.closed = true → fs.paths = []) : Life fs.registry fs [] where
  advances := by
    rw [Registry.withEarlier_nil]
    exact Registry.Advances.refl _
  labelled := by
    rw [Registry.withEarlier_nil]
    exact Registry.labelled_idOf hd h.unheard
  tracked s hs := h.ids ▸ List.mem_map_of_mem hs
  idle hr := by
    have hpaths : fs.paths = [] := by simpa [hrunning] using hr
    rw [hpaths] at h
    exact List.map_eq_nil_iff.mp h.ids
  closed hc := ⟨by simp [hrunning, hclosed hc], h.unheard⟩

section Life

variable {r₀ : Registry} {fs : FileSource} {taken : List Delivery}

theorem Life.distinct (hd : r₀.Distinct) (h : Life r₀ fs taken) : fs.registry.Distinct :=
  let hfull := h.advances.distinct hd
  ⟨hfull.ids, hfull.numbers⟩

/-- A change of the files hands out nothing. -/
theorem Life.files (hd : r₀.Distinct) (h : Life r₀ fs taken) (v : Volume) :
    Life r₀ { fs with registry.volume := v } taken where
  advances := Registry.Advances.trans hd h.advances (Registry.Advances.of_eq rfl rfl)
  labelled := ⟨h.labelled.entries, h.labelled.heard⟩
  tracked := h.tracked
  idle := h.idle
  closed := h.closed

/-- Taking hands the reader what the sessions handed out as they ran until nothing changed;
a closed source has nothing to hand out. -/
theorem Life.take (hd : r₀.Distinct) (h : Life r₀ fs taken) :
    fs.poll.1 = fs.registry.settle.heard.toList.map Delivery.event ∧
      Life r₀ fs.poll.2 (taken ++ fs.registry.settle.heard.toList) := by
  have hsettle := Registry.settle_advances (h.distinct hd)
  -- what was taken and the registry together moved as the registry would have run
  have hfull : fs.poll.2.registry.withEarlier (taken ++ fs.registry.settle.heard.toList) =
      (fs.registry.withEarlier taken).settle :=
    (Registry.drain_withEarlier fs.registry.settle taken).trans
      (Registry.settle_withEarlier fs.registry taken).symm
  refine ⟨?_, ⟨?_, ?_, ?_, ?_, ?_⟩⟩
  · rw [poll_events]
    split
    · -- a closed source holds no session and has heard nothing
      rename_i hc
      obtain ⟨hrun, hheard⟩ := h.closed hc
      simp [Registry.settle, h.idle hrun, hheard]
    · rfl
  · rw [hfull]
    exact Registry.Advances.trans hd h.advances
      (Registry.settle_advances (h.advances.distinct hd))
  · rw [hfull]
    exact h.labelled.settle
  · intro s hs
    obtain ⟨t, ht, hkey⟩ := hsettle.mem hs
    rw [poll_paths, ← Session.id_eq_of_key hkey]
    exact h.tracked t ht
  · intro hrun
    exact hsettle.empty (h.idle hrun)
  · intro hc
    refine ⟨?_, rfl⟩
    rw [poll_closed] at hc
    rw [poll_running]
    cases hcl : fs.closed
    · simp only [hcl, Bool.false_or, Bool.and_eq_true, Bool.not_eq_true'] at hc
      exact hc.1
    · exact (h.closed hcl).1

/-- Stopping a running source stops every session it started, each of which hands its
ending to what the reader will take; it then holds no session. -/
theorem Life.stop (hd : r₀.Distinct) (h : Life r₀ fs taken) : Life r₀ fs.stop taken := by
  unfold FileSource.stop
  split
  · rename_i hrun
    have hfull : (fs.paths.foldl Registry.stop fs.registry).withEarlier taken =
        fs.paths.foldl Registry.stop (fs.registry.withEarlier taken) :=
      (Registry.foldl_withEarlier Registry.stop
        (fun r e id => Registry.release_withEarlier r e id) taken fs.paths fs.registry).symm
    -- every session tails one of the files, so releasing them all leaves none
    have hempty : (fs.paths.foldl Registry.stop fs.registry).entries = [] := by
      rw [show fs.paths.foldl Registry.stop fs.registry = fs.paths.foldl Registry.release
        fs.registry from rfl, Registry.foldl_release_entries]
      exact List.filter_eq_nil_iff.mpr fun s hs => by simpa using h.tracked s hs
    refine ⟨?_, ?_, fun s hs => ?_, fun _ => hempty, fun hc => ?_⟩
    · rw [hfull]
      exact Registry.Advances.trans hd h.advances
        (Registry.Advances.foldl Registry.stop (fun _ id hd => Registry.release_advances hd id)
          _ _ (h.advances.distinct hd))
    · rw [hfull]
      exact Registry.Labelled.foldl Registry.stop (fun _ id h => h.release id) _ _ h.labelled
    · rw [hempty] at hs
      cases hs
    · -- a running source is not closed
      have hrun' := (h.closed hc).1
      rw [hrun] at hrun'
      cases hrun'
  · exact h

theorem Life.step (hd : r₀.Distinct) (h : Life r₀ fs taken) (a : SourceStep) :
    ∃ new, (fs.step a).1 = new.map Delivery.event ∧ Life r₀ (fs.step a).2 (taken ++ new) := by
  cases a with
  | files v => exact ⟨[], rfl, by rw [List.append_nil]; exact h.files hd v⟩
  | take => exact ⟨_, (h.take hd).1, (h.take hd).2⟩
  | stop => exact ⟨[], rfl, by rw [List.append_nil]; exact h.stop hd⟩

/-- Along any steps, what the reader gets is what was added to what was taken. -/
theorem Life.steps (hd : r₀.Distinct) (as : List SourceStep) :
    ∀ {fs : FileSource} {taken : List Delivery}, Life r₀ fs taken →
      ∃ new, (fs.steps as).1 = new.map Delivery.event ∧ Life r₀ (fs.steps as).2 (taken ++ new) := by
  induction as with
  | nil => exact fun h => ⟨[], rfl, by rw [List.append_nil]; exact h⟩
  | cons a as ih =>
    intro fs taken h
    obtain ⟨new, hnew, hstep⟩ := h.step hd a
    obtain ⟨rest, hrest, hlife⟩ := ih hstep
    refine ⟨new ++ rest, by rw [steps_cons, hnew, hrest, List.map_append], ?_⟩
    rw [steps_cons, ← List.append_assoc]
    exact hlife

/-- What the reader took, with what the registry still holds, is for each session of `r₀`
under its identifier a transcript of it, with its ending exactly when it no longer runs; and
nothing under an identifier no session of `r₀` had. -/
theorem Life.transcripts (hd : r₀.Distinct)
    (hfresh : ∀ s ∈ r₀.entries, s.ended = false ∧ s.listener = {}) (hheard : r₀.heard = #[])
    (h : Life r₀ fs taken) (hdrained : fs.registry.heard = #[]) :
    (∀ s ∈ r₀.entries,
      Transcript (!fs.registry.live s.number) (taken.filter (·.id = s.id))) ∧
      ∀ d ∈ taken, ∃ s ∈ r₀.entries, d.id = s.id := by
  obtain ⟨out, hout, hcont⟩ := h.advances.heard
  have htaken : taken = out := by
    simpa [hdrained, hheard] using hout
  subst htaken
  have hlabel := h.labelled.heard
  simp only [Registry.withEarlier_heard, hdrained, Array.toList_empty, List.append_nil] at hlabel
  refine ⟨fun s hs => ?_, fun d hd' => ?_⟩
  · -- a delivery is of `s` by its identifier exactly when it is by its number
    have hsame : taken.filter (·.id = s.id) = taken.filter (·.session == s.number) := by
      apply List.filter_congr
      intro d hd'
      have hl := hlabel d hd'
      by_cases hn : d.session = s.number
      · rw [hn, Registry.idOf_of_mem hd hs, Option.some.injEq] at hl
        simp [hn, hl]
      · obtain ⟨t, ht, htn, hti⟩ := Registry.exists_of_idOf hl
        have hid : d.id ≠ s.id := fun h' => hn (htn ▸ congrArg Session.number
          (hd.eq_of_id hs ht (hti.trans h')))
        simp [hn, hid]
    rw [hsame]
    have htr := (hcont s.number).2 s hs rfl (hfresh s hs).1
    rwa [(hfresh s hs).2, Bool.and_true] at htr
  · obtain ⟨t, ht, -, hti⟩ := Registry.exists_of_idOf (hlabel d hd')
    exact ⟨t, ht, hti.symm⟩

end Life

/-- A stop and then a take leave a source that runs no session, has nothing left to hand
out, and is closed exactly when it was closed or tails some file. -/
theorem steps_stop_take {fs : FileSource} (hrunning : fs.running = !fs.paths.isEmpty)
    (history : List SourceStep) :
    (fs.steps (history ++ [.stop, .take])).2.running = false ∧
      (fs.steps (history ++ [.stop, .take])).2.registry.heard = #[] ∧
      ((fs.steps (history ++ [.stop, .take])).2.closed = true ↔ fs.closed = true ∨ fs.paths ≠ []) := by
  rw [steps_append]
  have hlast : ((fs.steps history).2.steps [.stop, .take]).2 = (fs.steps history).2.stop.poll.2 :=
    rfl
  have hpaths := steps_paths fs history
  refine ⟨by simp [hlast], by simp [hlast], ?_⟩
  simp only [hlast, poll_closed, stop_closed, stop_running, stop_paths, hpaths, Bool.not_false,
    Bool.true_and, Bool.or_eq_true, Bool.not_eq_true', List.isEmpty_eq_false_iff, ne_eq]
  constructor
  · rintro (hc | hne)
    · -- closed after the history: it was closed, or it tailed a file, or else it stayed open
      by_cases hfc : fs.closed = true
      · exact .inl hfc
      · by_cases hnil : fs.paths = []
        · have hopen := steps_open hnil (by simp [hrunning, hnil]) (by simpa using hfc) history
          rw [hopen] at hc
          cases hc
        · exact .inr hnil
    · exact .inr hne
  · rintro (hc | hne)
    · exact .inl (steps_closed hc history)
    · exact .inr hne

end FileSource

namespace Event

/-- Whether an event is an ending rather than a line. -/
def isEnding : Event → Bool
  | line .. => false
  | ending .. => true

end Event

@[simp] theorem Delivery.isEnding_event (d : Delivery) : d.event.isEnding = d.isEnding := by
  cases d <;> rfl

@[simp] theorem Delivery.id_event (d : Delivery) : d.event.id = d.id := by
  cases d <;> rfl

/-- Events that read as one session's whole life: its lines, then exactly one ending. -/
def EndsOnce (es : List Event) : Prop :=
  ∃ lines e, es = lines ++ [e] ∧ (∀ x ∈ lines, x.isEnding = false) ∧ e.isEnding = true

theorem endsOnce_of_transcript {ds : List Delivery} (h : Transcript true ds) :
    EndsOnce (ds.map Delivery.event) := by
  obtain ⟨lines, ends, rfl, hlines, hends, hlen⟩ := h
  obtain ⟨e, rfl⟩ := List.length_eq_one_iff.mp hlen
  refine ⟨lines.map Delivery.event, e.event, by simp, ?_, by simpa using hends e (by simp)⟩
  intro x hx
  obtain ⟨d, hd, rfl⟩ := List.mem_map.mp hx
  simpa using hlines d hd

namespace FileSource

end FileSource
end LiveTail
