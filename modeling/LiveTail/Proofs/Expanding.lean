import LiveTail.Proofs.Cleaning
import LiveTail.Proofs.Sourcing
/-!
# Expanding file patterns

The patterns of a file source are expanded one after another. Each pattern on its own either
names a list of paths or stops the expansion (`named`): a malformed pattern stops it; a
pattern that matches nothing names its own absolute path, which must exist; any other
pattern names the absolute paths of those of its matches that are files, in the order of the
matches. The expansion stops at the first pattern that stops it, and otherwise gives every
path named, in order, with only the first occurrence of each kept (`resolvePatterns_eq`).

The paths given are absolute and cleaned when the working directory is absolute. A directory
is given only when a pattern that matched nothing names it.
-/
namespace LiveTail

/-- The matches of a pattern, or why it is malformed: the expansion with the fuel that the
file source gives it. -/
def Volume.globbed (v : Volume) (pattern : String) : Except Path.BadPattern (List String) :=
  v.glob pattern (pattern.length + 1)

/-- Whether a path names a file. -/
def Volume.namesFile (v : Volume) (p : String) : Bool :=
  match v.entry? p with
  | some (.file _) => true
  | _ => false

/-- What one pattern adds to the expansion, in order, or why the expansion stops at it. -/
def named (v : Volume) (pattern : String) : Except Expansion (List String) :=
  match v.globbed pattern with
  | .error _ => .error (.badPattern pattern)
  | .ok [] =>
    if (v.entry? (Path.abs v.cwd pattern)).isSome then .ok [Path.abs v.cwd pattern]
    else .error (.missing (Path.abs v.cwd pattern))
  | .ok found => .ok ((found.map (Path.abs v.cwd)).filter v.namesFile)

/-! ## Keeping first occurrences -/

/-- The library's first-occurrence filter keeps what it has seen in reverse, and adds a
path exactly as `addNew` does. -/
theorem eraseDupsBy_loop (xs bs : List String) :
    List.eraseDupsBy.loop (· == ·) xs bs = xs.foldl addNew bs.reverse := by
  induction xs generalizing bs with
  | nil => rw [List.eraseDupsBy.loop.eq_1, List.foldl_nil]
  | cons x xs ih =>
    have hseen : bs.reverse.contains x = bs.any (x == ·) := by
      rw [List.contains_eq_any_beq, List.any_reverse]
    rw [List.eraseDupsBy.loop.eq_2, List.foldl_cons, addNew, hseen]
    split
    · rename_i hx
      rw [ih, if_pos hx]
    · rename_i hx
      rw [ih, if_neg (by simp [hx]), List.reverse_cons]

/-- Adding paths one by one from nothing keeps the first occurrence of each. -/
theorem foldl_addNew_nil (xs : List String) : xs.foldl addNew [] = xs.eraseDups := by
  rw [List.eraseDups, List.eraseDupsBy, eraseDupsBy_loop, List.reverse_nil]

/-! ## One pattern at a time -/

/-- An expansion step that adds what each pattern names runs through the patterns as the
patterns' lists, joined, added one path at a time. -/
theorem foldlM_of_named {v : Volume}
    {f : List String → String → Except Expansion (List String)}
    (hf : ∀ acc p, f acc p = (named v p).map (·.foldl addNew acc)) (ps acc : List String) :
    ps.foldlM f acc = (ps.mapM (named v)).map (·.flatten.foldl addNew acc) := by
  induction ps generalizing acc with
  | nil => rfl
  | cons p ps ih =>
    rw [List.foldlM_cons, List.mapM_cons, hf]
    cases hp : named v p with
    | error e => rfl
    | ok g =>
      show ps.foldlM f (g.foldl addNew acc) = _
      rw [ih]
      cases ps.mapM (named v) with
      | error e => rfl
      | ok gs =>
        show Except.ok _ = Except.ok _
        simp only [List.flatten_cons, List.foldl_append]

/-- Expanding the patterns fails at the first pattern that stops it, and otherwise keeps the
first occurrence of every path the patterns name, in order. -/
theorem resolvePatterns_eq (v : Volume) (ps : List String) :
    resolvePatterns v ps = (ps.mapM (named v)).map (·.flatten.eraseDups) := by
  unfold resolvePatterns
  rw [foldlM_of_named (v := v) ?_ ps []]
  · simp only [foldl_addNew_nil]
  intro acc p
  unfold named Volume.globbed
  cases v.glob p (p.length + 1) with
  | error b => rfl
  | ok found =>
    cases found with
    | nil =>
      dsimp only
      split <;> rfl
    | cons m ms =>
      -- the matches that are files are added in turn
      show Except.ok _ = Except.ok (List.foldl addNew acc _)
      rw [List.foldl_filter, List.foldl_map]
      congr 1
      apply congrArg (fun g => List.foldl g acc _)
      funext acc m
      dsimp only [Function.comp_apply]
      unfold Volume.namesFile
      cases v.entry? (Path.abs v.cwd m) with
      | none => rfl
      | some e => cases e <;> rfl

/-! ## Lists of results in `Except` -/

section MapM

variable {α β ε : Type} {f : α → Except ε β}

/-- A list of computations fails exactly at the first that fails. -/
theorem mapM_eq_error_iff {xs : List α} {e : ε} :
    xs.mapM f = .error e ↔
      ∃ pre x post, xs = pre ++ x :: post ∧ (∀ y ∈ pre, ∃ b, f y = .ok b) ∧ f x = .error e := by
  induction xs with
  | nil =>
    constructor
    · intro h
      cases h
    · rintro ⟨pre, x, post, h, -, -⟩
      simp at h
  | cons x xs ih =>
    rw [List.mapM_cons]
    cases hx : f x with
    | error e' =>
      show Except.error e' = Except.error e ↔ _
      constructor
      · intro h
        cases h
        exact ⟨[], x, xs, rfl, by simp, hx⟩
      · rintro ⟨pre, y, post, h, hpre, hy⟩
        cases pre with
        | nil =>
          obtain ⟨rfl, -⟩ := List.cons_eq_cons.mp h
          rw [hx] at hy
          cases hy
          rfl
        | cons z pre =>
          obtain ⟨rfl, -⟩ := List.cons_eq_cons.mp h
          obtain ⟨b, hb⟩ := hpre x List.mem_cons_self
          rw [hx] at hb
          cases hb
    | ok b =>
      have hrest : (do let r ← xs.mapM f; pure (b :: r) : Except ε (List β)) = .error e ↔
          xs.mapM f = .error e := by
        cases xs.mapM f <;> simp [bind, Except.bind, pure, Except.pure]
      show (do let r ← xs.mapM f; pure (b :: r) : Except ε (List β)) = .error e ↔ _
      rw [hrest, ih]
      constructor
      · rintro ⟨pre, y, post, rfl, hpre, hy⟩
        refine ⟨x :: pre, y, post, rfl, ?_, hy⟩
        intro z hz
        rcases List.mem_cons.mp hz with rfl | hz
        exacts [⟨b, hx⟩, hpre z hz]
      · rintro ⟨pre, y, post, h, hpre, hy⟩
        cases pre with
        | nil =>
          obtain ⟨rfl, -⟩ := List.cons_eq_cons.mp h
          rw [hx] at hy
          cases hy
        | cons z pre =>
          obtain ⟨rfl, rfl⟩ := List.cons_eq_cons.mp h
          exact ⟨pre, y, post, rfl, fun w hw => hpre w (List.mem_cons_of_mem _ hw), hy⟩

/-- A list of computations succeeds with one result for each, in order. -/
theorem mapM_eq_ok_iff {xs : List α} {bs : List β} :
    xs.mapM f = .ok bs ↔ List.Forall₂ (fun x b => f x = .ok b) xs bs := by
  induction xs generalizing bs with
  | nil =>
    constructor
    · intro h
      cases h
      exact .nil
    · intro h
      cases h
      rfl
  | cons x xs ih =>
    rw [List.mapM_cons]
    cases hx : f x with
    | error e =>
      constructor
      · intro h
        cases h
      · intro h
        cases h with
        | cons hb _ =>
          rw [hx] at hb
          cases hb
    | ok b =>
      show (do let r ← xs.mapM f; pure (b :: r) : Except ε (List β)) = .ok bs ↔ _
      cases hxs : xs.mapM f with
      | error e =>
        constructor
        · intro h
          cases h
        · intro h
          cases h with
          | cons hb hrest =>
            have := ih.mpr hrest
            rw [hxs] at this
            cases this
      | ok rs =>
        have hrs := ih.mp hxs
        constructor
        · intro h
          cases h
          exact .cons hx hrs
        · intro h
          cases h with
          | cons hb hrest =>
            rw [hx] at hb
            cases hb
            cases (ih.mpr hrest).symm.trans hxs
            rfl

/-- Every input of a list of computations that succeeds has its result. -/
theorem exists_ok_of_mapM {xs : List α} {bs : List β} (h : xs.mapM f = .ok bs) :
    ∀ x ∈ xs, ∃ b, f x = .ok b := by
  have hall := mapM_eq_ok_iff.mp h
  clear h
  induction hall with
  | nil => simp
  | cons hb _ ih =>
    intro x hx
    rcases List.mem_cons.mp hx with rfl | hx
    exacts [⟨_, hb⟩, ih x hx]

/-- What the results of a list of computations that succeeds hold between them. -/
theorem mem_flatten_of_mapM {f : α → Except ε (List β)} {xs : List α} {gs : List (List β)}
    (h : xs.mapM f = .ok gs) (y : β) :
    y ∈ gs.flatten ↔ ∃ x ∈ xs, ∃ g, f x = .ok g ∧ y ∈ g := by
  have hall := mapM_eq_ok_iff.mp h
  clear h
  induction hall with
  | nil => simp
  | cons hg _ ih =>
    simp only [List.flatten_cons, List.mem_append, List.mem_cons, exists_eq_or_imp, ih]
    constructor
    · rintro (hy | h)
      · exact .inl ⟨_, hg, hy⟩
      · exact .inr h
    · rintro (⟨g', hg', hy⟩ | h)
      · rw [hg] at hg'
        cases hg'
        exact .inl hy
      · exact .inr h

end MapM

/-! ## What one pattern names -/

section Named

variable {v : Volume} {p : String}

/-- A pattern stops the expansion when it is malformed, or when it matches nothing and
nothing is at its path; the reason names the pattern, or the path that is missing. -/
theorem named_eq_error_iff {e : Expansion} :
    named v p = .error e ↔
      (∃ b, v.globbed p = .error b) ∧ e = .badPattern p ∨
        v.globbed p = .ok [] ∧ v.entry? (Path.abs v.cwd p) = none ∧
          e = .missing (Path.abs v.cwd p) := by
  unfold named
  split
  · rename_i b hb
    rw [hb]
    constructor
    · intro h
      cases h
      exact .inl ⟨⟨b, rfl⟩, rfl⟩
    · rintro (⟨-, rfl⟩ | ⟨h, -⟩)
      · rfl
      · cases h
  · rename_i hb
    rw [hb]
    split
    · rename_i hs
      constructor
      · intro h
        cases h
      · rintro (⟨⟨_, h⟩, -⟩ | ⟨-, hn, -⟩)
        · cases h
        · rw [hn] at hs
          cases hs
    · rename_i hs
      rw [Option.not_isSome_iff_eq_none] at hs
      constructor
      · intro h
        cases h
        exact .inr ⟨rfl, hs, rfl⟩
      · rintro (⟨⟨_, h⟩, -⟩ | ⟨-, -, rfl⟩)
        · cases h
        · rfl
  · rename_i found hne hb
    rw [hb]
    constructor
    · intro h
      cases h
    · rintro (⟨⟨_, h⟩, -⟩ | ⟨h, -⟩)
      · cases h
      · exact absurd (Except.ok.inj h) hne

/-- What a pattern names when it does not stop the expansion: its own absolute path, which
exists, when it matches nothing; else the absolute paths of its matches that are files. -/
theorem named_eq_ok {g : List String} (h : named v p = .ok g) :
    v.globbed p = .ok [] ∧ (v.entry? (Path.abs v.cwd p)).isSome ∧ g = [Path.abs v.cwd p] ∨
      ∃ found, found ≠ [] ∧ v.globbed p = .ok found ∧
        g = (found.map (Path.abs v.cwd)).filter v.namesFile := by
  unfold named at h
  split at h
  · cases h
  · rename_i hb
    split at h
    · rename_i hs
      cases h
      exact .inl ⟨hb, hs, rfl⟩
    · cases h
  · rename_i found hne hb
    cases h
    exact .inr ⟨found, hne, hb, rfl⟩

/-- A path a pattern names is its own path, when it matches nothing, or one of its matches
that names a file. -/
theorem mem_named {g : List String} (h : named v p = .ok g) {x : String} :
    x ∈ g ↔ v.globbed p = .ok [] ∧ x = Path.abs v.cwd p ∨
      ∃ found m, v.globbed p = .ok found ∧ m ∈ found ∧ x = Path.abs v.cwd m ∧
        v.namesFile x = true := by
  rcases named_eq_ok h with ⟨hb, -, rfl⟩ | ⟨found, hne, hb, rfl⟩
  · rw [hb]
    constructor
    · intro hx
      exact .inl ⟨rfl, List.mem_singleton.mp hx⟩
    · rintro (⟨-, rfl⟩ | ⟨found, m, h, hm, -⟩)
      · exact List.mem_singleton_self _
      · cases h
        cases hm
  · rw [hb]
    constructor
    · intro hx
      obtain ⟨hx, hfile⟩ := List.mem_filter.mp hx
      obtain ⟨m, hm, rfl⟩ := List.mem_map.mp hx
      exact .inr ⟨found, m, rfl, hm, rfl, hfile⟩
    · rintro (⟨h, -⟩ | ⟨found', m, h, hm, rfl, hfile⟩)
      · exact absurd (Except.ok.inj h) hne
      · cases h
        exact List.mem_filter.mpr ⟨List.mem_map.mpr ⟨m, hm, rfl⟩, hfile⟩

end Named

/-! ## Absolute paths -/

/-- Against an absolute working directory, every path is made absolute and clean. -/
theorem abs_absolute {cwd : String} (hcwd : Path.isAbs cwd = true) (p : String) :
    Path.isAbs (Path.abs cwd p) = true ∧ Path.clean (Path.abs cwd p) = Path.abs cwd p := by
  have hcwd' : cwd ≠ "" := by
    rintro rfl
    cases hcwd
  -- the path is the cleaning of an absolute path either way
  obtain ⟨q, hq, habs⟩ : ∃ q, Path.isAbs q = true ∧ Path.abs cwd p = Path.clean q := by
    unfold Path.abs
    split
    · rename_i hp
      exact ⟨p, hp, rfl⟩
    · by_cases hp : p = ""
      · subst hp
        refine ⟨cwd, hcwd, ?_⟩
        rw [Path.join, List.filter_cons_of_pos (by simpa using hcwd'),
          List.filter_cons_of_neg (by simp), List.filter_nil]
        · rfl
      · refine ⟨cwd ++ "/" ++ p, ?_, Path.join_pair hcwd' hp⟩
        have hne : cwd ++ "/" ≠ "" := by
          intro h
          exact hcwd' (String.append_eq_empty_iff.mp h).1
        rw [Path.isAbs_append _ hne, Path.isAbs_append _ hcwd']
        exact hcwd
  rw [habs, Path.clean_eq_render, Path.isAbs_render (Path.stack_clean q), hq]
  exact ⟨rfl, by rw [← hq, Path.clean_render (Path.stack_clean q)]⟩

/-! ## The whole expansion -/

/-- A pattern stops the expansion: it is malformed, or it matches nothing and nothing is at
its path. -/
def Stops (v : Volume) (pattern : String) : Prop :=
  (∃ b, v.globbed pattern = .error b) ∨
    v.globbed pattern = .ok [] ∧ v.entry? (Path.abs v.cwd pattern) = none

theorem stops_iff {v : Volume} {p : String} : Stops v p ↔ ∃ e, named v p = .error e := by
  simp only [named_eq_error_iff]
  constructor
  · rintro (h | ⟨hb, hn⟩)
    · exact ⟨_, .inl ⟨h, rfl⟩⟩
    · exact ⟨_, .inr ⟨hb, hn, rfl⟩⟩
  · rintro ⟨e, ⟨h, -⟩ | ⟨hb, hn, -⟩⟩
    · exact .inl h
    · exact .inr ⟨hb, hn⟩

/-- What an expansion that does not fail gives. -/
structure Expanded (v : Volume) (ps files : List String) : Prop where
  /-- No pattern stops the expansion. -/
  none_stops : ∀ p ∈ ps, ¬ Stops v p
  /-- Every path once. -/
  distinct : files.Nodup
  /-- In the order the patterns name them, each where it is first named. -/
  first_occurrences : ∃ groups, ps.mapM (named v) = .ok groups ∧ files = groups.flatten.eraseDups
  /-- Every match that names a file. -/
  files_kept : ∀ p ∈ ps, ∀ found, v.globbed p = .ok found → ∀ m ∈ found,
    v.namesFile (Path.abs v.cwd m) = true → Path.abs v.cwd m ∈ files
  /-- Every pattern that matches nothing, by its own path. -/
  unmatched_kept : ∀ p ∈ ps, v.globbed p = .ok [] → Path.abs v.cwd p ∈ files
  /-- A directory only as the path of a pattern that matches nothing. -/
  dirs_unmatched : ∀ x ∈ files, v.entry? x = some .dir →
    ∃ p ∈ ps, v.globbed p = .ok [] ∧ x = Path.abs v.cwd p

/-- Expanding patterns fails exactly at the first pattern, in order, that is malformed or
matches nothing where nothing exists, and with that pattern's reason. Otherwise it gives, with
no path twice and in order of first occurrence, the files among the matches of every pattern
and the path of every pattern that matches nothing; a directory among the matches is left
out. Against an absolute working directory, every path given is absolute and clean. -/
theorem patterns_name_their_files_once (v : Volume) (hcwd : Path.isAbs v.cwd = true)
    (ps : List String) :
    (∀ e, resolvePatterns v ps = .error e ↔
      ∃ pre p post, ps = pre ++ p :: post ∧ (∀ q ∈ pre, ¬ Stops v q) ∧
        ((∃ b, v.globbed p = .error b) ∧ e = .badPattern p ∨
          v.globbed p = .ok [] ∧ v.entry? (Path.abs v.cwd p) = none ∧
            e = .missing (Path.abs v.cwd p))) ∧
    ((∃ p ∈ ps, Stops v p) ↔ ∃ e, resolvePatterns v ps = .error e) ∧
    ∀ files, resolvePatterns v ps = .ok files →
      Expanded v ps files ∧ ∀ x ∈ files, Path.isAbs x = true ∧ Path.clean x = x := by
  have herror : ∀ e, resolvePatterns v ps = .error e ↔
      ∃ pre p post, ps = pre ++ p :: post ∧ (∀ q ∈ pre, ¬ Stops v q) ∧ named v p = .error e := by
    intro e
    rw [resolvePatterns_eq]
    have hmap : (ps.mapM (named v)).map (·.flatten.eraseDups) = .error e ↔
        ps.mapM (named v) = .error e := by
      cases ps.mapM (named v) <;> simp [Except.map]
    rw [hmap, mapM_eq_error_iff]
    constructor
    · rintro ⟨pre, p, post, hps, hpre, hp⟩
      refine ⟨pre, p, post, hps, fun q hq hs => ?_, hp⟩
      obtain ⟨e', he'⟩ := stops_iff.mp hs
      obtain ⟨b, hb⟩ := hpre q hq
      rw [he'] at hb
      cases hb
    · rintro ⟨pre, p, post, hps, hpre, hp⟩
      refine ⟨pre, p, post, hps, fun q hq => ?_, hp⟩
      cases hq' : named v q with
      | error e' => exact absurd (stops_iff.mpr ⟨e', hq'⟩) (hpre q hq)
      | ok b => exact ⟨b, rfl⟩
  have hfiles : ∀ files, resolvePatterns v ps = .ok files →
      Expanded v ps files ∧ ∀ x ∈ files, Path.isAbs x = true ∧ Path.clean x = x := by
    intro files hfiles
    obtain ⟨groups, hgroups, rfl⟩ : ∃ groups, ps.mapM (named v) = .ok groups ∧
        files = groups.flatten.eraseDups := by
      rw [resolvePatterns_eq] at hfiles
      cases hm : ps.mapM (named v) with
      | error e =>
        rw [hm] at hfiles
        cases hfiles
      | ok groups =>
        rw [hm] at hfiles
        cases hfiles
        exact ⟨groups, rfl, rfl⟩
    -- every pattern names something, and a path is given exactly when some pattern names it
    have hok := exists_ok_of_mapM hgroups
    have hmem : ∀ x, x ∈ groups.flatten.eraseDups ↔
        ∃ p ∈ ps, ∃ g, named v p = .ok g ∧ x ∈ g := fun x => by
      rw [List.mem_eraseDups, mem_flatten_of_mapM hgroups]
    refine ⟨⟨fun p hp hs => ?_, resolvePatterns_nodup hfiles, ⟨groups, hgroups, rfl⟩, ?_, ?_, ?_⟩,
      ?_⟩
    · obtain ⟨e, he⟩ := stops_iff.mp hs
      obtain ⟨g, hg⟩ := hok p hp
      rw [he] at hg
      cases hg
    · intro p hp found hfound m hm hfile
      obtain ⟨g, hg⟩ := hok p hp
      exact (hmem _).mpr
        ⟨p, hp, g, hg, (mem_named hg).mpr (.inr ⟨found, m, hfound, hm, rfl, hfile⟩)⟩
    · intro p hp hnone
      obtain ⟨g, hg⟩ := hok p hp
      exact (hmem _).mpr ⟨p, hp, g, hg, (mem_named hg).mpr (.inl ⟨hnone, rfl⟩)⟩
    · intro x hx hdir
      obtain ⟨p, hp, g, hg, hxg⟩ := (hmem x).mp hx
      rcases (mem_named hg).mp hxg with ⟨hnone, rfl⟩ | ⟨found, m, -, -, -, hfile⟩
      · exact ⟨p, hp, hnone, rfl⟩
      · simp [Volume.namesFile, hdir] at hfile
    · intro x hx
      obtain ⟨p, -, g, hg, hxg⟩ := (hmem x).mp hx
      rcases (mem_named hg).mp hxg with ⟨-, rfl⟩ | ⟨found, m, -, -, rfl, -⟩
      · exact abs_absolute hcwd p
      · exact abs_absolute hcwd m
  refine ⟨fun e => ?_, ⟨fun ⟨p, hp, hs⟩ => ?_, fun ⟨e, he⟩ => ?_⟩, hfiles⟩
  · simp only [herror, named_eq_error_iff]
  · -- an expansion that gives files has no pattern that stops it
    cases hr : resolvePatterns v ps with
    | error e => exact ⟨e, rfl⟩
    | ok files => exact absurd hs ((hfiles files hr).1.none_stops p hp)
  · obtain ⟨pre, p, post, rfl, -, hp⟩ := (herror e).mp he
    exact ⟨p, by simp, stops_iff.mpr ⟨e, hp⟩⟩

/-- Against the root, the patterns `*.log` and `notes` name absolute, clean paths. -/
theorem patterns_from_the_root_name_absolute_paths :
    Path.isAbs ({} : Volume).cwd = true ∧
      ∀ files, resolvePatterns {} ["*.log", "notes"] = .ok files →
        ∀ x ∈ files, Path.isAbs x = true ∧ Path.clean x = x :=
  ⟨Path.isAbs_root, fun files h =>
    ((patterns_name_their_files_once {} Path.isAbs_root ["*.log", "notes"]).2.2 files h).2⟩

end LiveTail
