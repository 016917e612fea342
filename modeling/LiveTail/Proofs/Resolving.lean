import LiveTail.Proofs.Cleaning
import LiveTail.Volume.Change
/-!
# Which entry a path names

A volume keeps its entries by cleaned absolute path. The entry a path names is the path of
its key stack: its names folded over the root's, or over the working directory's for a
relative path (`keyStack`, `resolve_eq`). A child's stack is one name more than its
parent's. Walking names as the system does, when the walk gets through, ends at that same
entry (`locate_ok`, `locateParent_ok`), so the calls that make a directory or open a file
with creation act where `resolve` says, on the system's file system as off it
(`mkdirOne_ok`, `create_ok`). The directories made on the way to an entry are the entries at
or above it (`mem_chain`, `AtOrAbove`).
-/
namespace LiveTail.Volume
open LiveTail.Path

/-- The stack of names, last first, of the entry a path names: the path's names folded over
the root's, or over the working directory's for a relative path. -/
def keyStack (v : Volume) (p : String) : List String :=
  (names p).foldl (push true) (if isAbs p then [] else (names v.cwd).foldl (push true) [])

theorem keyStack_stack (v : Volume) (p : String) : Stack true (v.keyStack p) := by
  refine foldl_push_stack (fun _ hx => not_mem_of_mem_names hx) ?_
  split
  · exact Stack.nil true
  · exact foldl_push_stack (fun _ hx => not_mem_of_mem_names hx) (Stack.nil true)

section
variable {v : Volume} (hcwd : isAbs v.cwd = true)
include hcwd

theorem cwd_ne_empty : v.cwd ≠ "" := by
  intro h
  rw [h, isAbs_of_not_mem (by simp)] at hcwd
  cases hcwd

/-- The entry a path names is the path of its stack. -/
theorem resolve_eq (p : String) : v.resolve p = render true (v.keyStack p) := by
  unfold resolve keyStack
  split
  next habs => rw [clean_eq_render, habs]
  next =>
    rw [clean_eq_render, names_append, isAbs_append _ (by simp [cwd_ne_empty hcwd]),
      isAbs_append _ (cwd_ne_empty hcwd), hcwd, List.foldl_append]

end

theorem childKey_render (st : List String) (n : String) :
    childKey (render true st) n = child (render true st) n := by
  unfold childKey child
  split
  · rfl
  · rw [if_neg (by rw [render_true]; exact slash_append_ne_dot _)]

theorem child_ne_empty (p : String) {n : String} (hn : n ≠ "") : child p n ≠ "" := by
  unfold child
  split
  · simp
  split
  · exact hn
  · simp [hn]

theorem keyStack_child (v : Volume) {c : String} (hc : c ≠ "") {x : String}
    (hxs : '/' ∉ x.toList) : v.keyStack (child c x) = push true (v.keyStack c) x := by
  unfold child
  split
  next hroot =>
    subst hroot
    unfold keyStack
    rw [isAbs_slash_append, isAbs_root, if_pos rfl, names_slash_append, names_root,
      names_of_not_mem hxs]
    rfl
  split
  next hdot =>
    subst hdot
    unfold keyStack
    rw [isAbs_of_not_mem hxs, isAbs_of_not_mem (x := ".") (by decide), names_of_not_mem hxs,
      names_of_not_mem (n := ".") (by decide)]
    simp only [List.foldl_cons, List.foldl_nil, push_dot]
  next =>
    unfold keyStack
    rw [isAbs_append _ (by simp [hc]), isAbs_append _ hc, names_append, names_of_not_mem hxs,
      List.foldl_append]
    rfl

/-- A child reached by plain names is their stack over the parent's. -/
theorem keyStack_foldl_child (v : Volume) {ns : List String} (hns : ∀ n ∈ ns, Plain n)
    {c : String} (hc : c ≠ "") : v.keyStack (ns.foldl child c) = ns.reverse ++ v.keyStack c := by
  induction ns generalizing c with
  | nil => rfl
  | cons n ns ih =>
    have hn := hns n List.mem_cons_self
    rw [List.foldl_cons, ih (fun m hm => hns m (List.mem_cons_of_mem _ hm)) (child_ne_empty c hn.1),
      keyStack_child v hc hn.2.2.2, push_plain hn]
    simp


/-! ## Walking names -/

/-- Where walking names from `cur` leads when the walk gets through: `.` stays, `..` goes to
the directory, and a name to the child. -/
def descend (cur : String) : List String → String
  | [] => cur
  | n :: rest =>
    if n = "." then descend cur rest
    else if n = ".." then descend (Path.dir cur) rest
    else descend (childKey cur n) rest

theorem descend_append (cur : String) (xs ys : List String) :
    descend cur (xs ++ ys) = descend (descend cur xs) ys := by
  induction xs generalizing cur with
  | nil => rfl
  | cons n xs ih =>
    simp only [List.cons_append, descend]
    split
    · exact ih cur
    split
    · exact ih _
    · exact ih _

/-- A walk that gets through ends where the names lead. -/
theorem walk_ok {v : Volume} {cur : String} {t : Bool} {ns : List String} {key : String}
    (h : v.walk cur t ns = .ok key) : key = descend cur ns := by
  induction ns generalizing cur with
  | nil =>
    cases h
    rfl
  | cons n rest ih =>
    unfold walk at h
    unfold descend
    split at h
    next hdot => rw [if_pos hdot]; exact ih h
    rw [if_neg ‹_›]
    split at h
    next hdd => rw [if_pos hdd]; exact ih h
    rw [if_neg ‹_›]
    dsimp only at h
    split at h
    · cases h
    · exact ih h
    · split at h
      next hlast =>
        cases h
        rw [List.isEmpty_iff.mp hlast.1]
        rfl
      · cases h

/-- On a rooted path, `..` is the directory. -/
theorem dir_render_dotdot {st : List String} (h : Stack true st) :
    Path.dir (render true st) = render true (push true st "..") := by
  cases st with
  | nil =>
    rw [dir_render_nil]
    rfl
  | cons m st =>
    have hm := h.plain_of_rooted m List.mem_cons_self
    rw [dir_render_cons h]
    unfold push
    rw [if_neg (by decide), if_pos rfl]
    dsimp only
    rw [if_neg hm.2.2.1]

theorem childKey_render_plain {n : String} (hn : Plain n) {st : List String} (h : Stack true st) :
    childKey (render true st) n = render true (n :: st) := by
  rw [childKey_render, render_cons hn.1 h.kept]

/-- Walking names from a rooted path folds them onto its stack. -/
theorem descend_render {st : List String} (h : Stack true st) {ns : List String}
    (hns : ∀ n ∈ ns, n ≠ "" ∧ '/' ∉ n.toList) :
    descend (render true st) ns = render true (ns.foldl (push true) st) := by
  induction ns generalizing st with
  | nil => rfl
  | cons n ns ih =>
    have hn := hns n List.mem_cons_self
    have hns' := fun m hm => hns m (List.mem_cons_of_mem _ hm)
    have hpush := push_stack (x := n) hn.2 h
    rw [descend, List.foldl_cons]
    split
    next hdot =>
      subst hdot
      rw [push_dot] at hpush ⊢
      exact ih h hns'
    split
    next hdd =>
      subst hdd
      rw [dir_render_dotdot h]
      exact ih hpush hns'
    next hdot hdd =>
      have hplain : Plain n := ⟨hn.1, hdot, hdd, hn.2⟩
      rw [push_plain hplain] at hpush ⊢
      rw [childKey_render_plain hplain h]
      exact ih hpush hns'

theorem foldl_push_filter (r : Bool) (xs : List String) (st : List String) :
    (xs.filter (· ≠ "")).foldl (push r) st = xs.foldl (push r) st := by
  induction xs generalizing st with
  | nil => rfl
  | cons x xs ih =>
    by_cases hx : x = ""
    · subst hx
      rw [List.filter_cons_of_neg (by simp), List.foldl_cons, push_empty, ih]
    · rw [List.filter_cons_of_pos (by simpa using hx), List.foldl_cons, List.foldl_cons, ih]

section
variable {v : Volume} (hcwd : isAbs v.cwd = true)
include hcwd

/-- A walk from where a path starts, through its names, leads to the entry the path names. -/
theorem descend_start (p : String) : descend (v.start p).1 (v.start p).2.1 = v.resolve p := by
  have horigin : (v.start p).1 =
      render true (if isAbs p then [] else (names v.cwd).foldl (push true) []) := by
    unfold start
    split
    · rfl
    · rw [clean_eq_render, hcwd]
  have hstack : Stack true (if isAbs p then [] else (names v.cwd).foldl (push true) []) := by
    split
    · exact Stack.nil true
    · exact foldl_push_stack (fun _ hx => not_mem_of_mem_names hx) (Stack.nil true)
  rw [horigin, resolve_eq hcwd, keyStack]
  unfold start
  dsimp only
  rw [descend_render hstack, foldl_push_filter]
  intro n hn
  obtain ⟨hmem, hne⟩ := List.mem_filter.mp hn
  exact ⟨by simpa using hne, not_mem_of_mem_names hmem⟩

/-- A path that is found is found at the entry it names. -/
theorem locate_ok {p k : String} (h : v.locate p = .ok k) : k = v.resolve p := by
  unfold locate at h
  split at h
  · cases h
  · rw [walk_ok h]
    exact descend_start hcwd p

/-- The directory found for a path's last name holds the entry the path names, when that
name is neither `.` nor `..`. -/
theorem locateParent_ok {p d last : String} {tr : Bool}
    (h : v.locateParent p = .ok (d, last, tr)) :
    ((names p).filter (· ≠ "")).getLast? = some last ∧
      (last ≠ "." → last ≠ ".." → childKey d last = v.resolve p) := by
  unfold locateParent at h
  split at h
  · cases h
  have hnames : (v.start p).2.1 = (names p).filter (· ≠ "") := rfl
  generalize hs : v.start p = s at h hnames
  obtain ⟨origin, ns, trailing⟩ := s
  dsimp only at h hnames
  split at h
  · cases h
  next last' hlast =>
  cases hw : v.walk origin true ns.dropLast with
  | error e =>
    rw [hw] at h
    cases h
  | ok d' =>
    rw [hw] at h
    cases h
    refine ⟨hnames ▸ hlast, fun hdot hdd => ?_⟩
    have hstart := descend_start hcwd p
    rw [hs] at hstart
    dsimp only at hstart
    obtain ⟨ys, rfl⟩ := List.getLast?_eq_some_iff.mp hlast
    rw [List.dropLast_concat] at hw
    rw [← hstart, descend_append, ← walk_ok hw]
    simp [descend, hdot, hdd]

end


/-! ## Making one directory and opening a file with creation -/

section
variable {v : Volume} (hcwd : isAbs v.cwd = true)
include hcwd

/-- Making one directory puts a directory at the missing entry the path names, whose last
name is a plain one. -/
theorem mkdirOne_ok {p : String} {v' : Volume} (h : v.mkdirOne p = .ok v') :
    ∃ last, ((names p).filter (· ≠ "")).getLast? = some last ∧ last ≠ "." ∧ last ≠ ".." ∧
      v.entry? (v.resolve p) = none ∧ v' = v.setEntry (v.resolve p) .dir := by
  unfold mkdirOne at h
  cases hlp : v.locateParent p with
  | error e =>
    rw [hlp] at h
    cases h
  | ok t =>
    obtain ⟨d, name, tr⟩ := t
    rw [hlp] at h
    obtain ⟨hlast, hkey⟩ := locateParent_ok hcwd hlp
    simp only [bind, Except.bind] at h
    split at h
    · cases h
    next hname =>
      obtain ⟨hdot, hdd⟩ := not_or.mp hname
      rw [hkey hdot hdd] at h
      split at h
      · cases h
      next hnone =>
        cases h
        exact ⟨name, hlast, hdot, hdd, hnone, rfl⟩

/-- Opening a path for writing with creation finds the file at the entry the path names,
or puts a new empty node there. -/
theorem create_ok {p : String} {n : Nat} {v' : Volume} (h : v.create p = .ok (n, v')) :
    (v.entry? (v.resolve p) = some (.file n) ∧ v' = v) ∨
      (v.entry? (v.resolve p) = none ∧ n = v.blobs.size ∧
        v' = { v with blobs := v.blobs.push .empty }.setEntry (v.resolve p) (.file n)) := by
  unfold create at h
  cases hlp : v.locateParent p with
  | error e =>
    rw [hlp] at h
    cases h
  | ok t =>
    obtain ⟨d, name, tr⟩ := t
    rw [hlp] at h
    obtain ⟨-, hkey⟩ := locateParent_ok hcwd hlp
    simp only [bind, Except.bind] at h
    split at h
    · cases h
    next hname =>
      obtain ⟨-, hdot, hdd⟩ := by simpa only [not_or] using hname
      rw [hkey hdot hdd] at h
      split at h
      · cases h
      next m hfile =>
        cases h
        exact .inl ⟨hfile, rfl⟩
      next hnone =>
        cases h
        exact .inr ⟨hnone, rfl, rfl⟩

end

theorem keyStack_congr {u v : Volume} (h : u.cwd = v.cwd) : u.keyStack = v.keyStack := by
  funext p
  unfold keyStack
  rw [h]

theorem resolve_congr {u v : Volume} (h : u.cwd = v.cwd) : u.resolve = v.resolve := by
  funext p
  unfold resolve
  rw [h]

theorem filter_names_render_true {st : List String} (h : Stack true st) :
    (names (render true st)).filter (· ≠ "") = st.reverse := by
  rw [render_true, names_slash_append, List.filter_cons_of_neg (by simp)]
  by_cases hnil : st = []
  · subst hnil
    rw [List.reverse_nil, String.intercalate_nil, names_empty]
    rfl
  · rw [names_intercalate (List.reverse_ne_nil_iff.mpr hnil)
      fun x hx => (h.kept x (List.mem_reverse.mp hx)).2.2]
    exact List.filter_eq_self.mpr fun x hx => by
      simpa using (h.kept x (List.mem_reverse.mp hx)).1

/-- The paths made on the way to a rooted path are the paths of its stack's suffixes. -/
theorem mem_chain {st : List String} (h : Stack true st) {k : String}
    (hk : k ∈ chain (render true st)) : ∃ t, t <:+ st ∧ k = render true t := by
  unfold chain at hk
  rw [filter_names_render_true h] at hk
  obtain ⟨i, -, rfl⟩ := List.mem_map.mp hk
  refine ⟨(st.reverse.take (i + 1)).reverse, ?_, ?_⟩
  · rw [← List.reverse_prefix, List.reverse_reverse]
    exact List.take_prefix _ _
  · rw [render_true, List.reverse_reverse]

/-- The entries at or above a path's entry: the paths of the suffixes of its stack. -/
def AtOrAbove (v : Volume) (p k : String) : Prop := ∃ t, t <:+ v.keyStack p ∧ k = render true t

/-- What is at or above a path is at or above each of its children. -/
theorem atOrAbove_child {v : Volume} {c : String} (hc : c ≠ "") {n : String} (hn : Plain n)
    {k : String} (hk : v.AtOrAbove c k) : v.AtOrAbove (child c n) k := by
  obtain ⟨t, ht, rfl⟩ := hk
  refine ⟨t, ?_, rfl⟩
  rw [keyStack_child v hc hn.2.2.2, push_plain hn]
  exact ht.trans (List.suffix_cons n _)

theorem atOrAbove_self (v : Volume) {p : String} (hcwd : isAbs v.cwd = true) :
    v.AtOrAbove p (v.resolve p) :=
  ⟨v.keyStack p, List.suffix_refl _, resolve_eq hcwd p⟩

end LiveTail.Volume
