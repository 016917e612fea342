import LiveTail.Proofs.Resolving
/-!
# What making directories and writing a file change

`MakesDirs allowed v v'` says that `v'` is `v` with missing directories made where `allowed`
admits, and nothing else changed. Making a directory and its parents at a cleaned path makes
directories at or above the path's entry only, on the system's file system, where the path is
made name by name from its text, as off it (`mkdirAll_makesDirs`). Writing a file changes the
entry the path names and the bytes of the node there, and nothing else (`writeFile_ok`).
-/
namespace LiveTail.Volume
open LiveTail.Path

/-! ## Entries and bytes -/

theorem lookup_map_of_fst (l : List (String × Entry)) {f : String × Entry → String × Entry}
    (hf : ∀ p, (f p).1 = p.1) (k : String) :
    (l.map f).lookup k = (l.lookup k).map fun b => (f (k, b)).2 := by
  induction l with
  | nil => rfl
  | cons p l ih =>
    obtain ⟨a, b⟩ := p
    have hfa : f (a, b) = (a, (f (a, b)).2) := Prod.ext (hf _) rfl
    rw [List.map_cons, hfa]
    by_cases h : k = a
    · subst h
      simp
    · have hne : (k == a) = false := by simpa using h
      simp [List.lookup_cons, hne, ih]

/-- Setting an entry changes what is found at its path and nowhere else; the root stays a
directory. -/
theorem entry?_setEntry (v : Volume) (key : String) (e : Entry) (k : String) :
    Volume.entry? (v.setEntry key e) k = if k ≠ "/" ∧ k = key then some e else v.entry? k := by
  unfold setEntry
  by_cases hroot : k = "/"
  · split <;> simp [Volume.entry?, hroot]
  split
  next hany =>
    simp only [Volume.entry?, hroot, if_false, ne_eq, not_false_eq_true, true_and]
    rw [lookup_map_of_fst]
    · split
      next hk =>
        subst hk
        obtain ⟨p, hp, hpk⟩ := List.any_eq_true.mp hany
        have hsome : (v.entries.lookup k).isSome :=
          List.lookup_isSome_iff.mpr ⟨p, hp, beq_iff_eq.mpr (of_decide_eq_true hpk).symm⟩
        obtain ⟨b, hb⟩ := Option.isSome_iff_exists.mp hsome
        simp [hb]
      next => simp
    · -- the update keeps every key
      rintro ⟨k', old⟩
      dsimp only
      split <;> rfl
  next hany =>
    simp only [Volume.entry?, hroot, if_false, List.lookup_append, ne_eq, not_false_eq_true, true_and]
    split
    next hk =>
      subst hk
      have hnone : v.entries.lookup k = none := by
        rw [List.lookup_eq_none_iff]
        intro p hp
        exact bne_iff_ne.mpr fun h => hany (List.any_eq_true.mpr ⟨p, hp, decide_eq_true h.symm⟩)
      simp [hnone]
    next hk =>
      have hne : (k == key) = false := beq_false_of_ne hk
      simp only [List.lookup_cons, hne, List.lookup_nil, Option.or_none]

@[simp] theorem blobs_setEntry (v : Volume) (key : String) (e : Entry) :
    (v.setEntry key e).blobs = v.blobs := by
  unfold setEntry
  split <;> rfl

@[simp] theorem cwd_setEntry (v : Volume) (key : String) (e : Entry) :
    (v.setEntry key e).cwd = v.cwd := by
  unfold setEntry
  split <;> rfl

@[simp] theorem native_setEntry (v : Volume) (key : String) (e : Entry) :
    (v.setEntry key e).native = v.native := by
  unfold setEntry
  split <;> rfl

@[simp] theorem entry?_setBytes (v : Volume) (n : Nat) (data : ByteArray) (k : String) :
    Volume.entry? (v.setBytes n data) k = v.entry? k := rfl

@[simp] theorem cwd_setBytes (v : Volume) (n : Nat) (data : ByteArray) :
    (v.setBytes n data).cwd = v.cwd := rfl

@[simp] theorem bytes_setEntry (v : Volume) (key : String) (e : Entry) (n : Nat) :
    (v.setEntry key e).bytes n = v.bytes n := by
  unfold bytes
  rw [blobs_setEntry]

theorem root_of_entry?_none {v : Volume} {k : String} (h : v.entry? k = none) : k ≠ "/" := by
  rintro rfl
  cases h

theorem bytes_setBytes (v : Volume) (n : Nat) (data : ByteArray) (m : Nat) :
    (v.setBytes n data).bytes m = if m = n ∧ n < v.blobs.size then data else v.bytes m := by
  unfold bytes setBytes
  rw [Array.set!_eq_setIfInBounds, Array.getD_eq_getD_getElem?, Array.getD_eq_getD_getElem?,
    Array.getElem?_setIfInBounds]
  by_cases hm : m = n
  · subst hm
    by_cases hlt : m < v.blobs.size <;> simp [hlt]
  · simp [hm, Ne.symm hm]

theorem bytes_push (v : Volume) (data : ByteArray) (m : Nat) :
    ({ v with blobs := v.blobs.push data } : Volume).bytes m =
      if m = v.blobs.size then data else v.bytes m := by
  unfold bytes
  rw [Array.getD_eq_getD_getElem?, Array.getD_eq_getD_getElem?, Array.getElem?_push]
  split <;> rfl

/-! ## Making directories -/

/-- `v'` is `v` with directories made at missing entries that `allowed` admits: no other
entry changes, nor any bytes, nor the working directory. -/
structure MakesDirs (allowed : String → Prop) (v v' : Volume) : Prop where
  entries : ∀ k, v'.entry? k ≠ v.entry? k →
    allowed k ∧ v.entry? k = none ∧ v'.entry? k = some .dir
  blobs : v'.blobs = v.blobs
  cwd : v'.cwd = v.cwd

namespace MakesDirs

variable {A : String → Prop} {v u w : Volume}

theorem refl (A : String → Prop) (v : Volume) : MakesDirs A v v :=
  ⟨fun _ h => absurd rfl h, rfl, rfl⟩

theorem trans (h : MakesDirs A v u) (h' : MakesDirs A u w) : MakesDirs A v w := by
  refine ⟨fun k hk => ?_, h'.blobs.trans h.blobs, h'.cwd.trans h.cwd⟩
  by_cases hu : u.entry? k = v.entry? k
  · obtain ⟨hA, hnone, hdir⟩ := h'.entries k (hu ▸ hk)
    exact ⟨hA, hu ▸ hnone, hdir⟩
  · obtain ⟨hA, hnone, hdir⟩ := h.entries k hu
    have hw : w.entry? k = u.entry? k := by
      by_contra hw
      rw [(h'.entries k hw).2.1] at hdir
      cases hdir
    exact ⟨hA, hnone, hw ▸ hdir⟩

theorem mono {B : String → Prop} (h : MakesDirs A v u) (hAB : ∀ k, A k → B k) :
    MakesDirs B v u :=
  ⟨fun k hk => (h.entries k hk).imp_left (hAB k), h.blobs, h.cwd⟩

/-- One more directory, where `v` had nothing. -/
theorem setEntry (h : MakesDirs A v u) {k : String} (hA : A k) (hnone : v.entry? k = none) :
    MakesDirs A v (u.setEntry k .dir) := by
  refine ⟨fun k' hk' => ?_, by rw [blobs_setEntry, h.blobs], by rw [cwd_setEntry, h.cwd]⟩
  rw [entry?_setEntry] at hk' ⊢
  split at hk'
  next hkey =>
    obtain ⟨hroot, rfl⟩ := hkey
    exact ⟨hA, hnone, by rw [if_pos ⟨hroot, rfl⟩]⟩
  next hkey =>
    rw [if_neg hkey]
    exact h.entries k' hk'

/-- Where `v'` has a file, `v` had the same. -/
theorem file_entry (h : MakesDirs A v u) {k : String} {n : Nat}
    (hk : u.entry? k = some (.file n)) : v.entry? k = some (.file n) := by
  by_contra hv
  have := h.entries k (by rw [hk]; exact fun he => hv he.symm)
  rw [this.2.2] at hk
  cases hk

/-- A fold of steps that each keep the relation keeps it. -/
theorem foldl {f : Volume → String → Volume} (ks : List String)
    (hf : ∀ k ∈ ks, ∀ u, MakesDirs A v u → MakesDirs A v (f u k)) :
    ∀ u, MakesDirs A v u → MakesDirs A v (ks.foldl f u) := by
  induction ks with
  | nil => exact fun _ h => h
  | cons k ks ih =>
    intro u h
    exact ih (fun k' hk' => hf k' (List.mem_cons_of_mem _ hk')) _ (hf k List.mem_cons_self u h)

end MakesDirs

section
variable {v : Volume} (hcwd : isAbs v.cwd = true)

/-- Off the system's file system, making a directory and its parents makes missing
directories on the way to the entry the path names, and nothing else. -/
theorem mkdirAll_makesDirs_chain {p : String} {v' : Volume} (hnat : v.native = false)
    (h : v.mkdirAll p = .ok v') : MakesDirs (· ∈ chain (v.resolve p)) v v' := by
  unfold mkdirAll at h
  rw [if_neg (by simp [hnat])] at h
  cases hfind : (chain (v.resolve p)).reverse.find? fun k => (v.entry? k).isSome with
  | some k =>
    simp only [hfind] at h
    split at h
    · cases h
      refine MakesDirs.foldl _ (fun k' hk' u hu => ?_) v (MakesDirs.refl _ v)
      split
      · exact hu
      next hnone =>
        have hu_none : u.entry? k' = none := Option.not_isSome_iff_eq_none.mp hnone
        have hv_none : v.entry? k' = none := by
          by_contra hv
          have := (hu.entries k' (by rw [hu_none]; exact fun he => hv he.symm)).2.2
          rw [hu_none] at this
          cases this
        exact hu.setEntry hk' hv_none
    · cases h
  | none =>
    simp only [hfind] at h
    cases h
    refine MakesDirs.foldl _ (fun k' hk' u hu => hu.setEntry hk' ?_) v (MakesDirs.refl _ v)
    have := List.find?_eq_none.mp hfind k' (List.mem_reverse.mpr hk')
    simpa using this

end

theorem parentText_append_slash (a : String) {x : String} (hx : x ≠ "")
    (hxs : '/' ∉ x.toList) : parentText (a ++ "/" ++ x) = a := by
  obtain ⟨c, cs, hc⟩ := List.exists_cons_of_ne_nil
    (List.reverse_ne_nil_iff.mpr (mt String.toList_eq_nil_iff.mp hx))
  have hcs : c ≠ '/' := fun he => hxs (List.mem_reverse.mp (hc ▸ he ▸ List.mem_cons_self))
  have hrev : (a ++ "/" ++ x).toList.reverse = x.toList.reverse ++ '/' :: a.toList.reverse := by
    simp
  rw [parentText, hrev, hc, List.cons_append, List.dropWhile_cons_of_neg (by simpa using hcs),
    ← List.cons_append, ← hc, List.dropWhile_append_of_pos (not_slash_of_not_mem hxs),
    List.dropWhile_cons_of_neg (by simp)]
  simp

theorem parentText_of_not_mem {x : String} (hxs : '/' ∉ x.toList) : parentText x = "" := by
  have hdrop := @List.dropWhile_append_of_pos _ _ _ [] (not_slash_of_not_mem hxs)
  rw [List.append_nil, List.dropWhile_nil] at hdrop
  rw [parentText]
  cases hrev : x.toList.reverse with
  | nil => rfl
  | cons c cs =>
    have hcs : c ≠ '/' := fun he => hxs (List.mem_reverse.mp (hrev ▸ he ▸ List.mem_cons_self))
    rw [hrev] at hdrop
    rw [List.dropWhile_cons_of_neg (by simpa using hcs), hdrop]
    rfl

/-- The text before the last name of a cleaned path is the path of the rest of its stack,
and nothing when that is empty. -/
theorem parentText_render_cons {r : Bool} {n : String} {st : List String}
    (h : Stack r (n :: st)) : parentText (render r (n :: st)) = if st = [] then "" else render r st := by
  have hn := h.kept n List.mem_cons_self
  rw [render_cons hn.1 h.tail.kept]
  unfold child
  split
  next hroot =>
    have hnil : st = [] := by
      by_contra hne
      exact (render_ne_root h.tail hne).1 hroot
    rw [if_pos hnil, show "/" ++ n = "" ++ "/" ++ n by rw [String.empty_append],
      parentText_append_slash _ hn.1 hn.2.2]
  split
  next hdot =>
    have hnil : st = [] := by
      by_contra hne
      exact (render_ne_root h.tail hne).2 hdot
    rw [if_pos hnil, parentText_of_not_mem hn.2.2]
  next hroot hdot =>
    have hne : st ≠ [] := by
      rintro rfl
      cases r
      · exact hdot rfl
      · exact hroot rfl
    rw [if_neg hne, parentText_append_slash _ hn.1 hn.2.2]

/-- One round of making directories as the system does: nothing changes, or the text before
the path's last name is made first, when there is any, and then the directory itself, or
nothing more. -/
theorem mkdirAllNative_succ {v v' : Volume} {p : String} {fuel : Nat}
    (h : v.mkdirAllNative p (fuel + 1) = .ok v') :
    v' = v ∨ ∃ v1, (parentText p = "" ∧ v1 = v ∨
      parentText p ≠ "" ∧ v.mkdirAllNative (parentText p) fuel = .ok v1) ∧
      (v1.mkdirOne p = .ok v' ∨ v' = v1) := by
  rw [mkdirAllNative] at h
  split at h
  · split at h
    · cases h
      exact .inl rfl
    · cases h
  right
  dsimp only at h
  split at h
  next hempty =>
    refine ⟨v, .inl ⟨String.isEmpty_iff.mp hempty, rfl⟩, ?_⟩
    simp only [pure, Except.pure, bind, Except.bind] at h
    cases hm : v.mkdirOne p with
    | ok w =>
      rw [hm] at h
      cases h
      exact .inl rfl
    | error e =>
      rw [hm] at h
      right
      dsimp only at h
      split at h
      · cases h
        rfl
      · cases h
  next hempty =>
    cases hrec : v.mkdirAllNative (parentText p) fuel with
    | error e =>
      rw [hrec] at h
      cases h
    | ok v1 =>
      refine ⟨v1, .inr ⟨fun he => hempty (String.isEmpty_iff.mpr he), rfl⟩, ?_⟩
      rw [hrec] at h
      simp only [bind, Except.bind] at h
      cases hm : v1.mkdirOne p with
      | ok w =>
        rw [hm] at h
        cases h
        exact .inl rfl
      | error e =>
        rw [hm] at h
        right
        dsimp only at h
        split at h
        · cases h
          rfl
        · cases h

/-- Making one directory fails at a cleaned path with no last name, or whose last name is
`..`. -/
theorem mkdirOne_render_error {u u' : Volume} (hcwd : isAbs u.cwd = true) {r : Bool}
    {st : List String} (h : Stack r st) (htop : st = [] ∨ st.head? = some "..") :
    u.mkdirOne (render r st) ≠ .ok u' := by
  intro hone
  obtain ⟨last, hlast, hdot, hdd, -⟩ := mkdirOne_ok hcwd hone
  rcases htop with rfl | htop
  · cases r
    · rw [show render false [] = "." from rfl, names_of_not_mem (n := ".") (by decide)] at hlast
      exact hdot (Option.some.inj hlast).symm
    · rw [show render true [] = "/" from rfl, names_root] at hlast
      cases hlast
  · obtain ⟨t, rfl⟩ : ∃ t, st = ".." :: t := by
      cases st with
      | nil => cases htop
      | cons x t => exact ⟨t, by rw [Option.some.inj htop]⟩
    rw [render_cons (by decide) h.tail.kept, getLast?_names_child _ (by decide) (by decide)] at hlast
    exact hdd (Option.some.inj hlast).symm

/-- Making directories along a relative path of `..`s only makes none. -/
theorem mkdirAllNative_dots {r : Bool} (k : Nat) (h : Stack r (List.replicate k "..")) :
    ∀ {v v' : Volume} {fuel : Nat}, isAbs v.cwd = true →
      v.mkdirAllNative (render r (List.replicate k "..")) fuel = .ok v' → v' = v := by
  induction k with
  | zero =>
    intro v v' fuel hcwd hmk
    cases fuel with
    | zero => cases hmk; rfl
    | succ fuel =>
      rcases mkdirAllNative_succ hmk with rfl | ⟨v1, hpar, hone⟩
      · rfl
      have hv1 : v1 = v := by
        rcases hpar with ⟨-, rfl⟩ | ⟨hne, -⟩
        · rfl
        · cases r
          · exact absurd (parentText_of_not_mem (x := ".") (by decide)) hne
          · exact absurd (by rfl : parentText "/" = "") hne
      subst hv1
      rcases hone with hone | rfl
      · exact absurd hone (mkdirOne_render_error hcwd h (.inl rfl))
      · rfl
  | succ k ih =>
    intro v v' fuel hcwd hmk
    cases fuel with
    | zero => cases hmk; rfl
    | succ fuel =>
      rcases mkdirAllNative_succ hmk with rfl | ⟨v1, hpar, hone⟩
      · rfl
      rw [List.replicate_succ] at h hpar hone
      have hv1 : v1 = v := by
        rw [parentText_render_cons h] at hpar
        split at hpar
        · rcases hpar with ⟨-, rfl⟩ | ⟨hne, -⟩
          · rfl
          · exact absurd rfl hne
        · rcases hpar with ⟨he, -⟩ | ⟨-, hrec⟩
          · exact absurd he (render_ne_empty r _)
          · exact ih h.tail hcwd hrec
      subst hv1
      rcases hone with hone | rfl
      · exact absurd hone (mkdirOne_render_error hcwd h (.inr rfl))
      · rfl

/-- Making directories as the system does along a cleaned path makes missing directories at
or above its entry, and nothing else. -/
theorem mkdirAllNative_makesDirs {r : Bool} {k : Nat} (hk : r = true → k = 0) :
    ∀ {ns : List String}, (∀ n ∈ ns, Plain n) → ∀ {v v' : Volume} {fuel : Nat},
      isAbs v.cwd = true → v.mkdirAllNative (render r (ns ++ List.replicate k "..")) fuel = .ok v' →
      MakesDirs (v.AtOrAbove (render r (ns ++ List.replicate k ".."))) v v' := by
  intro ns
  induction ns with
  | nil =>
    intro _ v v' fuel hcwd hmk
    rw [mkdirAllNative_dots k ⟨[], k, rfl, by simp, hk⟩ hcwd hmk]
    exact MakesDirs.refl _ v
  | cons n ns ih =>
    intro hns v v' fuel hcwd hmk
    have hn := hns n List.mem_cons_self
    have hst : Stack r (n :: (ns ++ List.replicate k "..")) := ⟨n :: ns, k, rfl, hns, hk⟩
    rw [List.cons_append] at hmk ⊢
    cases fuel with
    | zero => cases hmk; exact MakesDirs.refl _ v
    | succ fuel =>
      rcases mkdirAllNative_succ hmk with rfl | ⟨v1, hpar, hone⟩
      · exact MakesDirs.refl _ _
      -- the parents first: nothing when the path has one name, else by induction
      have hv1 : MakesDirs (v.AtOrAbove (render r (n :: (ns ++ List.replicate k "..")))) v v1 := by
        rw [parentText_render_cons hst] at hpar
        split at hpar
        · rcases hpar with ⟨-, rfl⟩ | ⟨hne, -⟩
          · exact MakesDirs.refl _ _
          · exact absurd rfl hne
        · rcases hpar with ⟨he, -⟩ | ⟨-, hrec⟩
          · exact absurd he (render_ne_empty r _)
          · refine (ih (fun m hm => hns m (List.mem_cons_of_mem _ hm)) hcwd hrec).mono ?_
            intro key hkey
            rw [render_cons hn.1 hst.tail.kept]
            exact atOrAbove_child (render_ne_empty r _) hn hkey
      -- then the directory itself, at the path's own entry
      rcases hone with hone | rfl
      · have hcwd1 : isAbs v1.cwd = true := hv1.cwd ▸ hcwd
        obtain ⟨-, -, -, -, hnone, rfl⟩ := mkdirOne_ok hcwd1 hone
        refine hv1.trans ((MakesDirs.refl _ v1).setEntry ?_ hnone)
        rw [resolve_congr hv1.cwd]
        exact atOrAbove_self v hcwd
      · exact hv1

/-- Making a directory and its parents at a cleaned path makes missing directories at or
above the path's entry, and nothing else. -/
theorem mkdirAll_makesDirs {v v' : Volume} (hcwd : isAbs v.cwd = true) {r : Bool}
    {st : List String} (hst : Stack r st) (h : v.mkdirAll (render r st) = .ok v') :
    MakesDirs (v.AtOrAbove (render r st)) v v' := by
  cases hnat : v.native
  · refine (mkdirAll_makesDirs_chain hnat h).mono ?_
    intro k hk
    rw [resolve_eq hcwd] at hk
    exact mem_chain (v.keyStack_stack _) hk
  · unfold mkdirAll at h
    rw [if_pos hnat] at h
    obtain ⟨ns, k, rfl, hns, hk⟩ := hst
    exact mkdirAllNative_makesDirs hk hns hcwd h

/-- A new file at a missing entry: the entry holds a new node, and only that node's bytes
are new. -/
theorem newFile_frame {u u' : Volume} {key : String} (hnone : u.entry? key = none)
    {data : ByteArray}
    (h : u' = { u with blobs := u.blobs.push data }.setEntry key (.file u.blobs.size)) :
    (∀ k, u'.entry? k ≠ u.entry? k → k = key) ∧
      (∀ n, u'.bytes n ≠ u.bytes n → u'.entry? key = some (.file n)) ∧
      u'.entry? key = some (.file u.blobs.size) ∧ u'.bytes u.blobs.size = data := by
  have hkey : u'.entry? key = some (.file u.blobs.size) := by
    rw [h, entry?_setEntry, if_pos ⟨root_of_entry?_none hnone, rfl⟩]
  have hbytes : ∀ n, u'.bytes n = if n = u.blobs.size then data else u.bytes n := by
    intro n
    rw [h, bytes_setEntry]
    exact bytes_push u data n
  refine ⟨fun k hk => ?_, fun n hn => ?_, hkey, by rw [hbytes, if_pos rfl]⟩
  · rw [h, entry?_setEntry] at hk
    split at hk
    next hk' => exact hk'.2
    next => exact absurd rfl hk
  · rw [hbytes] at hn
    split at hn
    next hsize => rw [hsize]; exact hkey
    next => exact absurd rfl hn

/-- New bytes for the file at an entry: only that file's node changes. -/
theorem setBytes_frame {u : Volume} {key : String} {n : Nat} (hfile : u.entry? key = some (.file n))
    (data : ByteArray) :
    (∀ m, (u.setBytes n data).bytes m ≠ u.bytes m → Volume.entry? (u.setBytes n data) key = some (.file m)) ∧
      (n < u.blobs.size → (u.setBytes n data).bytes n = data) := by
  refine ⟨fun m hm => ?_, fun hn => by rw [bytes_setBytes, if_pos ⟨rfl, hn⟩]⟩
  rw [bytes_setBytes] at hm
  split at hm
  next hmn => rw [entry?_setBytes, hmn.1]; exact hfile
  next => exact absurd rfl hm

/-- A write that succeeds changes no entry but the one the path names, and no node but the
file's there; that entry is then a file, which holds the data when its node existed. -/
theorem writeFile_ok {u u' : Volume} (hcwd : isAbs u.cwd = true) {p : String} {data : ByteArray}
    (h : u.writeFile p data = .ok u') :
    (∀ k, u'.entry? k ≠ u.entry? k → k = u.resolve p) ∧
      (∀ n, u'.bytes n ≠ u.bytes n → u'.entry? (u.resolve p) = some (.file n)) ∧ u'.cwd = u.cwd ∧
      ∃ n, u'.entry? (u.resolve p) = some (.file n) ∧
        ((∀ m, u.entry? (u.resolve p) = some (.file m) → m < u.blobs.size) → u'.bytes n = data) := by
  unfold writeFile at h
  dsimp only at h
  split at h
  · cases h
  split at h
  · -- on the system's file system: open with creation, then the bytes
    cases hc : u.create p with
    | error e =>
      rw [hc] at h
      cases h
    | ok r =>
      obtain ⟨n, u1⟩ := r
      rw [hc] at h
      cases h
      rcases create_ok hcwd hc with ⟨hfile, rfl⟩ | ⟨hnone, rfl, rfl⟩
      · obtain ⟨hb, hdata⟩ := setBytes_frame hfile data
        exact ⟨fun k hk => absurd rfl hk, hb, rfl, n, hfile, fun hnodes => hdata (hnodes n hfile)⟩
      · obtain ⟨he, hb, hkey, -⟩ := @newFile_frame _ _ _ hnone ByteArray.empty rfl
        have hsize : u.blobs.size < ({ u with blobs := u.blobs.push .empty }.setEntry (u.resolve p)
            (.file u.blobs.size)).blobs.size := by simp
        obtain ⟨hb', hdata⟩ := setBytes_frame hkey data
        refine ⟨fun k hk => he k (by rwa [entry?_setBytes] at hk), fun m hm => ?_, by simp,
          _, by rw [entry?_setBytes]; exact hkey, fun _ => hdata hsize⟩
        by_cases hm' : (({ u with blobs := u.blobs.push .empty }.setEntry (u.resolve p)
            (.file u.blobs.size)).setBytes u.blobs.size data).bytes m =
            ({ u with blobs := u.blobs.push .empty }.setEntry (u.resolve p) (.file u.blobs.size)).bytes m
        · rw [entry?_setBytes]
          exact hb m (hm' ▸ hm)
        · exact hb' m hm'
  · split at h
    · cases h
    next n hfile =>
      cases h
      obtain ⟨hb, hdata⟩ := setBytes_frame hfile data
      exact ⟨fun k hk => absurd rfl hk, hb, rfl, n, hfile, fun hnodes => hdata (hnodes n hfile)⟩
    next hnone =>
      split at h
      · cases h
      · cases h
      · cases h
        obtain ⟨he, hb, hkey, hdata⟩ := newFile_frame hnone rfl
        exact ⟨he, hb, by rw [cwd_setEntry]; rfl, _, hkey, fun _ => hdata⟩

end LiveTail.Volume
