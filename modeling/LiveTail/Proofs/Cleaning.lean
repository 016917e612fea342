import LiveTail.Path.Basic
import Mathlib.Data.String.Basic
/-!
# Cleaning paths by their names

`Path.clean` cuts a path into its names and folds them onto a stack of kept names. The
stacks it can leave are plain names over the `..`s that a relative path keeps in front
(`Stack`), and a cleaned path is the text of such a stack (`render`). On that form a child is
one more name on the stack, the directory of a path is its stack less the last name, and
cleaning a cleaned path, with or without a trailing slash, changes nothing.

Main statement: joining a directory with a name that holds no `..` gives the directory's
cleaned path itself, or a path below it reached through plain names (`join_below`).
-/
namespace LiveTail.Path

/-! ## Names -/

/-- Cutting at a separator of one one-byte character is cutting at the character. -/
theorem splitOnAux_char (s sep : String) (c : Char) (hsep : (0 : String.Pos.Raw).get sep = c)
    (hnext : (0 : String.Pos.Raw).next sep = ⟨1⟩) (hend : String.Pos.Raw.atEnd sep ⟨1⟩ = true)
    (hc : c.utf8Size = 1) (b i : String.Pos.Raw) (r : List String) :
    String.splitOnAux s sep b i 0 r = String.splitAux s (· == c) b i r := by
  fun_induction String.splitAux s (· == c) b i r with
  | case1 b i r h =>
    rw [String.splitOnAux, if_pos h]
  | case2 b i r h _ hsame i' ih =>
    have hget : i.get s = c := by simpa using hsame
    have hback : (i.next s).unoffsetBy ⟨1⟩ = i := by
      ext
      simp only [String.Pos.Raw.next, hget, String.Pos.Raw.byteIdx_unoffsetBy,
        String.Pos.Raw.byteIdx_add_char, hc]
      omega
    rw [String.splitOnAux, if_neg h, if_pos (by rw [hget, hsep]; exact beq_self_eq_true c)]
    dsimp only
    rw [hnext, if_pos hend, hback]
    exact ih
  | case3 b i r h _ hother ih =>
    rw [String.splitOnAux, if_neg h, hsep, if_neg hother, String.Pos.Raw.unoffsetBy_zero]
    exact ih

/-- Cutting at the one-character separator `/` is cutting at the character. -/
theorem splitOnAux_slash (s : String) (b i : String.Pos.Raw) (r : List String) :
    String.splitOnAux s "/" b i 0 r = String.splitAux s (· == '/') b i r :=
  splitOnAux_char s "/" '/' (by decide) (by decide) (by decide) rfl b i r

/-- The names of a path are its characters cut at every slash. -/
theorem names_eq (p : String) : names p = (p.toList.splitOn '/').map String.ofList := by
  rw [names, String.splitOn, if_neg (by decide), splitOnAux_slash]
  exact String.splitToList_of_valid p _

theorem names_append (a b : String) : names (a ++ "/" ++ b) = names a ++ names b := by
  rw [names_eq, names_eq, names_eq, String.toList_append, String.toList_append,
    show "/".toList = ['/'] from rfl, List.append_assoc, List.singleton_append,
    List.splitOn_append_cons_self, List.map_append]

theorem names_of_not_mem {n : String} (h : '/' ∉ n.toList) : names n = [n] := by
  rw [names_eq, List.splitOn_eq_singleton h, List.map_singleton, String.ofList_toList]

theorem names_empty : names "" = [""] := names_of_not_mem (by decide)

theorem names_slash_append (s : String) : names ("/" ++ s) = "" :: names s := by
  rw [show "/" ++ s = "" ++ "/" ++ s by rw [String.empty_append], names_append, names_empty,
    List.singleton_append]

theorem names_root : names "/" = ["", ""] := by
  rw [show "/" = "" ++ "/" ++ "" by rfl, names_append, names_empty]
  rfl

theorem names_intercalate {ns : List String} (hne : ns ≠ []) (h : ∀ n ∈ ns, '/' ∉ n.toList) :
    names ("/".intercalate ns) = ns := by
  rw [names_eq, String.toList_intercalate, show "/".toList = ['/'] from rfl,
    List.splitOn_intercalate _ (by simpa using h) (by simpa using hne), List.map_map,
    show (String.ofList ∘ String.toList) = id from funext fun _ => String.ofList_toList, List.map_id]

/-- A piece of a text cut at its slashes holds no slash. -/
theorem not_mem_of_mem_splitOn {cs l : List Char} (h : l ∈ cs.splitOn '/') : '/' ∉ l := by
  induction cs generalizing l with
  | nil =>
    rw [List.splitOn_nil, List.mem_singleton] at h
    subst h
    exact List.not_mem_nil
  | cons c cs ih =>
    rw [List.splitOn_eq_splitOnP, List.splitOnP_cons_eq_if_modifyHead] at h
    rw [List.splitOn_eq_splitOnP] at ih
    split at h
    next =>
      rcases List.mem_cons.mp h with rfl | h
      · exact List.not_mem_nil
      · exact ih h
    next hc =>
      obtain ⟨hd, tl, heq⟩ := List.exists_cons_of_ne_nil (List.splitOnP_ne_nil (· == '/') cs)
      rw [heq, List.modifyHead_cons] at h
      rcases List.mem_cons.mp h with rfl | h
      · simp only [List.mem_cons, not_or]
        exact ⟨fun h => by simp [← h] at hc, ih (heq ▸ List.mem_cons_self)⟩
      · exact ih (heq ▸ List.mem_cons_of_mem _ h)

/-- A piece of a list joined with a separator stands in the joined list. -/
theorem infix_intercalate {sep l : List Char} :
    ∀ {L : List (List Char)}, l ∈ L → l <:+: sep.intercalate L
  | a :: rest, h => by
    cases rest with
    | nil =>
      obtain rfl := List.mem_singleton.mp h
      simpa only [List.intercalate_singleton] using List.infix_refl l
    | cons b rest =>
      rw [List.intercalate_cons_cons, List.append_assoc]
      rcases List.mem_cons.mp h with rfl | h
      · exact (List.prefix_append _ _).isInfix
      · exact (@infix_intercalate sep l _ h).trans ⟨a ++ sep, [], by simp⟩

theorem infix_of_mem_names {p n : String} (h : n ∈ names p) : n.toList <:+: p.toList := by
  rw [names_eq] at h
  obtain ⟨cs, hcs, rfl⟩ := List.mem_map.mp h
  rw [String.toList_ofList]
  have := @infix_intercalate ['/'] _ _ hcs
  rwa [List.intercalate_splitOn] at this

theorem not_mem_of_mem_names {p n : String} (h : n ∈ names p) : '/' ∉ n.toList := by
  rw [names_eq] at h
  obtain ⟨cs, hcs, rfl⟩ := List.mem_map.mp h
  rw [String.toList_ofList]
  exact not_mem_of_mem_splitOn hcs

theorem isAbs_iff {p : String} : isAbs p = true ↔ p.toList.head? = some '/' := by
  rw [isAbs, String.startsWith_string_iff]
  exact List.singleton_prefix_iff_head?_eq_some

theorem isAbs_slash_append (s : String) : isAbs ("/" ++ s) = true := by
  rw [isAbs_iff]
  simp

theorem isAbs_root : isAbs "/" = true := by
  rw [isAbs_iff]
  simp

theorem isAbs_of_not_mem {x : String} (hx : '/' ∉ x.toList) : isAbs x = false := by
  rw [Bool.eq_false_iff, ne_eq, isAbs_iff]
  intro h
  exact hx (List.mem_of_mem_head? h)

theorem isAbs_append {a : String} (b : String) (ha : a ≠ "") : isAbs (a ++ b) = isAbs a := by
  obtain ⟨c, cs, hcs⟩ := List.exists_cons_of_ne_nil (mt String.toList_eq_nil_iff.mp ha)
  rw [Bool.eq_iff_iff, isAbs_iff, isAbs_iff, String.toList_append, hcs, List.cons_append,
    List.head?_cons, List.head?_cons]


/-! ## Stacks of kept names -/

/-- A name that names a child: not empty, not `.` or `..`, and without a slash. -/
def Plain (n : String) : Prop := n ≠ "" ∧ n ≠ "." ∧ n ≠ ".." ∧ '/' ∉ n.toList

instance : DecidablePred Plain := fun _ => inferInstanceAs (Decidable (_ ∧ _ ∧ _ ∧ _))

/-- The stacks cleaning leaves, last name first: plain names over the `..`s that a relative
path keeps in front, which a rooted path never keeps. -/
def Stack (rooted : Bool) (st : List String) : Prop :=
  ∃ ns k, st = ns ++ List.replicate k ".." ∧ (∀ n ∈ ns, Plain n) ∧ (rooted = true → k = 0)

theorem Stack.nil (r : Bool) : Stack r [] := ⟨[], 0, rfl, by simp, fun _ => rfl⟩

/-- What a stack holds is a name cleaning keeps: not empty, not `.`, without a slash. -/
theorem Stack.kept {r : Bool} {st : List String} (h : Stack r st) :
    ∀ x ∈ st, x ≠ "" ∧ x ≠ "." ∧ '/' ∉ x.toList := by
  obtain ⟨ns, k, rfl, hns, -⟩ := h
  intro x hx
  rcases List.mem_append.mp hx with hx | hx
  · exact ⟨(hns x hx).1, (hns x hx).2.1, (hns x hx).2.2.2⟩
  · rw [List.eq_of_mem_replicate hx]
    decide

/-- A rooted stack holds plain names only. -/
theorem Stack.plain_of_rooted {st : List String} (h : Stack true st) : ∀ x ∈ st, Plain x := by
  obtain ⟨ns, k, rfl, hns, hk⟩ := h
  rw [hk rfl, List.replicate_zero, List.append_nil]
  exact hns

theorem Stack.of_plain {r : Bool} {st : List String} (h : ∀ x ∈ st, Plain x) : Stack r st :=
  ⟨st, 0, (List.append_nil st).symm, h, fun _ => rfl⟩

theorem Stack.tail {r : Bool} {n : String} {st : List String} (h : Stack r (n :: st)) :
    Stack r st := by
  obtain ⟨ns, k, hst, hns, hk⟩ := h
  cases ns with
  | cons m ns =>
    obtain ⟨-, rfl⟩ := List.cons.inj hst
    exact ⟨ns, k, rfl, fun x hx => hns x (List.mem_cons_of_mem _ hx), hk⟩
  | nil =>
    cases k with
    | zero => cases hst
    | succ k =>
      obtain ⟨-, rfl⟩ := List.cons.inj hst
      exact ⟨[], k, rfl, by simp, fun hr => absurd (hk hr) (by omega)⟩

theorem Stack.tail_stack {r : Bool} {st : List String} (h : Stack r st) : Stack r st.tail := by
  cases st with
  | nil => exact h
  | cons n st => exact h.tail

@[simp] theorem push_empty (r : Bool) (st : List String) : push r st "" = st := by
  simp [push]

@[simp] theorem push_dot (r : Bool) (st : List String) : push r st "." = st := by
  simp [push]

theorem push_plain {n : String} (hn : Plain n) (r : Bool) (st : List String) :
    push r st n = n :: st := by
  unfold push
  rw [if_neg (not_or.mpr ⟨hn.1, hn.2.1⟩), if_neg hn.2.2.1]

theorem foldl_push_plain {ns : List String} (h : ∀ n ∈ ns, Plain n) (r : Bool)
    (st : List String) : ns.foldl (push r) st = ns.reverse ++ st := by
  induction ns generalizing st with
  | nil => rfl
  | cons n ns ih =>
    rw [List.foldl_cons, push_plain (h n List.mem_cons_self),
      ih (fun m hm => h m (List.mem_cons_of_mem _ hm))]
    simp

/-- In front of a relative path, `..` stays over the `..`s already there. -/
theorem push_dotdot_replicate (k : Nat) :
    push false (List.replicate k "..") ".." = List.replicate (k + 1) ".." := by
  cases k <;> rfl

/-- Folding a name keeps the stack one cleaning can leave. -/
theorem push_stack {r : Bool} {st : List String} {x : String} (hx : '/' ∉ x.toList)
    (h : Stack r st) : Stack r (push r st x) := by
  obtain ⟨ns, k, rfl, hns, hk⟩ := h
  unfold push
  split
  · exact ⟨ns, k, rfl, hns, hk⟩
  split
  next hdd =>
    -- `..` takes off the last plain name, and otherwise stays in front of a relative path
    cases ns with
    | cons n ns =>
      simp only [List.cons_append]
      rw [if_neg (hns n List.mem_cons_self).2.2.1]
      exact ⟨ns, k, rfl, fun m hm => hns m (List.mem_cons_of_mem _ hm), hk⟩
    | nil =>
      cases k with
      | zero =>
        cases r
        · exact ⟨[], 1, by simp [hdd], by simp, by simp⟩
        · exact Stack.nil true
      | succ k =>
        simp only [List.nil_append, List.replicate_succ, if_true]
        exact ⟨[], k + 2, by simp [hdd, List.replicate_succ], by simp,
          fun hr => absurd (hk hr) (by omega)⟩
  next hempty hdd =>
    exact ⟨x :: ns, k, rfl, fun m hm => (List.mem_cons.mp hm).elim
      (fun h => h ▸ ⟨(not_or.mp hempty).1, (not_or.mp hempty).2, hdd, hx⟩) (hns m), hk⟩

theorem foldl_push_stack {r : Bool} {xs : List String} (hxs : ∀ x ∈ xs, '/' ∉ x.toList) :
    ∀ {st : List String}, Stack r st → Stack r (xs.foldl (push r) st) := by
  induction xs with
  | nil => exact id
  | cons x xs ih =>
    intro st h
    exact ih (fun y hy => hxs y (List.mem_cons_of_mem _ hy)) (push_stack (hxs x List.mem_cons_self) h)

/-- Folding the names of a stack, oldest first, builds the stack again. -/
theorem foldl_push_reverse {r : Bool} {st : List String} (h : Stack r st) :
    st.reverse.foldl (push r) [] = st := by
  obtain ⟨ns, k, rfl, hns, hk⟩ := h
  have hdots : (List.replicate k "..").foldl (push r) [] = List.replicate k ".." := by
    cases r
    · induction k with
      | zero => rfl
      | succ k ih =>
        rw [List.replicate_succ', List.foldl_append, ih (fun h => nomatch h), List.foldl_cons,
          List.foldl_nil, push_dotdot_replicate, List.replicate_succ']
    · rw [hk rfl]
      rfl
  rw [List.reverse_append, List.reverse_replicate, List.foldl_append, hdots,
    foldl_push_plain (fun n hn => hns n (List.mem_reverse.mp hn)), List.reverse_reverse]


/-! ## Cleaned paths as stacks -/

/-- The path of a stack of kept names, last name first: rooted, or relative with `.` for no
name at all. -/
def render (rooted : Bool) (kept : List String) : String :=
  let body := "/".intercalate kept.reverse
  if rooted then "/" ++ body else if body = "" then "." else body

/-- The path of the child `n` of a cleaned path `p`. -/
def child (p n : String) : String :=
  if p = "/" then "/" ++ n else if p = "." then n else p ++ "/" ++ n

theorem render_true (st : List String) : render true st = "/" ++ "/".intercalate st.reverse := rfl

theorem clean_eq_render (p : String) :
    clean p = render (isAbs p) ((names p).foldl (push (isAbs p)) []) := rfl

theorem stack_clean (p : String) : Stack (isAbs p) ((names p).foldl (push (isAbs p)) []) :=
  foldl_push_stack (fun _ hx => not_mem_of_mem_names hx) (Stack.nil _)

theorem intercalate_reverse_cons (n : String) {st : List String} (h : st ≠ []) :
    "/".intercalate (n :: st).reverse = "/".intercalate st.reverse ++ "/" ++ n := by
  rw [List.reverse_cons, String.intercalate_append_of_ne_nil (List.reverse_ne_nil_iff.mpr h)
    (List.cons_ne_nil _ _), String.intercalate_singleton]

theorem head?_intercalate {a : String} (rest : List String) (ha : a ≠ "") :
    ("/".intercalate (a :: rest)).toList.head? = a.toList.head? := by
  obtain ⟨c, cs, hc⟩ := List.exists_cons_of_ne_nil (mt String.toList_eq_nil_iff.mp ha)
  cases rest with
  | nil => rw [String.intercalate_singleton]
  | cons b rest => simp [String.intercalate_cons_cons, hc]

/-- The names of a non-empty stack, joined, are not empty, not rooted, and neither the
root nor `.`. -/
theorem body_of_ne_nil {st : List String} (h : ∀ x ∈ st, x ≠ "" ∧ x ≠ "." ∧ '/' ∉ x.toList)
    (hne : st ≠ []) :
    "/".intercalate st.reverse ≠ "" ∧ isAbs ("/".intercalate st.reverse) = false ∧
      "/".intercalate st.reverse ≠ "/" ∧ "/".intercalate st.reverse ≠ "." := by
  obtain ⟨a, rest, hr⟩ := List.exists_cons_of_ne_nil (List.reverse_ne_nil_iff.mpr hne)
  have ha := h a (List.mem_reverse.mp (hr ▸ List.mem_cons_self))
  obtain ⟨c, cs, hc⟩ := List.exists_cons_of_ne_nil (mt String.toList_eq_nil_iff.mp ha.1)
  have hhead : ("/".intercalate st.reverse).toList.head? = some c := by
    rw [hr, head?_intercalate rest ha.1, hc, List.head?_cons]
  have hcs : c ≠ '/' := fun hslash => ha.2.2 (by rw [hc, hslash]; exact List.mem_cons_self)
  refine ⟨fun he => by simp [he] at hhead, ?_, fun he => by simp [he] at hhead; exact hcs hhead.symm, ?_⟩
  · rw [Bool.eq_false_iff]
    intro habs
    rw [isAbs_iff, hhead] at habs
    exact hcs (Option.some.inj habs)
  · rw [hr]
    cases rest with
    | nil => rw [String.intercalate_singleton]; exact ha.2.1
    | cons b rest =>
      intro hdot
      have : '/' ∈ ("/".intercalate (a :: b :: rest)).toList := by simp [String.intercalate_cons_cons]
      rw [hdot] at this
      simp at this

theorem slash_append_ne_dot (s : String) : "/" ++ s ≠ "." := by
  intro h
  have := congrArg (fun t => t.toList.head?) h
  simp at this

/-- Only the empty stack is the root or `.`. -/
theorem render_ne_root {r : Bool} {st : List String} (h : Stack r st) (hne : st ≠ []) :
    render r st ≠ "/" ∧ render r st ≠ "." := by
  obtain ⟨hbody, -, hslash, hdot⟩ := body_of_ne_nil h.kept hne
  cases r
  · rw [render, if_neg (by decide), if_neg hbody]
    exact ⟨hslash, hdot⟩
  · rw [render, if_pos rfl]
    refine ⟨fun he => hbody ?_, slash_append_ne_dot _⟩
    have := congrArg String.toList he
    rw [String.toList_append] at this
    exact String.toList_eq_nil_iff.mp (List.append_right_eq_self.mp this)

theorem render_ne_empty (r : Bool) (st : List String) : render r st ≠ "" := by
  unfold render
  dsimp only
  split
  · simp
  · split
    · decide
    · assumption

/-- A name put on a stack is a child of the stack's path. -/
theorem render_cons {n : String} (hn : n ≠ "") {r : Bool} {st : List String}
    (hst : ∀ x ∈ st, x ≠ "" ∧ x ≠ "." ∧ '/' ∉ x.toList) :
    render r (n :: st) = child (render r st) n := by
  by_cases hnil : st = []
  · subst hnil
    cases r <;> simp [render, child, hn]
  · obtain ⟨hne, -, hslash, hdot⟩ := body_of_ne_nil hst hnil
    unfold render child
    rw [intercalate_reverse_cons n hnil]
    cases r
    · simp [hne, hslash, hdot, String.append_eq_empty_iff]
    · simp [hne, slash_append_ne_dot, String.append_assoc]


/-- Folding a stack's path gives the stack back. -/
theorem foldl_names_render {r : Bool} {st : List String} (h : Stack r st) :
    (names (render r st)).foldl (push r) [] = st := by
  by_cases hnil : st = []
  · subst hnil
    cases r
    · rw [show render false [] = "." from rfl, names_of_not_mem (by decide)]
      rfl
    · rw [show render true [] = "" ++ "/" ++ "" from rfl, names_append, names_empty]
      rfl
  · have hnames : names ("/".intercalate st.reverse) = st.reverse :=
      names_intercalate (List.reverse_ne_nil_iff.mpr hnil)
        fun x hx => (h.kept x (List.mem_reverse.mp hx)).2.2
    have hne := (body_of_ne_nil h.kept hnil).1
    cases r
    · rw [render, if_neg (by decide), if_neg hne, hnames, foldl_push_reverse h]
    · rw [render, if_pos rfl, show "/" ++ "/".intercalate st.reverse =
        "" ++ "/" ++ "/".intercalate st.reverse by rw [String.empty_append], names_append,
        hnames, names_empty, List.singleton_append, List.foldl_cons,
        push_empty, foldl_push_reverse h]

theorem isAbs_render {r : Bool} {st : List String} (h : Stack r st) : isAbs (render r st) = r := by
  cases r
  · by_cases hnil : st = []
    · subst hnil
      rw [Bool.eq_false_iff, ne_eq, isAbs_iff]
      simp [render]
    · obtain ⟨hne, habs, -⟩ := body_of_ne_nil h.kept hnil
      rw [render, if_neg (by decide), if_neg hne, habs]
  · rw [render, if_pos rfl, isAbs_iff]
    simp

/-- Cleaning a cleaned path changes nothing. -/
theorem clean_render {r : Bool} {st : List String} (h : Stack r st) :
    clean (render r st) = render r st := by
  rw [clean_eq_render, isAbs_render h, foldl_names_render h]

/-- Nor does a trailing slash. -/
theorem clean_render_slash {r : Bool} {st : List String} (h : Stack r st) :
    clean (render r st ++ "/") = render r st := by
  have hnames : names (render r st ++ "/") = names (render r st) ++ [""] := by
    rw [show render r st ++ "/" = render r st ++ "/" ++ "" by rw [String.append_empty],
      names_append, names_empty]
  rw [clean_eq_render, hnames, isAbs_append _ (render_ne_empty r st), isAbs_render h,
    List.foldl_append, foldl_names_render h, List.foldl_cons, push_empty, List.foldl_nil]

theorem not_slash_of_not_mem {x : String} (hx : '/' ∉ x.toList) :
    ∀ c ∈ x.toList.reverse, decide (c ≠ '/') = true := by
  intro c hc
  rw [decide_eq_true_eq]
  rintro rfl
  exact hx (List.mem_reverse.mp hc)

theorem dir_append_slash (a : String) {x : String} (hx : '/' ∉ x.toList) :
    dir (a ++ "/" ++ x) = clean (a ++ "/") := by
  have hrev : (a ++ "/" ++ x).toList.reverse = x.toList.reverse ++ '/' :: a.toList.reverse := by
    simp
  rw [dir, hrev, List.dropWhile_append_of_pos (not_slash_of_not_mem hx),
    List.dropWhile_cons_of_neg (by simp), List.reverse_cons, List.reverse_reverse]
  congr 1
  simp

theorem dir_of_not_mem {x : String} (hx : '/' ∉ x.toList) : dir x = "." := by
  have hdrop := @List.dropWhile_append_of_pos _ _ _ [] (not_slash_of_not_mem hx)
  rw [List.append_nil, List.dropWhile_nil] at hdrop
  rw [dir, hdrop, List.reverse_nil, String.ofList_nil, clean_eq_render, names_empty]
  rfl

/-- The directory of a child is its parent. -/
theorem dir_child {r : Bool} {st : List String} (h : Stack r st) {x : String}
    (hx : '/' ∉ x.toList) : dir (child (render r st) x) = render r st := by
  unfold child
  split
  next hroot =>
    rw [show "/" ++ x = "" ++ "/" ++ x by rw [String.empty_append], dir_append_slash _ hx,
      String.empty_append, ← hroot, clean_render h]
  split
  next hdot => rw [dir_of_not_mem hx, hdot]
  next => rw [dir_append_slash _ hx, clean_render_slash h]

/-- The directory of a cleaned path is the path of its stack less the last name. -/
theorem dir_render_cons {r : Bool} {n : String} {st : List String} (h : Stack r (n :: st)) :
    dir (render r (n :: st)) = render r st := by
  have hn := h.kept n List.mem_cons_self
  rw [render_cons hn.1 h.tail.kept, dir_child h.tail hn.2.2]

theorem dir_render_nil (r : Bool) : dir (render r []) = render r [] := by
  cases r
  · exact dir_of_not_mem (by decide)
  · rw [show render true [] = "" ++ "/" ++ "" from rfl, dir_append_slash _ (by decide),
      String.empty_append]
    exact clean_render (Stack.nil true)

/-- The last name of a child is the child's name. -/
theorem getLast?_names_child (c : String) {n : String} (hn : n ≠ "") (hns : '/' ∉ n.toList) :
    ((names (child c n)).filter (· ≠ "")).getLast? = some n := by
  have hkeep : [n].filter (· ≠ "") = [n] := List.filter_cons_of_pos (by simpa using hn)
  unfold child
  split
  · rw [names_slash_append, names_of_not_mem hns, List.filter_cons_of_neg (by simp), hkeep]
    rfl
  split
  · rw [names_of_not_mem hns, hkeep]
    rfl
  · rw [names_append, names_of_not_mem hns, List.filter_append, hkeep, List.getLast?_append]
    simp

/-- The directory of a cleaned path is the path of its stack less the last name, if any. -/
theorem dir_render {r : Bool} {st : List String} (h : Stack r st) :
    dir (render r st) = render r st.tail := by
  cases st with
  | nil => exact dir_render_nil r
  | cons n st => exact dir_render_cons h

/-- Plain names put on a stack, one after another, give children of children. -/
theorem render_append {ns : List String} (hns : ∀ n ∈ ns, Plain n) {r : Bool}
    {st : List String} (h : Stack r st) : render r (ns.reverse ++ st) = ns.foldl child (render r st) := by
  induction ns generalizing st with
  | nil => rfl
  | cons n ns ih =>
    have hn := hns n List.mem_cons_self
    have hst : Stack r (n :: st) := by
      rw [show n :: st = push r st n from (push_plain hn r st).symm]
      exact push_stack hn.2.2.2 h
    rw [List.reverse_cons, List.append_assoc, List.singleton_append,
      ih (fun m hm => hns m (List.mem_cons_of_mem _ hm)) hst, render_cons hn.1 h.kept, List.foldl_cons]


/-! ## Joining a name to a directory -/

theorem join_pair {a b : String} (ha : a ≠ "") (hb : b ≠ "") :
    join [a, b] = clean (a ++ "/" ++ b) := by
  rw [join, List.filter_cons_of_pos (by simpa using ha), List.filter_cons_of_pos (by simpa using hb),
    List.filter_nil]
  show clean ("/".intercalate [a, b]) = _
  rw [String.intercalate_cons_cons, String.intercalate_singleton]

/-- Names other than `..` fold as the plain names among them. -/
theorem foldl_push_of_ne_dotdot {xs : List String} (h : ∀ x ∈ xs, x ≠ ".." ∧ '/' ∉ x.toList) :
    ∃ ns : List String, (∀ n ∈ ns, Plain n) ∧
      ∀ r st, xs.foldl (push r) st = ns.reverse ++ st := by
  induction xs with
  | nil => exact ⟨[], by simp, fun _ _ => rfl⟩
  | cons x xs ih =>
    obtain ⟨ns, hns, hfold⟩ := ih (fun y hy => h y (List.mem_cons_of_mem _ hy))
    have hx := h x List.mem_cons_self
    by_cases hskip : x = "" ∨ x = "."
    · refine ⟨ns, hns, fun r st => ?_⟩
      rcases hskip with rfl | rfl <;> simp [hfold]
    · have hplain : Plain x := ⟨(not_or.mp hskip).1, (not_or.mp hskip).2, hx.1, hx.2⟩
      refine ⟨x :: ns, fun n hn => ?_, fun r st => ?_⟩
      · rcases List.mem_cons.mp hn with rfl | hn
        exacts [hplain, hns n hn]
      rw [List.foldl_cons, push_plain hplain, hfold]
      simp

/-- Joining a directory with a name that holds no `..` gives the directory's cleaned path
itself, or a path below it reached by plain names. -/
theorem join_below {a b : String} (ha : a ≠ "") (hb : b ≠ "") (hdd : ¬ ['.', '.'] <:+: b.toList) :
    ∃ ns : List String, (∀ n ∈ ns, Plain n) ∧ join [a, b] = ns.foldl child (clean a) := by
  have hnames : ∀ x ∈ names b, x ≠ ".." ∧ '/' ∉ x.toList := fun x hx =>
    ⟨fun he => hdd (by simpa [he] using infix_of_mem_names hx), not_mem_of_mem_names hx⟩
  obtain ⟨ns, hns, hfold⟩ := foldl_push_of_ne_dotdot hnames
  refine ⟨ns, hns, ?_⟩
  rw [join_pair ha hb, clean_eq_render, names_append, isAbs_append _ (by simp),
    isAbs_append _ ha, List.foldl_append, hfold, render_append hns (stack_clean a),
    ← clean_eq_render]

end LiveTail.Path
