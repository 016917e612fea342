import LiveTail.Lines.Splitter

/-!
# The lines of a byte string

The view a splitter is read against. `Lines.split` cuts a byte string at every newline:
the segments that a newline ends, each without it, and the bytes after the last newline.
A splitter holding a fragment and fed a chunk hands out exactly the lines of the fragment
followed by the chunk, each with one carriage return before its newline dropped, and keeps
exactly the rest; so what it hands out over many chunks depends only on their concatenation.
-/
namespace LiveTail

namespace Lines

/-- Reads on from an open line `acc`: the lines that newlines end, and the open rest. -/
def splitFrom (acc : List UInt8) : List UInt8 → List (List UInt8) × List UInt8
  | [] => ([], acc)
  | c :: cs =>
    if c = 10 then (acc :: (splitFrom [] cs).1, (splitFrom [] cs).2)
    else splitFrom (acc ++ [c]) cs

/-- The segments of a byte string that a newline ends, each without its newline, and the
bytes after the last newline. -/
def split (b : List UInt8) : List (List UInt8) × List UInt8 := splitFrom [] b

/-- A line as it is handed out: one carriage return at its end dropped. -/
def dropReturn (l : List UInt8) : List UInt8 := if l.getLast? = some 13 then l.dropLast else l

@[simp] theorem splitFrom_nil (acc : List UInt8) : splitFrom acc [] = ([], acc) := rfl

theorem splitFrom_newline (acc cs : List UInt8) :
    splitFrom acc (10 :: cs) = (acc :: (splitFrom [] cs).1, (splitFrom [] cs).2) := by
  simp [splitFrom]

theorem splitFrom_cons_of_ne {c : UInt8} (hc : c ≠ 10) (acc cs : List UInt8) :
    splitFrom acc (c :: cs) = splitFrom (acc ++ [c]) cs := by
  simp [splitFrom, hc]

/-- Bytes with no newline only extend the open line. -/
theorem splitFrom_of_newline_free {x : List UInt8} (hx : 10 ∉ x) (acc : List UInt8) :
    splitFrom acc x = ([], acc ++ x) := by
  induction x generalizing acc with
  | nil => simp
  | cons c x ih =>
    have hc : c ≠ 10 := fun h => hx (h ▸ List.mem_cons_self)
    rw [splitFrom_cons_of_ne hc, ih (fun h => hx (List.mem_cons_of_mem c h))]
    simp

/-- Reading `x ++ y` is reading `x`, then reading `y` from the rest `x` left open. -/
theorem splitFrom_append (acc x y : List UInt8) :
    splitFrom acc (x ++ y) =
      ((splitFrom acc x).1 ++ (splitFrom (splitFrom acc x).2 y).1,
        (splitFrom (splitFrom acc x).2 y).2) := by
  induction x generalizing acc with
  | nil => simp
  | cons c x ih =>
    by_cases hc : c = 10
    · subst hc
      rw [List.cons_append, splitFrom_newline, splitFrom_newline, ih]
      simp
    · rw [List.cons_append, splitFrom_cons_of_ne hc, splitFrom_cons_of_ne hc, ih]

/-- The lines and the rest give back the bytes read, each line with its newline. -/
theorem splitFrom_flatten (acc x : List UInt8) :
    (splitFrom acc x).1.flatMap (· ++ [10]) ++ (splitFrom acc x).2 = acc ++ x := by
  induction x generalizing acc with
  | nil => simp
  | cons c x ih =>
    by_cases hc : c = 10
    · subst hc
      rw [splitFrom_newline]
      simp [ih]
    · rw [splitFrom_cons_of_ne hc, ih]
      simp

/-- Read from an open line without a newline, no line and not the rest holds a newline. -/
theorem splitFrom_newline_free {acc : List UInt8} (hacc : 10 ∉ acc) (x : List UInt8) :
    (∀ l ∈ (splitFrom acc x).1, 10 ∉ l) ∧ 10 ∉ (splitFrom acc x).2 := by
  induction x generalizing acc with
  | nil => simpa using hacc
  | cons c x ih =>
    by_cases hc : c = 10
    · subst hc
      rw [splitFrom_newline]
      obtain ⟨hl, hr⟩ := ih (by simp : 10 ∉ ([] : List UInt8))
      exact ⟨by simpa [hacc] using hl, hr⟩
    · rw [splitFrom_cons_of_ne hc]
      exact ih (by simp [hacc, Ne.symm hc])

/-- The view is the one cut of the bytes into newline-free segments each ended by a
newline, and a newline-free rest. -/
theorem split_spec (b : List UInt8) :
    (split b).1.flatMap (· ++ [10]) ++ (split b).2 = b ∧
      (∀ l ∈ (split b).1, 10 ∉ l) ∧ 10 ∉ (split b).2 := by
  unfold split
  exact ⟨by simpa using splitFrom_flatten [] b, splitFrom_newline_free (by simp) b⟩

end Lines

namespace Splitter

theorem getElem?_eq_toList (a : ByteArray) (i : Nat) : a[i]? = a.data.toList[i]? := by
  by_cases h : i < a.size
  · rw [getElem?_pos a i h, Array.getElem?_toList, Array.getElem?_eq_getElem h]
    rfl
  · rw [getElem?_neg a i h, Array.getElem?_toList, Array.getElem?_eq_none]
    simpa using h

theorem extract_toList (a : ByteArray) (i j : Nat) :
    (a.extract i j).data.toList = (a.data.toList.drop i).take (j - i) := by
  simp [List.extract]

@[simp] theorem trimReturn_toList (l : ByteArray) :
    (trimReturn l).data.toList = Lines.dropReturn l.data.toList := by
  have hlast : l.data.toList.getLast? = l[l.size - 1]? := by
    rw [List.getLast?_eq_getElem?, getElem?_eq_toList]
    simp
  unfold trimReturn Lines.dropReturn
  by_cases hs : l.size = 0
  · have hl : l = ByteArray.empty := ByteArray.size_eq_zero_iff.mp hs
    subst hl
    simp
  · rw [← hlast, List.dropLast_eq_take]
    by_cases h13 : l.data.toList.getLast? = some 13
    · rw [if_pos ⟨by omega, h13⟩, if_pos h13, extract_toList]
      simp
    · rw [if_neg (fun h => h13 h.2), if_neg h13]

/-- With no newline found from `i` on, the bytes from `i` on hold none. -/
theorem newlineFrom_eq_none {data : ByteArray} {i : Nat} (h : newlineFrom data i = none) :
    10 ∉ data.data.toList.drop i := by
  induction i using newlineFrom.induct data with
  | case1 i hi hnl => rw [newlineFrom, if_pos hi, if_pos hnl] at h; cases h
  | case2 i hi hnl ih =>
    rw [newlineFrom, if_pos hi, if_neg hnl] at h
    have hi' : i < data.data.toList.length := by simpa using hi
    rw [List.drop_eq_getElem_cons hi']
    intro hmem
    rcases List.mem_cons.mp hmem with h10 | hmem
    · exact hnl (by rw [getElem?_eq_toList, List.getElem?_eq_getElem hi', ← h10])
    · exact ih h hmem
  | case3 i hi =>
    have : data.data.toList.length ≤ i := by simpa using hi
    simp [List.drop_eq_nil_of_le this]

/-- The first newline from `i` on, at `j`, cuts the bytes from `i` on into a newline-free
part, the newline, and the rest. -/
theorem newlineFrom_eq_some {data : ByteArray} {i j : Nat} (h : newlineFrom data i = some j) :
    data.data.toList.drop i = (data.extract i j).data.toList ++ 10 :: data.data.toList.drop (j + 1) ∧
      10 ∉ (data.extract i j).data.toList := by
  induction i using newlineFrom.induct data with
  | case1 i hi hnl =>
    rw [newlineFrom, if_pos hi, if_pos hnl] at h
    injection h with h
    subst h
    have hi' : i < data.data.toList.length := by simpa using hi
    rw [getElem?_eq_toList, List.getElem?_eq_getElem hi'] at hnl
    rw [List.drop_eq_getElem_cons hi', Option.some_inj.mp hnl]
    simp
  | case2 i hi hnl ih =>
    rw [newlineFrom, if_pos hi, if_neg hnl] at h
    have hij : i + 1 ≤ j := newlineFrom_ge data (i + 1) j h
    have hi' : i < data.data.toList.length := by simpa using hi
    have hne : data.data.toList[i] ≠ 10 := fun h10 =>
      hnl (by rw [getElem?_eq_toList, List.getElem?_eq_getElem hi', h10])
    have hext : (data.extract i j).data.toList =
        data.data.toList[i] :: (data.extract (i + 1) j).data.toList := by
      rw [extract_toList, extract_toList, List.drop_eq_getElem_cons hi',
        show j - i = (j - (i + 1)) + 1 by omega, List.take_succ_cons]
    obtain ⟨hdrop, hfree⟩ := ih h
    rw [List.drop_eq_getElem_cons hi', hdrop, hext]
    refine ⟨rfl, ?_⟩
    intro hmem
    rcases List.mem_cons.mp hmem with h10 | hmem
    · exact hne h10.symm
    · exact hfree hmem
  | case3 i hi => rw [newlineFrom, if_neg hi] at h; cases h

/-- Cutting from `i` with the open line starting at `start` hands out, after the lines
already cut, the lines of the bytes from `i` on read from that open line. -/
theorem cut_view (data : ByteArray) (start i : Nat) (lines : Array ByteArray) (h : start ≤ i) :
    (cut data start i lines).1.toList.map (·.data.toList) =
        lines.toList.map (·.data.toList) ++
          (Lines.splitFrom (data.extract start i).data.toList
            (data.data.toList.drop i)).1.map Lines.dropReturn ∧
      (cut data start i lines).2.data.toList =
        (Lines.splitFrom (data.extract start i).data.toList (data.data.toList.drop i)).2 := by
  induction start, i, lines using cut.induct data with
  | case1 start i lines hi hnl ih =>
    rw [cut, if_pos hi, if_pos hnl]
    have hi' : i < data.data.toList.length := by simpa using hi
    rw [getElem?_eq_toList, List.getElem?_eq_getElem hi'] at hnl
    rw [List.drop_eq_getElem_cons hi', Option.some_inj.mp hnl, Lines.splitFrom_newline]
    obtain ⟨hl, hr⟩ := ih (Nat.le_refl _)
    simp only [ByteArray.extract_same, ByteArray.data_empty, Array.toList_empty] at hl hr
    simp [hl, hr]
  | case2 start i lines hi hnl ih =>
    rw [cut, if_pos hi, if_neg hnl]
    have hi' : i < data.data.toList.length := by simpa using hi
    have hne : data.data.toList[i] ≠ 10 := fun h10 =>
      hnl (by rw [getElem?_eq_toList, List.getElem?_eq_getElem hi', h10])
    have hext : (data.extract start (i + 1)).data.toList =
        (data.extract start i).data.toList ++ [data.data.toList[i]] := by
      rw [extract_toList, extract_toList, show i + 1 - start = (i - start) + 1 by omega,
        List.take_add_one, List.getElem?_drop, show start + (i - start) = i by omega,
        List.getElem?_eq_getElem hi']
      rfl
    rw [List.drop_eq_getElem_cons hi', Lines.splitFrom_cons_of_ne hne, ← hext]
    exact ih (by omega)
  | case3 start i lines hi =>
    rw [cut, if_neg hi]
    have hle : data.data.toList.length ≤ i := by simpa using hi
    rw [List.drop_eq_nil_of_le hle, extract_toList, extract_toList,
      List.take_of_length_le (by simp; omega), List.take_of_length_le (by simp)]
    simp

/-- Fed a chunk, a splitter hands out the lines of its fragment followed by the chunk, each
with one carriage return at its end dropped, and keeps their rest as its new fragment. -/
theorem feed_view (s : Splitter) (chunk : ByteArray) :
    (s.feed chunk).1.toList.map (·.data.toList) =
        (Lines.splitFrom s.pending.data.toList chunk.data.toList).1.map Lines.dropReturn ∧
      (s.feed chunk).2.pending.data.toList =
        (Lines.splitFrom s.pending.data.toList chunk.data.toList).2 := by
  unfold feed
  cases hnl : newlineFrom chunk 0 with
  | none =>
    have hfree := newlineFrom_eq_none hnl
    rw [List.drop_zero] at hfree
    simp [Lines.splitFrom_of_newline_free hfree]
  | some j =>
    obtain ⟨hdrop, hfree⟩ := newlineFrom_eq_some hnl
    rw [List.drop_zero] at hdrop
    obtain ⟨hl, hr⟩ := cut_view chunk (j + 1) (j + 1)
      #[trimReturn (s.pending ++ chunk.extract 0 j)] (Nat.le_refl _)
    simp only [ByteArray.extract_same, ByteArray.data_empty, Array.toList_empty] at hl hr
    rw [hdrop, Lines.splitFrom_append, Lines.splitFrom_of_newline_free hfree,
      Lines.splitFrom_newline]
    simp [hl, hr]

end Splitter
end LiveTail
