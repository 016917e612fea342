import LiveTail.Proofs.LineView

/-!
# Lines do not depend on how the bytes were cut

A splitter fed chunks one after another, from a fragment that holds no newline (the empty
one after a reset, say), hands out what cutting all the bytes at once at every newline
gives (`List.splitOn`): every segment but the last, each with one carriage return at its end
dropped, and it keeps the last segment as its fragment. Where the chunks were cut changes
nothing: a carriage return whose newline comes in a later chunk is still dropped, and one
that no newline follows stays in its line. Put back with the newline, or the carriage return
and newline, that ended them in the input, the lines and then the fragment are the bytes
given.

`feedAll_view` is the run lemma over the chunks, built on `feed_view` for one chunk;
`splitFrom_eq_splitOn` ties the splitter's own reading to `List.splitOn`.
-/
namespace LiveTail

namespace Lines

/-- The terminator that ended a segment in the input: a carriage return and a newline when
the segment ends in a carriage return, else a newline. -/
def terminator (l : List UInt8) : List UInt8 := if l.getLast? = some 13 then [13, 10] else [10]

/-- A line put back with the terminator that ended its segment is the segment and its
newline. -/
theorem dropReturn_append_terminator (l : List UInt8) :
    dropReturn l ++ terminator l = l ++ [10] := by
  unfold dropReturn terminator
  split
  · rename_i hlast
    obtain ⟨init, rfl⟩ := List.getLast?_eq_some_iff.mp hlast
    simp
  · rfl

/-- Joining nothing to the first segment changes nothing. -/
theorem modifyHead_nil_append (l : List (List UInt8)) : l.modifyHead ([] ++ ·) = l := by
  cases l <;> simp

/-- Reading `x` from an open line `acc` cuts `x` where `List.splitOn` does, with `acc` in
front of the first segment: the lines read are all segments but the last, and the open
rest is the last. -/
theorem splitFrom_eq_splitOn (acc x : List UInt8) :
    (splitFrom acc x).1 ++ [(splitFrom acc x).2] = (x.splitOn 10).modifyHead (acc ++ ·) := by
  induction x generalizing acc with
  | nil => simp
  | cons c x ih =>
    rw [List.splitOn_cons_eq_if_modifyHead]
    by_cases hc : c = 10
    · subst hc
      rw [splitFrom_newline]
      dsimp only
      rw [List.cons_append, ih [], modifyHead_nil_append]
      simp
    · have hne : (c == 10) = false := by simpa using hc
      rw [splitFrom_cons_of_ne hc, ih, hne, if_neg Bool.false_ne_true, List.modifyHead_modifyHead]
      congr 1
      funext l
      simp

/-- The lines of a byte string are its `List.splitOn` segments but the last, and its open
rest is the last segment. -/
theorem split_eq_splitOn (b : List UInt8) :
    (split b).1 = (b.splitOn 10).dropLast ∧ (b.splitOn 10).getLast? = some (split b).2 := by
  have h := splitFrom_eq_splitOn [] b
  rw [modifyHead_nil_append] at h
  rw [← h, List.dropLast_concat, List.getLast?_concat]
  exact ⟨rfl, rfl⟩

end Lines

namespace Splitter

/-- Feeds chunks one after another: the lines handed out, in order, and the splitter after
the last chunk. -/
def feedAll (s : Splitter) : List ByteArray → List ByteArray × Splitter
  | [] => ([], s)
  | c :: cs =>
    let (lines, s) := s.feed c
    let (rest, s) := s.feedAll cs
    (lines.toList ++ rest, s)

/-- Fed chunks one after another, a splitter hands out the lines of its fragment followed
by all the chunks, each with one carriage return at its end dropped, and keeps their open
rest. -/
theorem feedAll_view (s : Splitter) (chunks : List ByteArray) :
    (s.feedAll chunks).1.map (·.data.toList) =
        (Lines.splitFrom s.pending.data.toList
          (chunks.flatMap (·.data.toList))).1.map Lines.dropReturn ∧
      (s.feedAll chunks).2.pending.data.toList =
        (Lines.splitFrom s.pending.data.toList (chunks.flatMap (·.data.toList))).2 := by
  induction chunks generalizing s with
  | nil => simp [feedAll]
  | cons c cs ih =>
    -- the first chunk is read from the fragment, the others from the fragment it leaves
    obtain ⟨hlines, hrest⟩ := feed_view s c
    obtain ⟨hlines', hrest'⟩ := ih (s.feed c).2
    rw [hrest] at hlines' hrest'
    rw [List.flatMap_cons, Lines.splitFrom_append]
    simp [feedAll, hlines, hlines', hrest']

/-- Lines do not depend on where the bytes were cut. From a fragment with no newline, fed
any chunks, a splitter hands out the segments that cutting the fragment and the chunks at
every newline gives, all but the last, each with one carriage return at its end dropped;
it keeps the last segment; and its lines, each put back with the terminator that ended it
in the input, followed by the fragment it keeps, are the bytes it was given. -/
theorem chunked_lines_follow_the_bytes (p : ByteArray) (hp : 10 ∉ p.data.toList)
    (chunks : List ByteArray) :
    let bytes := p.data.toList ++ chunks.flatMap (·.data.toList)
    let fed := ({ pending := p } : Splitter).feedAll chunks
    fed.1.map (·.data.toList) = (bytes.splitOn 10).dropLast.map Lines.dropReturn ∧
      (bytes.splitOn 10).getLast? = some fed.2.pending.data.toList ∧
      ((fed.1.map (·.data.toList)).zipWith (· ++ ·)
        ((bytes.splitOn 10).dropLast.map Lines.terminator)).flatten ++
          fed.2.pending.data.toList = bytes := by
  intro bytes fed
  obtain ⟨hlines, hrest⟩ := feedAll_view { pending := p } chunks
  -- reading on from a newline-free fragment is reading the fragment and the chunks whole
  have hread : Lines.splitFrom p.data.toList (chunks.flatMap (·.data.toList)) =
      Lines.split bytes := by
    rw [Lines.split, Lines.splitFrom_append, Lines.splitFrom_of_newline_free hp]
    simp
  rw [hread] at hlines hrest
  obtain ⟨hsegs, hlast⟩ := Lines.split_eq_splitOn bytes
  refine ⟨by rw [hlines, hsegs], by rw [hlast, hrest], ?_⟩
  rw [hlines, hrest, ← hsegs, List.zipWith_map, List.zipWith_self]
  simp only [Lines.dropReturn_append_terminator]
  simpa [List.flatMap] using (Lines.split_spec bytes).1

/-- A carriage return at the end of one chunk and its newline at the start of the next end
one line, and a carriage return no newline follows stays in the fragment. -/
theorem crlf_across_chunks_ends_one_line :
    10 ∉ (ByteArray.empty).data.toList ∧
      (({ pending := ByteArray.empty } : Splitter).feedAll
          [⟨#[97, 13]⟩, ⟨#[10, 98, 13]⟩]).1.map (·.data.toList) = [[97]] ∧
      ((({ pending := ByteArray.empty } : Splitter).feedAll
          [⟨#[97, 13]⟩, ⟨#[10, 98, 13]⟩]).2.pending.data.toList = [98, 13]) :=
  ⟨by decide, by
    obtain ⟨hlines, hlast, -⟩ := chunked_lines_follow_the_bytes ByteArray.empty (by decide)
      [⟨#[97, 13]⟩, ⟨#[10, 98, 13]⟩]
    refine ⟨hlines.trans (by decide), ?_⟩
    have h : ([97, 13, 10, 98, 13] : List UInt8).splitOn 10 = [[97, 13], [98, 13]] := by decide
    simpa [h] using hlast.symm⟩

end Splitter
end LiveTail
