/-!
# Splitting a byte stream into lines

A splitter holds the fragment after the last newline it has seen. Fed a chunk, it emits
every line that the chunk completes, without its newline and without one carriage return
before it, and keeps the rest as the new fragment. A carriage return that no newline
follows is content. What it emits depends only on the concatenation of the chunks, not
on where they were cut.
-/
namespace LiveTail

/-- The bytes received after the last newline. -/
structure Splitter where
  pending : ByteArray := ByteArray.empty

namespace Splitter

/-- A line as emitted: one trailing carriage return removed. -/
def trimReturn (l : ByteArray) : ByteArray :=
  if l.size > 0 ∧ l[l.size - 1]? = some 13 then l.extract 0 (l.size - 1)
  else l

/-- Cuts `data` at every newline from `i` on, the current line starting at `start`;
returns the completed lines and the unfinished tail. -/
def cut (data : ByteArray) (start i : Nat) (lines : Array ByteArray) :
    Array ByteArray × ByteArray :=
  if i < data.size then
    if data[i]? = some 10 then cut data (i + 1) (i + 1) (lines.push (trimReturn (data.extract start i)))
    else cut data start (i + 1) lines
  else (lines, data.extract start data.size)
termination_by data.size - i

/-- The first newline at or after `i`. -/
def newlineFrom (data : ByteArray) (i : Nat) : Option Nat :=
  if i < data.size then
    if data[i]? = some 10 then some i else newlineFrom data (i + 1)
  else none
termination_by data.size - i

/-- A newline found from `i` on lies at or after `i`. -/
theorem newlineFrom_ge (data : ByteArray) (i j : Nat) (h : newlineFrom data i = some j) :
    i ≤ j := by
  induction i using newlineFrom.induct data with
  | case1 i hi hnl => rw [newlineFrom, if_pos hi, if_pos hnl] at h; cases h; omega
  | case2 i hi hnl ih =>
    rw [newlineFrom, if_pos hi, if_neg hnl] at h
    have := ih h
    omega
  | case3 i hi => rw [newlineFrom, if_neg hi] at h; cases h

/-- A newline found lies inside the data. -/
theorem newlineFrom_lt (data : ByteArray) (i j : Nat) (h : newlineFrom data i = some j) :
    j < data.size := by
  induction i using newlineFrom.induct data with
  | case1 i hi hnl => rw [newlineFrom, if_pos hi, if_pos hnl] at h; cases h; omega
  | case2 i hi hnl ih => rw [newlineFrom, if_pos hi, if_neg hnl] at h; exact ih h
  | case3 i hi => rw [newlineFrom, if_neg hi] at h; cases h

/-- Feeds a chunk: the lines it completes, in order, and the splitter after it. The
fragment is joined to the chunk's first line only, so a long line fed in small chunks
costs no more than its length. -/
def feed (s : Splitter) (chunk : ByteArray) : Array ByteArray × Splitter :=
  match newlineFrom chunk 0 with
  | none => (#[], { pending := s.pending ++ chunk })
  | some i =>
    let first := trimReturn (s.pending ++ chunk.extract 0 i)
    let (lines, rest) := cut chunk (i + 1) (i + 1) #[first]
    (lines, { pending := rest })

/-- The splitter with no fragment. -/
def reset (_ : Splitter) : Splitter := {}

end Splitter
end LiveTail
