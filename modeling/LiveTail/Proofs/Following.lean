import LiveTail.Proofs.Reading
import LiveTail.Proofs.LineView

/-!
# Following a file that only grows

A session reads its file's node from the offset it started at. As long as the node only
grows, whatever falls between two polls and whatever size the reads take, the bytes the
session has read so far, cut at their newlines, are exactly what it has handed out and what
it holds: one line delivery per finished line, in file order, each with one carriage return
before its newline dropped, and the bytes after the last newline as the splitter's fragment.
Nothing is lost when a line, or a carriage return and its newline, is spread over several
reads, and nothing is handed out twice. This holds after every poll that neither ended the
session nor left it cancelled, under either way of dispatch.

The step lemmas say what one poll (`Follows.poll`) and one change of the volume
(`Follows.grow`) keep; `Tailing` is a run of them and `Tailing.follows` the run lemma.
-/
namespace LiveTail
namespace Session

/-- A reaction that leaves the session uncancelled leaves it as it was. -/
theorem react_eq_of_not_cancelled {s : Session} {r : Reaction}
    (h : (s.react r).1.cancelled = false) : (s.react r).1 = s := by
  cases r with
  | stopOwn => simp [react] at h
  | stopAll => simp [react] at h
  | stop id =>
    simp only [react, Bool.or_eq_false_iff, decide_eq_false_iff_not] at h ⊢
    obtain ⟨h1, h2⟩ := h
    cases s
    simp_all
  | none => rfl
  | fail value => rfl

/-- Lines handed out to a session that stays uncancelled and is not ended by them: each is
heard in order, when the listener hears lines, and nothing else of the poll changes. -/
theorem deliver_of_not_cancelled (d : Dispatch) (p : Poll) (lines : List ByteArray)
    (hend : (deliver d p lines).ending = none)
    (hc : (deliver d p lines).session.cancelled = false) :
    (deliver d p lines).session = p.session ∧ (deliver d p lines).volume = p.volume ∧
      (deliver d p lines).heard.toList = p.heard.toList ++
        (if p.session.listener.hearsLines then
          lines.map (.line p.session.number p.session.id) else []) := by
  induction p, lines using deliver.induct d with
  | case1 p => simp [deliver]
  | case2 p line rest s hcan => simp [deliver, s, hcan] at hc
  | case3 p line rest s hcan htrig value hfail hd =>
    simp [deliver, s, hcan, htrig, hfail, hd] at hend
  | case4 p line rest s hcan heard p' htrig value hfail hd ih =>
    simp only [deliver, s, hcan, htrig, hfail, hd, Bool.false_eq_true, if_false, if_true]
      at hend hc ⊢
    obtain ⟨h1, h2, h3⟩ := ih hend hc
    refine ⟨h1, h2, ?_⟩
    rw [h3]
    by_cases hl : p.session.listener.hearsLines <;> simp [p', heard, s, hl]
  | case5 p line rest s hcan heard p' htrig s' reqs hnf hreact ih =>
    have hstep : deliver d p (line :: rest) =
        deliver d { p' with session := s', requests := p'.requests ++ reqs } rest :=
      deliver_react hcan htrig hnf hreact rfl
    rw [hstep] at hend hc ⊢
    obtain ⟨h1, h2, h3⟩ := ih hend hc
    have hs' : s' = p.session := by
      have hsc : s'.cancelled = false := by rw [h1] at hc; exact hc
      have hkeep := react_eq_of_not_cancelled (s := p.session) (r := p.session.listener.reaction)
      rw [show p.session.react p.session.listener.reaction = (s', reqs) from hreact] at hkeep
      exact hkeep hsc
    refine ⟨h1.trans hs', h2, ?_⟩
    rw [h3]
    by_cases hl : p.session.listener.hearsLines <;> simp [p', heard, s, hs', hl]
  | case6 p line rest s hcan heard p' htrig ih =>
    simp only [deliver, s, hcan, htrig, Bool.false_eq_true, if_false] at hend hc ⊢
    obtain ⟨h1, h2, h3⟩ := ih hend hc
    refine ⟨h1, h2, ?_⟩
    rw [h3]
    by_cases hl : p.session.listener.hearsLines <;> simp [p', heard, s, hl]

/-- A poll that does not end the session read a chunk, found the file no smaller than it
was at the last poll, fed the chunk to the splitter and handed out the lines it completed. -/
theorem poll_of_ending_none {o : TailOptions} {v : Volume} {s : Session}
    (h : (s.poll o v).ending = none) :
    ∃ data c v₁ size v₂, s.cursor.read v o.bufferSize = (.ok data, c, v₁) ∧
      c.size v₁ = (.ok size, v₂) ∧ s.lastSize ≤ size ∧
      s.poll o v = deliver o.dispatch
        { session := { s with cursor := c, lastSize := size, splitter := (s.splitter.feed data).2 },
          volume := v₂, read := data.size } (s.splitter.feed data).1.toList := by
  unfold poll at h ⊢
  rcases hr : s.cursor.read v o.bufferSize with ⟨_ | data, c, v₁⟩
  · simp [hr] at h
  · rcases hs : c.size v₁ with ⟨_ | size, v₂⟩
    · simp [hr, hs] at h
    · by_cases hlt : size < s.lastSize
      · simp [hr, hs, hlt] at h
      · refine ⟨data, c, v₁, size, v₂, rfl, hs, by omega, ?_⟩
        simp [hs, hlt]

/-- What a session handed out and holds is the bytes `b` cut into lines: one line delivery
of the session per finished line, in order, each with one carriage return before its newline
dropped (none when its listener does not hear lines), and the open rest as its fragment. -/
def Cuts (b : List UInt8) (s : Session) (heard : List Delivery) : Prop :=
  (∃ texts : List ByteArray, heard = texts.map (.line s.number s.id) ∧
    texts.map (·.data.toList) =
      if s.listener.hearsLines then (Lines.split b).1.map Lines.dropReturn else []) ∧
  s.splitter.pending.data.toList = (Lines.split b).2

/-- A session reading node `n` of `v` since offset `start`, having handed out `heard`: its
offset lies between `start` and the node's end, the size it saw last is at most the node's
size, and the bytes from `start` to its offset are cut into what it handed out and holds. -/
def Follows (v : Volume) (n start : Nat) (s : Session) (heard : List Delivery) : Prop :=
  ∃ h : Handle, s.cursor.handle = some h ∧ h.node = some n ∧ start ≤ h.offset ∧
    h.offset ≤ (v.bytes n).size ∧ s.lastSize ≤ (v.bytes n).size ∧
    Cuts ((v.bytes n).extract start h.offset).data.toList s heard

end Session

namespace Volume

/-- Node `n` only grew from `v` to `v'`: its old bytes are the start of its new ones. -/
def Grows (n : Nat) (v v' : Volume) : Prop := ∃ extra, v'.bytes n = v.bytes n ++ extra

end Volume

namespace Session

/-- A session launched from offset `start` has handed out nothing and holds nothing. -/
theorem follows_launch {v : Volume} {n start : Nat} {s : Session} {h : Handle}
    (hh : s.cursor.handle = some h) (hn : h.node = some n) (hoff : h.offset = start)
    (hle : start ≤ (v.bytes n).size) (hlast : s.lastSize ≤ (v.bytes n).size)
    (hsplit : s.splitter.pending = ByteArray.empty) : Follows v n start s [] := by
  refine ⟨h, hh, hn, by omega, by omega, hlast, ⟨[], by simp, ?_⟩, ?_⟩
  · subst hoff
    split <;> simp [Lines.split]
  · subst hoff
    simp [hsplit, Lines.split]

/-- Growth of the node keeps what a session follows: the bytes it read are still there. -/
theorem Follows.grow {v v' : Volume} {n start : Nat} {s : Session} {heard : List Delivery}
    (hf : Follows v n start s heard) (hg : v.Grows n v') : Follows v' n start s heard := by
  obtain ⟨h, hh, hn, hstart, hoff, hlast, hcuts⟩ := hf
  obtain ⟨extra, hext⟩ := hg
  have hsize : (v'.bytes n).size = (v.bytes n).size + extra.size := by
    rw [hext, ByteArray.size_append]
  have hread : (v'.bytes n).extract start h.offset = (v.bytes n).extract start h.offset := by
    rw [hext, ByteArray.extract_append,
      ByteArray.extract_eq_empty_iff.mpr (by omega : min (h.offset - (v.bytes n).size) extra.size
        ≤ start - (v.bytes n).size), ByteArray.append_empty]
  exact ⟨h, hh, hn, hstart, by omega, by omega, hread ▸ hcuts⟩

/-- Cutting the bytes read so far and then a chunk: the lines the splitter completes from
its fragment and the chunk follow the earlier lines, and its new fragment is the new rest. -/
theorem Cuts.feed {b : List UInt8} {s : Session} {heard : List Delivery} (hc : Cuts b s heard)
    (chunk : ByteArray) :
    Cuts (b ++ chunk.data.toList) { s with splitter := (s.splitter.feed chunk).2 }
      (heard ++ if s.listener.hearsLines then
        (s.splitter.feed chunk).1.toList.map (.line s.number s.id) else []) := by
  obtain ⟨⟨texts, hheard, htexts⟩, hpend⟩ := hc
  obtain ⟨hlines, hrest⟩ := Splitter.feed_view s.splitter chunk
  have hsplit : Lines.split (b ++ chunk.data.toList) =
      ((Lines.split b).1 ++ (Lines.splitFrom s.splitter.pending.data.toList chunk.data.toList).1,
        (Lines.splitFrom s.splitter.pending.data.toList chunk.data.toList).2) := by
    rw [Lines.split, Lines.splitFrom_append, ← Lines.split, hpend]
  refine ⟨⟨texts ++ if s.listener.hearsLines then (s.splitter.feed chunk).1.toList else [],
    ?_, ?_⟩, ?_⟩
  · by_cases hl : s.listener.hearsLines <;> simp [hheard, hl]
  · rw [hsplit]
    by_cases hl : s.listener.hearsLines <;> simp_all
  · rw [hsplit]
    exact hrest

/-- A poll that neither ends the session nor leaves it cancelled keeps what it follows: the
chunk read extends the bytes read, and the lines it completes are handed out after the
earlier ones. -/
theorem Follows.poll {o : TailOptions} {v : Volume} {n start : Nat} {s : Session}
    {heard : List Delivery} (hf : Follows v n start s heard)
    (hend : (s.poll o v).ending = none) (hc : (s.poll o v).session.cancelled = false) :
    Follows (s.poll o v).volume n start (s.poll o v).session
      (heard ++ (s.poll o v).heard.toList) := by
  obtain ⟨h, hh, hn, hstart, hoff, hlast, hcuts⟩ := hf
  obtain ⟨data, c, v₁, size, v₂, hr, hs, hle, hpoll⟩ := poll_of_ending_none hend
  obtain ⟨h₀, h', hh₀, hvr, rfl⟩ := Cursor.read_eq_ok hr
  obtain rfl : h = h₀ := Option.some_inj.mp (hh.symm.trans hh₀)
  obtain ⟨hb₁, node, hnode, rfl, hdata⟩ := Volume.read_eq_ok hvr
  obtain rfl : n = node := Option.some_inj.mp (hn.symm.trans hnode)
  obtain ⟨hb₂, hsize⟩ := Cursor.size_eq_ok
    (h := { h with offset := max h.offset (min (v.bytes n).size (h.offset + o.bufferSize)) })
    rfl hn hs
  have hbytes : v₂.bytes = v.bytes := by
    rw [Volume.bytes_eq_of_blobs hb₂, Volume.bytes_eq_of_blobs hb₁]
  rw [Volume.bytes_eq_of_blobs hb₁] at hsize
  rw [hpoll] at hend hc ⊢
  obtain ⟨hsess, hvol, hheard⟩ := deliver_of_not_cancelled _ _ _ hend hc
  rw [hsess, hvol, hheard]
  unfold Follows
  rw [hbytes]
  -- the bytes read so far, then the chunk just read
  have hread : ((v.bytes n).extract start
      (max h.offset (min (v.bytes n).size (h.offset + o.bufferSize)))).data.toList =
      ((v.bytes n).extract start h.offset).data.toList ++ data.data.toList := by
    rw [hdata, ← ByteArray.toList_data_append, ByteArray.extract_append_extract,
      Nat.min_eq_left hstart, Nat.max_eq_right (Nat.le_max_left _ _)]
  refine ⟨_, rfl, hn, ?_, ?_, ?_, ?_⟩ <;> dsimp only
  · omega
  · omega
  · omega
  · rw [hread, List.nil_append]
    exact hcuts.feed data

/-- The runs of a session against a file that only grows, from volume `v₀` and session `s₀`,
with what the session handed out: between polls the volume may change in any way that
keeps node `n`'s bytes as the start of its new ones, and the session's phase may change; a
poll is taken when it neither ends the session nor leaves it cancelled. -/
inductive Tailing (o : TailOptions) (n : Nat) (v₀ : Volume) (s₀ : Session) :
    Volume → Session → List Delivery → Prop
  | start : Tailing o n v₀ s₀ v₀ s₀ []
  | grow {v v' : Volume} {s : Session} {heard : List Delivery} :
      Tailing o n v₀ s₀ v s heard → v.Grows n v' → Tailing o n v₀ s₀ v' s heard
  | pause {v : Volume} {s : Session} {heard : List Delivery} (ph : Phase) :
      Tailing o n v₀ s₀ v s heard → Tailing o n v₀ s₀ v { s with phase := ph } heard
  | poll {v : Volume} {s : Session} {heard : List Delivery} :
      Tailing o n v₀ s₀ v s heard → (s.poll o v).ending = none →
      (s.poll o v).session.cancelled = false →
      Tailing o n v₀ s₀ (s.poll o v).volume (s.poll o v).session
        (heard ++ (s.poll o v).heard.toList)

/-- What a session follows at its start it follows along every run. -/
theorem Tailing.follows {o : TailOptions} {n start : Nat} {v₀ v : Volume} {s₀ s : Session}
    {heard : List Delivery} (h₀ : Follows v₀ n start s₀ []) (hrun : Tailing o n v₀ s₀ v s heard) :
    Follows v n start s heard := by
  induction hrun with
  | start => exact h₀
  | grow _ hg ih => exact ih.grow hg
  | pause ph _ ih => exact ih
  | poll _ hend hc ih => exact ih.poll hend hc

/-- A session that a start registered reads a file's node from offset 0, or from the node's
end when asked to skip; along every run in which the node only grows, after every poll
that neither ended nor cancelled it, the bytes from that offset to the session's offset
are cut into exactly the lines it handed out, in order and each once, with one carriage
return before each newline dropped, and the fragment its splitter holds. -/
theorem started_session_hands_out_file_lines {r r' : Registry} {number : Nat} {id path : String}
    {skip : Bool} {l : Listener} (hstart : r.start number id path skip (some l) = (.ok (), r')) :
    ∃ s h n, r'.entries.getLast? = some s ∧ s.number = number ∧ s.cursor.handle = some h ∧
      h.node = some n ∧ h.offset = (if skip then (r'.volume.bytes n).size else 0) ∧
      ∀ v t heard, Tailing r'.options n r'.volume s v t heard → Follows v n h.offset t heard := by
  obtain ⟨c, size, hlaunch, -, hentries⟩ := Registry.start_eq_ok hstart
  obtain ⟨hb, h, n, hc, hn, hoff, hsize⟩ := Registry.launch_eq_ok hlaunch
  have hbytes := Volume.bytes_eq_of_blobs hb
  refine ⟨{ number, id, path, cursor := c, lastSize := size, listener := l }, h, n,
    by simp [hentries], rfl, hc, hn, by rw [hoff, hbytes], ?_⟩
  intro v t heard hrun
  refine hrun.follows (follows_launch hc hn rfl ?_ ?_ rfl)
  · rw [hoff, hbytes]
    split <;> simp
  · simp [hsize, hbytes]

/-- A volume holding one file, `/a`, of one line. -/
def oneLineVolume : Volume := { entries := [("/a", .file 0)], blobs := #[⟨#[120, 10]⟩] }

theorem oneLineVolume_resolve : oneLineVolume.resolve "/a" = "/a" := by
  simp +decide [Volume.resolve, Path.clean, Path.isAbs, Path.names, String.splitOn,
    String.splitOnAux, Path.push]

/-- Starting a session on the one-line file succeeds, whatever its listener. -/
theorem oneLineVolume_start (l : Listener) :
    (({ volume := oneLineVolume } : Registry).start 1 "a" "/a" false (some l)).1 = .ok () := by
  -- the file opens: no fault on it, and it is there
  have hopen : oneLineVolume.openRead "/a" = .ok ⟨"/a", "/a", some 0, 0, true⟩ := by
    simp only [Volume.openRead, Volume.find, oneLineVolume_resolve]
    rfl
  -- nothing was registered under the identifier
  have hrelease : ({ volume := oneLineVolume } : Registry).release "a" =
      { volume := oneLineVolume } := rfl
  -- with the path resolved, what is left runs by evaluation
  simp only [Registry.start, hrelease, oneLineVolume_resolve, Registry.launch, Cursor.open, hopen]
  rfl

/-- Starting a session on the one-line file succeeds, and the session follows the file
from its first byte. -/
theorem one_line_file_is_followed :
    let r : Registry := { volume := oneLineVolume }
    let r' := (r.start 1 "a" "/a" false (some {})).2
    r.start 1 "a" "/a" false (some {}) = (.ok (), r') ∧
      ∃ s h n, r'.entries.getLast? = some s ∧ s.number = 1 ∧ s.cursor.handle = some h ∧
        h.node = some n ∧ h.offset = (if false then (r'.volume.bytes n).size else 0) ∧
        ∀ v t heard, Tailing r'.options n r'.volume s v t heard → Follows v n h.offset t heard := by
  intro r r'
  have hstart : r.start 1 "a" "/a" false (some {}) = (.ok (), r') := by
    rw [← oneLineVolume_start {}]
  exact ⟨hstart, started_session_hands_out_file_lines hstart⟩

end Session
end LiveTail
