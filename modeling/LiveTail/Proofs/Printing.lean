import LiveTail.Proofs.Sourcing
import LiveTail.Cli.Program

/-!
# A plain tail prints every event and ends with the last session's ending

A plain tail starts a file source, prints each event it takes as one row, and counts the
sessions down: each ending is one session less. When the count reaches zero it stops the
source and exits, failing with one error that names every session that ended other than by
being stopped. Whatever happens to the files and whether or not it is told to terminate,
it prints every event the source hands out, in order; it has exited exactly when it has
taken one ending per file started; and its exit code and error follow from the endings it
printed.

The count is right because the source hands out one ending per session that no longer
runs (`Life.endings_length`): identifiers are distinct and every session's deliveries read
as its transcript. Once every session has ended the source is silent (`Life.silent`), and
the last thing it handed out is an ending (`Life.last_ending`), so nothing is left unprinted
when the count reaches zero.
-/
namespace LiveTail

/-- A transcript holds one ending if it ended and none otherwise. -/
theorem Transcript.endings_length {ended : Bool} {ds : List Delivery} (h : Transcript ended ds) :
    (ds.filter Delivery.isEnding).length = ended.toNat := by
  obtain ⟨lines, ends, rfl, hlines, hends, hlen⟩ := h
  rw [List.filter_append, List.filter_eq_nil_iff.mpr (fun d hd => by simp [hlines d hd]),
    List.filter_eq_self.mpr hends, List.nil_append, hlen]

namespace FileSource

section Ended

variable {r₀ : Registry} {fs : FileSource} {taken : List Delivery}

/-- The endings taken under an identifier, counted among the identifiers of all endings. -/
theorem count_ending_ids (taken : List Delivery) (x : String) :
    ((taken.filter Delivery.isEnding).map (·.id)).count x =
      ((taken.filter (·.id = x)).filter Delivery.isEnding).length := by
  rw [List.count_eq_countP, List.countP_map, List.countP_eq_length_filter, List.filter_filter,
    List.filter_filter]
  congr 1
  apply List.filter_congr
  intro d _
  by_cases hx : d.id = x <;> simp [hx]

/-- A source's life restarts wherever nothing is left to hand out. -/
theorem Life.restart (hd : r₀.Distinct) (h : Life r₀ fs taken) (hdrained : fs.registry.heard = #[]) :
    Life fs.registry fs [] where
  advances := by
    rw [Registry.withEarlier_nil]
    exact Registry.Advances.refl _
  labelled := by
    rw [Registry.withEarlier_nil]
    exact Registry.labelled_idOf (h.distinct hd) hdrained
  tracked := h.tracked
  idle := h.idle
  closed := h.closed

/-- Once no session of `r₀` runs, none runs at all: the source has no other. -/
theorem Life.none_live (h : Life r₀ fs taken)
    (hdone : ∀ s ∈ r₀.entries, fs.registry.live s.number = false) (n : Nat) :
    fs.registry.live n = false := by
  cases hn : fs.registry.live n with
  | false => rfl
  | true =>
    -- a session running now ran in `r₀`, under the same number
    obtain ⟨s, hs, rfl, -⟩ := Registry.live_iff.mp (h.advances.revive n hn)
    rw [hdone s hs] at hn
    exact hn.symm

/-- A source none of whose sessions runs, with nothing left to hand out, hands out nothing
more whatever is done to it. -/
theorem Life.silent (hd : r₀.Distinct) (h : Life r₀ fs taken) (hdrained : fs.registry.heard = #[])
    (hdone : ∀ s ∈ r₀.entries, fs.registry.live s.number = false) (as : List SourceStep) :
    (fs.steps as).1 = [] := by
  obtain ⟨new, hnew, hlife⟩ := (h.restart hd hdrained).steps (h.distinct hd) as
  obtain ⟨out, hout, hcont⟩ := hlife.advances.heard
  -- no session of the source runs, so nothing was added under any number
  have hempty : out = [] := by
    refine List.eq_nil_iff_forall_not_mem.mpr fun d hd' => ?_
    have hnil := (hcont d.session).1 (h.none_live hdone d.session)
    have hmem : d ∈ out.filter (·.session == d.session) := List.mem_filter.mpr ⟨hd', by simp⟩
    rw [hnil] at hmem
    cases hmem
  rw [Registry.withEarlier_heard, hdrained, hempty] at hout
  simp only [List.append_nil, List.nil_append] at hout
  rw [hnew, List.append_eq_nil_iff.mp hout |>.1, List.map_nil]

variable (hd : r₀.Distinct) (hfresh : ∀ s ∈ r₀.entries, s.ended = false ∧ s.listener = {})
  (hheard : r₀.heard = #[])
include hd hfresh hheard

/-- Where nothing is left to hand out, the reader has taken one ending per session of `r₀`
that no longer runs. -/
theorem Life.endings_length (h : Life r₀ fs taken) (hdrained : fs.registry.heard = #[]) :
    (taken.filter Delivery.isEnding).length =
      (r₀.entries.filter fun s => !fs.registry.live s.number).length := by
  obtain ⟨htr, hids⟩ := h.transcripts hd hfresh hheard hdrained
  -- under an identifier of no session nothing was taken
  have hother : ∀ x, (¬∃ s ∈ r₀.entries, s.id = x) → taken.filter (·.id = x) = [] := by
    intro x hx
    refine List.filter_eq_nil_iff.mpr fun d hd' hdx => hx ?_
    obtain ⟨s, hs, hid⟩ := hids d hd'
    exact ⟨s, hs, hid.symm.trans (by simpa using hdx)⟩
  have hcount : ∀ x, ((taken.filter Delivery.isEnding).map (·.id)).count x =
      if ∃ s ∈ r₀.entries, s.id = x ∧ fs.registry.live s.number = false then 1 else 0 := by
    intro x
    rw [count_ending_ids]
    by_cases hx : ∃ s ∈ r₀.entries, s.id = x
    · obtain ⟨s, hs, rfl⟩ := hx
      rw [(htr s hs).endings_length]
      -- only `s` has its identifier
      have hiff : (∃ t ∈ r₀.entries, t.id = s.id ∧ fs.registry.live t.number = false) ↔
          fs.registry.live s.number = false :=
        ⟨fun ⟨t, ht, hid, hl⟩ => hd.eq_of_id hs ht hid ▸ hl, fun hl => ⟨s, hs, rfl, hl⟩⟩
      rw [if_congr hiff rfl rfl]
      cases fs.registry.live s.number <;> rfl
    · rw [hother x hx, if_neg fun ⟨s, hs, hid, _⟩ => hx ⟨s, hs, hid⟩]
      rfl
  -- the identifiers of the endings are those of the sessions that ended, each once
  have hperm : ((taken.filter Delivery.isEnding).map (·.id)).Perm
      ((r₀.entries.filter fun s => !fs.registry.live s.number).map (·.id)) := by
    refine (List.perm_ext_iff_of_nodup ?_ ?_).mpr fun x => ?_
    · refine List.nodup_iff_count_le_one.mpr fun x => ?_
      rw [hcount]
      split <;> omega
    · exact hd.ids.sublist (List.filter_sublist.map _)
    · rw [← List.count_pos_iff, hcount]
      constructor
      · intro hpos
        have hx : ∃ s ∈ r₀.entries, s.id = x ∧ fs.registry.live s.number = false := by
          by_contra hx
          rw [if_neg hx] at hpos
          exact absurd hpos (Nat.lt_irrefl 0)
        obtain ⟨s, hs, rfl, hl⟩ := hx
        exact List.mem_map_of_mem (List.mem_filter.mpr ⟨hs, by simp [hl]⟩)
      · intro hx
        obtain ⟨s, hs, rfl⟩ := List.mem_map.mp hx
        obtain ⟨hs, hl⟩ := List.mem_filter.mp hs
        rw [if_pos ⟨s, hs, rfl, by simpa using hl⟩]
        exact Nat.one_pos
  simpa using hperm.length_eq

/-- At most one ending per session started. -/
theorem Life.endings_le (h : Life r₀ fs taken) (hdrained : fs.registry.heard = #[]) :
    (taken.filter Delivery.isEnding).length ≤ r₀.entries.length := by
  rw [h.endings_length hd hfresh hheard hdrained]
  exact List.length_filter_le _ _

/-- One ending per session started exactly when none of them runs. -/
theorem Life.endings_eq_iff (h : Life r₀ fs taken) (hdrained : fs.registry.heard = #[]) :
    (taken.filter Delivery.isEnding).length = r₀.entries.length ↔
      ∀ s ∈ r₀.entries, fs.registry.live s.number = false := by
  rw [h.endings_length hd hfresh hheard hdrained, List.length_filter_eq_length_iff]
  simp

/-- Once every session has ended, the last thing the reader took is an ending. -/
theorem Life.last_ending (h : Life r₀ fs taken) (hdrained : fs.registry.heard = #[])
    (hdone : ∀ s ∈ r₀.entries, fs.registry.live s.number = false) {x : Delivery}
    (hx : taken.getLast? = some x) : x.isEnding = true := by
  obtain ⟨htr, hids⟩ := h.transcripts hd hfresh hheard hdrained
  obtain ⟨init, rfl⟩ := List.getLast?_eq_some_iff.mp hx
  obtain ⟨s, hs, hid⟩ := hids x (by simp)
  -- `x` is the last of its session's transcript, which ends with the ending
  have htr := htr s hs
  rw [hdone s hs, List.filter_append, List.filter_singleton, hid] at htr
  simp only [decide_true, cond_true] at htr
  obtain ⟨lines, ends, heq, -, hends, hlen⟩ := htr
  obtain ⟨e, rfl⟩ := List.length_eq_one_iff.mp hlen
  obtain rfl := List.singleton_inj.mp (List.append_inj' heq rfl).2
  exact hends x (List.mem_singleton_self x)

end Ended

end FileSource

/-- Taken deliveries and the events they become hold the same endings. -/
theorem endings_map_event (ds : List Delivery) :
    ((ds.map Delivery.event).filter Event.isEnding).length = (ds.filter Delivery.isEnding).length := by
  rw [List.filter_map, List.length_map]
  congr 2
  funext d
  simp

namespace Event

/-- A line in front of events adds no ending to them. -/
theorem endings_line_cons (id text : String) (es : List Event) :
    ((line id text :: es).filter isEnding).length = (es.filter isEnding).length := by
  rw [List.filter_cons_of_neg (by simp [isEnding])]

/-- An ending in front of events adds one ending to them. -/
theorem endings_ending_cons (id : String) (kind : Option EndKind) (message : String)
    (es : List Event) :
    ((ending id kind message :: es).filter isEnding).length = (es.filter isEnding).length + 1 := by
  rw [List.filter_cons_of_pos rfl, List.length_cons]

end Event

namespace Cli

/-- The rows a plain tail prints for events, one line each. -/
def printed (rows : RowConfig) (es : List Event) : String :=
  String.join (es.map fun e => rows.plain e ++ "\n")

@[simp] theorem printed_nil (rows : RowConfig) : printed rows [] = "" := rfl

theorem printed_cons (rows : RowConfig) (e : Event) (es : List Event) :
    printed rows (e :: es) = rows.plain e ++ "\n" ++ printed rows es := by
  simp [printed, String.join_cons]

theorem printed_append (rows : RowConfig) (es es' : List Event) :
    printed rows (es ++ es') = printed rows es ++ printed rows es' := by
  simp [printed, String.join_append]

/-- What an ending says failed: its session's label and kind, unless the session was
stopped. A line says nothing. -/
def failureOf : Event → Option String
  | .line .. => none
  | .ending id kind _ =>
    if kind = some .stopped then none else some (label id ++ ": " ++ Event.kindName kind)

/-- The failures of events after an ending: the ending's own, unless it was a stop, then the
others'. -/
theorem filterMap_failureOf_ending (id : String) (kind : Option EndKind) (message : String)
    (failed : List String) (es : List Event) :
    (if kind = some .stopped then failed else failed ++ [label id ++ ": " ++ Event.kindName kind]) ++
        es.filterMap failureOf =
      failed ++ (Event.ending id kind message :: es).filterMap failureOf := by
  by_cases hk : kind = some .stopped <;> simp [failureOf, hk]

/-- What can happen to a tailing process from outside: the files change, or it is told to
terminate. -/
inductive Nudge where
  | files (v : Volume)
  | terminate

/-- The step a nudge makes its file source take before the process looks again: the files
change, or the source stops. -/
def Nudge.sourceStep : Nudge → SourceStep
  | .files v => .files v
  | .terminate => .stop

/-- The steps of the file source a nudge leads to: its own step, then the process takes
what the source has. -/
def Nudge.sourceSteps (a : Nudge) : List SourceStep := [a.sourceStep, .take]

namespace Process

/-- One nudge: the files change, after which the process takes in what that caused, or it
is told to terminate. -/
def nudge (p : Process) : Nudge → Process
  | .files v => (p.change fun _ => .ok v).2
  | .terminate => p.terminate

theorem finishTail_stdout (p : Process) (src : FileSource) (failed : List String) :
    (p.finishTail src failed).stdout = p.stdout := by
  unfold finishTail
  split <;> rfl

/-- A plain tail ends with code 0 and nothing on stderr when no session failed, and otherwise
with code 1 and one error naming the failed sessions. -/
theorem finishTail_ends (p : Process) (src : FileSource) (failed : List String) :
    (p.finishTail src failed).activity = .exited (if failed = [] then 0 else 1) ∧
      (p.finishTail src failed).stderr = if failed = [] then p.stderr
        else p.stderr ++ "Error: tailing ended: " ++ ", ".intercalate failed ++ "\n" := by
  unfold finishTail
  by_cases h : failed = []
  · subst h
    exact ⟨rfl, rfl⟩
  · have hne : failed.isEmpty = false := List.isEmpty_eq_false_iff.mpr h
    simp only [hne, Bool.false_eq_true, if_false, if_neg h, failWith, true_and]
    simp only [String.append_assoc]
    rfl

variable (src : FileSource) (rows : RowConfig)

/-- A batch with fewer endings than sessions left is printed whole: the count goes down by
its endings and its failures are kept; the process goes on tailing, unless the events are
closed. -/
theorem printEvents_of_lt (p : Process) (es : List Event) (live : Nat) (failed : List String)
    (hlt : (es.filter Event.isEnding).length < live) :
    p.printEvents src rows es live failed =
      if src.closed then
        { p with stdout := p.stdout ++ printed rows es }.finishTail src
          (failed ++ es.filterMap failureOf)
      else
        { p with
          stdout := p.stdout ++ printed rows es
          activity := .tailing src rows (live - (es.filter Event.isEnding).length)
            (failed ++ es.filterMap failureOf) } := by
  induction es generalizing p live failed with
  | nil => simp [printEvents]
  | cons e es ih =>
    cases e with
    | line id text =>
      rw [Event.endings_line_cons] at hlt ⊢
      simp only [printEvents]
      rw [ih _ _ _ hlt, List.filterMap_cons_none rfl, printed_cons]
      simp only [String.append_assoc]
    | ending id kind message =>
      -- an ending before the last session's counts one down
      rw [Event.endings_ending_cons] at hlt ⊢
      have hmore : ¬live ≤ 1 := by omega
      simp only [printEvents, hmore, if_false]
      rw [ih _ _ _ (by omega), filterMap_failureOf_ending id kind message, printed_cons,
        Nat.sub_sub, Nat.add_comm 1]
      simp only [String.append_assoc]

/-- A batch whose last event is the ending of the last session left is printed whole, and
the process ends. -/
theorem printEvents_of_last (p : Process) (pre : List Event) (e : Event) (live : Nat)
    (failed : List String) (he : e.isEnding = true)
    (hlive : (pre.filter Event.isEnding).length + 1 = live) :
    p.printEvents src rows (pre ++ [e]) live failed =
      { p with stdout := p.stdout ++ printed rows (pre ++ [e]) }.finishTail src
        (failed ++ (pre ++ [e]).filterMap failureOf) := by
  induction pre generalizing p live failed with
  | nil =>
    cases e with
    | line id text => cases he
    | ending id kind message =>
      have hlast : live ≤ 1 := by simp at hlive; omega
      simp only [List.nil_append, printEvents, hlast, if_true]
      rw [← filterMap_failureOf_ending id kind message failed [], printed_cons]
      simp only [List.filterMap_nil, List.append_nil, printed_nil, String.append_empty,
        String.append_assoc]
  | cons x pre ih =>
    cases x with
    | line id text =>
      rw [Event.endings_line_cons] at hlive
      simp only [List.cons_append, printEvents]
      rw [ih _ _ _ hlive, List.filterMap_cons_none rfl, printed_cons]
      simp only [String.append_assoc]
    | ending id kind message =>
      rw [Event.endings_ending_cons] at hlive
      have hmore : ¬live ≤ 1 := by omega
      simp only [List.cons_append, printEvents, hmore, if_false]
      rw [ih _ _ _ (by omega), filterMap_failureOf_ending id kind message, printed_cons]
      simp only [String.append_assoc]

theorem pump_of_tailing {q : Process} {live : Nat} {failed : List String}
    (h : q.activity = .tailing src rows live failed) :
    q.pump = q.printEvents src.poll.2 rows src.poll.1 live failed := by
  simp only [pump, h]

theorem nudge_of_tailing {q : Process} {live : Nat} {failed : List String}
    (h : q.activity = .tailing src rows live failed) (a : Nudge) :
    q.nudge a = { q with activity := .tailing (src.step a.sourceStep).2 rows live failed }.pump := by
  cases a with
  | files v => simp only [nudge, change, h]; rfl
  | terminate => simp only [nudge, terminate, h]; rfl

/-- A process that has exited prints nothing more and keeps its end. -/
theorem nudge_of_exited {q : Process} {code : Nat} (h : q.activity = .exited code) (a : Nudge) :
    (q.nudge a).stdout = q.stdout ∧ (q.nudge a).stderr = q.stderr ∧
      (q.nudge a).activity = q.activity := by
  cases a with
  | files v => simp [nudge, change, h, pump]
  | terminate => simp [nudge, terminate, h]

end Process

/-- Where a plain tail stands once its source has handed out `es`, from the process `p` it
started as, with `k` files started: everything handed out is printed, in order; while
fewer than `k` endings came it tails `src`, counting down the files whose ending has not
come and keeping the failures; once all `k` came it has exited, with code 0 and nothing on
stderr if no session failed, and otherwise with code 1 and one error naming them all. -/
structure Tailing (p : Process) (rows : RowConfig) (k : Nat) (src : FileSource)
    (es : List Event) (q : Process) : Prop where
  stdout : q.stdout = p.stdout ++ printed rows es
  running : (es.filter Event.isEnding).length < k → q.stderr = p.stderr ∧
    q.activity = .tailing src rows (k - (es.filter Event.isEnding).length) (es.filterMap failureOf)
  exited : (es.filter Event.isEnding).length = k →
    q.activity = .exited (if es.filterMap failureOf = [] then 0 else 1) ∧
      q.stderr = if es.filterMap failureOf = [] then p.stderr
        else p.stderr ++ "Error: tailing ended: " ++ ", ".intercalate (es.filterMap failureOf) ++ "\n"

/-- Before anything is taken, a tail of `k` files counts `k`. -/
theorem Tailing.init (p : Process) (rows : RowConfig) {k : Nat} (hk : 0 < k) (src : FileSource) :
    Tailing p rows k src [] { p with activity := .tailing src rows k [] } where
  stdout := by simp
  running _ := by simp
  exited h := absurd h (by simp; omega)

/-- The process takes from its source, changed to `src₁`: if the endings stay below `k` and
the events are open it tails on; if they reach `k`, the batch ends with the last ending and
the process exits. -/
theorem Tailing.take {p : Process} {rows : RowConfig} {k : Nat} {src : FileSource}
    {es : List Event} {q : Process} (h : Tailing p rows k src es q)
    (hlt : (es.filter Event.isEnding).length < k) (src₁ : FileSource)
    (hle : ((es ++ src₁.poll.1).filter Event.isEnding).length ≤ k)
    (hclosed : src₁.poll.2.closed = true →
      ((es ++ src₁.poll.1).filter Event.isEnding).length = k)
    (hlast : ((es ++ src₁.poll.1).filter Event.isEnding).length = k →
      ∃ pre e, src₁.poll.1 = pre ++ [e] ∧ e.isEnding = true) :
    Tailing p rows k src₁.poll.2 (es ++ src₁.poll.1)
      { q with
        activity := .tailing src₁ rows (k - (es.filter Event.isEnding).length)
          (es.filterMap failureOf) }.pump := by
  obtain ⟨hstderr, -⟩ := h.running hlt
  rw [Process.pump_of_tailing src₁ rows rfl]
  have hcount : ((es ++ src₁.poll.1).filter Event.isEnding).length =
      (es.filter Event.isEnding).length + (src₁.poll.1.filter Event.isEnding).length := by
    rw [List.filter_append, List.length_append]
  by_cases hnew : ((es ++ src₁.poll.1).filter Event.isEnding).length < k
  · -- fewer than `k` endings: the events are still open and the process tails on
    have hopen : src₁.poll.2.closed = false := by
      cases hc : src₁.poll.2.closed with
      | false => rfl
      | true => exact absurd (hclosed hc) (Nat.ne_of_lt hnew)
    rw [Process.printEvents_of_lt _ _ _ _ _ _ (by omega), hopen]
    refine ⟨?_, fun _ => ⟨hstderr, ?_⟩, fun heq => absurd heq (Nat.ne_of_lt hnew)⟩
    · simp [h.stdout, printed_append, String.append_assoc]
    · simp only [Bool.false_eq_true, if_false, List.filterMap_append]
      rw [hcount, Nat.sub_sub]
  · -- the last ending came: it ends the batch, and the process exits
    have heq : ((es ++ src₁.poll.1).filter Event.isEnding).length = k := by omega
    obtain ⟨pre, e, hpre, he⟩ := hlast heq
    have hlive : (pre.filter Event.isEnding).length + 1 = k - (es.filter Event.isEnding).length := by
      rw [hcount, hpre, List.filter_append, List.length_append] at heq
      simp [he] at heq
      omega
    rw [hpre, Process.printEvents_of_last _ _ _ _ _ _ _ he hlive]
    refine ⟨?_, fun hlt' => absurd (hpre ▸ heq) (Nat.ne_of_lt hlt'), fun _ => ?_⟩
    · rw [Process.finishTail_stdout]
      simp [h.stdout, printed_append, String.append_assoc]
    · rw [show (es ++ (pre ++ [e])).filterMap failureOf =
          es.filterMap failureOf ++ (pre ++ [e]).filterMap failureOf from List.filterMap_append]
      exact ⟨(Process.finishTail_ends _ _ _).1,
        (Process.finishTail_ends _ _ _).2.trans (by simp only [hstderr])⟩

section Outcome

variable {p : Process} {rows : RowConfig} {k : Nat} {src : FileSource} {es : List Event}
  {q : Process}

/-- With no more than `k` endings, a plain tail has exited exactly when all `k` came. -/
theorem Tailing.running_eq_false_iff (h : Tailing p rows k src es q)
    (hle : (es.filter Event.isEnding).length ≤ k) :
    q.running = false ↔ (es.filter Event.isEnding).length = k := by
  constructor
  · intro hr
    by_contra hne
    obtain ⟨-, hact⟩ := h.running (Nat.lt_of_le_of_ne hle hne)
    simp [Process.running, hact] at hr
  · intro heq
    simp [Process.running, (h.exited heq).1]

/-- A plain tail that still runs has written no error. -/
theorem Tailing.stderr_of_running (h : Tailing p rows k src es q)
    (hle : (es.filter Event.isEnding).length ≤ k) (hr : q.running = true) :
    q.stderr = p.stderr := by
  have hlt : (es.filter Event.isEnding).length < k := by
    refine Nat.lt_of_le_of_ne hle fun heq => ?_
    rw [(h.running_eq_false_iff hle).mpr heq] at hr
    exact Bool.false_ne_true hr
  exact (h.running hlt).1

/-- A plain tail that has exited did so with code 0 and nothing on stderr if no session
failed, and otherwise with code 1 and one error naming the failures. -/
theorem Tailing.of_exited (h : Tailing p rows k src es q)
    (hle : (es.filter Event.isEnding).length ≤ k) (hr : q.running = false) :
    q.exitCode? = some (if es.filterMap failureOf = [] then 0 else 1) ∧
      q.stderr = if es.filterMap failureOf = [] then p.stderr
        else p.stderr ++ "Error: tailing ended: " ++ ", ".intercalate (es.filterMap failureOf) ++
          "\n" := by
  obtain ⟨hact, herr⟩ := h.exited ((h.running_eq_false_iff hle).mp hr)
  exact ⟨by simp [Process.exitCode?, hact], herr⟩

end Outcome

section Run

open FileSource

variable {r₀ : Registry} (hd : r₀.Distinct)
  (hfresh : ∀ s ∈ r₀.entries, s.ended = false ∧ s.listener = {}) (hheard : r₀.heard = #[])
include hd hfresh hheard

/-- While some session still runs, the process takes from its source, changed to `src₁`:
the source's life goes on by what it hands out, and the process stands where that puts
it. -/
theorem tailing_take {p : Process} {rows : RowConfig} {src src₁ : FileSource}
    {taken : List Delivery} {q : Process} (hlife : Life r₀ src₁ taken)
    (h : Tailing p rows r₀.entries.length src (taken.map Delivery.event) q)
    (hlt : (taken.filter Delivery.isEnding).length < r₀.entries.length) :
    ∃ new, src₁.poll.1 = new.map Delivery.event ∧ Life r₀ src₁.poll.2 (taken ++ new) ∧
      Tailing p rows r₀.entries.length src₁.poll.2 ((taken ++ new).map Delivery.event)
        { q with
          activity := .tailing src₁ rows
            (r₀.entries.length - ((taken.map Delivery.event).filter Event.isEnding).length)
            ((taken.map Delivery.event).filterMap failureOf) }.pump := by
  obtain ⟨hevents, hlife'⟩ := hlife.take hd
  have hdrained : src₁.poll.2.registry.heard = #[] := rfl
  refine ⟨_, hevents, hlife', ?_⟩
  -- the endings of the events are those of the deliveries
  have hends : ((taken.map Delivery.event ++ src₁.poll.1).filter Event.isEnding).length =
      ((taken ++ src₁.registry.settle.heard.toList).filter Delivery.isEnding).length := by
    rw [hevents, ← List.map_append, endings_map_event]
  have hdone := hlife'.endings_eq_iff hd hfresh hheard hdrained
  have htake := h.take (by rwa [endings_map_event]) src₁
    (by rw [hends]; exact hlife'.endings_le hd hfresh hheard hdrained)
    (fun hc => by
      -- closed events: the source was stopped, so no session is left
      have hempty := hlife'.idle (hlife'.closed hc).1
      rw [hends]
      exact hdone.mpr fun s _ => by rw [Registry.live, hempty]; rfl)
    (fun heq => by
      -- the last session's ending came: it is the last delivery, and it is new
      rw [hends] at heq
      have hne : src₁.registry.settle.heard.toList ≠ [] := by
        intro hnil
        rw [hnil, List.append_nil] at heq
        exact absurd heq (Nat.ne_of_lt hlt)
      obtain ⟨init, x, hx⟩ := List.eq_nil_or_concat _ |>.resolve_left hne
      have hlast := hlife'.last_ending hd hfresh hheard hdrained (hdone.mp heq)
        (x := x) (by rw [hx, List.concat_eq_append, ← List.append_assoc, List.getLast?_concat])
      exact ⟨init.map Delivery.event, x.event,
        by rw [hevents, hx, List.concat_eq_append, List.map_append]; rfl,
        by rw [Delivery.isEnding_event]; exact hlast⟩)
  rwa [hevents, ← List.map_append] at htake

/-- The first take of a plain tail that started `k` files, with the source's life begun. -/
theorem tailing_start (p : Process) (rows : RowConfig) {src : FileSource}
    (hlife : Life r₀ src []) (hpos : 0 < r₀.entries.length) :
    ∃ new, src.poll.1 = new.map Delivery.event ∧ Life r₀ src.poll.2 new ∧
      Tailing p rows r₀.entries.length src.poll.2 (new.map Delivery.event)
        { p with activity := .tailing src rows r₀.entries.length [] }.pump := by
  -- the take from the first process, seen as counting down from all `k` with no failure
  obtain ⟨new, hnew, hlife', htail⟩ :=
    tailing_take hd hfresh hheard hlife (Tailing.init p rows hpos src) (by simpa using hpos)
  exact ⟨new, hnew, hlife', htail⟩

/-- A nudge makes the source take its step and then the process take what is there: the
source hands out some deliveries, its life goes on by them with nothing left over, and the
process stands where they put it; once every ending has come nothing more is handed out and
the process stays as it ended. -/
theorem tailing_nudge (a : Nudge) {p : Process} {rows : RowConfig} {src : FileSource}
    {taken : List Delivery} {q : Process} (hlife : Life r₀ src taken)
    (hdrained : src.registry.heard = #[])
    (h : Tailing p rows r₀.entries.length src (taken.map Delivery.event) q) :
    ∃ new, (src.steps a.sourceSteps).1 = new.map Delivery.event ∧
      Life r₀ (src.steps a.sourceSteps).2 (taken ++ new) ∧
      (src.steps a.sourceSteps).2.registry.heard = #[] ∧
      Tailing p rows r₀.entries.length (src.steps a.sourceSteps).2
        ((taken ++ new).map Delivery.event) (q.nudge a) := by
  have hsteps : src.steps a.sourceSteps =
      ((src.step a.sourceStep).2.poll.1, (src.step a.sourceStep).2.poll.2) := by
    cases a <;> simp [Nudge.sourceSteps, Nudge.sourceStep, steps, step]
  have hlife₁ : Life r₀ (src.step a.sourceStep).2 taken := by
    cases a with
    | files v => exact hlife.files hd v
    | terminate => exact hlife.stop hd
  rw [hsteps]
  by_cases hlt : (taken.filter Delivery.isEnding).length < r₀.entries.length
  · -- a session still runs: the process tails the changed source and takes from it
    obtain ⟨-, hact⟩ := h.running (by rwa [endings_map_event])
    rw [Process.nudge_of_tailing src rows hact a]
    obtain ⟨new, hnew, hlife', htail⟩ := tailing_take hd hfresh hheard hlife₁ h hlt
    exact ⟨new, hnew, hlife', rfl, htail⟩
  · -- every ending came: the source is silent and the process has exited
    have heq : (taken.filter Delivery.isEnding).length = r₀.entries.length :=
      Nat.le_antisymm (hlife.endings_le hd hfresh hheard hdrained) (Nat.not_lt.mp hlt)
    have hsilent := hlife.silent hd hdrained
      ((hlife.endings_eq_iff hd hfresh hheard hdrained).mp heq) a.sourceSteps
    rw [hsteps] at hsilent
    obtain ⟨hnew, hlife'⟩ := hlife₁.take hd
    have hnil : (src.step a.sourceStep).2.registry.settle.heard.toList = [] := by
      rw [hsilent] at hnew
      exact List.map_eq_nil_iff.mp hnew.symm
    rw [hnil] at hlife'
    obtain ⟨hact, herr⟩ := h.exited (by rwa [endings_map_event])
    obtain ⟨hout, herr', hact'⟩ := Process.nudge_of_exited hact a
    refine ⟨[], hsilent, hlife', rfl, ?_⟩
    rw [List.append_nil]
    exact ⟨hout.trans h.stdout, fun hlt' => absurd hlt' (by rw [endings_map_event, heq]; omega),
      fun _ => ⟨hact'.trans hact, herr'.trans herr⟩⟩

/-- Nudges one after another, the run lemma of `tailing_nudge`. -/
theorem tailing_nudges {p : Process} {rows : RowConfig} (nudges : List Nudge) :
    ∀ {src : FileSource} {taken : List Delivery} {q : Process}, Life r₀ src taken →
      src.registry.heard = #[] →
      Tailing p rows r₀.entries.length src (taken.map Delivery.event) q →
      ∃ new, (src.steps (nudges.flatMap Nudge.sourceSteps)).1 = new.map Delivery.event ∧
        Life r₀ (src.steps (nudges.flatMap Nudge.sourceSteps)).2 (taken ++ new) ∧
        (src.steps (nudges.flatMap Nudge.sourceSteps)).2.registry.heard = #[] ∧
        Tailing p rows r₀.entries.length (src.steps (nudges.flatMap Nudge.sourceSteps)).2
          ((taken ++ new).map Delivery.event) (nudges.foldl Process.nudge q) := by
  induction nudges with
  | nil =>
    exact fun hlife hdrained h =>
      ⟨[], rfl, by simpa [steps] using hlife, hdrained, by simpa [steps] using h⟩
  | cons a as ih =>
    intro src taken q hlife hdrained h
    obtain ⟨new, hnew, hlife', hdrained', h'⟩ := tailing_nudge hd hfresh hheard a hlife hdrained h
    obtain ⟨rest, hrest, hlife'', hdrained'', h''⟩ := ih hlife' hdrained' h'
    rw [List.flatMap_cons, steps_append, List.foldl_cons]
    refine ⟨new ++ rest, ?_, ?_, hdrained'', ?_⟩
    · rw [hnew, hrest, List.map_append]
    · rwa [← List.append_assoc]
    · rwa [← List.append_assoc]

end Run

/-- A plain tail prints every event its file source hands out and ends exactly when the
last file's session has ended. Start a file source from nothing on any patterns; if the
start succeeded (some file could be tailed), tail its events as plain rows, whatever
happens to the files afterwards and whether or not the tail is told to terminate. Then at
least one file is tailed; everything the source handed out is printed, one row per event,
in order; there is never more than one ending per file; the tail has exited exactly when
it has taken one ending per file; while it runs it has written no error; and once it has
exited its exit code is 0, with nothing on stderr, if every session was stopped, and
otherwise 1, with one error naming, in order, by label and kind, each session that ended
other than by being stopped. -/
theorem plain_tail_prints_every_event_and_ends_with_the_last_ending (p : Process) (v : Volume)
    (o : TailOptions) (patterns : List String) (fromStart : Bool) (rows : RowConfig)
    (nudges : List Nudge)
    (hok : ({ patterns, fromStart, registry := { volume := v, options := o } } : FileSource).start.1
      = .ok ()) :
    let started := ({ patterns, fromStart, registry := { volume := v, options := o } } :
      FileSource).start.2.2
    let q := nudges.foldl Process.nudge
      { p with activity := .tailing started rows started.paths.length [] }.pump
    let events := (started.steps (.take :: nudges.flatMap Nudge.sourceSteps)).1
    let failures := events.filterMap failureOf
    0 < started.paths.length ∧
      q.stdout = p.stdout ++ printed rows events ∧
      (events.filter Event.isEnding).length ≤ started.paths.length ∧
      (q.running = false ↔ (events.filter Event.isEnding).length = started.paths.length) ∧
      (q.running = true → q.stderr = p.stderr) ∧
      (q.running = false →
        q.exitCode? = some (if failures = [] then 0 else 1) ∧
        q.stderr = if failures = [] then p.stderr
          else p.stderr ++ "Error: tailing ended: " ++ ", ".intercalate failures ++ "\n") := by
  intro started q events failures
  have hsf : FileSource.StartedFrom _ _ started := FileSource.start_startedFrom rfl rfl rfl rfl rfl
  obtain ⟨n, hst⟩ := hsf.starting
  have hk : started.registry.entries.length = started.paths.length := by
    rw [← hst.ids, List.length_map]
  have hpos : 0 < started.paths.length := List.length_pos_iff.mpr (hsf.ok.mp hok)
  -- the first take, then the nudges, each keeping the source's life and the tail's place
  obtain ⟨new, hnew, hlife, htail⟩ := tailing_start hsf.distinct hst.fresh hst.unheard p rows
    (FileSource.life_start hst hsf.distinct hsf.running hsf.closed) (hk ▸ hpos)
  obtain ⟨rest, hrest, hlife', hdrained', htail'⟩ :=
    tailing_nudges hsf.distinct hst.fresh hst.unheard nudges hlife rfl htail
  have hevents : events = (new ++ rest).map Delivery.event := by
    simp only [events, FileSource.steps_cons, FileSource.step, hnew, hrest, List.map_append]
  have hle := hlife'.endings_le hsf.distinct hst.fresh hst.unheard hdrained'
  rw [← endings_map_event, ← hevents, hk] at hle
  rw [← hevents, hk] at htail'
  have h : Tailing p rows started.paths.length _ events q := htail'
  exact ⟨hpos, h.stdout, hle, h.running_eq_false_iff hle, h.stderr_of_running hle,
    h.of_exited hle⟩

/-- The pattern "/a" names the one-line file and nothing else. -/
theorem resolvePatterns_oneLine : resolvePatterns Session.oneLineVolume ["/a"] = .ok ["/a"] := by
  -- "/a" holds no pattern character, so the glob looks the path up
  have hmeta : Path.hasMeta "/a" = false := by
    simp [Path.hasMeta, String.any, String.contains_bool_eq]
  have hfits : Path.fits "/a" "" = .ok false := by
    simp +decide [Path.fits, ← String.length_toList, Utf8.octetChars]
  have habs : Path.abs Session.oneLineVolume.cwd "/a" = "/a" := by
    simp +decide [Path.abs, Path.isAbs, Path.clean, Path.names, String.splitOn,
      String.splitOnAux, Path.push]
  have hglob : Session.oneLineVolume.glob "/a" ("/a".length + 1) = .ok ["/a"] := by
    rw [show "/a".length + 1 = 2 + 1 by simp [← String.length_toList], Volume.glob]
    simp only [hfits, hmeta, Volume.lookup, Session.oneLineVolume_resolve]
    rfl
  simp only [resolvePatterns, List.foldlM_cons, List.foldlM_nil, hglob, List.foldl_cons,
    List.foldl_nil, habs]
  rfl

/-- A file source on the one-line file starts. -/
theorem oneLine_source_start :
    ({ patterns := ["/a"], fromStart := true,
       registry := { volume := Session.oneLineVolume, options := {} } } : FileSource).start.1 =
      .ok () := by
  rw [@FileSource.start_of_files
    { patterns := ["/a"], fromStart := true,
      registry := { volume := Session.oneLineVolume, options := {} } }
    _ resolvePatterns_oneLine (List.cons_ne_nil _ _)]
  -- the one session starts: the file opens and nothing was registered under its path
  have hopen : Session.oneLineVolume.openRead "/a" = .ok ⟨"/a", "/a", some 0, 0, true⟩ := by
    simp only [Volume.openRead, Volume.find, Session.oneLineVolume_resolve]
    rfl
  have hrelease : ({ volume := Session.oneLineVolume } : Registry).release "/a" =
      { volume := Session.oneLineVolume } := rfl
  obtain ⟨r', hr'⟩ : ∃ r', ({ volume := Session.oneLineVolume } : Registry).start 1 "/a" "/a"
      false (some {}) = (.ok (), r') := by
    refine ⟨_, Prod.ext ?_ rfl⟩
    simp only [Registry.start, hrelease, Session.oneLineVolume_resolve, Registry.launch,
      Cursor.open, hopen]
    rfl
  simp only [List.foldl_cons, List.foldl_nil, FileSource.startStep, Bool.not_true, Nat.zero_add, hr']
  rfl

/-- A plain tail of the one-line file, told to terminate. -/
theorem plain_tail_of_one_line_file :
    let src : FileSource := { patterns := ["/a"], fromStart := true,
                              registry := { volume := Session.oneLineVolume, options := {} } }
    let p : Process := { volume := Session.oneLineVolume, activity := .exited 0 }
    let started := src.start.2.2
    let q := [Nudge.terminate].foldl Process.nudge
      { p with activity := .tailing started {} started.paths.length [] }.pump
    let events := (started.steps (.take :: [Nudge.terminate].flatMap Nudge.sourceSteps)).1
    let failures := events.filterMap failureOf
    src.start.1 = .ok () ∧ 0 < started.paths.length ∧
      q.stdout = p.stdout ++ printed {} events ∧
      (events.filter Event.isEnding).length ≤ started.paths.length ∧
      (q.running = false ↔ (events.filter Event.isEnding).length = started.paths.length) ∧
      (q.running = true → q.stderr = p.stderr) ∧
      (q.running = false →
        q.exitCode? = some (if failures = [] then 0 else 1) ∧
        q.stderr = if failures = [] then p.stderr
          else p.stderr ++ "Error: tailing ended: " ++ ", ".intercalate failures ++ "\n") :=
  ⟨oneLine_source_start,
    plain_tail_prints_every_event_and_ends_with_the_last_ending
      { volume := Session.oneLineVolume, activity := .exited 0 } Session.oneLineVolume {} ["/a"]
      true {} [.terminate] oneLine_source_start⟩

end Cli
end LiveTail
