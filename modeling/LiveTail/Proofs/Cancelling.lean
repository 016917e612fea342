import LiveTail.Proofs.Transcript

/-!
# A listener that stops its own session

A listener may react to its chosen line by stopping its own session: with its own stop, a
stop of its identifier, or stopping every session. The reaction cancels the session at once.
The rest of the chunk is dropped and no further poll is made. The session then ends as
stopped, within the same run if the run goes on, and otherwise through the stop it asked of
the registry.

`deliver_of_stopping` and `poll_of_stopping` say what one chunk and one poll do for such a
listener; `runFor_stopping` is the run lemma, over the invariant `Stopping`.
-/
namespace LiveTail

namespace Request

/-- Carrying out the request stops the session under `id`. -/
def stops (id : String) : Request → Bool
  | .stop i => i == id
  | .stopAll => true

end Request

namespace Reaction

/-- The reaction stops the session under `id`. -/
def stops (id : String) : Reaction → Bool
  | .stopOwn | .stopAll => true
  | .stop i => i == id
  | .none | .fail _ => false

end Reaction

namespace Splitter

/-- An empty chunk completes no line. -/
theorem feed_of_size_zero (sp : Splitter) (chunk : ByteArray) (h : chunk.size = 0) :
    (sp.feed chunk).1 = #[] := by
  have hnone : newlineFrom chunk 0 = none := by
    rw [newlineFrom, if_neg (by omega)]
  simp [feed, hnone]

end Splitter

namespace Session

/-- The line `t` as the session hands it out. -/
def lineOf (s : Session) (t : ByteArray) : Delivery := .line s.number s.id t

/-- What the session's listener hears of some lines: all of them if it hears lines. -/
def heardOf (s : Session) (lines : List ByteArray) : List Delivery :=
  if s.listener.hearsLines then lines.map s.lineOf else []

/-- What stopping the session hands out: nothing if it has ended, and otherwise what ending
it as stopped hands out. -/
def stopNotice (s : Session) : List Delivery :=
  if s.ended then [] else (s.finish Ending.stopped).2.toList

theorem lineOf_mem_heardOf {s : Session} {t : ByteArray} {lines : List ByteArray}
    (h : s.lineOf t ∈ s.heardOf lines) : t ∈ lines := by
  unfold heardOf at h
  split at h
  · obtain ⟨x, hx, hxt⟩ := List.mem_map.mp h
    simp only [lineOf, Delivery.line.injEq, true_and] at hxt
    exact hxt ▸ hx
  · simp at h

theorem heardOf_append (s : Session) (a b : List ByteArray) :
    s.heardOf (a ++ b) = s.heardOf a ++ s.heardOf b := by
  unfold heardOf
  split <;> simp

/-- What ending a session hands out depends only on what it is known by. -/
theorem finish_out_of_key {s t : Session} (h : t.key = s.key) (e : Ending) :
    (t.finish e).2 = (s.finish e).2 := by
  have hn := number_eq_of_key h
  have hi := id_eq_of_key h
  have hl := listener_eq_of_key h
  simp only [finish, hn, hi, hl]

theorem lineOf_of_key {s t : Session} (h : t.key = s.key) (x : ByteArray) :
    t.lineOf x = s.lineOf x := by
  simp only [lineOf, number_eq_of_key h, id_eq_of_key h]

theorem heardOf_of_key {s t : Session} (h : t.key = s.key) (lines : List ByteArray) :
    t.heardOf lines = s.heardOf lines := by
  have hline : t.lineOf = s.lineOf := funext (lineOf_of_key h)
  simp only [heardOf, listener_eq_of_key h, hline]

/-- A reaction that stops the session cancels it and asks the registry to stop it. -/
theorem react_of_stops (s : Session) {r : Reaction} (h : r.stops s.id = true) :
    (s.react r).1 = { s with cancelled := true } ∧ ∃ q ∈ (s.react r).2, q.stops s.id = true := by
  cases r with
  | none => simp [Reaction.stops] at h
  | fail value => simp [Reaction.stops] at h
  | stopOwn => exact ⟨rfl, .stop s.id, List.mem_singleton_self _, by simp [Request.stops]⟩
  | stop i =>
    have hi : i = s.id := by simpa [Reaction.stops] using h
    subst hi
    exact ⟨by simp [react], .stop s.id, List.mem_singleton_self _, by simp [Request.stops]⟩
  | stopAll => exact ⟨rfl, .stopAll, List.mem_singleton_self _, rfl⟩

theorem deliver_of_cancelled (d : Dispatch) (p : Poll) (lines : List ByteArray)
    (h : p.session.cancelled = true) : deliver d p lines = p := by
  cases lines <;> simp [deliver, h]

/-- The chosen line reaches a listener that stops its session: the session is cancelled,
has asked to be stopped, and the lines after it are dropped. -/
theorem deliver_trigger (d : Dispatch) (p : Poll) (t : ByteArray) (rest : List ByteArray)
    (hcan : p.session.cancelled = false) (htrig : p.session.listener.trigger = some t)
    (hstop : p.session.listener.reaction.stops p.session.id = true) :
    deliver d p (t :: rest) =
      { p with heard := p.heard ++ (p.session.heardOf [t]).toArray,
               session := (p.session.react p.session.listener.reaction).1,
               requests := p.requests ++ (p.session.react p.session.listener.reaction).2 } := by
  -- a reaction that stops the session is no failure, so the reacting branch is taken
  have hnf : ∀ value, p.session.listener.reaction ≠ .fail value := by
    intro value hfail
    rw [hfail] at hstop
    simp [Reaction.stops] at hstop
  have hcan' : (p.session.react p.session.listener.reaction).1.cancelled = true := by
    rw [(react_of_stops p.session hstop).1]
  rw [deliver]
  simp only [hcan, htrig, Bool.false_eq_true, if_false, if_true]
  cases hr : p.session.listener.reaction with
  | fail value => exact absurd hr (hnf value)
  | none => rw [hr] at hstop; simp [Reaction.stops] at hstop
  | stopOwn | stop _ | stopAll =>
    rw [hr] at hcan'
    rw [deliver_of_cancelled d _ rest hcan']
    simp only [heardOf]
    split <;> simp [lineOf]

/-- What a chunk of lines does when the listener stops its session on the line `t`: if `t`
is not among them, every line is heard and nothing else changes; otherwise the lines up to
the first `t` are heard, and the session is cancelled and has asked to be stopped. -/
theorem deliver_of_stopping (d : Dispatch) (t : ByteArray) :
    ∀ (lines : List ByteArray) (p : Poll), p.session.cancelled = false →
      p.session.listener.trigger = some t →
      p.session.listener.reaction.stops p.session.id = true →
      (deliver d p lines).volume = p.volume ∧ (deliver d p lines).read = p.read ∧
        (deliver d p lines).ending = p.ending ∧
        ((t ∉ lines ∧ (deliver d p lines).session = p.session ∧
            (deliver d p lines).heard.toList = p.heard.toList ++ p.session.heardOf lines) ∨
          ∃ pre post, lines = pre ++ t :: post ∧ t ∉ pre ∧
            (deliver d p lines).session = { p.session with cancelled := true } ∧
            (∃ q ∈ (deliver d p lines).requests, q.stops p.session.id = true) ∧
            (deliver d p lines).heard.toList = p.heard.toList ++ p.session.heardOf (pre ++ [t]))
  | [], p, _, _, _ => ⟨rfl, rfl, rfl, .inl ⟨List.not_mem_nil, rfl, by simp [deliver, heardOf]⟩⟩
  | x :: rest, p, hcan, htrig, hstop => by
    by_cases hx : x = t
    case pos =>
      -- the chosen line comes first
      subst hx
      obtain ⟨hsess, q, hq, hqs⟩ := react_of_stops p.session hstop
      rw [deliver_trigger d p x rest hcan htrig hstop]
      refine ⟨rfl, rfl, rfl, .inr ⟨[], rest, rfl, List.not_mem_nil, hsess,
        ⟨q, List.mem_append_right _ hq, hqs⟩, by simp⟩⟩
    case neg =>
      -- another line is heard, and the rest goes as the same session
      have hne : p.session.listener.trigger ≠ some x := by
        rw [htrig]
        exact fun h => hx (Option.some_inj.mp h).symm
      let heard := if p.session.listener.hearsLines then
        p.heard.push (.line p.session.number p.session.id x) else p.heard
      let p' : Poll := { p with heard }
      have hstep : deliver d p (x :: rest) = deliver d p' rest := by
        rw [deliver]
        simp only [hcan, hne, Bool.false_eq_true, if_false]
        rfl
      have hheard : p'.heard.toList = p.heard.toList ++ p.session.heardOf [x] := by
        simp only [p', heard, heardOf]
        split <;> simp [lineOf]
      obtain ⟨hv, hr, he, hcases⟩ := deliver_of_stopping d t rest p' hcan htrig hstop
      rw [hstep]
      refine ⟨hv, hr, he, ?_⟩
      rcases hcases with ⟨hnot, hsess, hrest⟩ | ⟨pre, post, hsplit, hpre, hsess, hreq, hrest⟩
      · refine .inl ⟨?_, hsess, ?_⟩
        · rintro (_ | ⟨_, h⟩)
          · exact hx rfl
          · exact hnot h
        · rw [hrest, hheard, List.append_assoc, ← heardOf_append]
          rfl
      · refine .inr ⟨x :: pre, post, by rw [hsplit]; rfl, ?_, hsess, hreq, ?_⟩
        · rintro (_ | ⟨_, h⟩)
          · exact hx rfl
          · exact hpre h
        · rw [hrest, hheard, List.append_assoc, ← heardOf_append]
          rfl

/-- One poll for a listener that stops its session on the line `t`: either the session is
not cancelled and has not handed out `t`, or the poll read something, ended nothing, and
the session handed out its lines up to the first `t`, was cancelled and asked to be
stopped. -/
theorem poll_of_stopping (o : TailOptions) (v : Volume) (s : Session) (t : ByteArray)
    (hcan : s.cancelled = false) (htrig : s.listener.trigger = some t)
    (hstop : s.listener.reaction.stops s.id = true) :
    ((s.poll o v).session.cancelled = false ∧ s.lineOf t ∉ (s.poll o v).heard.toList) ∨
      ((s.poll o v).session.cancelled = true ∧ (s.poll o v).ending = none ∧
        0 < (s.poll o v).read ∧ (∃ q ∈ (s.poll o v).requests, q.stops s.id = true) ∧
        ∃ pre, t ∉ pre ∧ (s.poll o v).heard.toList = s.heardOf (pre ++ [t])) := by
  unfold poll
  rcases hr : s.cursor.read v o.bufferSize with ⟨_ | data, c, v₁⟩
  · exact .inl ⟨hcan, by simp⟩
  · dsimp only
    rcases hs : c.size v₁ with ⟨_ | size, v₂⟩
    · exact .inl ⟨hcan, by simp⟩
    · dsimp only
      split
      · exact .inl ⟨hcan, by simp⟩
      · -- the chunk's lines are delivered by the session with its new cursor and fragment
        let p : Poll :=
          { session := { s with cursor := c, lastSize := size,
                                splitter := (s.splitter.feed data).2 },
            volume := v₂, read := data.size }
        obtain ⟨-, hread, hend, hcases⟩ :=
          deliver_of_stopping o.dispatch t (s.splitter.feed data).1.toList p hcan htrig hstop
        rcases hcases with ⟨hnot, hsess, hheard⟩ | ⟨pre, post, hsplit, hpre, hsess, hreq, hheard⟩
        · refine .inl ⟨by rw [hsess]; exact hcan, ?_⟩
          rw [hheard, ← lineOf_of_key (show p.session.key = s.key from rfl)]
          intro hmem
          exact hnot (lineOf_mem_heardOf ((List.mem_append.mp hmem).resolve_left (by simp [p])))
        · refine .inr ⟨by rw [hsess], hend, ?_, hreq, pre, hpre, by rw [hheard]; rfl⟩
          -- a chunk that completes a line is not empty
          rw [hread]
          apply Nat.pos_of_ne_zero
          intro hzero
          have hnil := Splitter.feed_of_size_zero s.splitter data hzero
          rw [hnil] at hsplit
          simp at hsplit

/-- How a run that started from `r₀` stands with its listener's chosen line `t`: the session
has not handed out `t`, or it has, once, and since then it has been cancelled and has asked
the registry to stop it, and after `t` it handed out nothing but, once it ended, what ending
as stopped hands out. -/
def Stopping (t : ByteArray) (r₀ r : Run) : Prop :=
  r.session.key = r₀.session.key ∧ ∃ ds, r.heard.toList = r₀.heard.toList ++ ds ∧
    (r₀.session.lineOf t ∉ ds ∨
      r.session.cancelled = true ∧ (∃ q ∈ r.requests, q.stops r₀.session.id = true) ∧
        ∃ pre, r₀.session.lineOf t ∉ pre ∧
          ds = pre ++ r₀.session.lineOf t ::
            (if r.session.ended then (r₀.session.finish Ending.stopped).2.toList else []))

namespace Stopping

variable {t : ByteArray} {r₀ r : Run}

theorem refl (t : ByteArray) (r : Run) : Stopping t r r :=
  ⟨rfl, [], by simp, .inl List.not_mem_nil⟩

/-- Ending the session keeps the invariant, if a cancelled session ends as stopped. -/
theorem finish (h : Stopping t r₀ r) (hended : r.session.ended = false) (e : Ending)
    (he : r.session.cancelled = true → e = Ending.stopped) :
    Stopping t r₀
      { r with session := (r.session.finish e).1, heard := r.heard ++ (r.session.finish e).2 } := by
  obtain ⟨hkey, ds, hds, hcases⟩ := h
  obtain ⟨hfkey, hfended, hout⟩ := Session.finish_key r.session e
  refine ⟨hfkey.trans hkey, ds ++ (r.session.finish e).2.toList,
    by simp [hds, List.append_assoc], ?_⟩
  rcases hcases with hnot | ⟨hcan, hreq, pre, hpre, hsplit⟩
  · -- the line was not handed out; an ending is no line
    refine .inl fun hmem => ?_
    rcases List.mem_append.mp hmem with hmem | hmem
    · exact hnot hmem
    · rw [hout] at hmem
      split at hmem
      · simp [Session.lineOf] at hmem
      · simp at hmem
  · -- after the line, the session ends as stopped
    obtain rfl := he hcan
    refine .inr ⟨hcan, hreq, pre, hpre, ?_⟩
    rw [hsplit, hended, hfended]
    simp only [if_true, if_false, Bool.false_eq_true, List.append_assoc, List.cons_append,
      List.nil_append, Session.finish_out_of_key hkey]

/-- A poll of a session that is not cancelled keeps the invariant, the session going on
as `u`, known as after the poll, cancelled as after it, and not ended. -/
theorem poll (h : Stopping t r₀ r) (o : TailOptions)
    (htrig : r₀.session.listener.trigger = some t)
    (hstop : r₀.session.listener.reaction.stops r₀.session.id = true)
    (hcan : r.session.cancelled = false) (u : Session)
    (hkey : u.key = (r.session.poll o r.volume).session.key)
    (hucan : u.cancelled = (r.session.poll o r.volume).session.cancelled)
    (hended : u.ended = false) :
    Stopping t r₀
      { session := u, volume := (r.session.poll o r.volume).volume,
        heard := r.heard ++ (r.session.poll o r.volume).heard,
        requests := r.requests ++ (r.session.poll o r.volume).requests } := by
  obtain ⟨hrkey, ds, hds, hcases⟩ := h
  -- a session that is not cancelled has not yet handed out the line
  have hnot : r₀.session.lineOf t ∉ ds := by
    rcases hcases with hnot | ⟨hc, -⟩
    · exact hnot
    · rw [hcan] at hc
      exact absurd hc Bool.noConfusion
  have hpkey := (Session.poll_key o r.volume r.session).1
  have hl := Session.listener_eq_of_key hrkey
  have hi := Session.id_eq_of_key hrkey
  refine ⟨hkey.trans (hpkey.trans hrkey), ?_⟩
  rcases Session.poll_of_stopping o r.volume r.session t hcan (hl ▸ htrig) (hl ▸ hi ▸ hstop) with
    ⟨-, hfree⟩ | ⟨hc, -, -, ⟨q, hq, hqs⟩, pre, hpre, hheard⟩
  · refine ⟨ds ++ (r.session.poll o r.volume).heard.toList, by simp [hds], .inl ?_⟩
    rw [← Session.lineOf_of_key hrkey]
    intro hmem
    rcases List.mem_append.mp hmem with hmem | hmem
    · exact hnot (Session.lineOf_of_key hrkey t ▸ hmem)
    · exact hfree hmem
  · rw [Session.heardOf_of_key hrkey] at hheard
    refine ⟨ds ++ r₀.session.heardOf (pre ++ [t]), by simp [hds, hheard], ?_⟩
    unfold Session.heardOf
    split
    · -- the listener heard the line: the session is cancelled and asked to be stopped
      refine .inr ⟨hucan.trans hc, ⟨q, List.mem_append_right _ hq, hi ▸ hqs⟩,
        ds ++ pre.map r₀.session.lineOf, ?_, by simp [hended]⟩
      intro hmem
      rcases List.mem_append.mp hmem with hmem | hmem
      · exact hnot hmem
      · obtain ⟨x, hx, hxt⟩ := List.mem_map.mp hmem
        simp only [Session.lineOf, Delivery.line.injEq, true_and] at hxt
        exact hpre (hxt ▸ hx)
    · exact .inl (by simpa using hnot)

/-- A poll that ended the session or read nothing cancelled nothing. -/
theorem cancelled_of_poll (h : Stopping t r₀ r) (o : TailOptions)
    (htrig : r₀.session.listener.trigger = some t)
    (hstop : r₀.session.listener.reaction.stops r₀.session.id = true)
    (hcan : r.session.cancelled = false)
    (hquiet : (r.session.poll o r.volume).ending.isSome ∨ ¬(r.session.poll o r.volume).read > 0) :
    (r.session.poll o r.volume).session.cancelled = false := by
  have hl := Session.listener_eq_of_key h.1
  have hi := Session.id_eq_of_key h.1
  rcases Session.poll_of_stopping o r.volume r.session t hcan (hl ▸ htrig) (hl ▸ hi ▸ hstop) with
    ⟨hc, -⟩ | ⟨-, hnone, hread, -⟩
  · exact hc
  · rw [hnone] at hquiet
    simp only [Option.isSome_none, Bool.false_eq_true, false_or] at hquiet
    exact absurd hread hquiet

/-- A poll that ended the session or read nothing, after which the session ends: the
invariant is kept, since such a poll cancelled nothing. -/
theorem poll_finish (h : Stopping t r₀ r) (o : TailOptions)
    (htrig : r₀.session.listener.trigger = some t)
    (hstop : r₀.session.listener.reaction.stops r₀.session.id = true)
    (hcan : r.session.cancelled = false)
    (hquiet : (r.session.poll o r.volume).ending.isSome ∨ ¬(r.session.poll o r.volume).read > 0)
    (u : Session) (hkey : u.key = (r.session.poll o r.volume).session.key)
    (hucan : u.cancelled = (r.session.poll o r.volume).session.cancelled)
    (hended : u.ended = false) (e : Ending) :
    Stopping t r₀
      { session := (u.finish e).1, volume := (r.session.poll o r.volume).volume,
        heard := r.heard ++ (r.session.poll o r.volume).heard ++ (u.finish e).2,
        requests := r.requests ++ (r.session.poll o r.volume).requests } := by
  have hucan' : u.cancelled = false := hucan.trans (h.cancelled_of_poll o htrig hstop hcan hquiet)
  exact (h.poll o htrig hstop hcan u hkey hucan hended).finish hended e
    (fun hc => absurd (hucan' ▸ hc) Bool.noConfusion)

end Stopping

/-- Every run of a session whose listener stops it on the line `t` keeps the invariant: after
`t` the session hands out no line, only, once it ends, its ending as stopped, and until then
it stays cancelled and asks to be stopped. -/
theorem runFor_stopping (o : TailOptions) (t : ByteArray) (r₀ : Run)
    (htrig : r₀.session.listener.trigger = some t)
    (hstop : r₀.session.listener.reaction.stops r₀.session.id = true) (fuel : Nat) (r : Run) :
    Stopping t r₀ r → Stopping t r₀ (runFor o fuel r) := by
  induction fuel, r using runFor.induct o with
  | case1 r => intro h; rw [runFor]; exact h
  | case2 fuel r s hs =>
    intro h
    rw [runFor]
    simp only [s] at hs
    simp only [hs, if_true]
    exact h
  | case3 fuel r s hs hcan s' out hfin =>
    -- cancelled before polling: the session ends as stopped
    intro h
    rw [runFor]
    simp only [s] at hs hcan hfin
    simp only [hs, hcan, hfin, if_false, if_true, Bool.false_eq_true]
    have hended : r.session.ended = false := by simpa using hs
    have := h.finish hended Ending.stopped (fun _ => rfl)
    rw [hfin] at this
    exact this
  | case4 fuel r s hs hcan p e hend s' out hfin =>
    -- the poll ended the session, so it cancelled nothing
    intro h
    rw [runFor]
    simp only [s, p] at hs hcan hend hfin
    simp only [hs, hcan, hend, hfin, if_false, Bool.false_eq_true]
    have hpended : (r.session.poll o r.volume).session.ended = false :=
      (ended_eq_of_phase (poll_key o r.volume r.session).2.1).trans (by simpa using hs)
    have := h.poll_finish o htrig hstop (by simpa using hcan) (.inl (by rw [hend]; rfl)) _ rfl rfl
      hpended e
    rw [hfin] at this
    exact this
  | case5 fuel r s hs hcan p r₁ hend hread ih =>
    -- the poll read something: the session polls again
    intro h
    rw [runFor]
    simp only [s, p] at hs hcan hend hread
    simp only [hs, hcan, hend, hread, if_false, if_true, Bool.false_eq_true]
    exact ih (h.poll o htrig hstop (by simpa using hcan) _ rfl rfl rfl)
  | case6 fuel r s hs hcan p r₁ hend hread sw f hex s' out hfin =>
    -- the poll read nothing, so it cancelled nothing, and the existence check failed
    intro h
    rw [runFor]
    simp only [s, p, r₁, sw] at hs hcan hend hread hex hfin
    simp only [hs, hcan, hend, hread, hex, hfin, if_false, Bool.false_eq_true]
    have := h.poll_finish o htrig hstop (by simpa using hcan) (.inr hread)
      { (r.session.poll o r.volume).session with phase := .waiting } rfl rfl rfl
      ⟨.readError, f.message⟩
    rw [hfin] at this
    exact this
  | case7 fuel r s hs hcan p r₁ hend hread sw hex s' out hfin =>
    -- the poll read nothing, so it cancelled nothing, and the path is gone
    intro h
    rw [runFor]
    simp only [s, p, r₁, sw] at hs hcan hend hread hex hfin
    simp only [hs, hcan, hend, hread, hex, hfin, if_false, Bool.false_eq_true]
    have := h.poll_finish o htrig hstop (by simpa using hcan) (.inr hread)
      { (r.session.poll o r.volume).session with phase := .waiting } rfl rfl rfl
      (Ending.removed (r.session.poll o r.volume).session.path)
    rw [hfin] at this
    exact this
  | case8 fuel r s hs hcan p r₁ hend hread sw hex hgo ih =>
    -- the poll read nothing, the path is there, and a fault or a cancellation is pending
    intro h
    rw [runFor]
    simp only [s, p, r₁, sw] at hs hcan hend hread hex hgo
    simp only [hs, hcan, hend, hread, hex, hgo, if_false, if_true, Bool.false_eq_true]
    exact ih (h.poll o htrig hstop (by simpa using hcan) _ rfl rfl rfl)
  | case9 fuel r s hs hcan p r₁ hend hread sw hex hgo =>
    -- the poll read nothing and nothing is pending: the session waits
    intro h
    rw [runFor]
    simp only [s, p, r₁, sw] at hs hcan hend hread hex hgo
    simp only [hs, hcan, hend, hread, hex, hgo, if_false, Bool.false_eq_true]
    exact h.poll o htrig hstop (by simpa using hcan) _ rfl rfl rfl

end Session
end LiveTail
