import LiveTail.Registry

/-!
# What one session hands out

Whatever a session meets while it runs (growth, shrinking, removal, failing reads, a
listener that fails or stops sessions), what it hands to its listener reads as a transcript:
its lines, then at most one ending, and the ending is there exactly when the session has
ended and its listener hears endings. A session keeps its number, identifier and listener
throughout, and every delivery carries its number.

`runFor_transcript` is the run lemma; each poll (`poll_key`, built on `deliver_key`) hands
out lines only, and `finish` hands out the one ending.
-/
namespace LiveTail

namespace Delivery

/-- Whether a delivery is an ending rather than a line. -/
def isEnding : Delivery → Bool
  | line .. => false
  | ending .. => true

@[simp] theorem isEnding_line (n : Nat) (id : String) (t : ByteArray) :
    (line n id t).isEnding = false := rfl

@[simp] theorem isEnding_ending (n : Nat) (id : String) (e : Ending) :
    (ending n id e).isEnding = true := rfl

@[simp] theorem session_line (n : Nat) (id : String) (t : ByteArray) :
    (line n id t).session = n := rfl

@[simp] theorem session_ending (n : Nat) (id : String) (e : Ending) :
    (ending n id e).session = n := rfl

end Delivery

/-- Deliveries that read as what one session hands out: lines, then one ending if `ended`
and none otherwise. -/
def Transcript (ended : Bool) (ds : List Delivery) : Prop :=
  ∃ lines ends, ds = lines ++ ends ∧ (∀ d ∈ lines, d.isEnding = false) ∧
    (∀ d ∈ ends, d.isEnding = true) ∧ ends.length = ended.toNat

namespace Transcript

theorem of_lines {ds : List Delivery} (h : ∀ d ∈ ds, d.isEnding = false) :
    Transcript false ds :=
  ⟨ds, [], by simp, h, by simp, rfl⟩

theorem nil : Transcript false [] := of_lines (by simp)

theorem single_ending (n : Nat) (id : String) (e : Ending) :
    Transcript true [.ending n id e] :=
  ⟨[], [.ending n id e], rfl, by simp, by simp, rfl⟩

/-- Lines before a transcript keep it one. -/
theorem append {a b : List Delivery} {ended : Bool} (ha : Transcript false a)
    (hb : Transcript ended b) : Transcript ended (a ++ b) := by
  obtain ⟨la, ea, rfl, hla, -, hea⟩ := ha
  obtain ⟨lb, eb, rfl, hlb, heb, hlen⟩ := hb
  have hnil : ea = [] := List.eq_nil_of_length_eq_zero hea
  subst hnil
  refine ⟨la ++ lb, eb, by simp, ?_, heb, hlen⟩
  intro d hd
  rcases List.mem_append.mp hd with hd | hd
  · exact hla d hd
  · exact hlb d hd

end Transcript

namespace Session

/-- What a session is known by: its number, its identifier and its listener. -/
def key (s : Session) : Nat × String × Listener := (s.number, s.id, s.listener)

theorem number_eq_of_key {s t : Session} (h : t.key = s.key) : t.number = s.number :=
  congrArg Prod.fst h

theorem id_eq_of_key {s t : Session} (h : t.key = s.key) : t.id = s.id :=
  congrArg (fun k => k.2.1) h

theorem listener_eq_of_key {s t : Session} (h : t.key = s.key) : t.listener = s.listener :=
  congrArg (fun k => k.2.2) h

/-- Ending a session keeps what it is known by and hands out its one ending, if its
listener hears endings. -/
theorem finish_key (s : Session) (e : Ending) :
    (s.finish e).1.key = s.key ∧ (s.finish e).1.ended = true ∧
      (s.finish e).2.toList = if s.listener.hearsEnding then [.ending s.number s.id e] else [] := by
  refine ⟨rfl, rfl, ?_⟩
  by_cases h : s.listener.hearsEnding <;> simp [finish, h]

theorem finish_transcript (s : Session) (e : Ending) :
    Transcript s.listener.hearsEnding (s.finish e).2.toList := by
  rw [(finish_key s e).2.2]
  cases h : s.listener.hearsEnding
  · exact Transcript.nil
  · exact Transcript.single_ending _ _ _

theorem react_key (s : Session) (r : Reaction) :
    (s.react r).1.key = s.key ∧ (s.react r).1.phase = s.phase := by
  cases r <;> exact ⟨rfl, rfl⟩

/-- Handing out lines keeps what the session is known by and its phase, and hears some of
the lines, in order, as line deliveries of the session. -/
theorem deliver_key (d : Dispatch) (p : Poll) (lines : List ByteArray) :
    (deliver d p lines).session.key = p.session.key ∧
      (deliver d p lines).session.phase = p.session.phase ∧
      ∃ texts : List ByteArray, (deliver d p lines).heard.toList =
        p.heard.toList ++ texts.map (.line p.session.number p.session.id) := by
  induction p, lines using deliver.induct d with
  | case1 p => exact ⟨rfl, rfl, [], by simp [deliver]⟩
  | case2 p line rest s hcan =>
    simp only [deliver, s, hcan, if_true, true_and]
    exact ⟨[], by simp⟩
  | case3 p line rest s hcan htrig value hfail hd =>
    simp only [deliver, s, hcan, htrig, hfail, hd, Bool.false_eq_true, if_false, if_true, true_and]
    refine ⟨if p.session.listener.hearsLines then [line] else [], ?_⟩
    split <;> simp
  | case4 p line rest s hcan heard p' htrig value hfail hd ih =>
    simp only [deliver, s, hcan, htrig, hfail, hd, Bool.false_eq_true, if_false, if_true]
    obtain ⟨hkey, hphase, texts, hheard⟩ := ih
    refine ⟨hkey, hphase, (if p.session.listener.hearsLines then [line] else []) ++ texts, ?_⟩
    rw [hheard]
    split <;> simp_all [p', heard, s]
  | case5 p line rest s hcan heard p' htrig s' reqs hnf hreact ih =>
    have hstep : deliver d p (line :: rest) =
        deliver d { p' with session := s', requests := p'.requests ++ reqs } rest :=
      deliver_react hcan htrig hnf hreact rfl
    have hs' := react_key p.session p.session.listener.reaction
    rw [show p.session.react p.session.listener.reaction = (s', reqs) from hreact] at hs'
    obtain ⟨hkey, hphase, texts, hheard⟩ := ih
    rw [hstep]
    refine ⟨hkey.trans hs'.1, hphase.trans hs'.2,
      (if p.session.listener.hearsLines then [line] else []) ++ texts, ?_⟩
    rw [hheard, number_eq_of_key hs'.1, id_eq_of_key hs'.1]
    split <;> simp_all [p', heard, s]
  | case6 p line rest s hcan heard p' htrig ih =>
    simp only [deliver, s, hcan, htrig, Bool.false_eq_true, if_false]
    obtain ⟨hkey, hphase, texts, hheard⟩ := ih
    refine ⟨hkey, hphase, (if p.session.listener.hearsLines then [line] else []) ++ texts, ?_⟩
    rw [hheard]
    split <;> simp_all [p', heard, s]

/-- A poll keeps what the session is known by and its phase, and hands out only line
deliveries of the session. -/
theorem poll_key (o : TailOptions) (v : Volume) (s : Session) :
    (s.poll o v).session.key = s.key ∧ (s.poll o v).session.phase = s.phase ∧
      ∃ texts : List ByteArray, (s.poll o v).heard.toList = texts.map (.line s.number s.id) := by
  unfold poll
  rcases hr : s.cursor.read v o.bufferSize with ⟨_ | data, c, v₁⟩
  · exact ⟨rfl, rfl, [], rfl⟩
  · dsimp only
    rcases hs : c.size v₁ with ⟨_ | size, v₂⟩
    · exact ⟨rfl, rfl, [], rfl⟩
    · dsimp only
      split
      · exact ⟨rfl, rfl, [], rfl⟩
      · obtain ⟨hkey, hphase, texts, hheard⟩ := deliver_key _ _ _
        exact ⟨hkey, hphase, texts, by simpa using hheard⟩

theorem lines_not_ending (n : Nat) (id : String) (texts : List ByteArray) :
    ∀ d ∈ texts.map (Delivery.line n id), d.isEnding = false := by
  simp

theorem lines_session (n : Nat) (id : String) (texts : List ByteArray) :
    ∀ d ∈ texts.map (Delivery.line n id), d.session = n := by
  simp

/-- A run that went from `r` to `r'`: the session is still known by the same number,
identifier and listener, and what was heard grew by a transcript of the session, with its
ending exactly when the session has ended and its listener hears endings. -/
def Extends (r r' : Run) : Prop :=
  r'.session.key = r.session.key ∧ ∃ ds, r'.heard.toList = r.heard.toList ++ ds ∧
    (∀ d ∈ ds, d.session = r.session.number) ∧
    Transcript (r'.session.ended && r.session.listener.hearsEnding) ds

/-- Handing out lines of the session, which goes on. -/
theorem extends_lines {r r' : Run} (hkey : r'.session.key = r.session.key)
    (hended : r'.session.ended = false) (texts : List ByteArray)
    (hheard : r'.heard.toList = r.heard.toList ++ texts.map (.line r.session.number r.session.id)) :
    Extends r r' := by
  refine ⟨hkey, _, hheard, lines_session _ _ _, ?_⟩
  rw [hended, Bool.false_and]
  exact Transcript.of_lines (lines_not_ending _ _ _)

/-- Ending the session, known as before, hands out its ending. -/
theorem extends_finish {r r' : Run} {s : Session} {e : Ending} (hs : s.key = r.session.key)
    (hsession : r'.session = (s.finish e).1)
    (hheard : r'.heard.toList = r.heard.toList ++ (s.finish e).2.toList) : Extends r r' := by
  obtain ⟨hkey, hended, hout⟩ := finish_key s e
  refine ⟨hsession ▸ hkey.trans hs, _, hheard, ?_, ?_⟩
  · intro d hd
    rw [hout] at hd
    split at hd
    · rw [List.mem_singleton.mp hd, Delivery.session_ending, number_eq_of_key hs]
    · simp at hd
  · rw [hsession, hended, Bool.true_and, ← listener_eq_of_key hs]
    exact finish_transcript s e

theorem Extends.refl {r : Run} (hr : r.session.ended = false) : Extends r r :=
  extends_lines rfl hr [] (by simp)

/-- A run that goes on after extending, extended again. -/
theorem Extends.trans {r r₁ r₂ : Run} (h₁ : Extends r r₁) (hended : r₁.session.ended = false)
    (h₂ : Extends r₁ r₂) : Extends r r₂ := by
  obtain ⟨hkey₁, ds₁, hds₁, hsess₁, htr₁⟩ := h₁
  obtain ⟨hkey₂, ds₂, hds₂, hsess₂, htr₂⟩ := h₂
  rw [hended, Bool.false_and] at htr₁
  refine ⟨hkey₂.trans hkey₁, ds₁ ++ ds₂, by rw [hds₂, hds₁, List.append_assoc], ?_, ?_⟩
  · intro d hd
    rcases List.mem_append.mp hd with hd | hd
    · exact hsess₁ d hd
    · rw [hsess₂ d hd, number_eq_of_key hkey₁]
  · rw [← listener_eq_of_key hkey₁]
    exact htr₁.append htr₂

theorem ended_eq_of_phase {s t : Session} (h : t.phase = s.phase) : t.ended = s.ended := by
  simp [ended, h]

/-- A poll of a session that has not ended, after which the session goes on as `t`, known as
before, and the run extends on from there. -/
theorem extends_poll_then {o : TailOptions} {r r' : Run} (t : Session)
    (hkey : t.key = (r.session.poll o r.volume).session.key) (hended : t.ended = false)
    (h : Extends
      { session := t, volume := (r.session.poll o r.volume).volume,
        heard := r.heard ++ (r.session.poll o r.volume).heard,
        requests := r.requests ++ (r.session.poll o r.volume).requests } r') :
    Extends r r' := by
  obtain ⟨hpkey, -, texts, htexts⟩ := poll_key o r.volume r.session
  refine Extends.trans (extends_lines (hkey.trans hpkey) hended texts ?_) hended h
  rw [Array.toList_append, htexts]

/-- Every run of a session that has not ended hands out a transcript of it. -/
theorem runFor_transcript (o : TailOptions) (fuel : Nat) (r : Run)
    (hr : r.session.ended = false) : Extends r (runFor o fuel r) := by
  induction fuel, r using runFor.induct o with
  | case1 r =>
    rw [runFor]
    exact Extends.refl hr
  | case2 fuel r s hs => simp [s, hr] at hs
  | case3 fuel r s hs hcan s' out hfin =>
    -- cancelled before polling: the session ends as stopped
    rw [runFor]
    simp only [s] at hs hcan hfin
    simp only [hs, hcan, hfin, if_false, if_true, Bool.false_eq_true]
    exact extends_finish rfl (by rw [hfin]) (by rw [hfin]; simp)
  | case4 fuel r s hs hcan p e hend s' out hfin =>
    -- the poll ended the session
    rw [runFor]
    simp only [s, p] at hs hcan hend hfin
    simp only [hs, hcan, hend, hfin, if_false, Bool.false_eq_true]
    have hended : (r.session.poll o r.volume).session.ended = false :=
      (ended_eq_of_phase (poll_key o r.volume r.session).2.1).trans hr
    exact extends_poll_then _ rfl hended
      (extends_finish rfl (by rw [hfin]) (by rw [hfin]; simp))
  | case5 fuel r s hs hcan p r₁ hend hread ih =>
    -- the poll read something: the session polls again
    rw [runFor]
    simp only [s, p] at hs hcan hend hread
    simp only [hs, hcan, hend, hread, if_false, if_true, Bool.false_eq_true]
    exact extends_poll_then { (r.session.poll o r.volume).session with phase := .polling } rfl rfl
      (ih rfl)
  | case6 fuel r s hs hcan p r₁ hend hread sw f hex s' out hfin =>
    -- the poll read nothing and the existence check failed
    rw [runFor]
    simp only [s, p, r₁, sw] at hs hcan hend hread hex hfin
    simp only [hs, hcan, hend, hread, hex, hfin, if_false, Bool.false_eq_true]
    exact extends_poll_then sw rfl rfl (extends_finish rfl (by rw [hfin]) (by rw [hfin]; simp))
  | case7 fuel r s hs hcan p r₁ hend hread sw hex s' out hfin =>
    -- the poll read nothing and the path is gone
    rw [runFor]
    simp only [s, p, r₁, sw] at hs hcan hend hread hex hfin
    simp only [hs, hcan, hend, hread, hex, hfin, if_false, Bool.false_eq_true]
    exact extends_poll_then sw rfl rfl (extends_finish rfl (by rw [hfin]) (by rw [hfin]; simp))
  | case8 fuel r s hs hcan p r₁ hend hread sw hex hgo ih =>
    -- the poll read nothing, the path is there, and a fault or a cancellation is pending
    rw [runFor]
    simp only [s, p, r₁, sw] at hs hcan hend hread hex hgo
    simp only [hs, hcan, hend, hread, hex, hgo, if_false, if_true, Bool.false_eq_true]
    exact extends_poll_then sw rfl rfl (ih rfl)
  | case9 fuel r s hs hcan p r₁ hend hread sw hex hgo =>
    -- the poll read nothing and nothing is pending: the session waits
    rw [runFor]
    simp only [s, p, r₁, sw] at hs hcan hend hread hex hgo
    simp only [hs, hcan, hend, hread, hex, hgo, if_false, Bool.false_eq_true]
    exact extends_poll_then sw rfl rfl (Extends.refl rfl)

/-- Letting a session that has not ended run until nothing changes hands out a transcript
of it, and the session keeps its number, identifier and listener. -/
theorem settle_transcript (o : TailOptions) (v : Volume) (s : Session) (hs : s.ended = false) :
    (s.settle o v).session.key = s.key ∧
      (∀ d ∈ (s.settle o v).heard.toList, d.session = s.number) ∧
      Transcript ((s.settle o v).session.ended && s.listener.hearsEnding)
        (s.settle o v).heard.toList := by
  obtain ⟨hkey, ds, hds, hsess, htr⟩ := runFor_transcript o (budget v s) ⟨s, v, #[], []⟩ hs
  simp only [List.nil_append] at hds
  exact ⟨hkey, hds ▸ hsess, hds ▸ htr⟩

end Session
end LiveTail
