import LiveTail.Proofs.JsonLiterals
import LiveTail.Host.Message
import LiveTail.Cli.Program
/-!
# What the host's lines carry

Each notification is one JSON object on one line. A line of a file travels as the text its
octets encode when they are UTF-8 and as their base64 otherwise, so the octets come back
exactly either way; an ending carries its message, the name of its kind and whether the
session was stopped. The host writes nothing but such lines and its replies, each whole and
ended by a newline, so no two of them share a line.
-/
namespace LiveTail
open Document.Json

theorem reads_truth (b : Bool) : Reads (Reply.truth b) (.bool b) := by
  intro depth fuel rest
  cases b
  · rw [Reply.truth, if_neg (by decide), Utf8.octetChars_ascii (by simp)]
    rfl
  · rw [Reply.truth, if_pos rfl, Utf8.octetChars_ascii (by simp)]
    rfl

/-- The line notification of octets that are UTF-8 carries the text they encode. -/
theorem parse_notification_text (n : Nat) (id s : String) :
    parse (Utf8.octetChars (Delivery.line n id s.toUTF8).notification.toUTF8) =
      .ok (.object [("event", .string "line"), ("id", .string id), ("status", .bool true),
        ("data", .string s)]) := by
  rw [Delivery.notification, if_pos (Utf8.valid_toUTF8 s), Json.quoteBytes_toUTF8]
  exact parse_object ("event", Json.quote "line", .string "line")
    [("id", Json.quote id, .string id), ("status", "true", .bool true),
      ("data", Json.quote s, .string s)] (reads_quote _) (by
      simp only [List.forall_mem_cons, List.not_mem_nil, false_implies, implies_true, and_true]
      exact ⟨reads_quote _, reads_truth true, reads_quote _⟩)

/-- A line notification of octets that are not UTF-8 carries their base64, marked so. -/
theorem parse_notification_base64 (n : Nat) (id : String) {b : ByteArray}
    (h : Utf8.valid b = false) :
    parse (Utf8.octetChars (Delivery.line n id b).notification.toUTF8) =
      .ok (.object [("event", .string "line"), ("id", .string id), ("status", .bool true),
        ("data", .string (Base64.encode b)), ("encoding", .string "base64")]) := by
  rw [Delivery.notification, if_neg (by rw [h]; decide)]
  exact parse_object ("event", Json.quote "line", .string "line")
    [("id", Json.quote id, .string id), ("status", "true", .bool true),
      ("data", Json.quote (Base64.encode b), .string (Base64.encode b)),
      ("encoding", Json.quote "base64", .string "base64")] (reads_quote _) (by
      simp only [List.forall_mem_cons, List.not_mem_nil, false_implies, implies_true, and_true]
      exact ⟨reads_quote _, reads_truth true, reads_quote _, reads_quote _⟩)

/-- An ending's notification carries its message, its kind's name, and a status that is
true exactly for a session that was stopped. -/
theorem parse_notification_ending (n : Nat) (id : String) (e : Ending) :
    parse (Utf8.octetChars (Delivery.ending n id e).notification.toUTF8) =
      .ok (.object [("event", .string "terminal"), ("id", .string id),
        ("status", .bool (decide (e.kind = .stopped))), ("data", .string e.message),
        ("kind", .string e.kind.name)]) := by
  rw [Delivery.notification]
  exact parse_object ("event", Json.quote "terminal", .string "terminal")
    [("id", Json.quote id, .string id),
      ("status", Reply.truth (e.kind = .stopped), .bool (decide (e.kind = .stopped))),
      ("data", Json.quote e.message, .string e.message),
      ("kind", Json.quote e.kind.name, .string e.kind.name)] (reads_quote _) (by
      simp only [List.forall_mem_cons, List.not_mem_nil, false_implies, implies_true, and_true]
      exact ⟨reads_quote _, reads_truth _, reads_quote _, reads_quote _⟩)

theorem newline_not_mem_truth (b : Bool) : '\n' ∉ (Reply.truth b).toList := by
  cases b <;> decide

theorem newline_not_mem_notification (d : Delivery) : '\n' ∉ d.notification.toList := by
  cases d with
  | line n id b =>
    rw [Delivery.notification]
    split
    · refine Json.newline_not_mem_object _ ?_
      simp only [List.cons_append, List.nil_append, List.forall_mem_cons, List.not_mem_nil,
        false_implies, implies_true, and_true]
      exact ⟨Json.newline_not_mem_quote _, Json.newline_not_mem_quote _, by decide,
        Json.newline_not_mem_quoteBytes _⟩
    · refine Json.newline_not_mem_object _ ?_
      simp only [List.cons_append, List.nil_append, List.forall_mem_cons, List.not_mem_nil,
        false_implies, implies_true, and_true]
      exact ⟨Json.newline_not_mem_quote _, Json.newline_not_mem_quote _, by decide,
        Json.newline_not_mem_quote _, Json.newline_not_mem_quote _⟩
  | ending n id e =>
    refine Json.newline_not_mem_object _ ?_
    simp only [List.forall_mem_cons, List.not_mem_nil, false_implies, implies_true, and_true]
    exact ⟨Json.newline_not_mem_quote _, Json.newline_not_mem_quote _, newline_not_mem_truth _,
      Json.newline_not_mem_quote _, Json.newline_not_mem_quote _⟩

theorem newline_not_mem_reply (r : Reply) : '\n' ∉ r.line.toList := by
  refine Json.newline_not_mem_object _ ?_
  simp only [List.forall_mem_cons, List.not_mem_nil, false_implies, implies_true, and_true]
  refine ⟨Json.newline_not_mem_quote _, newline_not_mem_truth _, ?_⟩
  -- the data: octets quoted, a flag, or nothing
  split
  · exact Json.newline_not_mem_quoteBytes _
  · exact newline_not_mem_truth _
  · decide

/-- A line the host writes: the literal of a reply or of a notification. -/
def HostLine (l : String) : Prop := (∃ r : Reply, l = r.line) ∨ ∃ d : Delivery, l = d.notification

theorem HostLine.newline_not_mem {l : String} (h : HostLine l) : '\n' ∉ l.toList := by
  rcases h with ⟨r, rfl⟩ | ⟨d, rfl⟩
  · exact newline_not_mem_reply r
  · exact newline_not_mem_notification d

/-- Serving command lines appends whole host lines, each ended by a newline. -/
theorem serveScript_go_lines (h : Host) (out : String) (lines : List ByteArray) :
    ∃ ls : List String, (Cli.serveScript.go h out lines).1 =
      out ++ String.join (ls.map (· ++ "\n")) ∧ ∀ l ∈ ls, HostLine l := by
  induction lines generalizing h out with
  | nil => exact ⟨[], by simp [Cli.serveScript.go], by simp⟩
  | cons line rest ih =>
    rw [Cli.serveScript.go]
    split
    next reply quit h' _ =>
    split
    next heard r _ =>
    dsimp only
    rw [String.append_assoc]
    -- whatever whole lines the command adds, the rest of the script adds whole lines after them
    have hadd : ∀ (H : Host) (xs : List String), (∀ l ∈ xs, HostLine l) →
        ∃ ls : List String, (if quit = true then (out ++ String.join (xs.map (· ++ "\n")), true, H)
          else Cli.serveScript.go H (out ++ String.join (xs.map (· ++ "\n"))) rest).1 =
            out ++ String.join (ls.map (· ++ "\n")) ∧ ∀ l ∈ ls, HostLine l := by
      intro H xs hxs
      split
      · exact ⟨xs, rfl, hxs⟩
      · obtain ⟨ls, hls, hall⟩ := ih H (out ++ String.join (xs.map (· ++ "\n")))
        refine ⟨xs ++ ls, ?_, fun l hl => (List.mem_append.mp hl).elim (hxs l) (hall l)⟩
        rw [hls, List.map_append, String.join_append, String.append_assoc]
    have hnotes : ∀ l ∈ heard.toList.map Delivery.notification, HostLine l := by
      intro l hl
      obtain ⟨d, -, rfl⟩ := List.mem_map.mp hl
      exact .inr ⟨d, rfl⟩
    -- the reply to the line, if any, then the notifications of what it caused
    cases reply with
    | none =>
      have := hadd { registry := r, sandbox := h'.sandbox, started := h'.started }
        (heard.toList.map Delivery.notification) hnotes
      simpa [List.map_map, Function.comp_def] using this
    | some reply =>
      have := hadd { registry := r, sandbox := h'.sandbox, started := h'.started }
        (reply.line :: heard.toList.map Delivery.notification) (by
          intro l hl
          rcases List.mem_cons.mp hl with rfl | hl
          · exact .inl ⟨reply, rfl⟩
          · exact hnotes l hl)
      simpa [List.map_map, Function.comp_def, String.append_assoc] using this

/-- The host writes whole lines, each the literal of one reply or one notification and each
ended by a newline: what different sessions and replies write never shares a line. -/
theorem serveScript_lines (h : Host) (script : ByteArray) :
    ∃ ls : List String, (Cli.serveScript h script).1 = String.join (ls.map (· ++ "\n")) ∧
      ∀ l ∈ ls, HostLine l := by
  rw [Cli.serveScript]
  split
  next lines tooLong _ =>
  split
  next out quit h' hgo =>
  split
  next heard r _ =>
  obtain ⟨ls, hls, hall⟩ := serveScript_go_lines h "" lines.toList
  rw [hgo, String.empty_append] at hls
  refine ⟨ls ++ heard.toList.map Delivery.notification, ?_, ?_⟩
  · show out ++ _ = _
    rw [show out = _ from hls, List.map_append, String.join_append, List.map_map]
    rfl
  · intro l hl
    rcases List.mem_append.mp hl with hl | hl
    · exact hall l hl
    · obtain ⟨d, -, rfl⟩ := List.mem_map.mp hl
      exact .inr ⟨d, rfl⟩

/-- Line notifications lose no octets. The notification of a line is one JSON object on one
line; it reads back as the event, the session's identifier, a true status and data that
give the line's octets exactly: the text they encode when they are UTF-8, and otherwise
their base64, marked so, which decodes to them. An ending's notification carries a status
that is true exactly when the session was stopped, and the name of its kind. The host's
whole output is lines, each one reply or one notification. -/
theorem line_notifications_lose_no_octets (n : Nat) (id : String) (b : ByteArray) :
    let line := (Delivery.line n id b).notification
    '\n' ∉ line.toList ∧
    (b.IsValidUTF8 → ∃ s : String, s.toUTF8 = b ∧
      parse (Utf8.octetChars line.toUTF8) = .ok (.object [("event", .string "line"),
        ("id", .string id), ("status", .bool true), ("data", .string s)])) ∧
    (¬ b.IsValidUTF8 →
      parse (Utf8.octetChars line.toUTF8) = .ok (.object [("event", .string "line"),
        ("id", .string id), ("status", .bool true), ("data", .string (Base64.encode b)),
        ("encoding", .string "base64")]) ∧ Base64.decode? (Base64.encode b) = some b) ∧
    (∀ e : Ending, '\n' ∉ (Delivery.ending n id e).notification.toList ∧
      parse (Utf8.octetChars (Delivery.ending n id e).notification.toUTF8) =
        .ok (.object [("event", .string "terminal"), ("id", .string id),
          ("status", .bool (decide (e.kind = .stopped))), ("data", .string e.message),
          ("kind", .string e.kind.name)])) ∧
    ∀ (h : Host) (script : ByteArray), ∃ ls : List String,
      (Cli.serveScript h script).1 = String.join (ls.map (· ++ "\n")) ∧
      ∀ l ∈ ls, '\n' ∉ l.toList ∧ HostLine l := by
  dsimp only
  refine ⟨newline_not_mem_notification _, ?_, ?_, ?_, ?_⟩
  · rintro ⟨cs, rfl⟩
    refine ⟨String.ofList cs, String.toByteArray_ofList, ?_⟩
    rw [← String.toByteArray_ofList]
    exact parse_notification_text n id (String.ofList cs)
  · intro hv
    have hinvalid : Utf8.valid b = false := by
      rw [← Bool.not_eq_true, Utf8.valid_iff]
      exact hv
    exact ⟨parse_notification_base64 n id hinvalid, Base64.decode?_encode b⟩
  · exact fun e => ⟨newline_not_mem_notification _, parse_notification_ending n id e⟩
  · intro h script
    obtain ⟨ls, hls, hall⟩ := serveScript_lines h script
    exact ⟨ls, hls, fun l hl => ⟨(hall l hl).newline_not_mem, hall l hl⟩⟩

end LiveTail
