import LiveTail.Host.Serve
import LiveTail.Proofs.LineView
import LiveTail.Proofs.Driving

/-!
# The host's line protocol

Each command line is answered by at most one reply. A line with no words gets none; any
other line gets exactly one, named by its first word, or by nothing when the line cannot be
cut into words (`exec_cmd`). Only `shutdown` ends the conversation, and it stops every
session before it answers (`exec_quit`). A reply says success exactly when the command is
known, has as many arguments as it takes, and its work succeeded: the truth value of
`listenOnFile` reads and its start goes through, the file of `getTextFile` reads, the write
of `writeLocalAppDataFile` goes through (`exec_status`).

A script is served line by line: its lines are cut at newlines, one carriage return before
each newline dropped, reading stopping at the first line of 16 MiB or more; they run in
order, up to the first `shutdown` and no further (`runLines_until_shutdown`), each non-blank
one answered by its own reply (`runLines_cmds`), and every session is stopped at the end.
-/
namespace LiveTail

namespace Lines

/-- The segments of a byte string between newlines: the lines that newlines end, then the
bytes after the last newline if there are any. -/
def segments (b : List UInt8) : List (List UInt8) :=
  (split b).1 ++ (if (split b).2 = [] then [] else [(split b).2])

@[simp] theorem segments_nil : segments [] = [] := rfl

/-- Bytes with no newline are one segment. -/
theorem segments_of_newline_free {b : List UInt8} (h : 10 ∉ b) (hne : b ≠ []) :
    segments b = [b] := by
  simp [segments, split, splitFrom_of_newline_free h, hne]

/-- A segment ended by a newline comes first. -/
theorem segments_append_newline {seg : List UInt8} (h : 10 ∉ seg) (rest : List UInt8) :
    segments (seg ++ 10 :: rest) = seg :: segments rest := by
  unfold segments split
  rw [splitFrom_append, splitFrom_of_newline_free h, List.nil_append, splitFrom_newline]
  simp

end Lines

/-- The script's segment from `start` to `stop` is `stop - start` bytes long when `stop` is
within the script. -/
theorem extract_length (script : ByteArray) {start stop : Nat} (h : stop ≤ script.size) :
    (script.extract start stop).data.toList.length = stop - start := by
  rw [Splitter.extract_toList]
  simp
  omega

/-- Reading a script from `start` adds to the lines already read the segments from `start`
on, each without its carriage return, as far as they are shorter than 16 MiB; it reports a
line too long exactly when one of them is not. -/
theorem scriptLinesFrom_view (script : ByteArray) (start : Nat) (acc : Array ByteArray) :
    (scriptLinesFrom script start acc).1.toList.map (·.data.toList) =
        acc.toList.map (·.data.toList) ++
          ((Lines.segments (script.data.toList.drop start)).takeWhile
            (fun l => decide (l.length < maxCommandLine))).map Lines.dropReturn ∧
      (scriptLinesFrom script start acc).2 =
        !(Lines.segments (script.data.toList.drop start)).all
          (fun l => decide (l.length < maxCommandLine)) := by
  induction start, acc using scriptLinesFrom.induct script with
  | case1 start acc hstart i hi hlong =>
    -- a line too long: reading stops before it
    obtain ⟨hdrop, hfree⟩ := Splitter.newlineFrom_eq_some hi
    have hlen := @extract_length script start i (Nat.le_of_lt (Splitter.newlineFrom_lt _ _ _ hi))
    have hp : decide ((script.extract start i).data.toList.length < maxCommandLine) = false := by
      rw [hlen]
      exact decide_eq_false (by omega)
    rw [scriptLinesFrom, if_pos hstart]
    split
    · rename_i j hj
      obtain rfl : j = i := Option.some_inj.mp (hj.symm.trans hi)
      rw [if_pos hlong, hdrop, Lines.segments_append_newline hfree]
      simp only [List.takeWhile_cons, List.all_cons, hp, Bool.false_eq_true, if_false,
        List.map_nil, List.append_nil, Bool.false_and, Bool.not_false, and_self]
    · rename_i hnone
      rw [hi] at hnone
      cases hnone
  | case2 start acc hstart i hi hshort _ ih =>
    -- a line that fits: it is read, then the rest from after its newline
    obtain ⟨hdrop, hfree⟩ := Splitter.newlineFrom_eq_some hi
    have hlen := @extract_length script start i (Nat.le_of_lt (Splitter.newlineFrom_lt _ _ _ hi))
    have hp : decide ((script.extract start i).data.toList.length < maxCommandLine) = true := by
      rw [hlen]
      exact decide_eq_true (by omega)
    rw [scriptLinesFrom, if_pos hstart]
    split
    · rename_i j hj
      obtain rfl : j = i := Option.some_inj.mp (hj.symm.trans hi)
      rw [if_neg hshort, hdrop, Lines.segments_append_newline hfree, ih.1, ih.2]
      simp only [List.takeWhile_cons, List.all_cons, hp, if_true, List.map_cons, Bool.true_and,
        Array.toList_push, List.map_append, Splitter.trimReturn_toList, List.append_assoc]
      simp
    · rename_i hnone
      rw [hi] at hnone
      cases hnone
  | case3 start acc hstart hi hlong =>
    have hfree := Splitter.newlineFrom_eq_none hi
    have hne : script.data.toList.drop start ≠ [] := by simp; omega
    rw [scriptLinesFrom, if_pos hstart]
    split
    · rename_i j hj
      rw [hi] at hj
      cases hj
    · have hp : decide ((script.data.toList.drop start).length < maxCommandLine) = false := by
        rw [List.length_drop]
        exact decide_eq_false (by simp only [Array.length_toList, ByteArray.size] at hlong ⊢; omega)
      rw [if_pos hlong, Lines.segments_of_newline_free hfree hne]
      simp only [List.takeWhile_cons, List.all_cons, hp, Bool.false_eq_true, if_false,
        List.map_nil, List.append_nil, Bool.false_and, Bool.not_false, and_self]
  | case4 start acc hstart hi hshort =>
    have hfree := Splitter.newlineFrom_eq_none hi
    have hne : script.data.toList.drop start ≠ [] := by simp; omega
    rw [scriptLinesFrom, if_pos hstart]
    split
    · rename_i j hj
      rw [hi] at hj
      cases hj
    · have hp : decide ((script.data.toList.drop start).length < maxCommandLine) = true := by
        rw [List.length_drop]
        exact decide_eq_true (by simp only [Array.length_toList, ByteArray.size] at hshort ⊢; omega)
      rw [if_neg hshort, Lines.segments_of_newline_free hfree hne]
      simp only [Array.toList_push, List.map_append, List.takeWhile_cons, hp, if_true,
        List.takeWhile_nil, List.all_cons, List.all_nil, Bool.and_true, Bool.not_true]
      -- the last line runs to the end of the script
      simp
      exact congrArg Lines.dropReturn (List.take_of_length_le (by simp))
  | case5 start acc hstart =>
    have hnil : script.data.toList.drop start = [] := by simp; omega
    rw [scriptLinesFrom, if_neg hstart, hnil]
    simp

namespace Host

/-- The name a reply to a command line carries: its first word, or nothing when the line
cannot be cut into words; a line with no words gets no reply. -/
def commandName? (line : String) : Option String :=
  match Words.split line with
  | none => some ""
  | some [] => none
  | some (cmd :: _) => some cmd

/-- The command line ends the conversation. -/
def quits (line : String) : Bool := commandName? line == some "shutdown"

/-- How many arguments each known command takes, `none` for any number; an unknown command
has no entry. -/
def expectedArgs : String → Option (Option Nat)
  | "listenOnFile" => some (some 3)
  | "stopFileListen" => some (some 1)
  | "getTextFile" => some (some 1)
  | "fileExists" => some (some 1)
  | "isDirectory" => some (some 1)
  | "writeLocalAppDataFile" => some (some 2)
  | "shutdown" => some none
  | _ => none

/-- The command is known and has as many arguments as it takes. -/
def ArgsFit (cmd : String) (args : List String) : Prop :=
  ∃ e, expectedArgs cmd = some e ∧ ∀ n, e = some n → args.length = n

/-- What a command needs, beyond its arguments, to succeed. -/
def Works (h : Host) : String → List String → Prop
  | "listenOnFile", [id, file, skip] =>
    ∃ b, parseTruth skip = .ok b ∧
      (h.registry.start (h.started + 1) id (Path.abs h.registry.volume.cwd file) b
        (some {})).1 = .ok ()
  | "getTextFile", [p] => ∃ text, (h.registry.volume.readText p).1 = .ok text
  | "writeLocalAppDataFile", [name, content] =>
    ∃ written, (h.registry.volume.writeSandboxed h.sandbox name content.toUTF8).1 = .ok written
  | _, _ => True

theorem argsFit_of_length {cmd : String} {args : List String} {n : Nat}
    (he : expectedArgs cmd = some (some n)) (hn : args.length = n) : ArgsFit cmd args :=
  ⟨some n, he, fun _ h => Option.some_inj.mp h ▸ hn⟩

theorem not_argsFit_of_length {cmd : String} {args : List String} {n : Nat}
    (he : expectedArgs cmd = some (some n)) (hn : args.length ≠ n) : ¬ArgsFit cmd args := by
  rintro ⟨e, he', hlen⟩
  rw [he] at he'
  exact hn (hlen n (Option.some_inj.mp he').symm)

theorem length_ne_one {args : List String} (h : ∀ a, args = [a] → False) : args.length ≠ 1 :=
  fun hn => by
    obtain ⟨a, rfl⟩ := List.length_eq_one_iff.mp hn
    exact h a rfl

theorem length_ne_two {args : List String} (h : ∀ a b, args = [a, b] → False) :
    args.length ≠ 2 := fun hn => by
  obtain ⟨a, b, rfl⟩ := List.length_eq_two.mp hn
  exact h a b rfl

/-- No command outside the table is known. -/
theorem expectedArgs_eq_none {cmd : String} (h₁ : cmd ≠ "listenOnFile")
    (h₂ : cmd ≠ "stopFileListen") (h₃ : cmd ≠ "getTextFile") (h₄ : cmd ≠ "fileExists")
    (h₅ : cmd ≠ "isDirectory") (h₆ : cmd ≠ "writeLocalAppDataFile") (h₇ : cmd ≠ "shutdown") :
    expectedArgs cmd = none := by
  unfold expectedArgs
  split <;> simp_all

@[simp] theorem arity_cmd (cmd names : String) (n : Nat) : (arity cmd n names).cmd = cmd := rfl
@[simp] theorem arity_status (cmd names : String) (n : Nat) :
    (arity cmd n names).status = false := rfl
@[simp] theorem done_cmd (cmd text : String) : (Reply.done cmd text).cmd = cmd := rfl
@[simp] theorem done_status (cmd text : String) : (Reply.done cmd text).status = true := rfl
@[simp] theorem failed_cmd (cmd text : String) : (Reply.failed cmd text).cmd = cmd := rfl
@[simp] theorem failed_status (cmd text : String) : (Reply.failed cmd text).status = false := rfl

/-- Listening answers under its own name, and says success exactly when it gets three
arguments, the third reads as a truth value, and the start goes through. -/
theorem listen_reply (h : Host) (cmd : String) (args : List String) :
    (h.listen cmd args).1.cmd = cmd ∧
      ((h.listen cmd args).1.status = true ↔
        ∃ id file skip, args = [id, file, skip] ∧ ∃ b, parseTruth skip = .ok b ∧
          (h.registry.start (h.started + 1) id (Path.abs h.registry.volume.cwd file) b
            (some {})).1 = .ok ()) := by
  unfold listen
  split
  · rename_i id file skip
    split
    · rename_i e he
      refine ⟨rfl, ?_⟩
      simp only [failed_status, Bool.false_eq_true, false_iff, not_exists, not_and]
      intro id' file' skip' hargs b hb
      simp only [List.cons.injEq] at hargs
      rw [← hargs.2.2.1, he] at hb
      exact absurd hb (by simp)
    · rename_i b hb
      dsimp only
      split
      · rename_i f r hstart
        refine ⟨rfl, ?_⟩
        simp only [failed_status, Bool.false_eq_true, false_iff, not_exists, not_and]
        intro id' file' skip' hargs b' hb'
        simp only [List.cons.injEq] at hargs
        obtain ⟨rfl, rfl, rfl, -⟩ := hargs
        rw [hb] at hb'
        rw [← Except.ok.inj hb', hstart]
        simp
      · rename_i r hstart
        exact ⟨rfl, by simp only [done_status, true_iff]; exact ⟨id, file, skip, rfl, b, hb, by
          rw [hstart]⟩⟩
  · rename_i hnot
    refine ⟨rfl, ?_⟩
    simp only [arity_status, Bool.false_eq_true, false_iff, not_exists, not_and]
    intro id file skip hargs
    exact absurd hargs (hnot id file skip)

/-- With the wrong number of arguments the reply says failure, and the arguments do not
fit. -/
theorem arity_status_iff (h : Host) {cmd names : String} {args : List String} {n : Nat}
    (he : expectedArgs cmd = some (some n)) (hn : args.length ≠ n) :
    (arity cmd n names).status = true ↔ ArgsFit cmd args ∧ h.Works cmd args := by
  simp [not_argsFit_of_length he hn]

/-- A command that needs nothing beyond its arguments and got them says success. -/
theorem sure_status_iff (h : Host) {cmd : String} {args : List String} {r : Reply}
    (hr : r.status = true) (hfit : ArgsFit cmd args) (hw : h.Works cmd args) :
    r.status = true ↔ ArgsFit cmd args ∧ h.Works cmd args :=
  ⟨fun _ => ⟨hfit, hw⟩, fun _ => hr⟩

/-- Listening with three arguments needs its truth value to read and its start to go
through. -/
theorem listen_fits (h : Host) (args : List String) :
    (ArgsFit "listenOnFile" args ∧ h.Works "listenOnFile" args) ↔
      ∃ id file skip, args = [id, file, skip] ∧ ∃ b, parseTruth skip = .ok b ∧
        (h.registry.start (h.started + 1) id (Path.abs h.registry.volume.cwd file) b
          (some {})).1 = .ok () := by
  constructor
  · rintro ⟨⟨e, he, hlen⟩, hw⟩
    obtain ⟨id, file, skip, rfl⟩ : ∃ id file skip, args = [id, file, skip] :=
      List.length_eq_three.mp (hlen 3 (Option.some_inj.mp he).symm)
    exact ⟨id, file, skip, rfl, hw⟩
  · rintro ⟨id, file, skip, rfl, hw⟩
    exact ⟨argsFit_of_length rfl rfl, hw⟩

/-- Every command is answered once, under its own name, and the answer says success exactly
when the command is known, got as many arguments as it takes, and its work succeeded. -/
theorem command_reply (h : Host) (cmd : String) (args : List String) :
    ∃ r, (h.command cmd args).1 = some r ∧ r.cmd = cmd ∧
      (r.status = true ↔ ArgsFit cmd args ∧ h.Works cmd args) := by
  unfold Host.command
  split
  case h_1 =>
    obtain ⟨hcmd, hstatus⟩ := listen_reply h "listenOnFile" args
    exact ⟨_, rfl, hcmd, hstatus.trans (listen_fits h args).symm⟩
  case h_2 id => exact ⟨_, rfl, rfl, sure_status_iff h rfl (argsFit_of_length rfl rfl) trivial⟩
  case h_3 hnot => exact ⟨_, rfl, rfl, arity_status_iff h rfl (length_ne_one hnot)⟩
  case h_4 p =>
    dsimp only
    split
    · rename_i f v hread
      refine ⟨_, rfl, rfl, ?_⟩
      simp only [failed_status, Bool.false_eq_true, false_iff, not_and]
      intro _ ⟨text, htext⟩
      rw [hread] at htext
      simp at htext
    · rename_i text v hread
      exact ⟨_, rfl, rfl, sure_status_iff h rfl (argsFit_of_length rfl rfl) ⟨text, by rw [hread]⟩⟩
  case h_5 hnot => exact ⟨_, rfl, rfl, arity_status_iff h rfl (length_ne_one hnot)⟩
  case h_6 p => exact ⟨_, rfl, rfl, sure_status_iff h rfl (argsFit_of_length rfl rfl) trivial⟩
  case h_7 hnot => exact ⟨_, rfl, rfl, arity_status_iff h rfl (length_ne_one hnot)⟩
  case h_8 p => exact ⟨_, rfl, rfl, sure_status_iff h rfl (argsFit_of_length rfl rfl) trivial⟩
  case h_9 hnot => exact ⟨_, rfl, rfl, arity_status_iff h rfl (length_ne_one hnot)⟩
  case h_10 name content =>
    dsimp only
    split
    · rename_i f v hwrite
      refine ⟨_, rfl, rfl, ?_⟩
      simp only [failed_status, Bool.false_eq_true, false_iff, not_and]
      intro _ ⟨written, hw⟩
      rw [hwrite] at hw
      nomatch hw
    · rename_i full v hwrite
      exact ⟨_, rfl, rfl, sure_status_iff h rfl (argsFit_of_length rfl rfl) ⟨_, by rw [hwrite]⟩⟩
  case h_11 hnot => exact ⟨_, rfl, rfl, arity_status_iff h rfl (length_ne_two hnot)⟩
  case h_12 =>
    -- `shutdown` takes any arguments
    exact ⟨_, rfl, rfl, sure_status_iff h rfl ⟨none, rfl, fun _ h => nomatch h⟩ trivial⟩
  case h_13 h₁ h₂ h₃ h₄ h₅ h₆ h₇ _ _ _ _ _ =>
    have hnone := expectedArgs_eq_none h₁ h₂ h₃ h₄ h₅ h₆ h₇
    refine ⟨_, rfl, rfl, ?_⟩
    simp only [failed_status, Bool.false_eq_true, false_iff, not_and]
    rintro ⟨e, he, -⟩
    rw [hnone] at he
    nomatch he

/-- Only `shutdown` ends the conversation. -/
theorem command_quit (h : Host) (cmd : String) (args : List String) :
    (h.command cmd args).2.1 = true ↔ cmd = "shutdown" := by
  unfold Host.command
  split
  case h_4 => dsimp only; split <;> simp
  case h_10 => dsimp only; split <;> simp
  all_goals simp_all

theorem command_shutdown (h : Host) (args : List String) :
    (h.command "shutdown" args).2.2 = { h with registry := h.registry.stopAll } := rfl

/-- A command line gets no reply exactly when it has no words, and otherwise one reply,
named by its first word, or by nothing when it cannot be cut into words. -/
theorem exec_cmd (h : Host) (line : String) :
    (h.exec line).1.map (·.cmd) = commandName? line := by
  unfold exec commandName?
  rcases Words.split line with _ | _ | ⟨cmd, args⟩
  · rfl
  · rfl
  · obtain ⟨r, hr, hcmd, -⟩ := command_reply h cmd args
    rw [hr, Option.map_some, hcmd]

/-- A reply says success exactly when the line's first word names a known command, with as
many arguments as it takes, whose work succeeded. -/
theorem exec_status (h : Host) (line : String) (r : Reply) (hr : (h.exec line).1 = some r) :
    r.status = true ↔
      ∃ cmd args, Words.split line = some (cmd :: args) ∧ ArgsFit cmd args ∧ h.Works cmd args := by
  unfold exec at hr
  rcases hw : Words.split line with _ | _ | ⟨cmd, args⟩ <;> rw [hw] at hr
  · -- a line that cannot be cut into words fails
    cases hr
    simp
  · cases hr
  · obtain ⟨r', hr', -, hstatus⟩ := command_reply h cmd args
    rw [hr'] at hr
    cases hr
    rw [hstatus]
    simp

/-- A command line ends the conversation exactly when its first word is `shutdown`. -/
theorem exec_quit (h : Host) (line : String) : (h.exec line).2.1 = quits line := by
  unfold exec quits commandName?
  rcases Words.split line with _ | _ | ⟨cmd, args⟩
  · rfl
  · rfl
  · apply Bool.eq_iff_iff.mpr
    rw [command_quit]
    simp

/-- `shutdown` stops every session before it answers. -/
theorem exec_shutdown (h : Host) (line : String) (hq : (h.exec line).2.1 = true) :
    (h.exec line).2.2.registry = h.registry.stopAll := by
  unfold exec at hq ⊢
  split at hq
  · simp at hq
  · simp at hq
  · rename_i cmd args hw
    obtain rfl := (command_quit h cmd args).mp hq
    rw [command_shutdown]

/-- The lines of a script that run: all of them up to the first `shutdown`, which runs, and
none after it. -/
def untilShutdown : List ByteArray → List ByteArray
  | [] => []
  | l :: ls => if quits (Utf8.read l) then [l] else l :: untilShutdown ls

/-- Running lines stops after the first `shutdown`: what follows it is never run. -/
theorem runLines_until_shutdown (h : Host) (ls : List ByteArray) (acc : Array Reply) :
    h.runLines ls acc = h.runLines (untilShutdown ls) acc := by
  induction ls generalizing h acc with
  | nil => rfl
  | cons l ls ih =>
    have hq := exec_quit h (Utf8.read l)
    unfold untilShutdown
    rcases hex : h.exec (Utf8.read l) with ⟨reply, quit, h'⟩
    rw [hex] at hq
    cases quit
    · -- not a shutdown: the same line runs, then the rest as far as it runs
      rw [if_neg (by simp [← hq])]
      simp only [runLines, hex, Bool.false_eq_true, if_false]
      exact ih _ _
    · rw [if_pos hq.symm]
      simp only [runLines, hex, if_true]

/-- Each line that runs and has words, or cannot be cut into words, adds its own reply, in
order; blank lines add none. -/
theorem runLines_cmds (h : Host) (ls : List ByteArray) (acc : Array Reply) :
    (h.runLines ls acc).1.toList.map Reply.cmd =
      acc.toList.map Reply.cmd ++ ((untilShutdown ls).map Utf8.read).filterMap commandName? := by
  induction ls generalizing h acc with
  | nil => simp [runLines, untilShutdown]
  | cons l ls ih =>
    have hq := exec_quit h (Utf8.read l)
    have hcmd := exec_cmd h (Utf8.read l)
    unfold untilShutdown
    rcases hex : h.exec (Utf8.read l) with ⟨reply, quit, h'⟩
    rw [hex] at hq hcmd
    cases quit
    · -- not a shutdown: its reply, if any, then those of the lines after it
      rw [if_neg (by simp [← hq])]
      simp only [runLines, hex, Bool.false_eq_true, if_false]
      rw [ih, List.map_cons, List.filterMap_cons, ← hcmd]
      cases reply <;> simp
    · rw [if_pos hq.symm]
      simp only [runLines, hex, if_true]
      rw [List.map_singleton, List.filterMap_cons, ← hcmd]
      cases reply <;> simp

/-- Serving a script answers as running the lines it reads, and stops every session at the
end. -/
theorem serve_replies (h : Host) (script : ByteArray) :
    (h.serve script).1 = (h.runLines (scriptLines script).1.toList #[]).1 ∧
      (h.serve script).2.2.registry.entries = [] :=
  ⟨rfl, Registry.stopAll_entries _⟩

end Host

end LiveTail
