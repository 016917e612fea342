/-!
# Terminal escape sequences

The control sequences that colour terminal text begin with escape and `[`, carry digits
and semicolons, and end in a letter. Stripping removes every such sequence, scanning from
the left and never letting two overlap; an escape that begins no whole sequence stays.
-/
namespace LiveTail.Ansi

/-- The escape character. -/
def esc : Char := '\x1b'

/-- A parameter character: a digit or a semicolon. -/
def isParam (c : Char) : Bool := c.isDigit || c = ';'

/-- The rest after a control sequence whose parameters start `cs`, when one ends there
in a letter. -/
def afterParams : List Char → Option (List Char)
  | c :: rest => if isParam c then afterParams rest else if c.isAlpha then some rest else none
  | [] => none

/-- A control sequence is never empty: what follows it is shorter than what it starts. -/
theorem afterParams_length : ∀ {cs after : List Char},
    afterParams cs = some after → after.length < cs.length
  | c :: rest, after, h => by
    unfold afterParams at h
    split at h
    · have := afterParams_length h
      simp only [List.length_cons]
      omega
    · split at h
      · cases h
        simp
      · cases h
  | [], _, h => by simp [afterParams] at h

/-- Removes every control sequence, leftmost first. -/
def stripChars : List Char → List Char
  | [] => []
  | c :: rest =>
    if c = esc then
      match hr : rest with
      | '[' :: r =>
        match h : afterParams r with
        | some after =>
          have : after.length < r.length + 1 + 1 :=
            Nat.lt_succ_of_lt (Nat.lt_succ_of_lt (afterParams_length h))
          stripChars after
        | none => c :: stripChars rest
      | _ => c :: stripChars rest
    else c :: stripChars rest
termination_by cs => cs.length

/-- The text with every control sequence removed. -/
def strip (s : String) : String := String.ofList (stripChars s.toList)

end LiveTail.Ansi
