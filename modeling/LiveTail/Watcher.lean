import LiveTail.Path.Basic
import Mathlib.Data.Finset.Basic
/-!
# Watching directories for changes

A session is woken early when its file changes. The watcher watches the directories that hold
the files rather than the files, so that a removal and a re-creation are seen too. It counts,
per directory, the subscriptions to files in it, asking the system to watch a directory when
its first subscription comes and to stop when its last one goes; and it keeps, per file, the
signals to wake.

A subscription names its file by the path made absolute against the working directory, which
stays the same for the watcher's life. The system may refuse to watch a directory; the
subscription then fails and leaves the counts and the signals as they were. Unsubscribing a
file or a signal that is not subscribed changes nothing. A change reported for a path wakes
the signals subscribed under that very path.

A registry that does not watch has no watcher and makes none of these calls.
-/
namespace LiveTail

/-- A request to the system's change notifications: to watch a directory, with whether the
system accepted it, or to stop watching it. -/
inductive DirRequest where
  | watch (dir : String) (accepted : Bool)
  | unwatch (dir : String)
  deriving DecidableEq, Repr

/-- The subscriptions of a change watcher; `σ` tells the signals apart. -/
structure Watcher (σ : Type) where
  /-- How many subscriptions each watched directory has. -/
  dirs : String → Option Int := fun _ => none
  /-- The signals to wake for each subscribed path. -/
  subs : String → Option (Finset σ) := fun _ => none
  /-- What the watcher asked of the system, in order. -/
  asked : List DirRequest := []

namespace Watcher

variable {σ : Type} [DecidableEq σ]

/-- The subscriptions counted for a directory, zero when it has no entry. -/
def count (w : Watcher σ) (dir : String) : Int := (w.dirs dir).getD 0

/-- The signals a change of `path` wakes: those subscribed under that very path. -/
def notified (w : Watcher σ) (path : String) : Finset σ := (w.subs path).getD ∅

/-- Subscribes `sig` to the changes of `path`, made absolute against `cwd`. The first
subscription in a directory asks the system to watch it; `refusal` is the system's error if it
refuses, and the subscription then fails. -/
def add (w : Watcher σ) (cwd path : String) (sig : σ) (refusal : Option String) :
    Except String Unit × Watcher σ :=
  let abs := Path.abs cwd path
  let dir := Path.dir abs
  let subscribe (w : Watcher σ) : Watcher σ :=
    { w with dirs := Function.update w.dirs dir (some (w.count dir + 1)),
             subs := Function.update w.subs abs (some (insert sig (w.notified abs))) }
  if w.count dir = 0 then
    match refusal with
    | some e =>
      (.error ("watching directory " ++ dir ++ ": " ++ e),
        { w with asked := w.asked ++ [.watch dir false] })
    | none => (.ok (), subscribe { w with asked := w.asked ++ [.watch dir true] })
  else (.ok (), subscribe w)

/-- Unsubscribes `sig` from the changes of `path`, made absolute against `cwd`. The last
subscription in a directory to go asks the system to stop watching it. -/
def remove (w : Watcher σ) (cwd path : String) (sig : σ) : Watcher σ :=
  let abs := Path.abs cwd path
  let dir := Path.dir abs
  match w.subs abs with
  | none => w
  | some set =>
    if sig ∉ set then w
    else
      let rest := set.erase sig
      let w : Watcher σ :=
        { w with subs := Function.update w.subs abs (if rest = ∅ then none else some rest) }
      let n : Int := w.count dir - 1
      if n ≤ 0 then
        { w with dirs := Function.update w.dirs dir none, asked := w.asked ++ [.unwatch dir] }
      else { w with dirs := Function.update w.dirs dir (some n) }

end Watcher
end LiveTail
