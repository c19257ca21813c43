/-!
# The clock of a run

Time passes only while a run waits. A run can be cancelled from within at any time, and from outside
at a moment that is fixed beforehand; that moment cuts short the waiting it falls into.
-/

namespace Workflow

/-- The time of a run in milliseconds, and whether the run has been cancelled. -/
structure Clock where
  now : Nat
  cancelled : Bool
  /-- When the run will be cancelled from outside, until that has happened. -/
  cancelAt : Option Nat
  deriving DecidableEq, Repr

/-- How waiting ends. -/
inductive Waking where
  | elapsed
  | expired
  | cancelled
  deriving DecidableEq, Repr

namespace Clock

def initial (cancelled : Bool) (cancelAt : Option Nat) : Clock := ⟨0, cancelled, cancelAt⟩

def cancel (c : Clock) : Clock := { c with cancelled := true }

/-- Waits up to a moment, unless the run is cancelled from outside before it. -/
def waitUntil (c : Clock) (moment : Nat) (waking : Waking) : Waking × Clock :=
  match c.cancelAt with
  | some t =>
    if t < moment then (.cancelled, ⟨max c.now t, true, none⟩)
    else (waking, { c with now := moment })
  | none => (waking, { c with now := moment })

/-- Waits for a while, but not longer than the limit. -/
def wait (c : Clock) (delay : Nat) (limit : Option Nat) : Waking × Clock :=
  match limit with
  | some limit =>
    if limit < delay then c.waitUntil (c.now + limit) .expired
    else c.waitUntil (c.now + delay) .elapsed
  | none => c.waitUntil (c.now + delay) .elapsed

/-- Waiting never undoes a cancellation. -/
theorem cancelled_waitUntil (c : Clock) (moment : Nat) (waking : Waking) (h : c.cancelled = true) :
    (c.waitUntil moment waking).2.cancelled = true := by
  unfold waitUntil
  split
  · split <;> simp [h]
  · simp [h]

theorem cancelled_wait (c : Clock) (delay : Nat) (limit : Option Nat) (h : c.cancelled = true) :
    (c.wait delay limit).2.cancelled = true := by
  unfold wait
  split
  · split <;> exact cancelled_waitUntil c _ _ h
  · exact cancelled_waitUntil c _ _ h

end Clock

end Workflow
