import FeaturePlan.Plan.Execution

/-!
Outcomes of executions. An execution is started, and ends passed, failed, skipped or pending; whatever
came before is forgotten when it starts again, and everything when it is reset.
-/
namespace FeaturePlan

/-- A point in time: nanoseconds since the epoch. -/
abbrev Instant := Nat

inductive Status where
  | pending
  | passed
  | failed
  | skipped
deriving DecidableEq, Repr, Inhabited

namespace Status

def label : Status → String
  | .pending => "pending"
  | .passed => "passed"
  | .failed => "failed"
  | .skipped => "skipped"

def all : List Status := [.pending, .passed, .failed, .skipped]

def ofLabel? (text : String) : Option Status := all.find? (·.label = text)

end Status

structure ExecutionResult where
  status : Status := .pending
  startedAt : Option Instant := none
  completedAt : Option Instant := none
  /-- What made it fail. -/
  error : Option String := none
  /-- Why it was skipped or is pending. -/
  reason : Option String := none
deriving DecidableEq, Repr, Inhabited

inductive Mark where
  | start
  | pass
  | fail (error : String)
  | skip (reason : Option String)
  | pend (reason : Option String)
  | reset
deriving DecidableEq, Repr

namespace ExecutionResult

def complete (r : ExecutionResult) (now : Instant) (status : Status) (error reason : Option String) :
    ExecutionResult :=
  { r with status, completedAt := some now, error, reason }

def after (r : ExecutionResult) (now : Instant) : Mark → ExecutionResult
  | .start => { startedAt := some now }
  | .pass => r.complete now .passed none none
  | .fail error => r.complete now .failed (some error) none
  | .skip reason => r.complete now .skipped none reason
  | .pend reason => r.complete now .pending none reason
  | .reset => {}

def elapsed? (r : ExecutionResult) : Option Nat := do
  let first ← r.startedAt
  let last ← r.completedAt
  if first ≤ last then some (last - first) else none

/-- The units of a duration in milliseconds, the largest first: how many milliseconds each has, what
is written for one and what for several. -/
def units : List (Nat × String × String) := [
  (31557600000, "year", "years"),
  (2630016000, "month", "months"),
  (86400000, "day", "days"),
  (3600000, "h", "h"),
  (60000, "m", "m"),
  (1000, "s", "s"),
  (1, "ms", "ms")]

def durationItems (milliseconds : Nat) : List (Nat × String × String) → List String
  | [] => []
  | (size, one, many) :: rest =>
    let count := milliseconds / size
    let items := durationItems (milliseconds % size) rest
    if count = 0 then items else (toString count ++ if count = 1 then one else many) :: items

def formatDuration (milliseconds : Nat) : String :=
  if milliseconds = 0 then "0s" else " ".intercalate (durationItems milliseconds units)

/-- The greatest number of milliseconds that is told apart. -/
def maxMilliseconds : Nat := UInt64.size - 1

def display (r : ExecutionResult) : String :=
  let took := (r.elapsed?.map fun nanoseconds =>
    " in " ++ formatDuration (min (nanoseconds / 1000000) maxMilliseconds)).getD ""
  let note := ((r.error.or r.reason).map (": " ++ ·)).getD ""
  r.status.label ++ took ++ note

end ExecutionResult

/-- A plan with the results of its executions, by their identifiers. -/
structure TestRun where
  plan : TestPlan
  results : Catalogue String ExecutionResult
deriving DecidableEq, Repr

namespace TestRun

def ofPlan (plan : TestPlan) : TestRun :=
  ⟨plan, ⟨plan.executions.map fun e => (e.id, {})⟩⟩

def result? (r : TestRun) (id : String) : Option ExecutionResult := r.results.find? id

def mark (r : TestRun) (now : Instant) (id : String) (m : Mark) : TestRun :=
  { r with results := r.results.modify id (·.after now m) }

def reset (r : TestRun) : TestRun := .ofPlan r.plan

def failed (r : TestRun) : List Execution :=
  r.plan.executions.filter fun e => (r.result? e.id).any (·.status = .failed)

end TestRun
end FeaturePlan
