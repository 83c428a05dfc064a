import FeaturePlan.Scope.Registration
import FeaturePlan.Step.Error

/-!
Programs of registrations. The commands of a scope run in order until one fails; a failure ends the
scope that it happens in, and so on outwards, unless the command that failed tolerates it. Every
command reports what came of it.
-/
namespace FeaturePlan

inductive WrittenPattern where
  | phrase (source : String)
  | regex (source : String)
deriving DecidableEq, Repr

def WrittenPattern.read : WrittenPattern → Except StepError Pattern
  | .phrase source => .ok (.phrase source)
  | .regex source =>
    match Pattern.ofRegex? source with
    | some p => .ok p
    | none => .error (.invalidPattern source (PatternFault.brokenRegex source).message)

inductive Entry where
  | step (keyword : StepKeyword) (pattern : WrittenPattern) (options : DefinitionOptions)
      (location : Option Location)
  | hook (type : HookType) (description : Option String) (options : DefinitionOptions)
  | parameter (name regex : String)
  | defaultMode (mode : Mode)
  /-- Registers nothing, and reports the innermost open scope. -/
  | describe
deriving DecidableEq, Repr

/-- A command, known by its label, and whether its failure is tolerated. The commands inside a scope
may be followed by a failure of their own. -/
inductive Command where
  | entry (label : Nat) (tolerated : Bool) (entry : Entry)
  | scope (label : Nat) (tolerated : Bool) (request : ScopeRequest) (body : List Command)
      (failure : Option ScopeError)
deriving Repr

inductive Reply where
  | id (text : String)
  | defined
  | mode (mode : Mode)
  | description (text : String)
  | failed (error : ScopeError)
  /-- A broken pattern is not registered, and that is no failure. -/
  | refused (error : StepError)
deriving Repr

inductive Event where
  | entered (label : Nat) (scope : String)
  | finished (label : Nat) (reply : Reply)
deriving Repr

namespace Registration

def describeCurrent (r : Registration) : String := (r.current?.map Scope.describe).getD ""

end Registration

def Entry.run (e : Entry) (r : Registration) : Reply × Registration :=
  match e with
  | .step keyword pattern options location =>
    match pattern.read with
    | .error e => (.refused e, r)
    | .ok pattern =>
      match r.registerStep keyword pattern options location with
      | (.ok id, r) => (.id id.text, r)
      | (.error e, r) => (.failed e, r)
  | .hook type description options =>
    match r.registerHook type description options with
    | (.ok id, r) => (.id id.text, r)
    | (.error e, r) => (.failed e, r)
  | .parameter name regex =>
    match r.defineParameter name regex with
    | (.ok (), r) => (.defined, r)
    | (.error e, r) => (.failed e, r)
  | .defaultMode mode => (.mode mode, r.setDefaultMode mode)
  | .describe => (.description r.describeCurrent, r)

/-- The failure that a reply passes on to the enclosing scope. -/
def Reply.failure? (tolerated : Bool) : Reply → Option ScopeError
  | .failed e => if tolerated then none else some e
  | _ => none

/-- What commands leave behind: the failure that ended them, if any, and their reports. -/
structure Transcript where
  failure : Option ScopeError
  events : List Event
deriving Repr

def Transcript.finish (label : Nat) (tolerated : Bool) (inner : List Event) (reply : Reply) : Transcript :=
  ⟨reply.failure? tolerated, inner ++ [.finished label reply]⟩

mutual

def Command.run : Command → Registration → Transcript × Registration
  | .entry label tolerated e, r =>
    let (reply, r) := e.run r
    (.finish label tolerated [] reply, r)
  | .scope label tolerated request body failure, r =>
    let action (r : Registration) : Transcript × Registration :=
      let entered := Event.entered label r.describeCurrent
      let (inner, r) := Command.runAll body r
      (⟨inner.failure.or failure, entered :: inner.events⟩, r)
    match r.within request action with
    | (.error e, r) => (.finish label tolerated [] (.failed e), r)
    | (.ok (id, inner), r) =>
      match inner.failure with
      | none => (.finish label tolerated inner.events (.id id.text), r)
      | some e => (.finish label tolerated inner.events (.failed e), r)

def Command.runAll : List Command → Registration → Transcript × Registration
  | [], r => (⟨none, []⟩, r)
  | c :: cs, r =>
    let (first, r) := c.run r
    match first.failure with
    | some e => (⟨some e, first.events⟩, r)
    | none =>
      let (rest, r) := Command.runAll cs r
      (⟨rest.failure, first.events ++ rest.events⟩, r)

end

end FeaturePlan
