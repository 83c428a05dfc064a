import FeaturePlan.Proofs.Scope.Operations

/-!
What a program of registrations keeps. It opens scopes as it asks for them, carries out entries and closes
scopes again; what each of these keeps holds wherever the program gets to, however it fails.
-/
namespace FeaturePlan

mutual

def Command.requests : Command → List ScopeRequest
  | .entry _ _ _ => []
  | .scope _ _ request body _ => request :: Command.requestsAll body

def Command.requestsAll : List Command → List ScopeRequest
  | [] => []
  | c :: cs => c.requests ++ Command.requestsAll cs

end

section Scopes

variable {label : Nat} {tolerated : Bool} {request : ScopeRequest} {body : List Command}
  {failure : Option ScopeError} {r r' : Registration}

theorem Command.run_of_refused {e : ScopeError} (h : r.openScope request = (.error e, r')) :
    (Command.scope label tolerated request body failure).run r =
      (.finish label tolerated [] (.failed e), r') := by
  rw [Command.run, Registration.within, h]

theorem Command.run_of_opened {id : ScopeId} (h : r.openScope request = (.ok id, r')) :
    ((Command.scope label tolerated request body failure).run r).2 =
      (Command.runAll body r').2.closeScope := by
  rw [Command.run, Registration.within, h]
  dsimp only
  split
  · rfl
  · rfl

theorem Command.transcript_of_opened {id : ScopeId} (h : r.openScope request = (.ok id, r')) :
    ((Command.scope label tolerated request body failure).run r).1 =
      .finish label tolerated (.entered label r'.describeCurrent :: (Command.runAll body r').1.events)
        (((Command.runAll body r').1.failure.or failure).elim (.id id.text) .failed) := by
  rw [Command.run, Registration.within, h]
  dsimp only
  cases (Command.runAll body r').1.failure.or failure <;> rfl

/-- The failure of the commands inside comes before the failure that follows them. -/
theorem Command.failure_of_opened {id : ScopeId} (h : r.openScope request = (.ok id, r')) :
    ((Command.scope label tolerated request body failure).run r).1.failure =
      if tolerated then none else (Command.runAll body r').1.failure.or failure := by
  rw [Command.transcript_of_opened h]
  cases (Command.runAll body r').1.failure.or failure with
  | none => simp [Transcript.finish, Reply.failure?]
  | some e => rfl

end Scopes

section Sequences

variable {c : Command} {cs : List Command} {r : Registration}

theorem Command.runAll_of_failure {e : ScopeError} (h : (c.run r).1.failure = some e) :
    Command.runAll (c :: cs) r = (⟨some e, (c.run r).1.events⟩, (c.run r).2) := by
  rw [Command.runAll]
  dsimp only
  rw [h]

theorem Command.registration_of_success (h : (c.run r).1.failure = none) :
    (Command.runAll (c :: cs) r).2 = (Command.runAll cs (c.run r).2).2 := by
  rw [Command.runAll]
  dsimp only
  rw [h]

theorem Command.transcript_of_success (h : (c.run r).1.failure = none) :
    (Command.runAll (c :: cs) r).1 = ⟨(Command.runAll cs (c.run r).2).1.failure,
      (c.run r).1.events ++ (Command.runAll cs (c.run r).2).1.events⟩ := by
  rw [Command.runAll]
  dsimp only
  rw [h]

theorem Command.failure_of_success (h : (c.run r).1.failure = none) :
    (Command.runAll (c :: cs) r).1.failure = (Command.runAll cs (c.run r).2).1.failure := by
  rw [Command.transcript_of_success h]

end Sequences

mutual

/-- All that a registration is on the way through a command, from before it to after it. -/
def Command.points : Command → Registration → List Registration
  | .entry _ _ e, r => [r, (e.run r).2]
  | .scope _ _ request body _, r =>
    match r.openScope request with
    | (.error _, refused) => [r, refused]
    | (.ok _, opened) =>
      r :: Command.pointsAll body opened ++ [(Command.runAll body opened).2.closeScope]

def Command.pointsAll : List Command → Registration → List Registration
  | [], r => [r]
  | c :: cs, r =>
    match (c.run r).1.failure with
    | some _ => c.points r
    | none => c.points r ++ Command.pointsAll cs (c.run r).2

end

theorem Command.run_mem_points (c : Command) (r : Registration) : (c.run r).2 ∈ c.points r := by
  cases c with
  | entry label tolerated e => simp [Command.run, Command.points]
  | scope label tolerated request body failure =>
    rw [Command.points]
    rcases h : r.openScope request with ⟨e | id, r'⟩
    · simp [Command.run_of_refused h]
    · simp [Command.run_of_opened h]

theorem Command.runAll_mem_points (cs : List Command) (r : Registration) :
    (Command.runAll cs r).2 ∈ Command.pointsAll cs r := by
  induction cs generalizing r with
  | nil => exact List.mem_singleton.2 rfl
  | cons c cs ih =>
    rw [Command.pointsAll]
    cases h : (c.run r).1.failure with
    | some e =>
      rw [Command.runAll_of_failure h]
      exact c.run_mem_points r
    | none =>
      rw [Command.registration_of_success h]
      exact List.mem_append_right _ (ih _)

mutual

theorem Command.path_run (c : Command) (r : Registration) : (c.run r).2.path = r.path := by
  cases c with
  | entry label tolerated e => exact (e.run_change r).path_eq
  | scope label tolerated request body failure =>
    rcases r.openScope_cases request with ⟨e, supply, h⟩ | ⟨parent, -, -, -, h⟩
    · rw [Command.run_of_refused h]
    · rw [Command.run_of_opened h, Registration.closeScope, Command.path_runAll body]
      rfl

theorem Command.path_runAll (cs : List Command) (r : Registration) :
    (Command.runAll cs r).2.path = r.path := by
  cases cs with
  | nil => rfl
  | cons c cs =>
    have hfirst := Command.path_run c r
    cases h : (c.run r).1.failure with
    | some e =>
      rw [Command.runAll_of_failure h]
      exact hfirst
    | none => rw [Command.registration_of_success h, Command.path_runAll cs, hfirst]

end

/-- What holds of a registration holds after every operation on it. A scope is only closed after it was
opened in a registration of which it held. -/
structure Registration.Kept (asked : ScopeRequest → Prop) (P : Registration → Prop) : Prop where
  openScope : ∀ r q, asked q → P r → P (r.openScope q).2
  closeScope : ∀ before r, P before → r.path.tail = before.path → P r → P r.closeScope
  change : ∀ r r', r.Change r' → P r → P r'

variable {asked : ScopeRequest → Prop} {P : Registration → Prop}

mutual

theorem Command.points_preserve (hP : Registration.Kept asked P) (c : Command)
    (hc : ∀ q ∈ c.requests, asked q) {r : Registration} (h : P r) : ∀ r' ∈ c.points r, P r' := by
  cases c with
  | entry label tolerated e =>
    rw [Command.points, List.forall_mem_cons, List.forall_mem_singleton]
    exact ⟨h, hP.change r _ (e.run_change r) h⟩
  | scope label tolerated request body failure =>
    have hopen := hP.openScope r request (hc request (by simp [Command.requests])) h
    have hbody : ∀ q ∈ Command.requestsAll body, asked q :=
      fun q hq => hc q (by simp [Command.requests, hq])
    rw [Command.points]
    rcases r.openScope_cases request with ⟨e, supply, ho⟩ | ⟨parent, -, -, -, ho⟩
    · rw [ho] at hopen ⊢
      rw [List.forall_mem_cons, List.forall_mem_singleton]
      exact ⟨h, hopen⟩
    · rw [ho] at hopen ⊢
      dsimp only at hopen ⊢
      have hinner := Command.pointsAll_preserve hP body hbody hopen
      have hend := hinner _ (Command.runAll_mem_points body _)
      have hpath := congrArg List.tail (Command.path_runAll body (r.addScope parent.id (r.newScope request)))
      rw [List.cons_append, List.forall_mem_cons, List.forall_mem_append, List.forall_mem_singleton]
      exact ⟨h, hinner, hP.closeScope r _ h hpath hend⟩

theorem Command.pointsAll_preserve (hP : Registration.Kept asked P) (cs : List Command)
    (hcs : ∀ q ∈ Command.requestsAll cs, asked q) {r : Registration} (h : P r) :
    ∀ r' ∈ Command.pointsAll cs r, P r' := by
  cases cs with
  | nil =>
    rw [Command.pointsAll, List.forall_mem_singleton]
    exact h
  | cons c cs =>
    have hfirst := Command.points_preserve hP c (fun q hq => hcs q (by simp [Command.requestsAll, hq])) h
    have hrest := Command.pointsAll_preserve hP cs
      (fun q hq => hcs q (by simp [Command.requestsAll, hq])) (hfirst _ (c.run_mem_points r))
    rw [Command.pointsAll]
    split
    · exact hfirst
    · exact List.forall_mem_append.2 ⟨hfirst, hrest⟩

end

theorem Command.runAll_preserves (hP : Registration.Kept asked P) (cs : List Command)
    (hcs : ∀ q ∈ Command.requestsAll cs, asked q) {r : Registration} (h : P r) :
    P (Command.runAll cs r).2 :=
  Command.pointsAll_preserve hP cs hcs h _ (Command.runAll_mem_points cs r)

end FeaturePlan
