import FeaturePlan.Proofs.Scope.Identifier
import FeaturePlan.Proofs.Scope.Program

/-!
Registrations from a source that never repeats itself. All identifiers that are taken were handed out by the
source, so the next one is free and no operation finds it taken, wherever a program gets to. What a program
then reports as a collision it has raised itself.
-/
namespace FeaturePlan

namespace Registration

/-- All identifiers that are taken were handed out by the source. -/
structure Drawn (r : Registration) : Prop where
  scopes : ∀ id ∈ r.scopes.keys, id.text ∈ r.supply.source.answers r.supply.requests
  steps : ∀ id ∈ r.steps.keys, id.text ∈ r.supply.source.answers r.supply.requests
  hooks : ∀ id ∈ r.hooks.keys, id.text ∈ r.supply.source.answers r.supply.requests

theorem Drawn.more {r r' : Registration} (h : r.Drawn) (kind : IdKind)
    (hsupply : r'.supply = (r.supply.draw kind).2)
    (hscopes : ∀ id ∈ r'.scopes.keys, id ∈ r.scopes.keys ∨ id.text = (r.supply.draw kind).1)
    (hsteps : ∀ id ∈ r'.steps.keys, id ∈ r.steps.keys ∨ id.text = (r.supply.draw kind).1)
    (hhooks : ∀ id ∈ r'.hooks.keys, id ∈ r.hooks.keys ∨ id.text = (r.supply.draw kind).1) : r'.Drawn := by
  have hanswers : r'.supply.source.answers r'.supply.requests =
      (r.supply.draw kind).1 :: r.supply.source.answers r.supply.requests := by rw [hsupply]; rfl
  constructor <;> intro id hid <;> rw [hanswers, List.mem_cons]
  · exact (hscopes id hid).symm.imp_right (h.scopes id)
  · exact (hsteps id hid).symm.imp_right (h.steps id)
  · exact (hhooks id hid).symm.imp_right (h.hooks id)

structure Fresh (r : Registration) : Prop where
  drawn : r.Drawn
  neverRepeats : r.supply.source.NeverRepeats

theorem fresh_start {source : IdSource} (h : source.NeverRepeats) : (start source).Fresh where
  drawn := {
    scopes := fun id hid => by rw [List.mem_singleton.1 hid]; exact List.mem_cons_self
    steps := List.forall_mem_nil _
    hooks := List.forall_mem_nil _ }
  neverRepeats := h

structure Avoids (r : Registration) (e : ScopeError) : Prop where
  openScope : ∀ q, (r.openScope q).1 ≠ .error e
  registerStep : ∀ keyword pattern options location,
    (r.registerStep keyword pattern options location).1 ≠ .error e
  registerHook : ∀ type description options, (r.registerHook type description options).1 ≠ .error e
  defineParameter : ∀ name regex, (r.defineParameter name regex).1 ≠ .error e

namespace Fresh

variable {r : Registration} (h : r.Fresh)
include h

theorem newScope_not_mem (q : ScopeRequest) : (r.newScope q).id ∉ r.scopes.keys :=
  fun hid => h.neverRepeats.answer_not_mem _ _ (h.drawn.scopes _ hid)

theorem newStep_not_mem (keyword : StepKeyword) (pattern : Pattern) (options : DefinitionOptions)
    (location : Option Location) : (r.newStep keyword pattern options location).id ∉ r.steps.keys :=
  fun hid => h.neverRepeats.answer_not_mem _ _ (h.drawn.steps _ hid)

theorem newHook_not_mem (type : HookType) (description : Option String) (options : DefinitionOptions) :
    (r.newHook type description options).id ∉ r.hooks.keys :=
  fun hid => h.neverRepeats.answer_not_mem _ _ (h.drawn.hooks _ hid)

theorem addScope (parent : ScopeId) (q : ScopeRequest) : (r.addScope parent (r.newScope q)).Fresh where
  drawn := by
    refine h.drawn.more (.scope q.kind) rfl (fun id hid => ?_) (fun id hid => .inl hid) fun id hid => .inl hid
    rw [Registration.addScope, Catalogue.keys_add, Catalogue.keys_modify, List.mem_append,
      List.mem_singleton] at hid
    exact hid.imp_right (congrArg ScopeId.text)
  neverRepeats := h.neverRepeats

theorem addStep (owner : ScopeId) {d : StepDefinition} (hd : d.id.text = (r.supply.draw .step).1) :
    (r.addStep owner d).Fresh where
  drawn := by
    refine h.drawn.more .step rfl (fun id hid => .inl ?_) (fun id hid => ?_) fun id hid => .inl hid
    · rwa [Registration.addStep, Catalogue.keys_modify] at hid
    · rw [Registration.addStep, Catalogue.keys_add, List.mem_append, List.mem_singleton] at hid
      exact hid.imp_right fun he => (congrArg StepId.text he).trans hd
  neverRepeats := h.neverRepeats

theorem addHook (owner : ScopeId) {d : HookDefinition} (hd : d.id.text = (r.supply.draw .hook).1) :
    (r.addHook owner d).Fresh where
  drawn := by
    refine h.drawn.more .hook rfl (fun id hid => .inl ?_) (fun id hid => .inl hid) fun id hid => ?_
    · rwa [Registration.addHook, Catalogue.keys_modify] at hid
    · rw [Registration.addHook, Catalogue.keys_add, List.mem_append, List.mem_singleton] at hid
      exact hid.imp_right fun he => (congrArg HookId.text he).trans hd
  neverRepeats := h.neverRepeats

theorem change {r' : Registration} (hchange : r.Change r') : r'.Fresh := by
  cases hchange with
  | none supply defaultMode parameters hsupply =>
    obtain rfl | ⟨kind, rfl⟩ := hsupply
    · exact ⟨⟨h.drawn.scopes, h.drawn.steps, h.drawn.hooks⟩, h.neverRepeats⟩
    · exact ⟨h.drawn.more kind rfl (fun _ => .inl) (fun _ => .inl) fun _ => .inl, h.neverRepeats⟩
  | step owner d hpath hid hdrawn => exact h.addStep owner hdrawn
  | hook owner d hpath hid hdrawn => exact h.addHook owner hdrawn

theorem openScope_cases (q : ScopeRequest) :
    (∃ e, (∀ id, e ≠ .duplicateId id) ∧ r.openScope q = (.error e, r)) ∨
      ∃ parent, r.openScope q = (.ok (r.newScope q).id, r.addScope parent (r.newScope q)) := by
  cases hcurrent : r.current? with
  | none => exact .inl ⟨.emptyStack _, by simp, by rw [Registration.openScope, hcurrent]⟩
  | some parent =>
    cases hfits : q.fitsIn parent.kind with
    | false => exact .inl ⟨.invalidParent _ _ _, by simp, openScope_of_unfit hcurrent hfits⟩
    | true => exact .inr ⟨parent.id, openScope_of_free hcurrent hfits (h.newScope_not_mem q)⟩

theorem openScope (q : ScopeRequest) : (r.openScope q).2.Fresh := by
  rcases h.openScope_cases q with ⟨e, -, ho⟩ | ⟨parent, ho⟩
  · rw [ho]
    exact h
  · rw [ho]
    exact h.addScope parent q

theorem avoids (id : String) : r.Avoids (.duplicateId id) := by
  constructor
  case openScope =>
    intro q
    rcases h.openScope_cases q with ⟨e, he, ho⟩ | ⟨parent, ho⟩
    · rw [ho]
      exact fun hid => he id (Except.error.inj hid)
    · simp [ho]
  case registerStep =>
    intro keyword pattern options location
    cases hpath : r.path with
    | nil => simp [registerStep, hpath]
    | cons owner others =>
      simp [registerStep_of_free hpath (h.newStep_not_mem keyword pattern options location)]
  case registerHook =>
    intro type description options
    cases hpath : r.path with
    | nil => simp [registerHook, hpath]
    | cons owner others => simp [registerHook_of_free hpath (h.newHook_not_mem type description options)]
  case defineParameter =>
    intro name regex
    rw [defineParameter]
    cases r.parameters.define name regex with
    | ok parameters => simp
    | error fault => simp

end Fresh

theorem kept_fresh : Kept (fun _ => True) Fresh where
  openScope _ q _ h := h.openScope q
  closeScope _ _ _ _ h := ⟨⟨h.drawn.scopes, h.drawn.steps, h.drawn.hooks⟩, h.neverRepeats⟩
  change _ _ hchange h := h.change hchange

theorem Avoids.entry {r : Registration} {err : ScopeError} (h : r.Avoids err) (e : Entry) :
    (e.run r).1 ≠ .failed err := by
  intro he
  cases e with
  | step keyword pattern options location =>
    rw [Entry.run] at he
    cases hread : pattern.read with
    | error broken =>
      rw [hread] at he
      cases he
    | ok pattern =>
      rw [hread] at he
      dsimp only at he
      have hstep := h.registerStep keyword pattern options location
      rcases ho : r.registerStep keyword pattern options location with ⟨_ | _, r'⟩ <;> rw [ho] at hstep he
      · exact hstep (congrArg _ (Reply.failed.inj he))
      · cases he
  | hook type description options =>
    have hhook := h.registerHook type description options
    rw [Entry.run] at he
    rcases ho : r.registerHook type description options with ⟨_ | _, r'⟩ <;> rw [ho] at hhook he
    · exact hhook (congrArg _ (Reply.failed.inj he))
    · cases he
  | parameter name regex =>
    have hparameter := h.defineParameter name regex
    rw [Entry.run] at he
    rcases ho : r.defineParameter name regex with ⟨_ | _, r'⟩ <;> rw [ho] at hparameter he
    · exact hparameter (congrArg _ (Reply.failed.inj he))
    · cases he
  | defaultMode mode => cases he
  | describe => cases he

end Registration

mutual

/-- The failures that follow the commands inside scopes. -/
def Command.raised : Command → List ScopeError
  | .entry _ _ _ => []
  | .scope _ _ _ body failure => Command.raisedAll body ++ failure.toList

def Command.raisedAll : List Command → List ScopeError
  | [] => []
  | c :: cs => c.raised ++ Command.raisedAll cs

end

def Transcript.Reports (t : Transcript) (e : ScopeError) : Prop :=
  ∃ label, .finished label (.failed e) ∈ t.events

section Reports

variable {e : ScopeError}

theorem Transcript.reports_finish_iff {label : Nat} {tolerated : Bool} {inner : List Event} {reply : Reply} :
    (Transcript.finish label tolerated inner reply).Reports e ↔
      (∃ label, .finished label (.failed e) ∈ inner) ∨ reply = .failed e := by
  simp only [Reports, finish, List.mem_append, List.mem_singleton, Event.finished.injEq, exists_or,
    exists_eq_left]
  rw [eq_comm]

theorem Transcript.reports_of_finish {label : Nat} {tolerated : Bool} {inner : List Event} {reply : Reply}
    (h : (Transcript.finish label tolerated inner reply).failure = some e) :
    (Transcript.finish label tolerated inner reply).Reports e := by
  refine reports_finish_iff.2 (.inr ?_)
  cases reply <;> cases tolerated <;> cases h
  rfl

theorem Command.reports_of_failure {c : Command} {r : Registration} (h : (c.run r).1.failure = some e) :
    (c.run r).1.Reports e := by
  cases c with
  | entry label tolerated entry => exact Transcript.reports_of_finish h
  | scope label tolerated request body failure =>
    rcases ho : r.openScope request with ⟨refusal | id, r'⟩
    · rw [Command.run_of_refused ho] at h ⊢
      exact Transcript.reports_of_finish h
    · rw [Command.transcript_of_opened ho] at h ⊢
      exact Transcript.reports_of_finish h

theorem Command.reportsAll_of_failure {cs : List Command} {r : Registration}
    (h : (Command.runAll cs r).1.failure = some e) : (Command.runAll cs r).1.Reports e := by
  induction cs generalizing r with
  | nil => cases h
  | cons c cs ih =>
    cases hf : (c.run r).1.failure with
    | some first =>
      rw [Command.runAll_of_failure hf] at h ⊢
      exact Command.reports_of_failure (hf.trans h)
    | none =>
      rw [Command.transcript_of_success hf] at h ⊢
      obtain ⟨label, hlabel⟩ := ih h
      exact ⟨label, List.mem_append_right _ hlabel⟩

mutual

theorem Command.mem_raised (c : Command) {r : Registration} (h : ∀ r' ∈ c.points r, r'.Avoids e)
    (hreports : (c.run r).1.Reports e) : e ∈ c.raised := by
  cases c with
  | entry label tolerated entry =>
    rw [Command.points, List.forall_mem_cons] at h
    rcases Transcript.reports_finish_iff.1 hreports with ⟨label, hinner⟩ | hreply
    · cases hinner
    · exact absurd hreply (h.1.entry entry)
  | scope label tolerated request body failure =>
    rw [Command.points] at h
    rw [Command.raised, List.mem_append, Option.mem_toList]
    rcases ho : r.openScope request with ⟨refusal | id, r'⟩
    · rw [Command.run_of_refused ho] at hreports
      rw [ho, List.forall_mem_cons] at h
      rcases Transcript.reports_finish_iff.1 hreports with ⟨label, hinner⟩ | hreply
      · cases hinner
      · have hrefused := h.1.openScope request
        rw [ho, Reply.failed.inj hreply] at hrefused
        exact absurd rfl hrefused
    · rw [Command.transcript_of_opened ho] at hreports
      rw [ho] at h
      dsimp only at h
      rw [List.cons_append, List.forall_mem_cons, List.forall_mem_append] at h
      have hinside := Command.mem_raisedAll body h.2.1
      -- What is reported comes from inside, or it is the failure of the scope: that of its commands or its own.
      rcases Transcript.reports_finish_iff.1 hreports with ⟨label, hinner⟩ | hreply
      · have hbody : .finished label (.failed e) ∈ (Command.runAll body r').1.events := by simpa using hinner
        exact .inl (hinside ⟨label, hbody⟩)
      · cases hfailure : (Command.runAll body r').1.failure with
        | some first =>
          rw [hfailure] at hreply
          obtain rfl := Reply.failed.inj hreply
          exact .inl (hinside (Command.reportsAll_of_failure hfailure))
        | none =>
          rw [hfailure, Option.none_or] at hreply
          cases failure with
          | none => cases hreply
          | some own => exact .inr (congrArg some (Reply.failed.inj hreply))

theorem Command.mem_raisedAll (cs : List Command) {r : Registration}
    (h : ∀ r' ∈ Command.pointsAll cs r, r'.Avoids e) (hreports : (Command.runAll cs r).1.Reports e) :
    e ∈ Command.raisedAll cs := by
  cases cs with
  | nil =>
    obtain ⟨label, hlabel⟩ := hreports
    cases hlabel
  | cons c cs =>
    rw [Command.pointsAll] at h
    rw [Command.raisedAll, List.mem_append]
    cases hf : (c.run r).1.failure with
    | some first =>
      rw [hf] at h
      rw [Command.runAll_of_failure hf] at hreports
      exact .inl (Command.mem_raised c h hreports)
    | none =>
      rw [hf, List.forall_mem_append] at h
      rw [Command.transcript_of_success hf] at hreports
      obtain ⟨label, hlabel⟩ := hreports
      rcases List.mem_append.1 hlabel with hlabel | hlabel
      · exact .inl (Command.mem_raised c h.1 ⟨label, hlabel⟩)
      · exact .inr (Command.mem_raisedAll cs h.2 ⟨label, hlabel⟩)

end

end Reports

/-- Wherever a program gets to, identifiers that are handed out are new. -/
theorem Command.fresh_of_mem_points {source : IdSource} (h : source.NeverRepeats) {program : List Command}
    {r : Registration} (hr : r ∈ Command.pointsAll program (.start source)) : r.Fresh :=
  Command.pointsAll_preserve Registration.kept_fresh program (fun _ _ => trivial)
    (Registration.fresh_start h) r hr

end FeaturePlan
