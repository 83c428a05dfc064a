import FeaturePlan.Plan.Assembly
import FeaturePlan.Proofs.Queues
import FeaturePlan.Proofs.Text.Canonical

/-!
Names as keys. Candidates and rule scopes wait under the canonical forms of their names, and the nodes and rules
of a document ask under those of theirs. So what is waiting for a name are the candidates of all names that
differ from it in white space only, and no others.
-/
namespace FeaturePlan
namespace Plan

theorem PairKey.of_eq_of_iff {kind kind' : ScopeKind} {name name' : String} {rule rule' : Option ScopeId} :
    PairKey.of kind name rule = .of kind' name' rule' ↔
      kind = kind' ∧ rule = rule' ∧ Text.Respaced name name' := by
  rw [PairKey.of, PairKey.of, PairKey.mk.injEq, Text.canonical_eq_iff_respaced]
  exact and_congr_right fun _ => and_comm

theorem mem_candidates_start_iff {cs : List Candidate} {kind : ScopeKind} {name : String}
    {rule : Option ScopeId} {c : Candidate} :
    c ∈ (Assembly.start cs).candidates.waiting (.of kind name rule) ↔
      c ∈ cs ∧ c.scope.kind = kind ∧ c.rule.map Scope.id = rule ∧ Text.Respaced c.scope.name name := by
  rw [Assembly.start, Queues.waiting_ofList, List.mem_filter, decide_eq_true_iff, PairKey.ofCandidate,
    PairKey.of_eq_of_iff]

theorem mem_rules_start_iff {cs : List Candidate} {name : String} {r : Scope} :
    r ∈ (Assembly.start cs).rules.waiting (Text.canonical name) ↔
      r ∈ distinctRules [] cs ∧ Text.Respaced r.name name := by
  rw [Assembly.start, Queues.waiting_ofList, List.mem_filter, decide_eq_true_iff,
    Text.canonical_eq_iff_respaced]

/-- A name is told from others by its words alone. -/
structure ToldByWords (name : String) : Prop where
  /-- The words are what the blank characters of the name leave. -/
  spells : ∀ ws, Text.Spells ws name.toList ↔ (Text.words name).map String.toList = ws
  words : Text.words (Text.canonical name) = Text.words name
  tidy : Text.Tidy (Text.canonical name).toList
  canonical : Text.canonical (Text.canonical name) = Text.canonical name
  /-- Only tidy names are canonical already. -/
  canonical_self : Text.canonical name = name ↔ Text.Tidy name.toList
  canonical_eq : ∀ other, Text.canonical name = Text.canonical other ↔ Text.words name = Text.words other
  words_eq : ∀ other, Text.words name = Text.words other ↔ Text.Respaced name other
  key_eq : ∀ kind rule kind' other rule', PairKey.of kind name rule = .of kind' other rule' ↔
    kind = kind' ∧ rule = rule' ∧ Text.Respaced name other
  /-- The candidates that wait for a node with the name. -/
  candidates : ∀ cs kind rule c, c ∈ (Assembly.start cs).candidates.waiting (.of kind name rule) ↔
    c ∈ cs ∧ c.scope.kind = kind ∧ c.rule.map Scope.id = rule ∧ Text.Respaced c.scope.name name
  /-- The rule scopes that wait for a rule with the name. -/
  rules : ∀ cs r, r ∈ (Assembly.start cs).rules.waiting (Text.canonical name) ↔
    r ∈ distinctRules [] cs ∧ Text.Respaced r.name name

/-- The canonical form of a name is a tidy text with the same words, and two names stand under one key, for
one kind and rule, exactly if they differ in white space only. -/
theorem name_told_by_words (name : String) : ToldByWords name where
  spells _ := Text.spells_words_iff
  words := Text.words_canonical name
  tidy := Text.tidy_canonical name
  canonical := Text.canonical_canonical name
  canonical_self := Text.canonical_eq_self_iff
  canonical_eq _ := Text.canonical_eq_iff
  words_eq _ := Text.words_eq_iff_respaced
  key_eq _ _ _ _ _ := PairKey.of_eq_of_iff
  candidates _ _ _ _ := mem_candidates_start_iff
  rules _ _ := mem_rules_start_iff

end Plan
end FeaturePlan
