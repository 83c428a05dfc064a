import FeaturePlan.Proofs.Lists
import FeaturePlan.Proofs.Step.Matching
import Mathlib.Data.List.Chain

/-!
Parameter types that grow between two uses of a definition. A type that is defined stays as it is and none that
is built in changes, so a pattern that compiles goes on to compile to the same expression. What is kept of it
therefore never goes out of date.
-/
namespace FeaturePlan

namespace Parameters

/-- The types after a definition is asked for. A refused one changes nothing. -/
def request (p : Parameters) (name regex : String) : Parameters :=
  match p.define name regex with
  | .ok p' => p'
  | .error _ => p

/-- The second types come of the first ones by any number of definitions, accepted or refused. -/
def GrowsTo (p p' : Parameters) : Prop :=
  ∃ requests : List (String × String), requests.foldl (fun p r => p.request r.1 r.2) p = p'

/-- Every type of the first ones, built in or not, is the same among the second ones. -/
def KeptBy (p p' : Parameters) : Prop :=
  ∀ name source, p.source? name = some source → p'.source? name = some source

variable {p p' : Parameters}

theorem mem_builtinNames_iff {name : String} : name ∈ builtinNames ↔ name ∈ builtins.map Prod.fst := by
  have hperm : builtinNames.Perm (builtins.map Prod.fst) := by decide
  exact hperm.mem_iff

theorem source?_eq (p : Parameters) (name : String) :
    p.source? name = (p.entries ++ builtins).lookup name := by
  rw [source?, get?, List.lookup_append]
  cases p.entries.lookup name <;> rfl

theorem define_eq_ok {name regex : String} (h : p.define name regex = .ok p') :
    name ∉ builtinNames ∧ p.get? name = none ∧ p' = ⟨p.entries ++ [(name, regex)]⟩ := by
  unfold define at h
  split_ifs at h with hbuiltin hreserved hdefined hbroken
  cases h
  exact ⟨hbuiltin, by simpa using hdefined, rfl⟩

/-- A type is defined only under a name that has none, so it hides no other one. -/
theorem keptBy_of_define {name regex : String} (h : p.define name regex = .ok p') : p.KeptBy p' := by
  obtain ⟨hbuiltin, hfresh, rfl⟩ := define_eq_ok h
  intro name' source hsource
  have hne : name' ≠ name := by
    rintro rfl
    have hnone : p.source? name' = none := by
      rw [source?, hfresh]
      exact lookup_eq_none_iff_not_mem.2 (mt mem_builtinNames_iff.2 hbuiltin)
    rw [hnone] at hsource
    cases hsource
  have hother : [(name, regex)].lookup name' = none := by
    simp [hne]
  rwa [source?_eq, List.append_assoc, List.lookup_append, List.lookup_append, hother, Option.none_or,
    ← List.lookup_append, ← source?_eq]

theorem keptBy_request (p : Parameters) (name regex : String) : p.KeptBy (p.request name regex) := by
  rw [request]
  cases h : p.define name regex with
  | error fault => exact fun _ _ hsource => hsource
  | ok p' => exact keptBy_of_define h

theorem GrowsTo.keptBy (h : p.GrowsTo p') : p.KeptBy p' := by
  obtain ⟨requests, rfl⟩ := h
  induction requests generalizing p with
  | nil => exact fun _ _ hsource => hsource
  | cons r requests ih =>
    intro name source hsource
    apply ih
    exact p.keptBy_request r.1 r.2 name source hsource

end Parameters

namespace Phrase

variable {params params' : Parameters}

theorem Item.expand_mono (h : params.KeptBy params') {item : Item} {piece : Piece}
    (hpiece : item.expand params = .ok piece) : item.expand params' = .ok piece := by
  cases item with
  | parameter name =>
    cases hsource : params.source? name with
    | none =>
      rw [expand, hsource] at hpiece
      cases hpiece
    | some source =>
      rw [expand, hsource] at hpiece
      rw [expand, h name source hsource]
      exact hpiece
  | alternation alternatives => exact hpiece
  | optional chars => exact hpiece
  | text chars => exact hpiece
  | spaces count => exact hpiece

theorem compile_eq_ok_iff {source : String} {r : Regex} : compile source params = .ok r ↔
    ∃ items pieces, read source = .ok items ∧ items.mapM (Item.expand params) = .ok pieces ∧
      ofPieces? pieces = some r := by
  constructor
  · intro h
    obtain ⟨items, hitems, h⟩ := except_bind_eq_ok h
    obtain ⟨pieces, hpieces, h⟩ := except_bind_eq_ok h
    split at h
    · next r' hr =>
      cases h
      exact ⟨items, pieces, except_mapError_eq_ok hitems, hpieces, hr⟩
    · cases h
  · rintro ⟨items, pieces, hitems, hpieces, hr⟩
    simp only [compile, hitems, Except.mapError, hpieces, bind, Except.bind, hr]
    rfl

/-- A phrase that compiles compiles to the same expression when there are more parameter types. -/
theorem compile_mono (h : params.KeptBy params') {source : String} {r : Regex}
    (hr : compile source params = .ok r) : compile source params' = .ok r := by
  obtain ⟨items, pieces, hitems, hpieces, hr⟩ := compile_eq_ok_iff.1 hr
  refine compile_eq_ok_iff.2 ⟨items, pieces, hitems, ?_, hr⟩
  rw [mapM_eq_ok_iff] at hpieces ⊢
  exact hpieces.imp fun _ _ => Item.expand_mono h

end Phrase

theorem Matchers.Sound.mono {params params' : Parameters} {μ : Matchers} (hμ : μ.Sound params)
    (h : params.KeptBy params') : μ.Sound params' :=
  fun id source r hkept => Phrase.compile_mono h (hμ id source r hkept)

open Matching

namespace StepDefinition

/-- Asks one definition about texts in turn, each time with the given parameter types. What is compiled on the
way is kept, also if asking fails. -/
def askAll (d : StepDefinition) (calls : List (Parameters × String)) :
    StateM Matchers (List (Except StepError Bool)) :=
  calls.mapM fun call => (d.matchesText call.1 call.2).run

theorem run_askAll (d : StepDefinition) {calls : List (Parameters × String)}
    (hgrows : calls.IsChain fun call later => call.1.GrowsTo later.1) {μ : Matchers}
    (hμ : ∀ call ∈ calls.head?, μ.Sound call.1) :
    ((d.askAll calls).run μ).1 = calls.map fun call => d.verdict call.1 call.2 := by
  induction calls generalizing μ with
  | nil => rfl
  | cons call calls ih =>
    obtain ⟨hnext, hgrows⟩ := List.isChain_cons.1 hgrows
    obtain ⟨μ', hresult, hsound⟩ := d.matchesText_outcome call.2 (hμ call rfl)
    have hrest := ih hgrows fun later hlater => hsound.mono (hnext later hlater).keptBy
    have hrun : (d.matchesText call.1 call.2).run.run μ = (d.verdict call.1 call.2, μ') := hresult
    rw [askAll, run_mapM_cons, hrun, List.map_cons]
    exact congrArg _ hrest

/-- As long as the parameter types only grow, a definition that was asked before says what one with the same
pattern says that was never asked. Of the way in which phrases become expressions this takes `compile_mono` alone:
no types count for a phrase but those that it names. -/
theorem askAll_as_fresh (d : StepDefinition) {calls : List (Parameters × String)}
    (hgrows : calls.IsChain fun call later => call.1.GrowsTo later.1) (fresh : StepDefinition)
    (hfresh : fresh.pattern = d.pattern) :
    ((d.askAll calls).run {}).1 = calls.map fun call => ((fresh.matchesText call.1 call.2).outcome {}).1 := by
  rw [d.run_askAll hgrows fun call _ => Matchers.sound_empty call.1]
  refine List.map_congr_left fun call _ => ?_
  obtain ⟨μ, hresult, -⟩ := fresh.matchesText_outcome call.2 (Matchers.sound_empty call.1)
  rw [hresult]
  exact d.verdict_congr hfresh.symm call.1 call.2

section Basket

def basketStep (id : String) : StepDefinition where
  id := ⟨id⟩
  keyword := .typed .action
  pattern := .phrase "I pick {fruit}"

def basketTypes : Parameters := Parameters.request {} "fruit" "figs|plums"

def basketCalls : List (Parameters × String) :=
  [({}, "I pick figs"), (basketTypes, "I pick figs"), (basketTypes.request "fruit" "pears", "I pick pears")]

theorem askAll_basket :
    (((basketStep "used").askAll basketCalls).run {}).1.map Except.toOption = [none, some true, some false] := by
  have hdefined : Parameters.GrowsTo {} basketTypes := ⟨[("fruit", "figs|plums")], rfl⟩
  have hrefused : basketTypes.GrowsTo (basketTypes.request "fruit" "pears") := ⟨[("fruit", "pears")], rfl⟩
  have hgrows : basketCalls.IsChain fun call later => call.1.GrowsTo later.1 :=
    .cons_cons hdefined (.cons_cons hrefused (.singleton _))
  rw [(basketStep "used").askAll_as_fresh hgrows (basketStep "fresh") rfl]
  decide +kernel

end Basket

end StepDefinition

end FeaturePlan
