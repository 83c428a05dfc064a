import FeaturePlan.Likeness.Ranking
import FeaturePlan.Proofs.Lists
import Mathlib.Data.List.FinRange

/-!
What is suggested for a step, by the positions of the definitions. Of those of the type of the step the
closest are kept, and of those that are equally far the first ones. The rest of the room is for definitions of
other types that are closer than the last one kept. So no definition is left out in favour of one that is
farther away.
-/
namespace FeaturePlan
namespace Likeness

section Positions

variable (text : String) (definitions : List StepDefinition)

def farness (i : Fin definitions.length) : Nat :=
  EditDistance.ofStrings text (merge text definitions[i].source)

/-- The definition at the first position is closer to the text, or as close and declared earlier. -/
def Precedes (i j : Fin definitions.length) : Prop :=
  farness text definitions i < farness text definitions j ∨
    farness text definitions i = farness text definitions j ∧ i < j

/-- The positions with a property, in order of distance and declaration, up to a limit. None that is left out
is closer than one that is kept. -/
structure Keeps (eligible : Fin definitions.length → Prop) (limit : Nat)
    (kept : List (Fin definitions.length)) : Prop where
  first : ∃ ordered : List (Fin definitions.length), (∀ i, i ∈ ordered ↔ eligible i) ∧
    ordered.Pairwise (Precedes text definitions) ∧ kept = ordered.take limit
  closest : ∀ i ∈ kept, ∀ j, eligible j → j ∉ kept → farness text definitions i ≤ farness text definitions j

def positionsByDistance : List (Fin definitions.length) :=
  (List.finRange definitions.length).mergeSort fun i j => farness text definitions i ≤ farness text definitions j

def suggestionAt (i : Fin definitions.length) : Suggestion where
  definition := definitions[i]
  merged := merge text definitions[i].source
  distance := farness text definitions i

theorem map_suggestionAt_positions : (positionsByDistance text definitions).map (suggestionAt text definitions) =
    byDistance (definitions.map (suggestion text)) := by
  have hall : (List.finRange definitions.length).map (suggestionAt text definitions) =
      definitions.map (suggestion text) := by
    calc (List.finRange definitions.length).map (suggestionAt text definitions)
        = ((List.finRange definitions.length).map fun i => definitions[i]).map (suggestion text) := by
          rw [List.map_map]
          rfl
      _ = definitions.map (suggestion text) := by
          simp
  rw [positionsByDistance, byDistance, List.map_mergeSort, hall]
  exact fun i _ j _ => rfl

theorem mem_positionsByDistance (i : Fin definitions.length) : i ∈ positionsByDistance text definitions :=
  List.mem_mergeSort.2 (List.mem_finRange i)

theorem pairwise_positionsByDistance :
    (positionsByDistance text definitions).Pairwise (Precedes text definitions) := by
  have hascending := pairwise_mergeSort_key (farness text definitions) (List.finRange definitions.length)
  have hstable : (positionsByDistance text definitions).Pairwise fun i j =>
      farness text definitions i = farness text definitions j → i < j := by
    refine pairwise_of_filter fun k => ?_
    rw [positionsByDistance, filter_mergeSort_key]
    exact (List.pairwise_lt_finRange _).sublist List.filter_sublist
  refine (hascending.and hstable).imp fun {i j} ⟨hle, hearlier⟩ => ?_
  rcases Nat.lt_or_eq_of_le hle with hlt | heq
  · exact .inl hlt
  · exact .inr ⟨heq, hearlier heq⟩

end Positions

variable {text : String} {definitions : List StepDefinition}

theorem Precedes.le {i j : Fin definitions.length} (h : Precedes text definitions i j) :
    farness text definitions i ≤ farness text definitions j := by
  rcases h with hlt | ⟨heq, -⟩
  · exact hlt.le
  · exact heq.le

theorem Precedes.ne {i j : Fin definitions.length} (h : Precedes text definitions i j) : i ≠ j := by
  rintro rfl
  rcases h with hlt | ⟨-, hlt⟩
  · exact lt_irrefl _ hlt
  · exact lt_irrefl _ hlt

namespace Keeps

variable {eligible : Fin definitions.length → Prop} {limit : Nat} {kept : List (Fin definitions.length)}

theorem nodup (h : Keeps text definitions eligible limit kept) : kept.Nodup := by
  obtain ⟨ordered, -, hordered, rfl⟩ := h.first
  exact (hordered.imp Precedes.ne).sublist (List.take_sublist _ _)

theorem eligible_of_mem (h : Keeps text definitions eligible limit kept) {i : Fin definitions.length}
    (hi : i ∈ kept) : eligible i := by
  obtain ⟨ordered, hmem, -, rfl⟩ := h.first
  exact (hmem i).1 (List.mem_of_mem_take hi)

theorem length_le (h : Keeps text definitions eligible limit kept) : kept.length ≤ limit := by
  obtain ⟨ordered, -, -, rfl⟩ := h.first
  exact List.length_take_le _ _

end Keeps

theorem keeps_take_filter {eligible : Fin definitions.length → Prop} {p : Fin definitions.length → Bool}
    (hp : ∀ i, p i = true ↔ eligible i) (limit : Nat) :
    Keeps text definitions eligible limit (((positionsByDistance text definitions).filter p).take limit) := by
  have hsorted := (pairwise_positionsByDistance text definitions).sublist (List.filter_sublist (p := p))
  have hmem : ∀ i, i ∈ (positionsByDistance text definitions).filter p ↔ eligible i := by
    intro i
    rw [List.mem_filter, hp]
    exact and_iff_right (mem_positionsByDistance text definitions i)
  generalize (positionsByDistance text definitions).filter p = ordered at hsorted hmem
  refine ⟨⟨ordered, hmem, hsorted, rfl⟩, fun i hi j hj hleft => ?_⟩
  have hall := List.take_append_drop limit ordered
  have hdropped : j ∈ ordered.drop limit := by
    rw [← hmem, ← hall, List.mem_append] at hj
    exact hj.resolve_left hleft
  rw [← hall] at hsorted
  exact ((List.pairwise_append.1 hsorted).2.2 i hi j hdropped).le

section Ranks

variable (text : String) (type : StepType) (definitions : List StepDefinition) (limit : Nat)

def samePositions : List (Fin definitions.length) :=
  ((positionsByDistance text definitions).filter fun i => definitions[i].keyword.suits type).take limit

def otherPositions : List (Fin definitions.length) :=
  ((positionsByDistance text definitions).filter fun i =>
    ((samePositions text type definitions limit).getLast?.all fun worst =>
      farness text definitions i < farness text definitions worst) &&
    !definitions[i].keyword.suits type).take (limit - (samePositions text type definitions limit).length)

theorem rank_eq : rank text type definitions limit =
    ⟨(samePositions text type definitions limit).map (suggestionAt text definitions),
      (otherPositions text type definitions limit).map (suggestionAt text definitions)⟩ := by
  simp only [rank, List.partition_eq_filter_filter, ← map_suggestionAt_positions, List.filter_map,
    List.filter_filter, ← List.map_take, List.getLast?_map, Option.all_map, List.length_map]
  rfl

end Ranks

theorem eq_suggestion_of_mem_rank {type : StepType} {limit : Nat} {s : Suggestion}
    (hs : s ∈ (rank text type definitions limit).toList) : s = suggestion text s.definition := by
  rw [rank_eq, Suggestions.toList, ← List.map_append] at hs
  obtain ⟨i, -, rfl⟩ := List.mem_map.1 hs
  rfl

/-- The definition at a position has the keyword of a conjunction, or that of the type. -/
def OfType (definitions : List StepDefinition) (type : StepType) (i : Fin definitions.length) : Prop :=
  definitions[i].keyword.isConjunction = true ∨ definitions[i].keyword.type? = some type

theorem suits_iff_ofType {type : StepType} (i : Fin definitions.length) :
    definitions[i].keyword.suits type = true ↔ OfType definitions type i := by
  rw [OfType, StepKeyword.suits, StepKeyword.isConjunction]
  cases definitions[i].keyword.type? <;> simp

/-- The suggestions for a step are those of the closest definitions of its type and, as far as there is room, of
the closest ones of other types. -/
theorem rank_keeps_closest (text : String) (type : StepType) (definitions : List StepDefinition) (limit : Nat) :
    ∃ same other : List (Fin definitions.length),
      Keeps text definitions (OfType definitions type) limit same ∧
      Keeps text definitions (fun i => ¬ OfType definitions type i ∧
        ∀ worst ∈ same.getLast?, farness text definitions i < farness text definitions worst)
        (limit - same.length) other ∧
      (rank text type definitions limit).sameType = same.map (suggestionAt text definitions) ∧
      (rank text type definitions limit).otherType = other.map (suggestionAt text definitions) ∧
      (same ++ other).Nodup ∧ (rank text type definitions limit).size ≤ limit ∧
      ∀ s ∈ (rank text type definitions limit).toList,
        s.merged = merge text s.definition.source ∧ s.distance = EditDistance.ofStrings text s.merged := by
  have hsame : Keeps text definitions (OfType definitions type) limit
      (samePositions text type definitions limit) :=
    keeps_take_filter suits_iff_ofType limit
  have hother : Keeps text definitions (fun i => ¬ OfType definitions type i ∧
      ∀ worst ∈ (samePositions text type definitions limit).getLast?,
        farness text definitions i < farness text definitions worst)
      (limit - (samePositions text type definitions limit).length)
      (otherPositions text type definitions limit) := by
    refine keeps_take_filter (fun i => ?_) _
    rw [← suits_iff_ofType, Bool.and_eq_true, Option.all_eq_true, and_comm]
    simp
  have hrank := rank_eq text type definitions limit
  refine ⟨_, _, hsame, hother, congrArg Suggestions.sameType hrank, congrArg Suggestions.otherType hrank,
    ?_, ?_, fun s hs => ?_⟩
  · -- No definition is of the type of the step and of another one.
    refine List.nodup_append'.2 ⟨hsame.nodup, hother.nodup, fun i hi hi' => ?_⟩
    exact (hother.eligible_of_mem hi').1 (hsame.eligible_of_mem hi)
  · have hroom := hsame.length_le
    have hrest := hother.length_le
    simp only [hrank, Suggestions.size, Suggestions.toList, List.length_append, List.length_map]
    omega
  · rw [eq_suggestion_of_mem_rank hs]
    exact ⟨rfl, rfl⟩

end Likeness
end FeaturePlan
