import FeaturePlan.Proofs.Gherkin.Expansion
import FeaturePlan.Proofs.Gherkin.Interpolation

/-!
When an outline is rejected. Its placeholders are read off its texts in the order in which they are filled in:
those of a step from its text, its doc string and the cells of its table, and those of the name behind all
steps. The outline is rejected exactly if some row has no cell for one of them, and for the first such
placeholder of the first such row. Otherwise every row makes an example with all steps.
-/
namespace FeaturePlan

namespace Text

structure Slot where
  line : Nat
  name : String

def TemplatePart.slots (line : Nat) : TemplatePart → List Slot
  | .char _ => []
  | .placeholder name => [⟨line, String.ofList name⟩]

inductive SlotsOf : List (Nat × String) → List Slot → Prop
  | nil : SlotsOf [] []
  | cons {line : Nat} {text : String} {parts : List TemplatePart} {texts : List (Nat × String)}
      {slots : List Slot} (htext : ReadsAs text.toList parts) (htexts : SlotsOf texts slots) :
      SlotsOf ((line, text) :: texts) (parts.flatMap (TemplatePart.slots line) ++ slots)

def slotsIn (text : Nat × String) : List Slot :=
  (templateParts text.2.toList).flatMap (TemplatePart.slots text.1)

theorem slotsOf_iff {texts : List (Nat × String)} {slots : List Slot} :
    SlotsOf texts slots ↔ slots = texts.flatMap slotsIn := by
  constructor
  · intro h
    induction h with
    | nil => rfl
    | cons htext _ ih =>
      obtain rfl := readsAs_iff.1 htext
      rw [List.flatMap_cons, ih, slotsIn]
  · rintro rfl
    induction texts with
    | nil => exact .nil
    | cons text texts ih => exact .cons (readsAs_templateParts _) ih

end Text

namespace Gherkin

open Text

/-- The texts of an outline, each with the line that its placeholders are told to stand in. -/
def Outline.texts (o : Outline) : List (Nat × String) :=
  (o.steps.flatMap fun s => s.texts.map (s.line, ·)) ++ [(o.line, o.name)]

def ExampleGroup.HasCell (g : ExampleGroup) (row : List String) (name : String) : Prop :=
  ∃ (column : Nat) (cell : String), g.header[column]? = some name ∧ row[column]? = some cell

theorem ExampleGroup.mem_values_iff {g : ExampleGroup} {row : List String} {name : String} :
    name ∈ (g.values row).map Prod.fst ↔ g.HasCell row name := by
  simp only [List.mem_map, Prod.exists, exists_and_right, exists_eq_right, HasCell]
  simp only [values, List.mem_iff_getElem?, List.getElem?_zip_eq_some]
  exact exists_comm

theorem Outline.mem_rows {o : Outline} {g : ExampleGroup} {row : List String} :
    (g, row) ∈ o.rows ↔ g ∈ o.groups ∧ row ∈ g.rows := by
  simp [rows]

def Outline.fillSlot (o : Outline) (columns : List String) (slot : Slot) : Except DocumentError Unit :=
  if slot.name ∈ columns then .ok () else .error (.unknownPlaceholder slot.name slot.line o.name)

section Loops

variable (o : Outline)

theorem Outline.exists_fillSlot_eq_ok_iff {columns : List String} {slot : Slot} :
    (∃ filled, o.fillSlot columns slot = .ok filled) ↔ slot.name ∈ columns := by
  rw [fillSlot]
  split <;> simp_all

theorem Outline.fillSlot_eq_error_iff {columns : List String} {slot : Slot} {e : DocumentError} :
    o.fillSlot columns slot = .error e ↔
      slot.name ∉ columns ∧ e = .unknownPlaceholder slot.name slot.line o.name := by
  rw [fillSlot]
  split <;> simp_all [eq_comm]

/-- A text is filled in as its placeholders are, one after the other. -/
theorem Outline.interpolate_failsAlike (values : List (String × String)) (line : Nat) (text : String) :
    FailsAlike (o.interpolate values line text)
      ((slotsIn (line, text)).mapM (o.fillSlot (values.map Prod.fst))) := by
  -- A part fails as its placeholder does, and a character has none.
  have hpart (part : TemplatePart) : FailsAlike
      ((part.fill fun name => values.lookup name).mapError (.unknownPlaceholder · line o.name))
      ((part.slots line).mapM (o.fillSlot (values.map Prod.fst))) := by
    cases part with
    | char c => exact .ok _ _
    | placeholder name =>
      refine FailsAlike.trans ?_ (.mapM_singleton _ _)
      rw [TemplatePart.fill, fillSlot]
      cases hvalue : values.lookup (String.ofList name) with
      | none =>
        rw [if_neg (lookup_eq_none_iff_not_mem.1 hvalue)]
        exact .error _
      | some value =>
        have hcolumn : String.ofList name ∈ values.map Prod.fst := by
          by_contra hno
          rw [lookup_eq_none_iff_not_mem.2 hno] at hvalue
          cases hvalue
        rw [if_pos hcolumn]
        exact .ok _ _
  have hparts := FailsAlike.mapM_flatMap hpart (templateParts text.toList)
  rw [← mapM_mapError] at hparts
  refine FailsAlike.trans ?_ hparts
  rw [interpolate, fillTemplate]
  cases (templateParts text.toList).mapM (TemplatePart.fill fun name => values.lookup name) with
  | error name => exact .error _
  | ok pieces => exact .ok _ _

theorem Step.fill_failsAlike (s : Step) (fill : String → Except DocumentError String) :
    FailsAlike (s.fill fill) (s.texts.mapM fill) := by
  have htable : FailsAlike (s.table.mapM (·.mapM (·.mapM fill))) (s.table.toList.flatten.flatten.mapM fill) := by
    cases s.table with
    | none => exact .ok _ _
    | some rows =>
      rw [Option.mapM_some, Option.toList_some, List.flatten_singleton, ← List.flatMap_id]
      refine FailsAlike.trans (fun _ => except_bind_pure_eq_error_iff) ?_
      exact FailsAlike.mapM_flatMap (fun row => FailsAlike.refl _) rows
  rw [texts, List.mapM_cons, List.mapM_append]
  simp only [bind_assoc, pure_bind]
  exact (FailsAlike.refl _).bind fun _ _ => (FailsAlike.mapM_toList fill _).bind fun _ _ =>
    htable.bind fun _ _ => .ok _ _

/-- A row is tried on all placeholders of the outline in order. -/
theorem Outline.example_failsAlike (index : Nat) (g : ExampleGroup) (row : List String) :
    FailsAlike (o.example index g row)
      ((o.texts.flatMap slotsIn).mapM (o.fillSlot ((g.values row).map Prod.fst))) := by
  have hstep (s : Step) : FailsAlike (s.fill (o.interpolate (g.values row) s.line))
      (((s.texts.map (s.line, ·)).flatMap slotsIn).mapM (o.fillSlot ((g.values row).map Prod.fst))) := by
    rw [List.flatMap_map]
    refine (s.fill_failsAlike _).trans ?_
    exact FailsAlike.mapM_flatMap (o.interpolate_failsAlike (g.values row) s.line) s.texts
  rw [texts, List.flatMap_append, List.flatMap_assoc, List.flatMap_singleton, List.mapM_append]
  exact (FailsAlike.mapM_flatMap hstep o.steps).bind fun _ _ =>
    (o.interpolate_failsAlike (g.values row) o.line o.name).bind fun _ _ => .ok _ _

theorem Outline.expand_failsAlike :
    FailsAlike o.expand (o.rows.mapM fun row =>
      (o.texts.flatMap slotsIn).mapM (o.fillSlot ((row.1.values row.2).map Prod.fst))) := by
  have hrow (x : (ExampleGroup × List String) × Nat) : FailsAlike (o.example x.2 x.1.1 x.1.2)
      ([x.1].mapM fun row =>
        (o.texts.flatMap slotsIn).mapM (o.fillSlot ((row.1.values row.2).map Prod.fst))) :=
    (o.example_failsAlike x.2 x.1.1 x.1.2).trans (.mapM_singleton _ _)
  have hrows : o.rows.zipIdx.flatMap (fun x => [x.1]) = o.rows := by
    rw [← List.map_eq_flatMap, List.zipIdx_map_fst]
  have hloop := FailsAlike.mapM_flatMap hrow o.rows.zipIdx
  rw [hrows] at hloop
  exact FailsAlike.trans (fun _ => except_bind_pure_eq_error_iff) hloop

end Loops

/-- What comes of an outline with the given placeholders. -/
structure Outline.Expands (o : Outline) (slots : List Slot) (result : Except DocumentError Outline) :
    Prop where
  fails_iff : (∃ e, result = .error e) ↔
    ∃ g ∈ o.groups, ∃ row ∈ g.rows, ∃ slot ∈ slots, ¬ g.HasCell row slot.name
  error_iff : ∀ e, result = .error e ↔
    ∃ rowsBefore g row rowsAfter, o.rows = rowsBefore ++ (g, row) :: rowsAfter ∧
      (∀ earlier ∈ rowsBefore, ∀ slot ∈ slots, earlier.1.HasCell earlier.2 slot.name) ∧
      ∃ before slot after, slots = before ++ slot :: after ∧
        (∀ earlier ∈ before, g.HasCell row earlier.name) ∧ ¬ g.HasCell row slot.name ∧
        e = .unknownPlaceholder slot.name slot.line o.name
  withoutRows : (∀ g ∈ o.groups, g.rows = []) → result = .ok { o with examples := [] }
  examples : ∀ o', result = .ok o' → ∃ examples, o' = { o with examples } ∧
    examples.map (·.index) = List.range o.rows.length ∧ List.Forall₂ o.Makes o.rows.zipIdx examples

/-- There is one way to read the placeholders of an outline, and they decide with the rows what comes of it. -/
theorem Outline.expand_decided (o : Outline) :
    ∃ slots, (∀ slots', SlotsOf o.texts slots' ↔ slots' = slots) ∧ o.Expands slots o.expand := by
  have hfails := o.expand_failsAlike
  have hrow (row : ExampleGroup × List String) :
      (∃ filled, (o.texts.flatMap slotsIn).mapM (o.fillSlot ((row.1.values row.2).map Prod.fst)) =
        .ok filled) ↔ ∀ slot ∈ o.texts.flatMap slotsIn, row.1.HasCell row.2 slot.name := by
    simp only [exists_mapM_eq_ok_iff, exists_fillSlot_eq_ok_iff, ExampleGroup.mem_values_iff]
  refine ⟨o.texts.flatMap slotsIn, fun _ => slotsOf_iff, ?_, fun e => ?_, fun h => ?_, fun o' h => ?_⟩
  · simp only [hfails _, exists_mapM_eq_error_iff, fillSlot_eq_error_iff, exists_and_left, exists_eq,
      and_true, ExampleGroup.mem_values_iff, Prod.exists, mem_rows]
    constructor
    · rintro ⟨g, row, ⟨hg, hrow⟩, slot, hslot, hno⟩
      exact ⟨g, hg, row, hrow, slot, hslot, hno⟩
    · rintro ⟨g, hg, row, hrow, slot, hslot, hno⟩
      exact ⟨g, row, ⟨hg, hrow⟩, slot, hslot, hno⟩
  · simp only [hfails e, mapM_eq_error_iff, hrow, exists_fillSlot_eq_ok_iff, fillSlot_eq_error_iff,
      ExampleGroup.mem_values_iff, Prod.exists]
  · have hrows : o.rows = [] := List.flatMap_eq_nil_iff.2 fun g hg => by rw [h g hg]; rfl
    rw [expand, hrows]
    rfl
  · obtain ⟨examples, rfl, hmakes⟩ := makes_of_expand h
    refine ⟨examples, rfl, ?_, hmakes⟩
    exact Example.map_index (hmakes.imp fun _ _ hmade => hmade.toOfRow)

/-- The second row has no cell for the fruit, which the doc string asks for before the name does. -/
example :
    let step : Step :=
      { keyword := "When", type := .action, conjunction := false, text := "I pay <price>"
        docString := some "for <fruit>", line := 3 }
    let group : ExampleGroup :=
      { id := "examples-5", keyword := "Examples", name := "", tags := [], header := ["price", "fruit"]
        rows := [["2", "figs"], ["3"]] }
    ({ (default : Outline) with name := "Buy <fruit>", steps := [step], groups := [group] }).expand =
      .error (.unknownPlaceholder "fruit" 3 "Buy <fruit>") := by
  decide +kernel

end Gherkin
end FeaturePlan
