import FeaturePlan.Gherkin.Expansion
import FeaturePlan.Proofs.Text

/-!
Interpolation against a reading of the text. There is one way to read a text as characters and leftmost
placeholders that do not overlap. Interpolation puts the value of the first column of its name in the place of
each of these placeholders and keeps the characters; it fails exactly if one of the names is no column, and
tells the first such name.
-/
namespace FeaturePlan

namespace Text

def BeginsPlaceholder (text : List Char) : Prop :=
  ∃ name behind, IsName name ∧ text = '<' :: name ++ '>' :: behind

/-- The parts make up the text, and a character stands alone only where no placeholder begins. So the
placeholders among the parts are the leftmost ones that do not overlap. -/
structure ReadsAs (text : List Char) (parts : List TemplatePart) : Prop where
  source : parts.flatMap TemplatePart.source = text
  names : ∀ name, .placeholder name ∈ parts → IsName name
  leftmost : ∀ before c after, parts = before ++ .char c :: after →
    ¬ BeginsPlaceholder (c :: after.flatMap TemplatePart.source)

theorem beginsPlaceholder_iff {text : List Char} :
    BeginsPlaceholder text ↔ ∃ found, placeholder? text = some found := by
  constructor
  · rintro ⟨name, behind, hname, rfl⟩
    exact ⟨(name, behind), placeholder?_append hname behind⟩
  · rintro ⟨⟨name, behind⟩, hfound⟩
    exact ⟨name, behind, isName_of_placeholder? hfound, eq_of_placeholder?_eq_some hfound⟩

theorem ReadsAs.placeholder {name rest : List Char} {parts : List TemplatePart} (hname : IsName name)
    (h : ReadsAs rest parts) : ReadsAs ('<' :: name ++ '>' :: rest) (.placeholder name :: parts) := by
  refine ⟨?_, ?_, ?_⟩
  · simp [TemplatePart.source, h.source]
  · intro name' hmem
    rcases List.mem_cons.1 hmem with heq | hmem
    · cases heq
      exact hname
    · exact h.names name' hmem
  · intro before c after heq
    cases before with
    | nil => cases heq
    | cons first before => exact h.leftmost before c after (List.cons.inj heq).2

theorem ReadsAs.char {c : Char} {rest : List Char} {parts : List TemplatePart}
    (hc : ¬ BeginsPlaceholder (c :: rest)) (h : ReadsAs rest parts) :
    ReadsAs (c :: rest) (.char c :: parts) := by
  refine ⟨?_, ?_, ?_⟩
  · simp [TemplatePart.source, h.source]
  · intro name hmem
    simp only [List.mem_cons, reduceCtorEq, false_or] at hmem
    exact h.names name hmem
  · intro before c' after heq
    cases before with
    | nil =>
      cases heq
      rwa [h.source]
    | cons first before => exact h.leftmost before c' after (List.cons.inj heq).2

theorem readsAs_templateParts (text : List Char) : ReadsAs text (templateParts text) := by
  fun_induction templateParts text with
  | case1 => exact ⟨rfl, by simp, by simp⟩
  | case2 c cs name rest hfound ih =>
    rw [eq_of_placeholder?_eq_some hfound]
    exact ih.placeholder (isName_of_placeholder? hfound)
  | case3 c cs hnone ih =>
    refine ih.char fun hbegins => ?_
    obtain ⟨found, hfound⟩ := beginsPlaceholder_iff.1 hbegins
    cases hfound.symm.trans hnone

theorem readsAs_iff {text : List Char} {parts : List TemplatePart} :
    ReadsAs text parts ↔ parts = templateParts text := by
  constructor
  · intro h
    induction parts generalizing text with
    | nil =>
      obtain rfl : [] = text := h.source
      rw [templateParts]
    | cons part parts ih =>
      have hrest : ReadsAs (parts.flatMap TemplatePart.source) parts :=
        ⟨rfl, fun name hmem => h.names name (List.mem_cons_of_mem _ hmem),
          fun before c after heq => h.leftmost (part :: before) c after (congrArg (part :: ·) heq)⟩
      have htext := h.source
      cases part with
      | char c =>
        have hc := h.leftmost [] c parts rfl
        obtain rfl : c :: parts.flatMap TemplatePart.source = text := htext
        rw [templateParts_of_char, ← ih hrest]
        exact fun name behind hname heq => hc ⟨name, behind, hname, heq⟩
      | placeholder name =>
        have hname := h.names name List.mem_cons_self
        obtain rfl : '<' :: name ++ '>' :: parts.flatMap TemplatePart.source = text := by
          simpa [TemplatePart.source] using htext
        rw [templateParts_of_placeholder hname, ← ih hrest]
  · rintro rfl
    exact readsAs_templateParts text

/-- What stands in the place of a part: a character for itself, and for a placeholder the value of the first
column with its name. -/
inductive StandsFor (values : List (String × String)) : TemplatePart → List Char → Prop
  | char (c : Char) : StandsFor values (.char c) [c]
  | placeholder {name : List Char} {value : String} {before after : List (String × String)}
      (hvalues : values = before ++ (String.ofList name, value) :: after)
      (hfirst : String.ofList name ∉ before.map Prod.fst) : StandsFor values (.placeholder name) value.toList

variable {values : List (String × String)}

theorem fill_eq_ok_iff {part : TemplatePart} {piece : List Char} :
    part.fill (fun name => values.lookup name) = .ok piece ↔ StandsFor values part piece := by
  cases part with
  | char c =>
    constructor
    · intro h
      cases h
      exact .char c
    · intro h
      cases h
      rfl
  | placeholder name =>
    rw [TemplatePart.fill]
    constructor
    · intro h
      split at h
      · next value hvalue =>
        cases h
        obtain ⟨before, after, hvalues, hfirst⟩ := lookup_eq_some_iff_first.1 hvalue
        exact .placeholder hvalues hfirst
      · cases h
    · rintro (_ | ⟨hvalues, hfirst⟩)
      rw [lookup_eq_some_iff_first.2 ⟨_, _, hvalues, hfirst⟩]

theorem fill_eq_error_iff {part : TemplatePart} {unknown : String} :
    part.fill (fun name => values.lookup name) = .error unknown ↔
      ∃ name, part = .placeholder name ∧ unknown = String.ofList name ∧ unknown ∉ values.map Prod.fst := by
  cases part with
  | char c => simp [TemplatePart.fill]
  | placeholder name =>
    rw [TemplatePart.fill]
    cases hvalue : values.lookup (String.ofList name) with
    | none =>
      have hno := lookup_eq_none_iff_not_mem.1 hvalue
      constructor
      · intro h
        cases h
        exact ⟨name, rfl, rfl, hno⟩
      · rintro ⟨name', heq, rfl, -⟩
        cases heq
        rfl
    | some value =>
      constructor
      · intro h
        cases h
      · rintro ⟨name', heq, rfl, hno⟩
        cases heq
        rw [lookup_eq_none_iff_not_mem.2 hno] at hvalue
        cases hvalue

theorem exists_fill_eq_ok_iff {part : TemplatePart} :
    (∃ piece, part.fill (fun name => values.lookup name) = .ok piece) ↔
      ∀ name, part = .placeholder name → String.ofList name ∈ values.map Prod.fst := by
  cases hfill : part.fill fun name => values.lookup name with
  | ok piece =>
    refine iff_of_true ⟨piece, rfl⟩ ?_
    rintro name rfl
    by_contra hno
    have hfails := fill_eq_error_iff.2 ⟨name, rfl, rfl, hno⟩
    rw [hfill] at hfails
    cases hfails
  | error unknown =>
    obtain ⟨name, rfl, rfl, hno⟩ := fill_eq_error_iff.1 hfill
    exact iff_of_false nofun fun hall => hno (hall name rfl)

theorem forall_fill_eq_ok_iff {parts : List TemplatePart} :
    (∀ part ∈ parts, ∃ piece, part.fill (fun name => values.lookup name) = .ok piece) ↔
      ∀ name, .placeholder name ∈ parts → String.ofList name ∈ values.map Prod.fst := by
  simp only [exists_fill_eq_ok_iff]
  constructor
  · exact fun h name hmem => h _ hmem name rfl
  · rintro h _ hmem name rfl
    exact h name hmem

/-- The parts are filled in unless a placeholder is no column. Then it is the first such one that is told. -/
theorem exists_mapM_fill_iff {parts : List TemplatePart} :
    (∃ pieces, parts.mapM (TemplatePart.fill fun name => values.lookup name) = .ok pieces) ↔
      ∀ name, .placeholder name ∈ parts → String.ofList name ∈ values.map Prod.fst := by
  rw [exists_mapM_eq_ok_iff, forall_fill_eq_ok_iff]

theorem mapM_fill_eq_error_iff {parts : List TemplatePart} {unknown : String} :
    parts.mapM (TemplatePart.fill fun name => values.lookup name) = .error unknown ↔
      ∃ before name after, parts = before ++ .placeholder name :: after ∧
        (∀ known, .placeholder known ∈ before → String.ofList known ∈ values.map Prod.fst) ∧
        String.ofList name ∉ values.map Prod.fst ∧ unknown = String.ofList name := by
  rw [mapM_eq_error_iff]
  constructor
  · rintro ⟨before, part, after, hparts, hbefore, hpart⟩
    obtain ⟨name, rfl, rfl, hno⟩ := fill_eq_error_iff.1 hpart
    exact ⟨before, name, after, hparts, forall_fill_eq_ok_iff.1 hbefore, hno, rfl⟩
  · rintro ⟨before, name, after, hparts, hbefore, hno, rfl⟩
    have hpart := fill_eq_error_iff.2 ⟨name, rfl, rfl, hno⟩
    exact ⟨before, _, after, hparts, forall_fill_eq_ok_iff.2 hbefore, hpart⟩

end Text

namespace Gherkin

structure Outline.Interpolates (o : Outline) (values : List (String × String)) (line : Nat)
    (parts : List Text.TemplatePart) (result : Except DocumentError String) : Prop where
  succeeds_iff : (∃ filled, result = .ok filled) ↔
    ∀ name, .placeholder name ∈ parts → String.ofList name ∈ values.map Prod.fst
  ok_iff : ∀ filled, result = .ok filled ↔
    ∃ pieces, List.Forall₂ (Text.StandsFor values) parts pieces ∧ filled.toList = pieces.flatten
  error_iff : ∀ e, result = .error e ↔
    ∃ before name after, parts = before ++ .placeholder name :: after ∧
      (∀ known, .placeholder known ∈ before → String.ofList known ∈ values.map Prod.fst) ∧
      String.ofList name ∉ values.map Prod.fst ∧ e = .unknownPlaceholder (String.ofList name) line o.name

theorem Outline.interpolate_eq_ok_iff {o : Outline} {values : List (String × String)} {line : Nat}
    {text filled : String} :
    o.interpolate values line text = .ok filled ↔
      ∃ pieces, (Text.templateParts text.toList).mapM
          (Text.TemplatePart.fill fun name => values.lookup name) = .ok pieces ∧
        filled.toList = pieces.flatten := by
  rw [interpolate, Text.fillTemplate_eq]
  cases (Text.templateParts text.toList).mapM (Text.TemplatePart.fill fun name => values.lookup name) with
  | error unknown => simp [Except.map, Except.mapError]
  | ok pieces =>
    have htext : String.ofList pieces.flatten = filled ↔ filled.toList = pieces.flatten := by
      constructor
      · rintro rfl
        exact String.toList_ofList
      · intro h
        rw [← h, String.ofList_toList]
    simp [Except.map, Except.mapError, htext]

theorem Outline.interpolate_eq_error_iff {o : Outline} {values : List (String × String)} {line : Nat}
    {text : String} {e : DocumentError} :
    o.interpolate values line text = .error e ↔
      ∃ unknown, (Text.templateParts text.toList).mapM
          (Text.TemplatePart.fill fun name => values.lookup name) = .error unknown ∧
        e = .unknownPlaceholder unknown line o.name := by
  rw [interpolate, Text.fillTemplate_eq]
  cases (Text.templateParts text.toList).mapM (Text.TemplatePart.fill fun name => values.lookup name) with
  | error unknown => simp [Except.map, Except.mapError, eq_comm]
  | ok pieces => simp [Except.map, Except.mapError]

/-- A text is read in one way, and interpolated by this reading. -/
theorem Outline.interpolate_reading (o : Outline) (values : List (String × String)) (line : Nat)
    (text : String) :
    ∃ parts, (∀ parts', Text.ReadsAs text.toList parts' ↔ parts' = parts) ∧
      o.Interpolates values line parts (o.interpolate values line text) := by
  refine ⟨Text.templateParts text.toList, fun _ => Text.readsAs_iff, ?_, fun filled => ?_, fun e => ?_⟩
  · rw [← Text.exists_mapM_fill_iff]
    constructor
    · rintro ⟨filled, h⟩
      obtain ⟨pieces, hpieces, -⟩ := interpolate_eq_ok_iff.1 h
      exact ⟨pieces, hpieces⟩
    · rintro ⟨pieces, hpieces⟩
      exact ⟨.ofList pieces.flatten, interpolate_eq_ok_iff.2 ⟨pieces, hpieces, String.toList_ofList⟩⟩
  · simp only [interpolate_eq_ok_iff, mapM_eq_ok_iff, Text.fill_eq_ok_iff]
  · simp only [interpolate_eq_error_iff, Text.mapM_fill_eq_error_iff]
    constructor
    · rintro ⟨unknown, ⟨before, name, after, hparts, hbefore, hno, rfl⟩, rfl⟩
      exact ⟨before, name, after, hparts, hbefore, hno, rfl⟩
    · rintro ⟨before, name, after, hparts, hbefore, hno, rfl⟩
      exact ⟨_, ⟨before, name, after, hparts, hbefore, hno, rfl⟩, rfl⟩

/-- A name may begin with a bracket, and a bracket that white space follows is one by itself. -/
example : ((default : Outline).interpolate [("n", "<n>"), ("<n", "2"), ("n", "3")] 7
    "a<b <n> <<n>> < n>").toOption = some "a<b <n> 2> < n>" := by
  decide +kernel

end Gherkin
end FeaturePlan
