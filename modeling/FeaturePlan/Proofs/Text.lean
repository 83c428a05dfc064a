import FeaturePlan.Proofs.Lists
import FeaturePlan.Text.Template
import Mathlib.Data.List.TakeWhile

/-!
Numerals and templates as texts. A numeral tells its number. Filling a template puts values in the place of
its placeholders, read from the left, and keeps every other character.
-/
namespace FeaturePlan

theorem toDigits_injective : Function.Injective (Nat.toDigits 10) := by
  intro n n' h
  have hnumber := congrArg (Nat.ofDigitChars 10 · 0) h
  simpa only [Nat.ofDigitChars_ten_toDigits] using hnumber

theorem toString_nat_injective : Function.Injective (toString : Nat → String) := by
  intro n n' h
  rw [Nat.toString_eq_ofList_toDigits, Nat.toString_eq_ofList_toDigits] at h
  exact toDigits_injective (String.ofList_injective h)

namespace Text

def IsName (name : List Char) : Prop := name ≠ [] ∧ ∀ c ∈ name, c ≠ '>' ∧ isBlank c = false

/-- The second text is the first one with the values of its placeholders. Where a placeholder begins, it
ends at the next closing bracket; any other character stands for itself. -/
inductive Interpolated (value? : String → Option String) : List Char → List Char → Prop
  | done : Interpolated value? [] []
  | placeholder {name rest filled : List Char} {value : String} (hname : IsName name)
      (hvalue : value? (String.ofList name) = some value) (h : Interpolated value? rest filled) :
      Interpolated value? ('<' :: name ++ '>' :: rest) (value.toList ++ filled)
  | char {c : Char} {rest filled : List Char}
      (hc : ∀ name behind, IsName name → c :: rest ≠ '<' :: name ++ '>' :: behind)
      (h : Interpolated value? rest filled) : Interpolated value? (c :: rest) (c :: filled)

theorem isNameChar_eq_true_iff {c : Char} : isNameChar c = true ↔ c ≠ '>' ∧ isBlank c = false := by
  simp [isNameChar]

theorem placeholder?_append {name : List Char} (h : IsName name) (rest : List Char) :
    placeholder? ('<' :: name ++ '>' :: rest) = some (name, rest) := by
  have hname : ∀ c ∈ name, isNameChar c = true := fun c hc => isNameChar_eq_true_iff.2 (h.2 c hc)
  have hstop : ¬ isNameChar '>' = true := by simp [isNameChar]
  have htake : (name ++ '>' :: rest).takeWhile isNameChar = name := by
    rw [List.takeWhile_append_of_pos hname, List.takeWhile_cons_of_neg hstop, List.append_nil]
  have hdrop : (name ++ '>' :: rest).dropWhile isNameChar = '>' :: rest := by
    rw [List.dropWhile_append_of_pos hname, List.dropWhile_cons_of_neg hstop]
  obtain ⟨c, cs, rfl⟩ := List.exists_cons_of_ne_nil h.1
  simp only [List.cons_append, placeholder?] at htake hdrop ⊢
  simp only [htake, hdrop]

theorem isName_of_placeholder? {text name rest : List Char} (h : placeholder? text = some (name, rest)) :
    IsName name := by
  unfold placeholder? at h
  split at h
  · split at h
    · next c cs behind hname hrest =>
      cases h
      refine ⟨List.cons_ne_nil _ _, fun d hd => isNameChar_eq_true_iff.1 ?_⟩
      rw [← hname] at hd
      exact List.mem_takeWhile_imp hd
    · cases h
  · cases h

theorem placeholder?_eq_none_iff {text : List Char} :
    placeholder? text = none ↔ ∀ name behind, IsName name → text ≠ '<' :: name ++ '>' :: behind := by
  constructor
  · rintro h name behind hname rfl
    rw [placeholder?_append hname] at h
    cases h
  · intro h
    cases hfound : placeholder? text with
    | none => rfl
    | some found =>
      obtain ⟨name, rest⟩ := found
      exact absurd (eq_of_placeholder?_eq_some hfound) (h name rest (isName_of_placeholder? hfound))

theorem templateParts_of_placeholder {name : List Char} (h : IsName name) (rest : List Char) :
    templateParts ('<' :: name ++ '>' :: rest) = .placeholder name :: templateParts rest := by
  have hfound := placeholder?_append h rest
  rw [List.cons_append] at hfound ⊢
  rw [templateParts]
  split
  · next name' rest' hfound' =>
    rw [hfound] at hfound'
    cases hfound'
    rfl
  · next hnone => exact absurd (hfound.symm.trans hnone) (Option.some_ne_none _)

theorem templateParts_of_char {c : Char} {rest : List Char}
    (h : ∀ name behind, IsName name → c :: rest ≠ '<' :: name ++ '>' :: behind) :
    templateParts (c :: rest) = .char c :: templateParts rest := by
  have hnone := placeholder?_eq_none_iff.2 h
  rw [templateParts]
  split
  · next hfound => exact absurd (hfound.symm.trans hnone) (Option.some_ne_none _)
  · rfl

variable {value? : String → Option String}

theorem interpolated_of_mapM {text : List Char} {pieces : List (List Char)}
    (h : (templateParts text).mapM (TemplatePart.fill value?) = .ok pieces) :
    Interpolated value? text pieces.flatten := by
  fun_induction templateParts text generalizing pieces with
  | case1 =>
    cases h
    exact .done
  | case2 c cs name rest hfound ih =>
    obtain ⟨piece, others, hpiece, hothers, rfl⟩ := mapM_cons_eq_ok_iff.1 h
    rw [TemplatePart.fill] at hpiece
    split at hpiece
    · next value hvalue =>
      cases hpiece
      rw [eq_of_placeholder?_eq_some hfound, List.flatten_cons]
      exact .placeholder (isName_of_placeholder? hfound) hvalue (ih hothers)
    · cases hpiece
  | case3 c cs hfound ih =>
    obtain ⟨piece, others, hpiece, hothers, rfl⟩ := mapM_cons_eq_ok_iff.1 h
    cases hpiece
    exact .char (placeholder?_eq_none_iff.1 hfound) (ih hothers)

theorem Interpolated.mapM_eq_ok {text filled : List Char} (h : Interpolated value? text filled) :
    ∃ pieces, (templateParts text).mapM (TemplatePart.fill value?) = .ok pieces ∧
      pieces.flatten = filled := by
  induction h with
  | done => exact ⟨[], by rw [templateParts]; rfl, rfl⟩
  | @placeholder name rest filled value hname hvalue _ ih =>
    obtain ⟨pieces, hpieces, rfl⟩ := ih
    refine ⟨value.toList :: pieces, ?_, rfl⟩
    rw [templateParts_of_placeholder hname]
    refine mapM_cons_eq_ok_iff.2 ⟨_, pieces, ?_, hpieces, rfl⟩
    rw [TemplatePart.fill, hvalue]
  | @char c rest filled hc _ ih =>
    obtain ⟨pieces, hpieces, rfl⟩ := ih
    refine ⟨[c] :: pieces, ?_, rfl⟩
    rw [templateParts_of_char hc]
    exact mapM_cons_eq_ok_iff.2 ⟨_, pieces, rfl, hpieces, rfl⟩

theorem fillTemplate_eq (value? : String → Option String) (text : String) :
    fillTemplate value? text = ((templateParts text.toList).mapM (TemplatePart.fill value?)).map
      fun pieces => String.ofList pieces.flatten := by
  unfold fillTemplate
  cases (templateParts text.toList).mapM (TemplatePart.fill value?) <;> rfl

/-- Filling gives the interpolated text, and fails only where there is none. -/
theorem fillTemplate_eq_ok_iff {text filled : String} :
    fillTemplate value? text = .ok filled ↔ Interpolated value? text.toList filled.toList := by
  rw [fillTemplate_eq]
  constructor
  · intro h
    obtain ⟨pieces, hpieces, rfl⟩ := except_map_eq_ok h
    rw [String.toList_ofList]
    exact interpolated_of_mapM hpieces
  · intro h
    obtain ⟨pieces, hpieces, hflat⟩ := h.mapM_eq_ok
    rw [hpieces, Except.map, hflat, String.ofList_toList]

def TemplatePart.name? : TemplatePart → Option String
  | .char _ => none
  | .placeholder name => some (String.ofList name)

def placeholders (text : List Char) : List String := (templateParts text).filterMap TemplatePart.name?

theorem Interpolated.congr {text filled : List Char} (h : Interpolated value? text filled)
    {value?' : String → Option String} (hvalues : ∀ name ∈ placeholders text, value? name = value?' name) :
    Interpolated value?' text filled := by
  induction h with
  | done => exact .done
  | @placeholder name rest filled value hname hvalue _ ih =>
    have hparts : placeholders ('<' :: name ++ '>' :: rest) = String.ofList name :: placeholders rest := by
      rw [placeholders, templateParts_of_placeholder hname]
      rfl
    rw [hparts] at hvalues
    obtain ⟨hfirst, hrest⟩ := List.forall_mem_cons.1 hvalues
    exact .placeholder hname (hfirst ▸ hvalue) (ih hrest)
  | @char c rest filled hc _ ih =>
    have hparts : placeholders (c :: rest) = placeholders rest := by
      rw [placeholders, templateParts_of_char hc]
      rfl
    exact .char hc (ih (hparts ▸ hvalues))

end Text
end FeaturePlan
