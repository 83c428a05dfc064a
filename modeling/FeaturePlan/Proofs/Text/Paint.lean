import FeaturePlan.Text.Paint
import Mathlib.Data.List.Infix

/-!
Paint that comes off. All that painting adds are control sequences, so text without the escape character is
left as it was once these are deleted, piece by piece and line by line.
-/
namespace FeaturePlan
namespace Paint

def sequences : List (List Char) :=
  [[escape, '[', '1', 'm'], [escape, '[', '3', '2', 'm'], [escape, '[', '3', '6', 'm'],
    [escape, '[', '3', '1', 'm'], [escape, '[', '0', 'm']]

theorem start_mem_sequences (style : Style) : style.start ∈ sequences := by cases style <;> decide

theorem reset_mem_sequences : reset ∈ sequences := by decide

/-- Deletes control sequences from the left to the right. The number counts the characters of one that are
still to be skipped. -/
def delete : Nat → List Char → List Char
  | _, [] => []
  | skipped + 1, _ :: cs => delete skipped cs
  | 0, c :: cs =>
    match sequences.find? (·.isPrefixOf (c :: cs)) with
    | some sequence => delete (sequence.length - 1) cs
    | none => c :: delete 0 cs

def strip (text : String) : String := String.ofList (delete 0 text.toList)

theorem delete_append_of_mem {sequence : List Char} (h : sequence ∈ sequences) (rest : List Char) :
    delete 0 (sequence ++ rest) = delete 0 rest := by
  simp only [sequences, List.mem_cons, List.not_mem_nil, or_false] at h
  rcases h with rfl | rfl | rfl | rfl | rfl <;> rfl

theorem delete_cons {c : Char} (h : c ≠ escape) (cs : List Char) : delete 0 (c :: cs) = c :: delete 0 cs := by
  have hnone : sequences.find? (·.isPrefixOf (c :: cs)) = none := by
    have hc : (escape == c) = false := beq_eq_false_iff_ne.2 h.symm
    simp [sequences, List.isPrefixOf, hc]
  rw [delete, hnone]

def Bare (text : String) : Prop := escape ∉ text.toList

instance (text : String) : Decidable (Bare text) := inferInstanceAs (Decidable (escape ∉ text.toList))

@[simp] theorem bare_append {text text' : String} : Bare (text ++ text') ↔ Bare text ∧ Bare text' := by
  simp [Bare]

/-- A literal is made from the list of its characters, where it is easier to look for one. -/
theorem bare_ofList {cs : List Char} : Bare (String.ofList cs) ↔ escape ∉ cs := by
  rw [Bare, String.toList_ofList]

theorem bare_toString (n : Nat) : Bare (toString n) := by
  rw [Nat.toString_eq_ofList_toDigits, bare_ofList]
  intro h
  exact absurd (Nat.isDigit_of_mem_toDigits (by decide) (by decide) h) (by decide)

/-- Whatever follows a painted text, deleting the control sequences leaves the plain one. -/
def ComesOff (painted plain : List Char) : Prop :=
  ∀ rest, delete 0 (painted ++ rest) = plain ++ delete 0 rest

namespace ComesOff

variable {painted painted' plain plain' : List Char}

theorem append (h : ComesOff painted plain) (h' : ComesOff painted' plain') :
    ComesOff (painted ++ painted') (plain ++ plain') := fun rest => by
  rw [List.append_assoc, h, h', List.append_assoc]

theorem sequence {s : List Char} (h : s ∈ sequences) : ComesOff s [] := fun rest =>
  delete_append_of_mem h rest

theorem of_not_mem {text : List Char} (h : escape ∉ text) : ComesOff text text := by
  induction text with
  | nil => exact fun _ => rfl
  | cons c cs ih =>
    obtain ⟨hc, hcs⟩ := not_or.1 (mt List.mem_cons.2 h)
    intro rest
    rw [List.cons_append, delete_cons (Ne.symm hc), ih hcs, List.cons_append]

theorem piece {p : Piece} (h : Bare p.text) :
    ComesOff (p.render true).toList (p.render false).toList := by
  obtain ⟨_ | style, text⟩ := p
  · exact of_not_mem h
  · have hpainted := ((sequence (start_mem_sequences style)).append (of_not_mem h)).append
      (sequence reset_mem_sequences)
    simpa [Piece.render] using hpainted

theorem line {line : List Piece} (h : ∀ p ∈ line, Bare p.text) :
    ComesOff (renderLine true line).toList (renderLine false line).toList := by
  induction line with
  | nil => exact fun _ => rfl
  | cons p ps ih =>
    have hp := piece (h p List.mem_cons_self)
    have hps := ih fun q hq => h q (List.mem_cons_of_mem _ hq)
    simpa only [renderLine, List.map_cons, String.join_cons, String.toList_append] using hp.append hps

theorem strip_eq {text text' : String} (h : ComesOff text.toList text'.toList) : strip text = text' := by
  have hall := h []
  rw [List.append_nil, delete, List.append_nil] at hall
  rw [strip, hall, String.ofList_toList]

end ComesOff

theorem strip_append_of_bare {text : String} (h : Bare text) (rest : String) :
    strip (text ++ rest) = text ++ strip rest := by
  rw [strip, String.toList_append, ComesOff.of_not_mem h, String.ofList_append, String.ofList_toList, strip]

theorem strip_of_bare {text : String} (h : Bare text) : strip text = text :=
  (ComesOff.of_not_mem h).strip_eq

def Clean (lines : List (List Piece)) : Prop := ∀ line ∈ lines, ∀ p ∈ line, Bare p.text

@[simp] theorem clean_nil : Clean [] := fun _ h => nomatch h

@[simp] theorem clean_cons {line : List Piece} {lines : List (List Piece)} :
    Clean (line :: lines) ↔ (∀ p ∈ line, Bare p.text) ∧ Clean lines :=
  List.forall_mem_cons

@[simp] theorem clean_append {lines lines' : List (List Piece)} :
    Clean (lines ++ lines') ↔ Clean lines ∧ Clean lines' :=
  List.forall_mem_append

/-- The line feed between two lines is no part of a control sequence. -/
theorem Clean.comesOff {lines : List (List Piece)} (h : Clean lines) :
    ComesOff (renderLines true lines).toList (renderLines false lines).toList := by
  induction lines with
  | nil => exact fun _ => rfl
  | cons first rest ih =>
    obtain ⟨hfirst, hrest⟩ := clean_cons.1 h
    cases rest with
    | nil => exact .line hfirst
    | cons second others =>
      have hfeed : ComesOff "\n".toList "\n".toList := .of_not_mem (by decide)
      simpa only [renderLines, List.map_cons, String.intercalate_cons_cons, String.toList_append] using
        ((ComesOff.line hfirst).append hfeed).append (ih hrest)

end Paint
end FeaturePlan
