import FeaturePlan.Text.Blank
import Mathlib.Data.List.Basic

/-!
Words of texts. A text is made of gaps, which are blank, and of words, which are not empty and have no blank
characters in them; a word goes on up to the next gap or the end of the text. Splitting a text gives exactly its
words, and so a text that is made of words with single spaces between them has those words.
-/
namespace FeaturePlan
namespace Text

variable {c d : Char} {cs gap rest : List Char} {ws : List (List Char)}

theorem isBlank_space : isBlank ' ' = true := by decide

theorem splitBlank_singleton (hc : isBlank c = false) : splitBlank [c] = [[c]] := by
  simp [splitBlank, hc]

theorem splitBlank_of_last (hc : isBlank c = false) (hd : isBlank d = true) :
    splitBlank (c :: d :: cs) = [c] :: splitBlank (d :: cs) := by
  simp [splitBlank, hc, hd]

theorem splitBlank_of_inner (hc : isBlank c = false) (hd : isBlank d = false) :
    splitBlank (c :: d :: cs) = (splitBlank (d :: cs)).modifyHead (c :: ·) := by
  simp [splitBlank, hc, hd]

/-- What can be read back from a text as one word. -/
def IsWord (w : List Char) : Prop := w ≠ [] ∧ ∀ c ∈ w, isBlank c = false

theorem isWord_singleton (hc : isBlank c = false) : IsWord [c] := ⟨List.cons_ne_nil _ _, by simpa using hc⟩

theorem IsWord.cons {w : List Char} (hc : isBlank c = false) (h : IsWord w) : IsWord (c :: w) :=
  ⟨List.cons_ne_nil _ _, List.forall_mem_cons.2 ⟨hc, h.2⟩⟩

def IsGap (gap : List Char) : Prop := ∀ c ∈ gap, isBlank c = true

theorem isGap_nil : IsGap [] := fun c hc => by cases hc

theorem isGap_singleton (hc : isBlank c = true) : IsGap [c] := by simpa [IsGap] using hc

theorem IsGap.cons (hgap : IsGap gap) (hc : isBlank c = true) : IsGap (c :: gap) :=
  List.forall_mem_cons.2 ⟨hc, hgap⟩

theorem IsGap.head? (hgap : IsGap gap) (hne : gap ≠ []) : ∀ c ∈ (gap ++ rest).head?, isBlank c = true := by
  intro c hc
  rw [List.head?_append_of_ne_nil _ hne] at hc
  exact hgap c (List.mem_of_mem_head? hc)

theorem IsGap.eq_nil (hgap : IsGap gap) (rest : List Char)
    (h : ∀ c ∈ (gap ++ rest).head?, isBlank c = false) : gap = [] := by
  cases gap with
  | nil => rfl
  | cons c gap =>
    have hc := h c rfl
    rw [hgap c List.mem_cons_self] at hc
    cases hc

/-- The words of a text, each of which goes on up to the next blank character or the end of the text. -/
inductive Spells : List (List Char) → List Char → Prop
  | gap {gap : List Char} (hgap : IsGap gap) : Spells [] gap
  | word {gap w rest : List Char} {ws : List (List Char)} (hgap : IsGap gap) (hw : IsWord w)
      (hrest : ∀ c ∈ rest.head?, isBlank c = true) (h : Spells ws rest) :
      Spells (w :: ws) (gap ++ w ++ rest)

theorem IsWord.spells {w : List Char} (hw : IsWord w) : Spells [w] w := by
  have h : Spells [w] ([] ++ w ++ []) := .word isGap_nil hw (fun c hc => by cases hc) (.gap isGap_nil)
  rwa [List.nil_append, List.append_nil] at h

theorem Spells.of_blank (hc : isBlank c = true) (h : Spells ws cs) : Spells ws (c :: cs) := by
  cases h with
  | gap hgap => exact .gap (hgap.cons hc)
  | word hgap hw hrest h => exact .word (hgap.cons hc) hw hrest h

theorem Spells.of_inner (hc : isBlank c = false) (hd : isBlank d = false) (h : Spells ws (d :: cs)) :
    Spells (ws.modifyHead (c :: ·)) (c :: d :: cs) := by
  have hhead : ∀ b ∈ (d :: cs).head?, isBlank b = false := by simpa using hd
  generalize htext : d :: cs = text at h hhead
  cases h with
  | gap hgap =>
    rw [hgap.eq_nil [] (by rwa [List.append_nil])] at htext
    cases htext
  | @word gap w rest ws hgap hw hrest h =>
    obtain rfl : gap = [] := hgap.eq_nil (w ++ rest) (by rwa [← List.append_assoc])
    exact .word isGap_nil (.cons hc hw) hrest h

theorem spells_splitBlank (cs : List Char) : Spells (splitBlank cs) cs := by
  induction cs with
  | nil => exact .gap isGap_nil
  | cons c cs ih =>
    cases hc : isBlank c with
    | true => exact splitBlank_of_blank hc cs ▸ ih.of_blank hc
    | false =>
      cases cs with
      | nil =>
        rw [splitBlank_singleton hc]
        exact (isWord_singleton hc).spells
      | cons d cs =>
        cases hd : isBlank d with
        | true =>
          have hnext : ∀ b ∈ (d :: cs).head?, isBlank b = true := by simpa using hd
          exact splitBlank_of_last hc hd ▸ .word isGap_nil (isWord_singleton hc) hnext ih
        | false => exact splitBlank_of_inner hc hd ▸ ih.of_inner hc hd

theorem Spells.isWord {w : List Char} (h : Spells ws cs) (hw : w ∈ ws) : IsWord w := by
  induction h with
  | gap _ => cases hw
  | word _ hword _ _ ih =>
    rcases List.mem_cons.1 hw with rfl | hw
    · exact hword
    · exact ih hw

theorem isWord_of_mem_splitBlank {w : List Char} (h : w ∈ splitBlank cs) : IsWord w :=
  (spells_splitBlank cs).isWord h

theorem isWord_of_mem_words {s w : String} (h : w ∈ words s) : IsWord w.toList := by
  obtain ⟨v, hv, rfl⟩ := List.mem_map.1 h
  rw [String.toList_ofList]
  exact isWord_of_mem_splitBlank hv

theorem splitBlank_append {w rest : List Char} (hw : IsWord w)
    (hrest : ∀ c ∈ rest.head?, isBlank c = true) : splitBlank (w ++ rest) = w :: splitBlank rest := by
  obtain ⟨hne, hblank⟩ := hw
  induction w with
  | nil => exact absurd rfl hne
  | cons c w ih =>
    obtain ⟨hc, hblank⟩ := List.forall_mem_cons.1 hblank
    cases w with
    | nil =>
      cases rest with
      | nil => exact splitBlank_singleton hc
      | cons d rest => exact splitBlank_of_last hc (hrest d rfl)
    | cons d w =>
      have hd : isBlank d = false := hblank d List.mem_cons_self
      have hrec : splitBlank (d :: (w ++ rest)) = (d :: w) :: splitBlank rest :=
        ih (List.cons_ne_nil d w) hblank
      rw [List.cons_append, List.cons_append, splitBlank_of_inner hc hd, hrec, List.modifyHead_cons]

theorem splitBlank_gap_append (hgap : IsGap gap) (cs : List Char) : splitBlank (gap ++ cs) = splitBlank cs := by
  induction gap with
  | nil => rfl
  | cons c gap ih =>
    obtain ⟨hc, hgap⟩ := List.forall_mem_cons.1 hgap
    rw [List.cons_append, splitBlank_of_blank hc, ih hgap]

theorem splitBlank_of_gap (hgap : IsGap gap) : splitBlank gap = [] := by
  simpa using splitBlank_gap_append hgap []

/-- The words up to a blank character are read whatever comes behind it. -/
theorem Spells.splitBlank_append_of_blank (h : Spells ws cs) (hrest : ∀ c ∈ rest.head?, isBlank c = true) :
    splitBlank (cs ++ rest) = ws ++ splitBlank rest := by
  induction h with
  | gap hgap => rw [splitBlank_gap_append hgap, List.nil_append]
  | @word gap w behind ws hgap hw hbehind _ ih =>
    have hnext : ∀ c ∈ (behind ++ rest).head?, isBlank c = true := by
      cases behind with
      | nil => exact hrest
      | cons b behind => exact hbehind
    rw [List.append_assoc, List.append_assoc, splitBlank_gap_append hgap, splitBlank_append hw hnext, ih,
      List.cons_append]

theorem Spells.splitBlank_eq (h : Spells ws cs) : splitBlank cs = ws := by
  have hrest : ∀ c ∈ ([] : List Char).head?, isBlank c = true := fun c hc => by cases hc
  simpa using h.splitBlank_append_of_blank hrest

theorem spells_iff : Spells ws cs ↔ splitBlank cs = ws :=
  ⟨Spells.splitBlank_eq, fun h => h ▸ spells_splitBlank cs⟩

theorem spells_intercalate : ∀ {ws : List (List Char)}, (∀ w ∈ ws, IsWord w) →
    Spells ws ([' '].intercalate ws)
  | [], _ => .gap isGap_nil
  | [w], h => by
    rw [List.intercalate_singleton]
    exact (h w List.mem_cons_self).spells
  | w :: v :: ws, h => by
    obtain ⟨hw, hrest⟩ := List.forall_mem_cons.1 h
    have hnext : ∀ c ∈ (' ' :: [' '].intercalate (v :: ws)).head?, isBlank c = true := by
      simpa using isBlank_space
    rw [List.intercalate_cons_cons, List.append_assoc, List.singleton_append]
    exact .word isGap_nil hw hnext ((spells_intercalate hrest).of_blank isBlank_space)

theorem splitBlank_intercalate (h : ∀ w ∈ ws, IsWord w) : splitBlank ([' '].intercalate ws) = ws :=
  (spells_intercalate h).splitBlank_eq

theorem words_unwords {ws : List String} (h : ∀ w ∈ ws, IsWord w.toList) : words (unwords ws) = ws := by
  have hchars : ∀ w ∈ ws.map String.toList, IsWord w := by simpa using h
  have hspace : " ".toList = [' '] := rfl
  rw [words, unwords, String.toList_intercalate, hspace, splitBlank_intercalate hchars, List.map_map]
  simp [Function.comp_def]

end Text
end FeaturePlan
