import FeaturePlan.Proofs.Text.Words
import Mathlib.Data.List.Chain
import Mathlib.Logic.Relation

/-!
Texts that differ in white space only. Blank characters count for a text as far as they keep its words apart;
which ones these are, how many stand in one place, and whether there are some at the ends does not count. The
canonical form is the only tidy text with the words of a text, so that two texts have one canonical form exactly
if changes of white space lead from one to the other.
-/
namespace FeaturePlan
namespace Text

variable {cs cs' rest : List Char} {ws : List (List Char)}

section Tidy

/-- No white space but single spaces, and none at the ends. -/
structure Tidy (cs : List Char) : Prop where
  spaces : ∀ c ∈ cs, isBlank c = true → c = ' '
  single : cs.IsChain fun c d => isBlank c = true → isBlank d = false
  start : ∀ c ∈ cs.head?, isBlank c = false
  finish : ∀ c ∈ cs.getLast?, isBlank c = false

theorem IsWord.tidy {w : List Char} (hw : IsWord w) : Tidy w where
  spaces c hc hblank := by
    rw [hw.2 c hc] at hblank
    cases hblank
  single := by
    have hpairs : w.Pairwise fun c d => isBlank c = true → isBlank d = false :=
      List.pairwise_of_forall_mem_list fun _ _ d hd _ => hw.2 d hd
    exact hpairs.isChain
  start c hc := hw.2 c (List.mem_of_mem_head? hc)
  finish c hc := hw.2 c (List.mem_of_mem_getLast? hc)

theorem tidy_nil : Tidy [] where
  spaces c hc := by cases hc
  single := .nil
  start c hc := by cases hc
  finish c hc := by cases hc

theorem Tidy.append (h : Tidy cs) (h' : Tidy cs') (hne : cs ≠ []) (hne' : cs' ≠ []) :
    Tidy (cs ++ ' ' :: cs') where
  spaces c hc hblank := by
    rcases List.mem_append.1 hc with hc | hc
    · exact h.spaces c hc hblank
    · rcases List.mem_cons.1 hc with rfl | hc
      · rfl
      · exact h'.spaces c hc hblank
  single := by
    refine h.single.append (h'.single.cons fun d hd _ => h'.start d hd) fun c hc _ _ hblank => ?_
    rw [h.finish c hc] at hblank
    cases hblank
  start c hc := h.start c (by rwa [List.head?_append_of_ne_nil _ hne] at hc)
  finish c hc := by
    obtain ⟨d, ds, rfl⟩ := List.exists_cons_of_ne_nil hne'
    rw [List.getLast?_append_of_ne_nil _ (List.cons_ne_nil _ _), List.getLast?_cons_cons] at hc
    exact h'.finish c hc

theorem tidy_intercalate : ∀ {ws : List (List Char)}, (∀ w ∈ ws, IsWord w) → Tidy ([' '].intercalate ws)
  | [], _ => tidy_nil
  | [w], h => by
    rw [List.intercalate_singleton]
    exact (h w List.mem_cons_self).tidy
  | w :: v :: ws, h => by
    obtain ⟨hw, hrest⟩ := List.forall_mem_cons.1 h
    have hne : [' '].intercalate (v :: ws) ≠ [] := by
      intro hnil
      have hwords := splitBlank_intercalate hrest
      rw [hnil] at hwords
      cases hwords
    rw [List.intercalate_cons_cons, List.append_assoc, List.singleton_append]
    exact hw.tidy.append (tidy_intercalate hrest) hw.1 hne

theorem Tidy.of_append_cons {b : Char} (h : Tidy (cs ++ b :: rest)) (hb : isBlank b = true) :
    Tidy rest ∧ rest ≠ [] := by
  have hne : rest ≠ [] := by
    rintro rfl
    rw [h.finish b (by simp)] at hb
    cases hb
  obtain ⟨hnext, hsingle⟩ := List.isChain_cons.1 h.single.right_of_append
  refine ⟨⟨fun c hc => h.spaces c (by simp [hc]), hsingle, fun c hc => hnext c hc hb, fun c hc => ?_⟩, hne⟩
  obtain ⟨d, ds, rfl⟩ := List.exists_cons_of_ne_nil hne
  exact h.finish c (by simpa using hc)

theorem Tidy.eq_intercalate (h : Tidy cs) (hws : Spells ws cs) : cs = [' '].intercalate ws := by
  -- Behind the first word stands nothing, or a single space and a tidy text with the other words.
  induction ws generalizing cs with
  | nil =>
    cases hws with
    | gap hgap => exact hgap.eq_nil [] (by simpa using h.start)
  | cons w ws ih =>
    cases hws with
    | @word gap _ rest _ hgap hw hrest hws =>
      obtain rfl : gap = [] := hgap.eq_nil (w ++ rest) (by simpa using h.start)
      cases rest with
      | nil =>
        rw [← hws.splitBlank_eq]
        simp
      | cons b rest =>
        have hb : isBlank b = true := hrest b rfl
        have hspace : b = ' ' := h.spaces b (by simp) hb
        obtain ⟨htidy, hne⟩ := h.of_append_cons hb
        have hbehind : Spells ws rest := spells_iff.2 (by rw [← splitBlank_of_blank hb, hws.splitBlank_eq])
        have htext := ih htidy hbehind
        cases ws with
        | nil => exact absurd htext hne
        | cons v ws =>
          rw [List.intercalate_cons_cons, ← htext, hspace]
          simp

end Tidy

section Spacing

/-- One change of white space: a gap at the start or at the end of a text goes, or a gap anywhere becomes
another one. -/
inductive Respacing : List Char → List Char → Prop
  | start {gap : List Char} (hgap : IsGap gap) (cs : List Char) : Respacing (gap ++ cs) cs
  | finish {gap : List Char} (hgap : IsGap gap) (cs : List Char) : Respacing (cs ++ gap) cs
  | inside {gap gap' : List Char} (hgap : IsGap gap) (hgap' : IsGap gap') (hne : gap ≠ []) (hne' : gap' ≠ [])
      (before behind : List Char) : Respacing (before ++ gap ++ behind) (before ++ gap' ++ behind)

/-- Changes of white space, made or undone, lead from one text to the other. -/
def Respaced (s t : String) : Prop := Relation.EqvGen Respacing s.toList t.toList

theorem Respacing.splitBlank_eq (h : Respacing cs cs') : splitBlank cs = splitBlank cs' := by
  cases h with
  | start hgap => exact splitBlank_gap_append hgap _
  | @finish gap hgap =>
    have hhead : ∀ c ∈ gap.head?, isBlank c = true := fun c hc => hgap c (List.mem_of_mem_head? hc)
    rw [(spells_splitBlank cs').splitBlank_append_of_blank hhead, splitBlank_of_gap hgap, List.append_nil]
  | inside hgap hgap' hne hne' before behind =>
    have hbefore := spells_splitBlank before
    rw [List.append_assoc, List.append_assoc, hbefore.splitBlank_append_of_blank (hgap.head? hne),
      hbefore.splitBlank_append_of_blank (hgap'.head? hne'), splitBlank_gap_append hgap,
      splitBlank_gap_append hgap']

/-- What can be changed in a text can be changed behind a space, where its start is the inside of a gap. -/
theorem Respacing.behind (h : Respacing cs cs') (before : List Char) :
    Respacing (before ++ ' ' :: cs) (before ++ ' ' :: cs') := by
  cases h with
  | @start gap hgap =>
    have hshrink : Respacing (before ++ ' ' :: gap ++ cs') (before ++ [' '] ++ cs') :=
      .inside (hgap.cons isBlank_space) (isGap_singleton isBlank_space) (by simp) (by simp) before cs'
    simpa using hshrink
  | finish hgap => simpa using Respacing.finish hgap (before ++ ' ' :: cs')
  | inside hgap hgap' hne hne' start behind =>
    simpa using Respacing.inside hgap hgap' hne hne' (before ++ ' ' :: start) behind

theorem eqvGen_behind (h : Relation.EqvGen Respacing cs cs') (before : List Char) :
    Relation.EqvGen Respacing (before ++ ' ' :: cs) (before ++ ' ' :: cs') := by
  induction h with
  | rel _ _ h => exact .rel _ _ (h.behind before)
  | refl _ => exact .refl _
  | symm _ _ _ ih => exact .symm _ _ ih
  | trans _ _ _ _ _ ih ih' => exact .trans _ _ _ ih ih'

/-- The gaps of a text can be changed one by one until single spaces are left. -/
theorem Spells.eqvGen (h : Spells ws cs) : Relation.EqvGen Respacing cs ([' '].intercalate ws) := by
  induction h with
  | @gap gap hgap => simpa using Relation.EqvGen.rel _ _ (Respacing.start hgap [])
  | @word gap w rest ws hgap hw hrest h ih =>
    rw [List.append_assoc]
    refine .trans _ _ _ (.rel _ _ (.start hgap (w ++ rest))) ?_
    cases ws with
    | nil =>
      cases h with
      | gap hrest =>
        rw [List.intercalate_singleton]
        exact .rel _ _ (.finish hrest w)
    | cons v ws =>
      cases rest with
      | nil => cases h.splitBlank_eq
      | cons b rest =>
        -- The gap of the rest has to stay behind the word, and a space in front of it makes it one more.
        have hb : isBlank b = true := hrest b rfl
        have hspace : IsGap [' ', b] := (isGap_singleton hb).cons isBlank_space
        have hgrow : Respacing (w ++ b :: rest) (w ++ ' ' :: b :: rest) := by
          simpa using Respacing.inside (isGap_singleton hb) hspace (by simp) (by simp) w rest
        rw [List.intercalate_cons_cons, List.append_assoc, List.singleton_append]
        exact .trans _ _ _ (.rel _ _ hgrow) (eqvGen_behind ih w)

theorem eqvGen_iff : Relation.EqvGen Respacing cs cs' ↔ splitBlank cs = splitBlank cs' := by
  constructor
  · intro h
    induction h with
    | rel _ _ h => exact h.splitBlank_eq
    | refl _ => rfl
    | symm _ _ _ ih => exact ih.symm
    | trans _ _ _ _ _ ih ih' => exact ih.trans ih'
  · intro h
    have hcs := (spells_splitBlank cs).eqvGen
    rw [h] at hcs
    exact hcs.trans _ _ _ (.symm _ _ (spells_splitBlank cs').eqvGen)

end Spacing

section Canonical

variable {s t : String}

theorem spells_words_iff : Spells ws s.toList ↔ (words s).map String.toList = ws := by
  rw [spells_iff, words, List.map_map]
  simp [Function.comp_def]

theorem words_eq_iff : words s = words t ↔ splitBlank s.toList = splitBlank t.toList :=
  (List.map_injective_iff.2 fun _ _ h => String.ofList_injective h).eq_iff

theorem words_eq_iff_respaced : words s = words t ↔ Respaced s t := words_eq_iff.trans eqvGen_iff.symm

theorem words_canonical (s : String) : words (canonical s) = words s :=
  words_unwords fun _ hw => isWord_of_mem_words hw

theorem canonical_eq_iff : canonical s = canonical t ↔ words s = words t := by
  constructor
  · intro h
    rw [← words_canonical s, h, words_canonical t]
  · intro h
    rw [canonical, h, canonical]

theorem toList_canonical (s : String) : (canonical s).toList = [' '].intercalate (splitBlank s.toList) := by
  have hspace : " ".toList = [' '] := rfl
  rw [canonical, unwords, words, String.toList_intercalate, hspace, List.map_map]
  simp [Function.comp_def]

theorem tidy_canonical (s : String) : Tidy (canonical s).toList := by
  rw [toList_canonical]
  exact tidy_intercalate fun _ hw => isWord_of_mem_splitBlank hw

theorem canonical_eq_self_iff : canonical s = s ↔ Tidy s.toList := by
  constructor
  · intro h
    exact h ▸ tidy_canonical s
  · intro h
    refine String.toList_injective ?_
    rw [toList_canonical, ← h.eq_intercalate (spells_splitBlank s.toList)]

theorem canonical_canonical (s : String) : canonical (canonical s) = canonical s :=
  canonical_eq_self_iff.2 (tidy_canonical s)

theorem canonical_eq_iff_respaced : canonical s = canonical t ↔ Respaced s t :=
  canonical_eq_iff.trans words_eq_iff_respaced

/-- Whether texts differ in white space only is seen from their canonical forms. -/
instance : DecidableRel Respaced := fun _ _ => decidable_of_iff _ canonical_eq_iff_respaced

example : Respaced "  Buy   two\tapples " "Buy two apples" ∧ ¬ Respaced "Buy twoapples" "Buy two apples" := by
  decide

end Canonical

end Text
end FeaturePlan
