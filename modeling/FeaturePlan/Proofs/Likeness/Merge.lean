import FeaturePlan.Likeness.Merge
import FeaturePlan.Proofs.Lists
import FeaturePlan.Proofs.Text.Runs
import FeaturePlan.Proofs.Text.Words

/-!
What a merge is made of. Every word of the pattern has a fate: it is common to the text and the pattern, or it
stays, or it is a placeholder that words of the text replace. In a run of changes the placeholders share the
removed words among them, and all fates together draw on the text from its beginning to its end.
-/
namespace FeaturePlan
namespace Likeness

open WordDiff

/-- What becomes of a word of the pattern. -/
inductive Fate where
  | common (word : String)
  | stays (word : String)
  | replaced (placeholder : String) (words : List String)
deriving DecidableEq, Repr

namespace Fate

def word : Fate → String
  | .common w | .stays w | .replaced w _ => w

def outcome : Fate → List String
  | .common w | .stays w => [w]
  | .replaced _ ws => ws

def drawn : Fate → List String
  | .common w => [w]
  | .stays _ => []
  | .replaced _ ws => ws

def common? : Fate → Option String
  | .common w => some w
  | .stays _ | .replaced _ _ => none

/-- Only placeholders are replaced, each by one or more words that follow one another in the text. -/
def Allowed (text : List String) : Fate → Prop
  | .common _ | .stays _ => True
  | .replaced placeholder ws => isPlaceholder placeholder = true ∧ ws ≠ [] ∧ ws.IsInfix text

theorem Allowed.mem_outcome {text : List String} {f : Fate} (hf : f.Allowed text) {w : String}
    (hw : w ∈ f.outcome) : w = f.word ∨ w ∈ text := by
  cases f with
  | common w' | stays w' => exact .inl (List.mem_singleton.1 hw)
  | replaced p ws => exact .inr (hf.2.2.subset hw)

theorem Allowed.outcome_of_literal {text : List String} {f : Fate} (hf : f.Allowed text)
    (hword : isPlaceholder f.word = false) : f.outcome = [f.word] := by
  cases f with
  | common w | stays w => rfl
  | replaced p ws => cases hf.1.symm.trans hword

theorem Allowed.mono {ws text : List String} (h : ws.IsInfix text) {f : Fate} (hf : f.Allowed ws) :
    f.Allowed text := by
  cases f with
  | common w => trivial
  | stays w => trivial
  | replaced p ws' => exact ⟨hf.1, hf.2.1, hf.2.2.trans h⟩

end Fate

/-- The fates of the placeholders in a run of changes. Of more placeholders than there are removed words, the
first ones take one word each and the others stay. Otherwise all but the last one take one word each, and the
last one takes the words that are left. -/
def shares (removed placeholders : List String) : List Fate :=
  if removed.length < placeholders.length then
    List.zipWith (fun p r => .replaced p [r]) placeholders removed ++
      (placeholders.drop removed.length).map .stays
  else
    List.zipWith (fun p r => .replaced p [r]) placeholders.dropLast removed ++
      placeholders.getLast?.toList.map fun p => .replaced p (removed.drop (placeholders.length - 1))

theorem shares_nil_left (placeholders : List String) : shares [] placeholders = placeholders.map .stays := by
  cases placeholders with
  | nil => rfl
  | cons p ps => simp [shares]

theorem shares_nil_right (removed : List String) : shares removed [] = [] := by
  simp [shares]

theorem shares_singleton (r : String) (rs : List String) (p : String) :
    shares (r :: rs) [p] = [.replaced p (r :: rs)] := by
  simp [shares]

theorem shares_cons_cons (r : String) (rs : List String) (p q : String) (ps : List String) :
    shares (r :: rs) (p :: q :: ps) = .replaced p [r] :: shares rs (q :: ps) := by
  simp only [shares, List.length_cons, Nat.add_lt_add_iff_right]
  split
  · rfl
  · rw [List.dropLast_cons_cons, List.getLast?_cons_cons]
    rfl

/-- The removed words go to placeholders from the first to the last, and to none twice. -/
theorem isPrefix_drawn_shares (removed placeholders : List String) :
    (shares removed placeholders).flatMap Fate.drawn <+: removed := by
  induction placeholders generalizing removed with
  | nil =>
    rw [shares_nil_right]
    exact List.nil_prefix
  | cons p ps ih =>
    cases removed with
    | nil =>
      rw [shares_nil_left, List.flatMap_map]
      simp [Fate.drawn]
    | cons r rs =>
      cases ps with
      | nil =>
        rw [shares_singleton]
        simp [Fate.drawn]
      | cons q ps =>
        rw [shares_cons_cons, List.flatMap_cons]
        exact List.cons_prefix_cons.2 ⟨rfl, ih rs⟩

theorem mem_shares {removed placeholders : List String} {f : Fate} (hf : f ∈ shares removed placeholders) :
    ∃ p ∈ placeholders, f = .stays p ∨ ∃ ws, f = .replaced p ws ∧ ws ≠ [] ∧ ws.IsInfix removed := by
  induction placeholders generalizing removed with
  | nil =>
    rw [shares_nil_right] at hf
    cases hf
  | cons p ps ih =>
    cases removed with
    | nil =>
      rw [shares_nil_left] at hf
      obtain ⟨q, hq, rfl⟩ := List.mem_map.1 hf
      exact ⟨q, hq, .inl rfl⟩
    | cons r rs =>
      cases ps with
      | nil =>
        rw [shares_singleton, List.mem_singleton] at hf
        exact ⟨p, List.mem_cons_self, .inr ⟨r :: rs, hf, List.cons_ne_nil _ _, List.infix_rfl⟩⟩
      | cons q ps =>
        rw [shares_cons_cons, List.mem_cons] at hf
        rcases hf with rfl | hf
        · have hfirst : [r].IsInfix (r :: rs) := (List.prefix_append [r] rs).isInfix
          exact ⟨p, List.mem_cons_self, .inr ⟨[r], rfl, List.cons_ne_nil _ _, hfirst⟩⟩
        · obtain ⟨p', hp', h⟩ := ih hf
          refine ⟨p', List.mem_cons_of_mem p hp', h.imp_right ?_⟩
          rintro ⟨ws, hws, hne, hinfix⟩
          exact ⟨ws, hws, hne, hinfix.trans (List.suffix_cons r rs).isInfix⟩

theorem settle_of_literal {w : String} (hw : isPlaceholder w = false) (unfilled : Nat)
    (removed ws : List String) : settle unfilled removed (w :: ws) = w :: settle unfilled removed ws := by
  simp [settle, hw]

theorem settle_of_exhausted (unfilled : Nat) (ws : List String) : settle unfilled [] ws = ws := by
  induction ws with
  | nil => rfl
  | cons w ws ih => simp [settle, ih]

theorem settle_of_last {p : String} (hp : isPlaceholder p = true) (r : String) (rs ws : List String) :
    settle 1 (r :: rs) (p :: ws) = r :: rs ++ settle 0 [] ws := by
  simp [settle, hp]

theorem settle_of_more {p : String} (hp : isPlaceholder p = true) (unfilled : Nat) (r : String)
    (rs ws : List String) :
    settle (unfilled + 2) (r :: rs) (p :: ws) = r :: settle (unfilled + 1) rs ws := by
  simp [settle, hp]

/-- The fates of the words that are added in a run: literals stay, and placeholders share the removed words. -/
structure Settled (removed added : List String) (fates : List Fate) : Prop where
  words : fates.map Fate.word = added
  literals : ∀ f ∈ fates, isPlaceholder f.word = false → f = .stays f.word
  placeholders : fates.filter (isPlaceholder ·.word) = shares removed (added.filter isPlaceholder)

theorem Settled.literal {removed added : List String} {fates : List Fate} {w : String}
    (h : Settled removed added fates) (hw : isPlaceholder w = false) :
    Settled removed (w :: added) (.stays w :: fates) where
  words := congrArg (w :: ·) h.words
  literals := List.forall_mem_cons.2 ⟨fun _ => rfl, h.literals⟩
  placeholders := by simpa [List.filter_cons, Fate.word, hw] using h.placeholders

theorem Settled.replaced {removed removed' added taken : List String} {fates : List Fate} {p : String}
    (h : Settled removed' added fates) (hp : isPlaceholder p = true)
    (hshares : shares removed (p :: added.filter isPlaceholder) =
      .replaced p taken :: shares removed' (added.filter isPlaceholder)) :
    Settled removed (p :: added) (.replaced p taken :: fates) where
  words := congrArg (p :: ·) h.words
  literals := List.forall_mem_cons.2 ⟨fun hw => absurd (hp.symm.trans hw) (by decide), h.literals⟩
  placeholders := by
    rw [List.filter_cons_of_pos (by exact hp), List.filter_cons_of_pos hp, hshares, h.placeholders]

theorem settled_stays (added : List String) : Settled [] added (added.map .stays) where
  words := by rw [List.map_map]; exact List.map_id added
  literals := by
    intro f hf _
    obtain ⟨w, -, rfl⟩ := List.mem_map.1 hf
    rfl
  placeholders := by rw [List.filter_map, shares_nil_left]; rfl

/-- As long as there are removed words, the countdown is the number of placeholders that follow, and so the last
of them takes all that are left. -/
theorem exists_settled (removed added : List String) :
    ∃ fates, Settled removed added fates ∧
      settle (added.countP isPlaceholder) removed added = fates.flatMap Fate.outcome := by
  induction added generalizing removed with
  | nil => exact ⟨[], ⟨rfl, by simp, (shares_nil_right removed).symm⟩, rfl⟩
  | cons w ws ih =>
    cases hw : isPlaceholder w with
    | false =>
      obtain ⟨fates, hfates, hsettle⟩ := ih removed
      refine ⟨.stays w :: fates, hfates.literal hw, ?_⟩
      rw [List.countP_cons_of_neg (by simp [hw]), settle_of_literal hw, hsettle]
      rfl
    | true =>
      cases removed with
      | nil =>
        refine ⟨(w :: ws).map .stays, settled_stays _, ?_⟩
        rw [settle_of_exhausted, List.flatMap_map]
        simp [Fate.outcome]
      | cons r rs =>
        rw [List.countP_cons_of_pos hw]
        -- The last placeholder takes all that is left, and an earlier one the next word.
        cases hfollowing : ws.filter isPlaceholder with
        | nil =>
          obtain ⟨fates, hfates, hsettle⟩ := ih []
          have hcount : ws.countP isPlaceholder = 0 := by rw [List.countP_eq_length_filter, hfollowing]; rfl
          refine ⟨.replaced w (r :: rs) :: fates, hfates.replaced hw ?_, ?_⟩
          · rw [hfollowing, shares_singleton, shares_nil_right]
          · rw [hcount, Nat.zero_add, settle_of_last hw, ← hcount, hsettle]
            rfl
        | cons q ps =>
          obtain ⟨fates, hfates, hsettle⟩ := ih rs
          have hcount : ws.countP isPlaceholder = ps.length + 1 := by
            rw [List.countP_eq_length_filter, hfollowing]
            rfl
          refine ⟨.replaced w [r] :: fates, hfates.replaced hw ?_, ?_⟩
          · rw [hfollowing, shares_cons_cons]
          · rw [hcount, settle_of_more hw, ← hcount, hsettle]
            rfl

/-- The last placeholder takes two words, and the literal before it stays between them and the first one. -/
example : settle 2 ["a", "b", "c"] ["{x}", "or", "{y}"] = ["a", "or", "b", "c"] := by decide

theorem Settled.mem {removed added : List String} {fates : List Fate} (h : Settled removed added fates)
    {f : Fate} (hf : f ∈ fates) : f.Allowed removed ∧ f.common? = none := by
  cases hw : isPlaceholder f.word with
  | false =>
    rw [h.literals f hf hw]
    exact ⟨trivial, rfl⟩
  | true =>
    have hshare : f ∈ shares removed (added.filter isPlaceholder) :=
      h.placeholders ▸ List.mem_filter.2 ⟨hf, hw⟩
    obtain ⟨p, hp, rfl | ⟨ws, rfl, hws⟩⟩ := mem_shares hshare
    · exact ⟨trivial, rfl⟩
    · exact ⟨⟨(List.mem_filter.1 hp).2, hws⟩, rfl⟩

theorem Settled.common {removed added : List String} {fates : List Fate} (h : Settled removed added fates) :
    fates.filterMap Fate.common? = [] :=
  List.filterMap_eq_nil_iff.2 fun _ hf => (h.mem hf).2

theorem Settled.drawn {removed added : List String} {fates : List Fate} (h : Settled removed added fates) :
    (fates.flatMap Fate.drawn).Sublist removed := by
  have hliterals : ∀ f ∈ fates, isPlaceholder f.word = false → f.drawn = [] := by
    intro f hf hw
    rw [h.literals f hf hw]
    rfl
  rw [← flatMap_filter_of_nil hliterals, h.placeholders]
  exact (isPrefix_drawn_shares removed _).sublist

theorem mergeChanges_append {run rest : List (Change String)} (hrun : Unkept run) (hrest : KeepsNext rest) :
    mergeChanges (run ++ rest) = mergeRun run ++ mergeChanges rest := by
  cases run with
  | nil => rfl
  | cons c run =>
    have htail : Unkept run := fun d hd => hrun d (List.mem_cons_of_mem c hd)
    cases c with
    | kept w => cases hrun _ List.mem_cons_self
    | removed w | added w =>
      rw [List.cons_append, mergeChanges, htail.takeWhile_append hrest, htail.dropWhile_append hrest]
      intro w' hkept
      cases hkept

theorem mergeChanges_run {run : List (Change String)} (hrun : Unkept run) : mergeChanges run = mergeRun run := by
  have h := mergeChanges_append hrun keepsNext_nil
  rwa [List.append_nil, mergeChanges, List.append_nil] at h

theorem mergeChanges_kept {run cs : List (Change String)} (hrun : Unkept run) (w : String) :
    mergeChanges (run ++ .kept w :: cs) = mergeRun run ++ w :: mergeChanges cs := by
  rw [mergeChanges_append hrun (keepsNext_kept w cs), mergeChanges]

/-- The fates tell how the words of a script's new side come out in the merge. -/
structure Tells (script : List (Change String)) (fates : List Fate) : Prop where
  outcome : mergeChanges script = fates.flatMap Fate.outcome
  words : fates.map Fate.word = script.filterMap Change.new?
  common : fates.filterMap Fate.common? = script.filterMap Change.kept?
  allowed : ∀ f ∈ fates, f.Allowed (script.filterMap Change.old?)
  drawn : (fates.flatMap Fate.drawn).Sublist (script.filterMap Change.old?)
  runs : ∀ before run behind, IsRun before run behind → before ++ (run ++ behind) = script →
    ∃ fs gs hs, fates = fs ++ (gs ++ hs) ∧ fs.map Fate.word = before.filterMap Change.new? ∧
      Settled (run.filterMap Change.removed?) (run.filterMap Change.added?) gs

theorem Tells.run {run : List (Change String)} {fates : List Fate} (hrun : Unkept run)
    (h : Settled (run.filterMap Change.removed?) (run.filterMap Change.added?) fates)
    (houtcome : mergeRun run = fates.flatMap Fate.outcome) : Tells run fates where
  outcome := (mergeChanges_run hrun).trans houtcome
  words := by rw [h.words, hrun.filterMap_new?]
  common := by rw [h.common, hrun.filterMap_kept?]
  allowed := by
    rw [hrun.filterMap_old?]
    exact fun f hf => (h.mem hf).1
  drawn := by
    rw [hrun.filterMap_old?]
    exact h.drawn
  runs := by
    rintro before run' behind hrun' rfl
    obtain ⟨rfl, rfl⟩ := hrun'.eq_nil hrun
    rw [List.nil_append, List.append_nil] at h
    exact ⟨[], fates, [], by simp, rfl, h⟩

theorem Tells.kept {run cs : List (Change String)} {gs fates : List Fate} {w : String} (hrun : Unkept run)
    (h : Settled (run.filterMap Change.removed?) (run.filterMap Change.added?) gs)
    (houtcome : mergeRun run = gs.flatMap Fate.outcome) (hcs : Tells cs fates) :
    Tells (run ++ .kept w :: cs) (gs ++ .common w :: fates) := by
  have hold : (run ++ .kept w :: cs).filterMap Change.old? =
      run.filterMap Change.removed? ++ w :: cs.filterMap Change.old? := by
    rw [List.filterMap_append, hrun.filterMap_old?]
    rfl
  have hnew : (run ++ .kept w :: cs).filterMap Change.new? =
      run.filterMap Change.added? ++ w :: cs.filterMap Change.new? := by
    rw [List.filterMap_append, hrun.filterMap_new?]
    rfl
  constructor
  case outcome =>
    rw [mergeChanges_kept hrun, houtcome, hcs.outcome, List.flatMap_append, List.flatMap_cons]
    rfl
  case words =>
    rw [hnew, List.map_append, h.words, List.map_cons, hcs.words]
    rfl
  case common =>
    rw [List.filterMap_append, h.common, List.filterMap_append, hrun.filterMap_kept?]
    exact congrArg (w :: ·) hcs.common
  case allowed =>
    rw [hold]
    intro f hf
    rcases List.mem_append.1 hf with hf | hf
    · exact (h.mem hf).1.mono (List.prefix_append _ _).isInfix
    · rcases List.mem_cons.1 hf with rfl | hf
      · trivial
      · have hbehind : cs.filterMap Change.old? <:+ run.filterMap Change.removed? ++ w :: cs.filterMap Change.old? :=
          (List.suffix_cons w _).trans (List.suffix_append _ _)
        exact (hcs.allowed f hf).mono hbehind.isInfix
  case drawn =>
    rw [hold, List.flatMap_append, List.flatMap_cons]
    exact h.drawn.append (hcs.drawn.cons_cons w)
  case runs =>
    intro before run' behind hrun' heq
    -- A later run is one of `cs`, and all words in front of it are those of the first run, `w` and more of `cs`.
    rcases hrun'.first_or_later hrun heq with ⟨rfl, rfl, rfl⟩ | ⟨before', rfl, hlater, hbefore'⟩
    · exact ⟨[], gs, .common w :: fates, rfl, rfl, h⟩
    · obtain ⟨fs, gs', hs, rfl, hfs, hgs'⟩ := hcs.runs before' run' behind hlater hbefore'
      refine ⟨gs ++ .common w :: fs, gs', hs, by simp, ?_, hgs'⟩
      rw [List.map_append, h.words, List.map_cons, hfs, List.filterMap_append, hrun.filterMap_new?]
      rfl

theorem exists_tells (script : List (Change String)) : ∃ fates, Tells script fates := by
  induction script using run_induction with
  | last run hrun =>
    obtain ⟨fates, hfates, houtcome⟩ :=
      exists_settled (run.filterMap Change.removed?) (run.filterMap Change.added?)
    exact ⟨fates, .run hrun hfates houtcome⟩
  | kept run w cs hrun ih =>
    obtain ⟨gs, hgs, houtcome⟩ :=
      exists_settled (run.filterMap Change.removed?) (run.filterMap Change.added?)
    obtain ⟨fates, hfates⟩ := ih
    exact ⟨gs ++ .common w :: fates, .kept hrun hgs houtcome hfates⟩

/-- The words of a merge are those of the pattern, each as its fate has it. In every run of changes the
placeholders share the words that the run removes. -/
theorem merge_shape (text pattern : String) :
    (∃ fates : List Fate,
      Text.words (merge text pattern) = fates.flatMap Fate.outcome ∧
      fates.map Fate.word = Text.words pattern ∧
      (∀ f ∈ fates, f.Allowed (Text.words text)) ∧
      fates.filterMap Fate.common? = (ofTexts text pattern).filterMap Change.kept? ∧
      (fates.flatMap Fate.drawn).Sublist (Text.words text) ∧
      ∀ before run behind, IsRun before run behind → before ++ (run ++ behind) = ofTexts text pattern →
        ∃ fs gs hs, fates = fs ++ (gs ++ hs) ∧ fs.map Fate.word = before.filterMap Change.new? ∧
          Settled (run.filterMap Change.removed?) (run.filterMap Change.added?) gs) ∧
    ((∀ w ∈ Text.words pattern, isPlaceholder w = false) → merge text pattern = Text.canonical pattern) := by
  obtain ⟨fates, h⟩ := exists_tells (ofTexts text pattern)
  have hold : (ofTexts text pattern).filterMap Change.old? = Text.words text := filterMap_old?_changes _ _
  have hwords : fates.map Fate.word = Text.words pattern := h.words.trans (filterMap_new?_changes _ _)
  have hallowed := h.allowed
  have hdrawn := h.drawn
  rw [hold] at hallowed hdrawn
  have hmerge : merge text pattern = Text.unwords (fates.flatMap Fate.outcome) := congrArg Text.unwords h.outcome
  have hmem : ∀ f ∈ fates, f.word ∈ Text.words pattern := by
    intro f hf
    rw [← hwords]
    exact List.mem_map_of_mem hf
  -- The merge is read back word by word, since it is made of words only.
  have hread : ∀ w ∈ fates.flatMap Fate.outcome, Text.IsWord w.toList := by
    intro w hw
    obtain ⟨f, hf, hwf⟩ := List.mem_flatMap.1 hw
    rcases (hallowed f hf).mem_outcome hwf with rfl | hw
    · exact Text.isWord_of_mem_words (hmem f hf)
    · exact Text.isWord_of_mem_words hw
  refine ⟨⟨fates, ?_, hwords, hallowed, h.common, hdrawn, h.runs⟩, fun hliterals => ?_⟩
  · rw [hmerge, Text.words_unwords hread]
  · have houtcome : fates.flatMap Fate.outcome = fates.map Fate.word := by
      rw [List.map_eq_flatMap]
      exact List.flatMap_congr fun f hf => (hallowed f hf).outcome_of_literal (hliterals _ (hmem f hf))
    rw [hmerge, houtcome, hwords, Text.canonical]

end Likeness
end FeaturePlan
