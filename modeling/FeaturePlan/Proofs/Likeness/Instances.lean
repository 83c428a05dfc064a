import FeaturePlan.Proofs.Likeness.Merge
import FeaturePlan.Proofs.Likeness.Ranking
import FeaturePlan.Proofs.Text.EditDistance

/-!
Texts that follow a pattern. Where no word that stands for a placeholder is a word of the pattern, the text and
the pattern have the literals in common and nothing else, so each literal is kept at its own place, and merging
gives the words of the text back.
-/
namespace FeaturePlan
namespace Likeness

open WordDiff

/-- The text has the words of the pattern, with one or more free words in the place of each placeholder. -/
inductive InstanceOf (free : String → Prop) : List String → List String → Prop where
  | nil : InstanceOf free [] []
  | literal {w : String} {text pattern : List String} (hw : isPlaceholder w = false)
      (h : InstanceOf free text pattern) : InstanceOf free (w :: text) (w :: pattern)
  | placeholder {p : String} (ws : List String) {text pattern : List String} (hp : isPlaceholder p = true) (hne : ws ≠ [])
      (hws : ∀ w ∈ ws, free w) (h : InstanceOf free text pattern) :
      InstanceOf free (ws ++ text) (p :: pattern)

namespace InstanceOf

variable {free : String → Prop} {w p : String} {text pattern : List String}

theorem of_literal (h : InstanceOf free text (w :: pattern)) (hw : isPlaceholder w = false) :
    ∃ rest, text = w :: rest ∧ InstanceOf free rest pattern := by
  cases h with
  | literal _ h => exact ⟨_, rfl, h⟩
  | placeholder _ hw' => cases hw'.symm.trans hw

theorem of_placeholder (h : InstanceOf free text (p :: pattern)) (hp : isPlaceholder p = true) :
    ∃ ws rest, text = ws ++ rest ∧ ws ≠ [] ∧ (∀ w ∈ ws, free w) ∧ InstanceOf free rest pattern := by
  cases h with
  | literal hp' => cases hp.symm.trans hp'
  | placeholder _ _ hne hws h => exact ⟨_, _, rfl, hne, hws, h⟩

theorem length_le (h : InstanceOf free text pattern) : pattern.length ≤ text.length := by
  induction h with
  | nil => exact le_rfl
  | literal _ _ ih => exact Nat.succ_le_succ ih
  | placeholder _ _ hne _ _ ih =>
    have hpos := List.length_pos_iff.2 hne
    rw [List.length_append, List.length_cons]
    omega

theorem eq_nil (h : InstanceOf free text pattern) (hpattern : pattern = []) : text = [] := by
  subst hpattern
  cases h
  rfl

theorem literals [DecidablePred free] (h : InstanceOf free text pattern) (hpattern : ∀ w ∈ pattern, ¬free w) :
    text.filter (¬free ·) = pattern.filter (!isPlaceholder ·) := by
  induction h with
  | nil => rfl
  | literal hw h ih =>
    obtain ⟨hfree, hpattern⟩ := List.forall_mem_cons.1 hpattern
    rw [List.filter_cons_of_pos (by simpa using hfree), List.filter_cons_of_pos (by simpa using hw),
      ih hpattern]
  | placeholder ws hp hne hws h ih =>
    have hnone : ws.filter (¬free ·) = [] := List.filter_eq_nil_iff.2 fun w hw => by simpa using hws w hw
    rw [List.filter_append, hnone, List.nil_append, List.filter_cons_of_neg (by simpa using hp),
      ih fun w hw => hpattern w (List.mem_cons_of_mem _ hw)]

/-- Free words stand for placeholders only, and so a literal of the pattern is met where the text has it. -/
theorem split {removed added : List String} (h : InstanceOf free (removed ++ w :: text) (added ++ w :: pattern))
    (hremoved : ∀ r ∈ removed, free r) (hadded : ∀ p ∈ added, isPlaceholder p = true)
    (hw : isPlaceholder w = false) (hfree : ¬free w) :
    InstanceOf free removed added ∧ InstanceOf free text pattern := by
  induction added generalizing removed with
  | nil =>
    obtain ⟨rest, heq, hrest⟩ := h.of_literal hw
    cases removed with
    | nil =>
      obtain rfl : text = rest := (List.cons.inj heq).2
      exact ⟨.nil, hrest⟩
    | cons r rs =>
      obtain rfl : r = w := (List.cons.inj heq).1
      exact absurd (hremoved r List.mem_cons_self) hfree
  | cons p ps ih =>
    obtain ⟨hp, hps⟩ := List.forall_mem_cons.1 hadded
    obtain ⟨ws, rest, heq, hne, hws, hrest⟩ := h.of_placeholder hp
    -- The words for `p` are free and `w` is not, so they end before `w`.
    rcases List.append_eq_append_iff.1 heq with ⟨others, rfl, hothers⟩ | ⟨others, rfl, rfl⟩
    · cases others with
      | nil =>
        obtain rfl : w :: text = rest := hothers
        have hnext : InstanceOf free ([] ++ w :: text) (ps ++ w :: pattern) := hrest
        obtain ⟨hnone, htext⟩ := ih hnext (by simp) hps
        rw [List.append_nil] at hne hws
        exact ⟨List.append_nil removed ▸ .placeholder removed hp hne hws hnone, htext⟩
      | cons v others =>
        obtain rfl : w = v := (List.cons.inj hothers).1
        exact absurd (hws w (by simp)) hfree
    · obtain ⟨hothers, htext⟩ := ih hrest (fun r hr => hremoved r (List.mem_append_right ws hr)) hps
      exact ⟨.placeholder ws hp hne hws hothers, htext⟩

end InstanceOf

/-- What a script from an instance to its pattern does: it keeps the literals, removes the words that stand for
placeholders, and adds the placeholders. -/
structure Aligns (free : String → Prop) (script : List (Change String)) : Prop where
  kept : ∀ w ∈ script.filterMap Change.kept?, isPlaceholder w = false ∧ ¬free w
  removed : ∀ w ∈ script.filterMap Change.removed?, free w
  added : ∀ w ∈ script.filterMap Change.added?, isPlaceholder w = true

theorem Aligns.cut {free : String → Prop} {run cs : List (Change String)} {w : String}
    (h : Aligns free (run ++ .kept w :: cs)) :
    Aligns free run ∧ (isPlaceholder w = false ∧ ¬free w) ∧ Aligns free cs := by
  obtain ⟨hkept, hremoved, hadded⟩ := h
  simp only [List.filterMap_append, List.filterMap_cons, Change.kept?, Change.removed?, Change.added?,
    List.forall_mem_append, List.forall_mem_cons] at hkept hremoved hadded
  exact ⟨⟨hkept.1, hremoved.1, hadded.1⟩, hkept.2.1, ⟨hkept.2.2, hremoved.2, hadded.2⟩⟩

/-- No common subsequence is longer than the literals, and a script keeps no fewer words, so it keeps just them. -/
theorem InstanceOf.kept_changes {text pattern : List String} (h : InstanceOf (· ∉ pattern) text pattern) :
    (changes text pattern).filterMap Change.kept? = pattern.filter (!isPlaceholder ·) := by
  have hliterals := h.literals fun w hw => not_not_intro hw
  have hold := filterMap_kept?_sublist_old? (changes text pattern)
  have hnew := filterMap_kept?_sublist_new? (changes text pattern)
  rw [filterMap_old?_changes] at hold
  rw [filterMap_new?_changes] at hnew
  have hkept : ((changes text pattern).filterMap Change.kept?).Sublist (pattern.filter (!isPlaceholder ·)) := by
    have hfilter := hold.filter (¬· ∉ pattern)
    rw [List.filter_eq_self.2 fun w hw => by simpa using hnew.subset hw] at hfilter
    rwa [← hliterals]
  have hcommon : (pattern.filter (!isPlaceholder ·)).Sublist text := hliterals ▸ List.filter_sublist
  exact hkept.eq_of_length_le ((isGreatest_changes text pattern).2 ⟨_, hcommon, List.filter_sublist, rfl⟩)

theorem InstanceOf.aligns {text pattern : List String} (h : InstanceOf (· ∉ pattern) text pattern) :
    Aligns (· ∉ pattern) (changes text pattern) := by
  have hkept := h.kept_changes
  have hold := filterMap_old?_perm (changes text pattern)
  have hnew := filterMap_new?_perm (changes text pattern)
  rw [filterMap_old?_changes] at hold
  rw [filterMap_new?_changes] at hnew
  constructor
  case kept =>
    intro w hw
    rw [hkept] at hw
    obtain ⟨hw, hliteral⟩ := List.mem_filter.1 hw
    exact ⟨by simpa using hliteral, not_not_intro hw⟩
  case removed =>
    have hliterals := h.literals fun w hw => not_not_intro hw
    have hnone := filter_eq_nil_of_perm hold (hkept.trans hliterals.symm)
    intro w hw
    simpa using List.filter_eq_nil_iff.1 hnone w hw
  case added =>
    have hnone := filter_eq_nil_of_perm hnew hkept
    intro w hw
    simpa using List.filter_eq_nil_iff.1 hnone w hw

theorem outcome_shares {removed placeholders : List String} (hle : placeholders.length ≤ removed.length)
    (hnil : placeholders = [] → removed = []) :
    (shares removed placeholders).flatMap Fate.outcome = removed := by
  induction placeholders generalizing removed with
  | nil => rw [hnil rfl, shares_nil_right, List.flatMap_nil]
  | cons p ps ih =>
    cases removed with
    | nil => cases hle
    | cons r rs =>
      cases ps with
      | nil => rw [shares_singleton, List.flatMap_singleton]; rfl
      | cons q ps =>
        rw [shares_cons_cons, List.flatMap_cons, ih (Nat.le_of_succ_le_succ hle) nofun]
        rfl

theorem Settled.outcome {removed added : List String} {fates : List Fate} (h : Settled removed added fates)
    (hadded : ∀ p ∈ added, isPlaceholder p = true) (hle : added.length ≤ removed.length)
    (hnil : added = [] → removed = []) : fates.flatMap Fate.outcome = removed := by
  have hall : fates.filter (isPlaceholder ·.word) = fates := by
    refine List.filter_eq_self.2 fun f hf => hadded _ ?_
    rw [← h.words]
    exact List.mem_map_of_mem hf
  rw [← hall, h.placeholders, List.filter_eq_self.2 hadded, outcome_shares hle hnil]

theorem mergeRun_of_instance {free : String → Prop} {run : List (Change String)}
    (h : InstanceOf free (run.filterMap Change.removed?) (run.filterMap Change.added?))
    (hrun : Aligns free run) : mergeRun run = run.filterMap Change.removed? := by
  obtain ⟨fates, hfates, hsettle⟩ := exists_settled (run.filterMap Change.removed?) (run.filterMap Change.added?)
  exact hsettle.trans (hfates.outcome hrun.added h.length_le h.eq_nil)

theorem mergeChanges_of_instance {free : String → Prop} {script : List (Change String)}
    (h : InstanceOf free (script.filterMap Change.old?) (script.filterMap Change.new?))
    (hscript : Aligns free script) : mergeChanges script = script.filterMap Change.old? := by
  induction script using run_induction with
  | last run hrun =>
    rw [hrun.filterMap_old?, hrun.filterMap_new?] at h
    rw [mergeChanges_run hrun, hrun.filterMap_old?, mergeRun_of_instance h hscript]
  | kept run w cs hrun ih =>
    obtain ⟨hfit, ⟨hw, hfree⟩, hlater⟩ := hscript.cut
    rw [List.filterMap_append, List.filterMap_append, hrun.filterMap_old?, hrun.filterMap_new?] at h
    obtain ⟨hfirst, hrest⟩ := h.split hfit.removed hfit.added hw hfree
    rw [mergeChanges_kept hrun, mergeRun_of_instance hfirst hfit, ih hrest hlater, List.filterMap_append,
      hrun.filterMap_old?]
    rfl

/-- A text that has other words in the place of the placeholders is what it merges into, and so it is at no
distance from the pattern. -/
theorem merge_of_instance (text pattern : String)
    (h : InstanceOf (· ∉ Text.words pattern) (Text.words text) (Text.words pattern)) :
    merge text pattern = Text.canonical text ∧
      (Text.canonical text = text →
        (∀ d : StepDefinition, d.source = pattern → (suggestion text d).distance = 0) ∧
          ∀ type definitions limit, ∀ s ∈ (rank text type definitions limit).toList,
            s.definition.source = pattern → s.distance = 0) := by
  have hmerge : merge text pattern = Text.canonical text := by
    have hscript : InstanceOf (· ∉ Text.words pattern) ((ofTexts text pattern).filterMap Change.old?)
        ((ofTexts text pattern).filterMap Change.new?) := by
      rw [ofTexts, filterMap_old?_changes, filterMap_new?_changes]
      exact h
    rw [merge, mergeChanges_of_instance hscript h.aligns, ofTexts, filterMap_old?_changes, Text.canonical]
  refine ⟨hmerge, fun htext => ?_⟩
  have hdistance : ∀ d : StepDefinition, d.source = pattern → (suggestion text d).distance = 0 := by
    rintro d rfl
    calc (suggestion text d).distance = EditDistance.ofStrings text text :=
          congrArg (EditDistance.ofStrings text) (hmerge.trans htext)
      _ = 0 := EditDistance.distance_self text.toList
  refine ⟨hdistance, fun type definitions limit s hs hsource => ?_⟩
  rw [eq_suggestion_of_mem_rank hs]
  exact hdistance s.definition hsource

/-- A definition with a literal that stands twice, and with two placeholders side by side. -/
def purchase : StepDefinition where
  id := ⟨"purchase"⟩
  keyword := .typed .action
  pattern := .phrase "I buy {int} {word} and I pay {int}"

theorem purchase_recovered :
    merge "I buy 2 ripe figs and I pay 30" purchase.source = "I buy 2 ripe figs and I pay 30" ∧
      (suggestion "I buy 2 ripe figs and I pay 30" purchase).distance = 0 ∧
      ∀ s ∈ (rank "I buy 2 ripe figs and I pay 30" .action [purchase] 3).toList,
        s.definition.source = purchase.source → s.distance = 0 := by
  have hpattern : Text.words purchase.source = ["I", "buy", "{int}", "{word}", "and", "I", "pay", "{int}"] := by
    decide +kernel
  have htext : Text.words "I buy 2 ripe figs and I pay 30" =
      ["I", "buy", "2", "ripe", "figs", "and", "I", "pay", "30"] := by
    decide +kernel
  have hcanonical : Text.canonical "I buy 2 ripe figs and I pay 30" = "I buy 2 ripe figs and I pay 30" := by
    decide +kernel
  have hinstance : InstanceOf (· ∉ Text.words purchase.source) (Text.words "I buy 2 ripe figs and I pay 30")
      (Text.words purchase.source) := by
    rw [hpattern, htext]
    refine .literal (by decide) (.literal (by decide) ?_)
    refine .placeholder ["2"] (by decide) (by decide) (by decide) ?_
    refine .placeholder ["ripe", "figs"] (by decide) (by decide) (by decide) ?_
    refine .literal (by decide) (.literal (by decide) (.literal (by decide) ?_))
    exact .placeholder ["30"] (by decide) (by decide) (by decide) .nil
  obtain ⟨hmerge, hdistance⟩ := merge_of_instance "I buy 2 ripe figs and I pay 30" purchase.source hinstance
  obtain ⟨hself, hranked⟩ := hdistance hcanonical
  exact ⟨hmerge.trans hcanonical, hself purchase rfl, hranked .action [purchase] 3⟩

end Likeness
end FeaturePlan
