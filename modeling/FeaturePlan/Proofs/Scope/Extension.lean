import FeaturePlan.Proofs.Scope.Showing

/-!
Further features in the root. Commands that add nothing but features leave the layout before them as it is,
and lay out their features behind it; so the candidates from before come first, as they were, and what comes
behind them stands in the new features.
-/
namespace FeaturePlan

def Entry.isStep : Entry → Bool
  | .step _ _ _ _ => true
  | _ => false

def Entry.isParameter : Entry → Bool
  | .parameter _ _ => true
  | _ => false

mutual

def Command.entries : Command → List Entry
  | .entry _ _ e => [e]
  | .scope _ _ _ body _ => Command.entriesAll body

def Command.entriesAll : List Command → List Entry
  | [] => []
  | c :: cs => c.entries ++ Command.entriesAll cs

end

/-- Whether a command adds no step to the scope around it, and no scope but a feature. -/
def Command.addsAtMostFeature : Command → Bool
  | .entry _ _ e => !e.isStep
  | .scope _ _ q _ _ => q.kind = .feature

/-- Commands that add features, and nothing else that is seen from beside these. What is inside the features
is free, but for parameter types, which all phrases share. -/
structure AddsFeatures (commands : List Command) : Prop where
  features : ∀ c ∈ commands, c.addsAtMostFeature = true
  noParameters : ∀ e ∈ Command.entriesAll commands, e.isParameter = false

theorem Entry.parameters_layOut {e : Entry} (h : e.isParameter = false) (s : Surroundings) :
    (e.layOut s).2.parameters = s.parameters := by
  cases e with
  | step keyword pattern options location =>
    rw [Entry.layOut]
    cases pattern.read <;> rfl
  | parameter name regex => cases h
  | hook | defaultMode | describe => rfl

mutual

theorem Command.parameters_layOut (c : Command) (h : ∀ e ∈ c.entries, e.isParameter = false)
    (around : ScopeKind) (s : Surroundings) : (c.layOut around s).2.parameters = s.parameters := by
  cases c with
  | entry label tolerated e => exact Entry.parameters_layOut (h e (List.mem_singleton.2 rfl)) s
  | scope label tolerated q body failure =>
    rw [Command.layOut]
    split
    · exact Command.parameters_layOutAll body h q.kind _
    · rfl

theorem Command.parameters_layOutAll (cs : List Command)
    (h : ∀ e ∈ Command.entriesAll cs, e.isParameter = false) (around : ScopeKind) (s : Surroundings) :
    (Command.layOutAll around cs s).2.parameters = s.parameters := by
  cases cs with
  | nil => rfl
  | cons c cs =>
    rw [Command.entriesAll, List.forall_mem_append] at h
    have hfirst := Command.parameters_layOut c h.1 around s
    rw [Command.layOutAll]
    dsimp only
    split
    · exact hfirst
    · exact (Command.parameters_layOutAll cs h.2 around _).trans hfirst

end

/-- What is laid out around commands is nothing but features, and hooks of the scope around them. -/
structure Contribution.OnlyFeatures (c : Contribution) : Prop where
  steps : c.steps = []
  children : ∀ l ∈ c.children, l.kind = .feature

theorem Contribution.OnlyFeatures.of_nil {c : Contribution} (hsteps : c.steps = [])
    (hchildren : c.children = []) : c.OnlyFeatures :=
  ⟨hsteps, by rw [hchildren]; exact List.forall_mem_nil _⟩

theorem Contribution.OnlyFeatures.andThen {first rest : Contribution} (h : first.OnlyFeatures)
    (h' : rest.OnlyFeatures) : (first.andThen rest).OnlyFeatures where
  steps := by rw [Contribution.andThen, h.steps, h'.steps, List.append_nil]
  children := List.forall_mem_append.2 ⟨h.children, h'.children⟩

theorem Entry.onlyFeatures_layOut {e : Entry} (h : e.isStep = false) (s : Surroundings) :
    (e.layOut s).1.OnlyFeatures := by
  cases e with
  | step keyword pattern options location => cases h
  | parameter name regex =>
    rw [Entry.layOut]
    cases s.parameters.define name regex <;> exact .of_nil rfl rfl
  | hook | defaultMode | describe => exact .of_nil rfl rfl

theorem Command.onlyFeatures_layOut {c : Command} (h : c.addsAtMostFeature = true) (around : ScopeKind)
    (s : Surroundings) : (c.layOut around s).1.OnlyFeatures := by
  cases c with
  | entry label tolerated e =>
    obtain ⟨hsteps, hchildren⟩ := e.onlyFeatures_layOut (by simpa [addsAtMostFeature] using h) s
    exact ⟨hsteps, hchildren⟩
  | scope label tolerated q body failure =>
    rw [Command.layOut]
    split
    · exact ⟨rfl, List.forall_mem_singleton.2 (of_decide_eq_true h)⟩
    · exact .of_nil rfl rfl

theorem Command.onlyFeatures_layOutAll {cs : List Command} (h : ∀ c ∈ cs, c.addsAtMostFeature = true)
    (around : ScopeKind) (s : Surroundings) : (Command.layOutAll around cs s).1.OnlyFeatures := by
  induction cs generalizing s with
  | nil => exact .of_nil rfl rfl
  | cons c cs ih =>
    obtain ⟨hc, hcs⟩ := List.forall_mem_cons.1 h
    have hfirst := Command.onlyFeatures_layOut hc around s
    rw [Command.layOutAll]
    dsimp only
    split
    · exact hfirst
    · exact hfirst.andThen (ih hcs _)

/-- A layout has the steps and the children of another one, and further features behind these. -/
structure Layout.Extension (l : Layout) (later : List Layout) (l' : Layout) : Prop where
  steps : l'.steps = l.steps
  children : l'.children = l.children ++ later
  features : ∀ x ∈ later, x.kind = .feature
  fresh : ∀ x ∈ l.children, x.scopeId ∉ Layout.idsAll later

/-- What the planning of documents sees of a finished registration that shows further features. -/
structure Blueprint.Extension (b b' : Blueprint) : Prop where
  parameters : b'.parameters = b.parameters
  children : ∃ later, b'.children b'.root = b.children b.root ++ later
  candidates : ∃ later, b'.candidates = b.candidates.map (· ++ later) ∧
    ∀ c ∈ later, ∀ f ∈ b.children b.root, c.feature.id ≠ f.id

namespace Blueprint

theorem feature_of_candidate {b : Blueprint} {s : Scope} {enclosing : List Scope} {c : Candidate}
    (h : b.candidate s enclosing = .ok c) : c.feature ∈ enclosing ∧ c.feature.kind = .feature := by
  rw [candidate] at h
  split at h
  · cases h
  · next f hfind =>
    cases h
    exact ⟨List.mem_of_mem_filter (List.mem_of_find?_eq_some hfind),
      of_decide_eq_true (List.find?_some (p := fun x : Scope => decide (x.kind = .feature)) hfind)⟩

/-- A candidate tells of the root nothing but the definitions that are attached to it. -/
theorem candidate_congr {b b' : Blueprint} {s : Scope} {below : List Scope} (hkind : b.root.kind = .root)
    (hkind' : b'.root.kind = .root) (hroot : b'.stepsOf b'.root = b.stepsOf b.root)
    (hsteps : ∀ x ∈ s :: below, b'.stepsOf x = b.stepsOf x) :
    b'.candidate s (below ++ [b'.root]) = b.candidate s (below ++ [b.root]) := by
  have hancestors (root : Scope) (h : root.kind = .root) :
      (below ++ [root]).filter (·.kind != .root) = below.filter (·.kind != .root) := by
    simp [List.filter_append, h]
  have hflat : (s :: below.filter (·.kind != .root)).flatMap b'.stepsOf =
      (s :: below.filter (·.kind != .root)).flatMap b.stepsOf := by
    refine List.flatMap_congr fun x hx => hsteps x ?_
    exact (List.cons_subset_cons s (List.filter_subset_self below)) hx
  rw [candidate, candidate, hancestors _ hkind, hancestors _ hkind', hflat, hroot]

end Blueprint

namespace Blueprint.Shows

variable {b b' : Blueprint} {l l' : Layout} (h : b.Shows l) (h' : b'.Shows l') {later : List Layout}
  (hl : l.Extension later l')
include h h' hl

theorem candidate_of_earlier {place : Layout × List Layout}
    (hplace : place ∈ Layout.placesAll [] l.children) : b'.candidateAt place = b.candidateAt place := by
  -- Whatever stands in the first layout is registered in both registrations.
  have hboth := Layout.forall_of_hereditary
    (P := fun x => x.StandsIn b.scopes b.steps b.hooks ∧ x.StandsIn b'.scopes b'.steps b'.hooks)
    (fun x hx y hy => ⟨hx.1.of_mem_children hy, hx.2.of_mem_children hy⟩)
    (fun x hx => ⟨h.stands.of_mem_children hx, h'.stands.of_mem_children (by simp [hl.children, hx])⟩)
    place hplace
  have hsteps {x : Layout} (hx : x.StandsIn b.scopes b.steps b.hooks)
      (hx' : x.StandsIn b'.scopes b'.steps b'.hooks) : b'.stepsOf x.toScope = b.stepsOf x.toScope := by
    rw [hx.stepsOf_toScope, hx'.stepsOf_toScope]
  have hroot : b'.stepsOf b'.root = b.stepsOf b.root := by rw [h.stepsOf_root, h'.stepsOf_root, hl.steps]
  refine candidate_congr h.rooted.root_kind h'.rooted.root_kind hroot ?_
  rw [List.forall_mem_cons, List.forall_mem_map]
  exact ⟨hsteps hboth.1.1 hboth.1.2, fun x hx => hsteps (hboth.2 x hx).1 (hboth.2 x hx).2⟩

omit h h' in
theorem exists_candidate_of_later {place : Layout × List Layout} (hplace : place ∈ Layout.placesAll [] later)
    (hkind : place.1.kind.isExecutable = true) : ∃ c, b'.candidateAt place = .ok c := by
  rcases Layout.mem_or_enclosed place hplace with htop | ⟨x, hx, hmem⟩
  · rw [hl.features _ htop] at hkind
    cases hkind
  · refine exists_candidate_iff.2 ⟨x.toScope, List.mem_append_left _ (List.mem_map_of_mem hmem), ?_⟩
    rw [Layout.toScope_kind, hl.features x hx]

omit h hl in
theorem feature_of_later {place : Layout × List Layout} (hplace : place ∈ Layout.placesAll [] later)
    {c : Candidate} (hc : b'.candidateAt place = .ok c) : c.feature.id ∈ Layout.idsAll later := by
  obtain ⟨hmem, hkind⟩ := feature_of_candidate hc
  rcases List.mem_append.1 hmem with hmem | hmem
  · obtain ⟨x, hx, hfeature⟩ := List.mem_map.1 hmem
    have hids := (Layout.forall_of_hereditary (P := fun x => x.ids ⊆ Layout.idsAll later)
      (fun x hids y hy => List.Subset.trans (Layout.ids_subset_of_mem_children hy) hids)
      (fun x => Layout.ids_subset_idsAll) place hplace).2 x hx
    rw [← hfeature, Layout.toScope_id]
    exact hids x.scopeId_mem_ids
  · rw [List.mem_singleton.1 hmem, h'.rooted.root_kind] at hkind
    cases hkind

theorem extension (hparameters : b'.parameters = b.parameters) : b.Extension b' where
  parameters := hparameters
  children := by
    rw [h.children_root, h'.children_root, hl.children, List.map_append]
    exact ⟨_, rfl⟩
  candidates := by
    have hearlier : ((Layout.placesAll [] l.children).filter (·.1.kind.isExecutable)).mapM b'.candidateAt =
        b.candidates := by
      rw [h.candidates_eq]
      exact mapM_congr fun place hplace => h.candidate_of_earlier h' hl (List.mem_of_mem_filter hplace)
    have hcandidates : ∀ place ∈ (Layout.placesAll [] later).filter (·.1.kind.isExecutable),
        ∃ c, b'.candidateAt place = .ok c := by
      intro place hplace
      obtain ⟨hplace, hkind⟩ := List.mem_filter.1 hplace
      exact exists_candidate_of_later hl hplace hkind
    obtain ⟨cs, hcs⟩ := exists_mapM_eq_ok_iff.2 hcandidates
    refine ⟨cs, ?_, fun c hc f hf he => ?_⟩
    · rw [h'.candidates_eq, hl.children, Layout.placesAll_eq, List.flatMap_append, ← Layout.placesAll_eq,
        ← Layout.placesAll_eq, List.filter_append, List.mapM_append, hearlier, hcs]
      cases b.candidates <;> rfl
    · obtain ⟨place, hplace, hcandidate⟩ := exists_of_mem_right (forall₂_of_mapM_eq_ok hcs) hc
      have hfeature := feature_of_later h' (List.mem_of_mem_filter hplace) hcandidate
      rw [h.children_root] at hf
      obtain ⟨x, hx, rfl⟩ := List.mem_map.1 hf
      rw [he, Layout.toScope_id] at hfeature
      exact hl.fresh x hx hfeature

end Blueprint.Shows

/-- Commands that add nothing but features extend what a program has registered, whatever fails in either. -/
theorem Command.extension_of_addsFeatures {source : IdSource} (h : source.NeverRepeats)
    (program : List Command) {later : List Command} (hlater : AddsFeatures later) :
    ∃ b b', (Command.runAll program (.start source)).2.finish = .ok b ∧
      (Command.runAll later (Command.runAll program (.start source)).2).2.finish = .ok b' ∧
      b.Extension b' := by
  have hinvariant := Command.invariant_of_mem_points (Command.runAll_mem_points program (.start source))
  have hstart := Registration.openAt_start h
  have hfirst := Command.agreesAll program hstart
  generalize Command.runAll program (.start source) = outcome at hfirst hinvariant ⊢
  have hrest := Command.agreesAll later (hfirst.laidOut.openAt hstart)
  have hall := hfirst.laidOut.trans hrest.laidOut hstart
  have hkept := Command.runAll_preserves Registration.kept_invariant later (fun _ _ => trivial) hinvariant
  obtain ⟨b, hb, hshows, hparameters⟩ := hfirst.laidOut.exists_shows hinvariant
  obtain ⟨b', hb', hshows', hparameters'⟩ := hall.exists_shows hkept
  obtain ⟨hsteps, hfeatures⟩ := Command.onlyFeatures_layOutAll hlater.features .root outcome.2.surroundings
  refine ⟨b, b', hb, hb', hshows.extension hshows' ⟨?_, rfl, hfeatures, fun x hx hid => ?_⟩ ?_⟩
  · exact (congrArg _ hsteps).trans (List.append_nil _)
  · exact hrest.laidOut.fresh _ hid (Catalogue.mem_keys_of_find? (hfirst.laidOut.children x hx).find?_eq)
  · calc b'.parameters
        _ = (Command.layOutAll .root later outcome.2.surroundings).2.parameters :=
          hparameters'.trans (congrArg Surroundings.parameters hrest.surroundings)
        _ = outcome.2.parameters := Command.parameters_layOutAll later hlater.noParameters .root _
        _ = b.parameters := hparameters.symm

end FeaturePlan
