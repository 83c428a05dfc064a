import FeaturePlan.Proofs.Assembly.Examples
import FeaturePlan.Proofs.Scope.Freshness
import FeaturePlan.Proofs.Scope.Refinement

/-!
Identities that cannot clash. An identifier of a scope may have a hash behind it and stands in brackets at
the end of a qualified name; so if it has neither a hash nor an opening bracket in it, both tell which scope
they belong to, whatever the names and keywords are. Numbered identifiers have neither.
-/
namespace FeaturePlan

def Gherkin.Node.Apart : Gherkin.Node → Prop
  | .scenario _ => True
  | .outline o => (o.groups.map (·.id)).Nodup

theorem Gherkin.Node.apart_of_ofSource {s : Gherkin.Source.Scenario} {n : Gherkin.Node}
    (hlines : (s.examples.map (·.line)).Nodup) (h : Gherkin.Node.ofSource s = .ok n) : n.Apart := by
  by_cases hs : s.examples = []
  · rw [ofSource, if_pos (by simpa using hs)] at h
    cases h
    trivial
  · obtain ⟨o, rfl, -, hgroups, -, -⟩ := ofSource_of_examples hs h
    rw [Apart, hgroups]
    exact ExampleGroup.nodup_ids hlines

namespace Plan

/-- The identifier of a scope has none of the characters that tell where it ends. -/
def Plain (id : String) : Prop := '#' ∉ id.toList ∧ '[' ∉ id.toList

theorem plain_of_mem_sequential {requests : List IdKind} {id : String}
    (h : id ∈ IdSource.sequential.answers requests) : Plain id := by
  obtain ⟨later, kind, earlier, -, rfl⟩ := IdSource.exists_of_mem_answers h
  constructor <;> intro hmem <;> exact absurd (IdSource.isAlphanum_of_mem_sequential hmem) (by decide)

section Naming

def IsIdOf (scope id : String) : Prop := id = scope ∨ ∃ index, id = exampleId scope index

theorem toList_exampleId (scope : String) (index : Nat) :
    (exampleId scope index).toList = scope.toList ++ '#' :: Nat.toDigits 10 (index + 1) := by
  simp [exampleId]

theorem exampleId_injective (scope : String) : Function.Injective (exampleId scope) := by
  intro index index' h
  exact Nat.succ.inj (toString_nat_injective ((String.append_right_inj _).1 h))

variable {scope scope' id id' : String}

theorem IsIdOf.eq_scope (h : Plain scope) (h' : Plain scope') (hid : IsIdOf scope id)
    (hid' : IsIdOf scope' id) : scope = scope' := by
  have hhash (s : String) (index : Nat) : '#' ∈ (exampleId s index).toList := by
    rw [toList_exampleId]
    exact List.mem_append_right _ List.mem_cons_self
  rcases hid with rfl | ⟨index, rfl⟩ <;> rcases hid' with he | ⟨index', he⟩
  · exact he
  · exact absurd (he ▸ hhash scope' index') h.1
  · exact absurd (he ▸ hhash scope index) h'.1
  · have hchars := congrArg String.toList he
    rw [toList_exampleId, toList_exampleId] at hchars
    exact String.toList_injective (append_cons_inj_of_not_mem h.1 h'.1 hchars).1

theorem IsIdOf.bracket_not_mem (h : Plain scope) (hid : IsIdOf scope id) : '[' ∉ id.toList := by
  rcases hid with rfl | ⟨index, rfl⟩
  · exact h.2
  · rw [toList_exampleId, List.mem_append, List.mem_cons, not_or, not_or]
    refine ⟨h.2, by decide, fun hmem => ?_⟩
    exact absurd (Nat.isDigit_of_mem_toDigits (by decide) (by decide) hmem) (by decide)

def Names (name id : String) : Prop := ∃ front, name = front ++ " [" ++ id ++ "]"

theorem names_qualifiedName (m : Materials) (rule : Option PairedRule) (keyword name id : String) :
    Names (qualifiedName m rule keyword name id) id := by
  have hlast : ∃ front, qualifiedName m rule keyword name id = front ++ segment keyword name id := by
    cases rule with
    | none => exact ⟨_, rfl⟩
    | some r => exact ⟨_, rfl⟩
  obtain ⟨front, hfront⟩ := hlast
  refine ⟨front ++ (Text.trim keyword ++ ": " ++ name), ?_⟩
  rw [hfront, segment]
  simp only [String.append_assoc]

/-- Read backwards, a name tells the identifier up to the first opening bracket. -/
theorem Names.eq_id {name : String} (h : Names name id) (h' : Names name id') (hid : '[' ∉ id.toList)
    (hid' : '[' ∉ id'.toList) : id = id' := by
  obtain ⟨front, rfl⟩ := h
  obtain ⟨front', he⟩ := h'
  have hchars := congrArg (fun s => s.toList.reverse) he
  simp only [String.toList_append, List.reverse_append, String.reduceToList, List.reverse_cons,
    List.reverse_nil, List.nil_append, List.cons_append, List.cons.injEq, true_and] at hchars
  have hids := append_cons_inj_of_not_mem (by simpa using hid) (by simpa using hid') hchars
  exact String.toList_injective (List.reverse_injective hids.1)

end Naming

section Drafts

variable {m : Materials} {rule : Option PairedRule} {c : Candidate} {n : Gherkin.Node} {d : Draft}

/-- The identity of a draft tells of its candidate by the identifier, and of the identifier by the name. -/
theorem identity_of_mem_drafts (h : d ∈ drafts m rule c n) :
    IsIdOf c.id.text d.identity.1 ∧ Names d.identity.2 d.identity.1 := by
  rcases mem_drafts_cases h with ⟨s, -, rfl⟩ | ⟨o, g, row, cells, -, -, -, rfl⟩
  · exact ⟨.inl rfl, names_qualifiedName m rule s.keyword s.name c.id.text⟩
  · exact ⟨.inr ⟨row.index, rfl⟩,
      names_qualifiedName m rule o.keyword row.name (exampleId c.id.text row.index)⟩

theorem nodup_groupedExamples {o : Gherkin.Outline} (ho : o.Expanded)
    (hgroups : (o.groups.map (·.id)).Nodup) : ((groupedExamples o).map (·.index)).Nodup := by
  have hindexes : (o.examples.map (·.index)).Nodup := by
    rw [ho.numbered]
    exact List.nodup_range
  have hgroup (g : Gherkin.ExampleGroup) : ((groupExamples o g).map Prod.fst).Nodup :=
    (map_fst_groupExamples_perm o g).nodup_iff.2 ((hindexes.of_map _).filter _)
  have hid {g : Gherkin.ExampleGroup} {e : Gherkin.Example} (he : e ∈ (groupExamples o g).map Prod.fst) :
      e.groupId = g.id := by
    rw [(map_fst_groupExamples_perm o g).mem_iff] at he
    exact of_decide_eq_true (List.mem_filter.1 he).2
  have hgrouped : (groupedExamples o).Nodup := by
    refine List.nodup_flatMap.2 ⟨fun g _ => hgroup g, (List.pairwise_map.1 hgroups).imp ?_⟩
    exact fun hne e he he' => hne ((hid he).symm.trans (hid he'))
  refine hgrouped.map_on fun e he e' he' => ?_
  exact List.inj_on_of_nodup_map hindexes (mem_groupedExamples.1 he).1 (mem_groupedExamples.1 he').1

theorem nodup_ids_drafts (rule : Option PairedRule) (c : Candidate) (hn : n.Expanded) (hapart : n.Apart) :
    (((drafts m rule c n).map Draft.identity).map Prod.fst).Nodup := by
  cases n with
  | scenario s => exact List.nodup_singleton _
  | outline o =>
    rw [ids_drafts_outline]
    exact (nodup_groupedExamples hn hapart).map (exampleId_injective _)

end Drafts

section Positions

variable {m : Materials} {ps : List Position}

theorem mem_identities {x : String × String}
    (hx : x ∈ ps.flatMap fun p => (p.drafts m).map Draft.identity) :
    ∃ p ∈ ps, IsIdOf p.candidate.id.text x.1 ∧ Names x.2 x.1 := by
  obtain ⟨p, hp, hx⟩ := List.mem_flatMap.1 hx
  obtain ⟨d, hd, rfl⟩ := List.mem_map.1 hx
  exact ⟨p, hp, identity_of_mem_drafts hd⟩

theorem distinct_of_positions (hplain : ∀ p ∈ ps, Plain p.candidate.id.text)
    (honce : (ps.map (·.candidate.id)).Nodup) (hnodes : ∀ p ∈ ps, p.node.Expanded ∧ p.node.Apart) :
    Distinct (ps.flatMap fun p => (p.drafts m).map Draft.identity) := by
  have hids : ((ps.flatMap fun p => (p.drafts m).map Draft.identity).map Prod.fst).Nodup := by
    rw [List.map_flatMap, List.nodup_flatMap]
    refine ⟨fun p hp => nodup_ids_drafts p.rule p.candidate (hnodes p hp).1 (hnodes p hp).2, ?_⟩
    refine (List.pairwise_map.1 honce).imp_of_mem fun {p q} hp hq hne id hid hid' => ?_
    obtain ⟨x, hx, rfl⟩ := List.mem_map.1 hid
    obtain ⟨d, hd, rfl⟩ := List.mem_map.1 hx
    obtain ⟨x', hx', he⟩ := List.mem_map.1 hid'
    obtain ⟨d', hd', rfl⟩ := List.mem_map.1 hx'
    have hq' : IsIdOf q.candidate.id.text d.identity.1 := he ▸ (identity_of_mem_drafts hd').1
    have htext := (identity_of_mem_drafts hd).1.eq_scope (hplain p hp) (hplain q hq) hq'
    exact hne (congrArg ScopeId.mk htext)
  refine ⟨hids, (hids.of_map _).map_on fun x hx y hy hname => ?_⟩
  -- What has one name has one identifier.
  obtain ⟨p, hp, hxid, hxname⟩ := mem_identities hx
  obtain ⟨q, hq, hyid, hyname⟩ := mem_identities hy
  rw [← hname] at hyname
  refine List.inj_on_of_nodup_map hids hx hy ?_
  exact hxname.eq_id hyname (hxid.bracket_not_mem (hplain p hp)) (hyid.bracket_not_mem (hplain q hq))

end Positions

/-- The examples of a document are told apart, and so are the candidates by plain identifiers. -/
structure Materials.Unambiguous (m : Materials) : Prop where
  nodes : ∀ place ∈ m.document.places, place.2.Expanded ∧ place.2.Apart
  once : (m.candidates.map Candidate.id).Nodup
  plain : ∀ c ∈ m.candidates, Plain c.id.text

section Walks

variable {m : Materials} {tidy : Prop} {done : List Demand} {ws : List Placement} {s : Assembly}

theorem Stands.subperm_next (hs : Stands m tidy done ws s) {rule : Option PairedRule} {n : Gherkin.Node}
    {c : Candidate} (hc : Next m ws rule n c) : (ws.map (·.candidate) ++ [c]).Subperm m.candidates := by
  have hprefix : ∀ key, (ws.map (·.candidate) ++ [c]).filter (PairKey.ofCandidate · = key) <+:
      m.candidates.filter (PairKey.ofCandidate · = key) := by
    intro key
    by_cases hkey : PairKey.ofCandidate c = key
    · subst hkey
      exact hc.order
    · rw [List.filter_append, List.filter_cons_of_neg (by simpa using hkey), List.filter_nil,
        List.append_nil]
      exact ⟨_, hs.waiting key⟩
  exact subperm_of_filter_prefix hprefix

theorem Stands.node_mem (hs : Stands m tidy done ws s) {w : Placement} (hw : w ∈ ws) :
    .node w.rule w.node ∈ done := by
  have hplace : w.place ∈ done.filterMap Demand.node? := by
    rw [hs.nodes]
    exact List.mem_map_of_mem hw
  obtain ⟨d, hd, hnode⟩ := List.mem_filterMap.1 hplace
  cases d with
  | rule r => cases hnode
  | node rule n =>
    cases hnode
    exact hd

theorem Stands.distinct_next (hm : m.Unambiguous) (hs : Stands m tidy done ws s) {rule : Option PairedRule}
    {n : Gherkin.Node} {c : Candidate} (hc : Next m ws rule n c) {later : List Demand}
    (hdemands : m.demands = done ++ .node rule n :: later) :
    Distinct (ws.flatMap (fun w => (w.drafts m).map Draft.identity) ++
      (drafts m rule c n).map Draft.identity) := by
  let ps : List Position := ws.map Placement.toPosition ++ [⟨rule, n, c⟩]
  have hgiven : ps.map Position.candidate = ws.map (·.candidate) ++ [c] := by simp [ps]
  have hsubperm := hs.subperm_next hc
  rw [← hgiven] at hsubperm
  have hplain : ∀ p ∈ ps, Plain p.candidate.id.text :=
    fun p hp => hm.plain _ (hsubperm.subset (List.mem_map_of_mem hp))
  have honce : (ps.map (·.candidate.id)).Nodup := by
    have hids := (nodup_of_subperm hsubperm (hm.once.of_map _)).map_on fun c hc c' hc' =>
      List.inj_on_of_nodup_map hm.once (hsubperm.subset hc) (hsubperm.subset hc')
    rwa [List.map_map] at hids
  have hdemanded : ∀ p ∈ ps, .node p.rule p.node ∈ m.demands := by
    intro p hp
    rw [hdemands]
    rcases List.mem_append.1 hp with hp | hp
    · obtain ⟨w, hw, rfl⟩ := List.mem_map.1 hp
      exact List.mem_append_left _ (hs.node_mem hw)
    · rw [List.mem_singleton.1 hp]
      exact List.mem_append_right _ List.mem_cons_self
  -- The placements and the node that comes next are positions with a candidate each.
  have hdistinct := distinct_of_positions (m := m) hplain honce
    fun p hp => hm.nodes _ (m.mem_places_of_mem_demandsAfter (hdemanded p hp))
  rwa [List.flatMap_append, List.flatMap_map, List.flatMap_singleton] at hdistinct

theorem assemble_ne_identity (hm : m.Unambiguous) (μ : Matchers) (cause : IdentityError) :
    ((assemble m).outcome μ).1 ≠ .error (.identity cause) := by
  intro h
  obtain ⟨hends, -⟩ := assemble_ends m (show Kept m False μ from nofun)
  rw [h] at hends
  cases hends with
  | stopped hstops =>
    obtain ⟨before, d, later, ws, s, hdemands, hs, hfault⟩ := hstops
    cases hfault with
    | identity hd hc hclash =>
      subst hd
      exact hclash (hs.distinct_next hm hc hdemands)

end Walks

/-- A document of a written feature is planned without a clash, whatever its names are, if the candidates have
plain identifiers of their own. -/
theorem ofDocument_ne_identity {f : Gherkin.Source.Feature} {path : Option String} {d : Gherkin.Document}
    (hd : Gherkin.Document.ofSource f path = .ok d)
    (hlines : ∀ place ∈ f.places, (place.2.examples.map (·.line)).Nodup) {b : Blueprint}
    (hb : ∀ cs, b.candidates = .ok cs → (cs.map Candidate.id).Nodup ∧ ∀ c ∈ cs, Plain c.id.text)
    (limit : Nat) (μ : Matchers) (cause : IdentityError) :
    ((ofDocument limit d b).outcome μ).1 ≠ .error (.identity cause) := by
  rcases ofDocument_refused_or_assembled limit d b with ⟨e, he, hthrow⟩ | ⟨feature, cs, hcs, hassemble⟩
  · rw [hthrow]
    exact fun h => he cause (Except.error.inj h)
  · obtain ⟨honce, hplain⟩ := hb cs hcs
    rw [hassemble]
    refine assemble_ne_identity ⟨fun place hplace => ⟨?_, ?_⟩, ?_, fun c hc => ?_⟩ μ cause
    · exact Gherkin.Document.ofSource_expanded hd place hplace
    · obtain ⟨written, hwritten, -, hn⟩ :=
        exists_of_mem_right (Gherkin.Document.ofSource_eq_ok hd).2 hplace
      exact Gherkin.Node.apart_of_ofSource (hlines written hwritten) hn
    · exact honce.sublist (List.filter_sublist.map _)
    · exact hplain c (List.mem_of_mem_filter hc)

end Plan

theorem Command.candidates_of_program {source : IdSource} (h : source.NeverRepeats) {program : List Command}
    {b : Blueprint} (hb : (Command.runAll program (.start source)).2.finish = .ok b) {cs : List Candidate}
    (hcs : b.candidates = .ok cs) :
    (cs.map Candidate.id).Nodup ∧ ∀ c ∈ cs, ∃ requests, c.id.text ∈ source.answers requests := by
  have hrooted := (Blueprint.grounded_of_program hb).toRooted
  have hinvariant := Command.invariant_of_mem_points (Command.runAll_mem_points program (.start source))
  obtain ⟨hscopes, -, -⟩ := Registration.finish_eq_ok hinvariant.scopes hb
  obtain ⟨hlaid, -, -⟩ := Command.agreesAll program (Registration.openAt_start h)
  refine ⟨hrooted.nodup_candidates hcs, fun c hc => ?_⟩
  obtain ⟨chain, hlineage, -⟩ := hrooted.lineage_of_mem_candidates hcs hc
  have hkey : c.id ∈ b.scopes.keys := hrooted.scopes.mem_keys_iff.2 ⟨c.scope, hlineage.mem_values hrooted, rfl⟩
  rw [hscopes] at hkey
  have hanswer := hlaid.drawn.scopes c.id hkey
  rw [hlaid.source] at hanswer
  exact ⟨_, hanswer⟩

/-- With numbered identifiers no program finds one taken, wherever it gets to, so that it only reports
collisions that it raises itself. And what it registers is planned without a clash against any document whose
outlines have no two tables on one line. -/
theorem Command.sequential_unambiguous (program : List Command) :
    (∀ r ∈ Command.pointsAll program (.start .sequential), ∀ id, r.Avoids (.duplicateId id)) ∧
      (∀ id, (Command.runAll program (.start .sequential)).1.Reports (.duplicateId id) →
        .duplicateId id ∈ Command.raisedAll program) ∧
      ∃ b, (Command.runAll program (.start .sequential)).2.finish = .ok b ∧
        ∀ (f : Gherkin.Source.Feature) (path : Option String) (d : Gherkin.Document),
          Gherkin.Document.ofSource f path = .ok d →
          (∀ place ∈ f.places, (place.2.examples.map (·.line)).Nodup) →
          ∀ (limit : Nat) (μ : Matchers) (cause : IdentityError),
            ((Plan.ofDocument limit d b).outcome μ).1 ≠ .error (.identity cause) := by
  have havoids : ∀ r ∈ Command.pointsAll program (.start .sequential), ∀ id, r.Avoids (.duplicateId id) :=
    fun r hr id => (Command.fresh_of_mem_points IdSource.sequential_neverRepeats hr).avoids id
  refine ⟨havoids, fun id => Command.mem_raisedAll program fun r hr => havoids r hr id, .ofProgram program,
    Blueprint.finish_ofProgram program, fun f path d hd hlines => ?_⟩
  refine Plan.ofDocument_ne_identity hd hlines fun cs hcs => ?_
  obtain ⟨honce, hanswers⟩ := Command.candidates_of_program IdSource.sequential_neverRepeats
    (Blueprint.finish_ofProgram program) hcs
  refine ⟨honce, fun c hc => ?_⟩
  obtain ⟨requests, hanswer⟩ := hanswers c hc
  exact Plan.plain_of_mem_sequential hanswer

section Lookalikes

/-- A feature and an outline whose names look like parts of a qualified name. The feature raises a collision of
its own. -/
def lookalikes : List Command :=
  [.scope 0 true (.usual .feature "Shop [feature-1] > Outline: Buy")
    [.scope 1 false (.usual .outline "Buy <count>#1]") [] none]
    (some (.duplicateId "feature-1"))]

def lookalikesFeature : Gherkin.Source.Feature where
  keyword := "Feature"
  name := "Shop [feature-1] > Outline: Buy"
  description := none
  tags := []
  background := none
  scenarios := [
    { keyword := "Outline", name := "Buy <count>#1]", tags := [], steps := [], line := 2
      examples := [
        { keyword := "Examples", name := "", tags := [], line := 3, table := [["count"], ["2"]] },
        { keyword := "Examples", name := "", tags := [], line := 6, table := [["count"], ["2"]] }] }]
  rules := []

def lookalikesDocument : Gherkin.Document :=
  match Gherkin.Document.ofSource lookalikesFeature none with
  | .ok d => d
  | .error _ => default

theorem lookalikes_unambiguous :
    Gherkin.Document.ofSource lookalikesFeature none = .ok lookalikesDocument ∧
      (∀ place ∈ lookalikesFeature.places, (place.2.examples.map (·.line)).Nodup) ∧
      (((Plan.ofDocument 5 lookalikesDocument (.ofProgram lookalikes)).outcome {}).1.toOption.map
        fun plan => plan.executions.map (·.qualifiedName)) = some
          ["Feature: Shop [feature-1] > Outline: Buy [feature-1] > Outline: Buy 2#1] [scenarioOutline-1#1]",
            "Feature: Shop [feature-1] > Outline: Buy [feature-1] > Outline: Buy 2#1] [scenarioOutline-1#2]"] ∧
      (∀ (limit : Nat) (μ : Matchers) (cause : IdentityError),
        ((Plan.ofDocument limit lookalikesDocument (.ofProgram lookalikes)).outcome μ).1 ≠
          .error (.identity cause)) ∧
      (Command.runAll lookalikes (.start .sequential)).1.Reports (.duplicateId "feature-1") ∧
      ∀ id, (Command.runAll lookalikes (.start .sequential)).1.Reports (.duplicateId id) →
        id = "feature-1" := by
  have hd : Gherkin.Document.ofSource lookalikesFeature none = .ok lookalikesDocument := by decide +kernel
  have hlines : ∀ place ∈ lookalikesFeature.places, (place.2.examples.map (·.line)).Nodup := by
    decide +kernel
  have hraised : Command.raisedAll lookalikes = [.duplicateId "feature-1"] := rfl
  obtain ⟨-, hreports, b, hb, hplan⟩ := Command.sequential_unambiguous lookalikes
  obtain rfl := Except.ok.inj (hb.symm.trans (Blueprint.finish_ofProgram lookalikes))
  refine ⟨hd, hlines, by decide +kernel, hplan lookalikesFeature none lookalikesDocument hd hlines, ?_,
    fun id hid => ?_⟩
  · exact ⟨0, List.mem_of_getElem? (i := 3) rfl⟩
  · have hmem := hreports id hid
    rw [hraised, List.mem_singleton] at hmem
    exact ScopeError.duplicateId.inj hmem

end Lookalikes

end FeaturePlan
