import FeaturePlan.Pattern.Basic
import FeaturePlan.Proofs.Lists

/-!
What is shown of a broken pattern. Readers only ever drop characters, so whatever one of them leaves over, shows
of a fault or takes for a name is made of characters that it was given.
-/
namespace FeaturePlan

namespace Phrase

variable {x : Char} {α β : Type}

/-- A reader comes to a value with a property, or shows a fault without the given character. -/
def Spares (x : Char) (Q : α → Prop) : Except Failure α → Prop
  | .ok a => Q a
  | .error f => x ∉ f.shown

theorem Spares.mono {Q Q' : α → Prop} {read : Except Failure α} (h : Spares x Q read)
    (hQ : ∀ a, Q a → Q' a) : Spares x Q' read := by
  cases read with
  | error f => exact h
  | ok a => exact hQ a h

theorem Spares.bind {Q : α → Prop} {Q' : β → Prop} {read : Except Failure α} {f : α → Except Failure β}
    (h : Spares x Q read) (hf : ∀ a, Q a → Spares x Q' (f a)) : Spares x Q' (read >>= f) := by
  cases read with
  | error f => exact h
  | ok a => exact hf a h

theorem Spares.map {Q : β → Prop} {read : Except Failure α} {f : α → β}
    (h : Spares x (fun a => Q (f a)) read) : Spares x Q (read.map f) := by
  cases read with
  | error f => exact h
  | ok a => exact h

theorem not_mem_readPart {text : List Char} (h : x ∉ text) (rest : List Char) : x ∉ readPart text rest :=
  mt List.mem_of_mem_take h

theorem not_mem_head {c : Char} {cs : List Char} (h : x ∉ c :: cs) : x ∉ [c] :=
  fun hx => h (List.mem_cons.2 (.inl (List.mem_singleton.1 hx)))

theorem run_spares {plain : Char → Bool} {start text : List Char} (hstart : x ∉ start) (h : x ∉ text) :
    Spares x (fun read => x ∉ read.2) (run plain start text) := by
  fun_induction run plain start text with
  | case1 => exact h
  | case2 =>
    split
    · exact hstart
    · exact mt List.mem_of_mem_take hstart
  | case3 d cs hreserved ih => exact .map (ih (by simp_all))
  | case4 d cs hreserved => simpa [Spares] using (by simp_all : x ≠ '\\' ∧ x ≠ d)
  | case5 c cs _ _ hplain ih => exact .map (ih (by simp_all))
  | case6 c cs => exact h

theorem runAt_spares {plain : Char → Bool} {text : List Char} (h : x ∉ text) :
    Spares x (fun read => x ∉ read.2) (runAt plain text) :=
  run_spares h h

/-- What is shown stands at the opening character, or where the run behind it ended. -/
theorem readOptional_spares (fuel : Nat) {text : List Char} (h : x ∉ text) :
    Spares x (fun read => x ∉ read.2) (readOptional fuel text) := by
  unfold readOptional
  split
  · next body =>
    obtain ⟨hopening, hbody⟩ := not_or.1 (mt List.mem_cons.2 h)
    refine (runAt_spares hbody).bind fun ⟨chars, rest⟩ hrest => ?_
    dsimp only at hrest ⊢
    split
    · obtain ⟨hclosing, hrest⟩ := not_or.1 (mt List.mem_cons.2 hrest)
      split
      · simp [Spares, hopening, hclosing]
      · exact hrest
    · split
      · split
        · exact not_mem_readPart hrest _
        · exact not_mem_head hrest
      · exact not_mem_head hrest
    · split
      · exact not_mem_readPart hrest _
      · exact not_mem_head hrest
    · exact not_mem_head hrest
    · exact not_mem_head hrest
    · exact not_mem_head h
  · exact mt List.mem_of_mem_take h

theorem readParameter_spares (fuel : Nat) {text : List Char} (h : x ∉ text) :
    Spares x (fun read => x ∉ read.1.toList ∧ x ∉ read.2) (readParameter fuel text) := by
  unfold readParameter
  split
  · next body =>
    obtain ⟨hopening, hbody⟩ := not_or.1 (mt List.mem_cons.2 h)
    refine (runAt_spares hbody).bind fun ⟨chars, rest⟩ hrest => ?_
    dsimp only at hrest ⊢
    split
    · refine ⟨?_, mt (List.mem_cons_of_mem _) hrest⟩
      rw [String.toList_ofList]
      exact not_mem_readPart hbody _
    · split
      · split
        · exact not_mem_readPart hrest _
        · exact not_mem_head hrest
      · exact not_mem_head hrest
    · split
      · exact not_mem_readPart hrest _
      · exact not_mem_head hrest
    · exact not_mem_head hrest
    · exact not_mem_head h
  · exact mt List.mem_of_mem_take h

theorem readParts_spares (fuel : Nat) {text : List Char} (h : x ∉ text) :
    Spares x (fun read => x ∉ read.2) (readParts fuel text) := by
  induction fuel generalizing text with
  | zero => exact h
  | succ fuel ih =>
    unfold readParts
    split
    · refine (readOptional_spares text.length h).bind fun ⟨chars, rest⟩ hrest => ?_
      exact (ih hrest).bind fun ⟨parts, rest⟩ hrest => hrest
    · refine (runAt_spares h).bind fun ⟨chars, rest⟩ hrest => ?_
      dsimp only at hrest ⊢
      split
      · exact h
      · exact (ih hrest).bind fun ⟨parts, rest⟩ hrest => hrest

theorem readAlternatives_spares (fuel : Nat) {text : List Char} (h : x ∉ text) :
    Spares x (fun read => x ∉ read.2) (readAlternatives fuel text) := by
  induction fuel generalizing text with
  | zero => exact h
  | succ fuel ih =>
    unfold readAlternatives
    refine (readParts_spares text.length h).bind fun ⟨parts, rest⟩ hrest => ?_
    dsimp only at hrest ⊢
    split
    · exact h
    · split
      · next after =>
        refine (ih (mt (List.mem_cons_of_mem _) hrest)).bind fun ⟨others, left⟩ hleft => ?_
        dsimp only at hleft ⊢
        split
        · exact hrest
        · exact hleft
      · exact hrest

theorem readAlternation?_spares {text : List Char} (h : x ∉ text) :
    Spares x (fun read => ∀ r ∈ read, x ∉ r.2) (readAlternation? text) := by
  unfold readAlternation?
  refine (readAlternatives_spares text.length h).bind fun ⟨alternatives, rest⟩ hrest => ?_
  dsimp only at hrest ⊢
  split
  · next hslash =>
    obtain ⟨cs, rfl⟩ := List.head?_eq_some_iff.1 hslash
    exact not_mem_head hrest
  · split
    · exact fun r hr => nomatch hr
    · split
      · exact not_mem_readPart h _
      · rintro r ⟨⟩
        exact hrest

theorem readItem_spares {text : List Char} (h : x ∉ text) :
    Spares x (fun read => (∀ name, read.1 = .parameter name → x ∉ name.toList) ∧ x ∉ read.2)
      (readItem text) := by
  unfold readItem
  refine (readAlternation?_spares h).bind fun found hfound => ?_
  split
  · exact ⟨nofun, hfound _ rfl⟩
  · split
    · exact .map ((readOptional_spares text.length h).mono fun read hrest => ⟨nofun, hrest⟩)
    · refine .map ((readParameter_spares text.length h).mono fun read hread => ⟨?_, hread.2⟩)
      rintro name ⟨⟩
      exact hread.1
    · exact ⟨nofun, mt (fun hx => (List.dropWhile_suffix _).subset hx) h⟩
    · exact .map ((runAt_spares h).mono fun read hrest => ⟨nofun, hrest⟩)

theorem readItems_spares (fuel : Nat) {text : List Char} (h : x ∉ text) :
    Spares x (fun items => ∀ name, .parameter name ∈ items → x ∉ name.toList) (readItems fuel text) := by
  induction fuel generalizing text with
  | zero =>
    cases text with
    | nil => exact fun name hname => nomatch hname
    | cons => exact fun name hname => nomatch hname
  | succ fuel ih =>
    cases text with
    | nil => exact fun name hname => nomatch hname
    | cons c cs =>
      refine (readItem_spares h).bind fun ⟨item, rest⟩ hread => ?_
      refine (ih hread.2).bind fun items hitems name hname => ?_
      rcases List.mem_cons.1 hname with hname | hname
      · exact hread.1 name hname.symm
      · exact hitems name hname

end Phrase

/-- What a message quotes of a pattern: the part that shows the fault, or the name of a parameter. Where an
expression is refused the message leaves it to others what to quote. -/
def PatternFault.quoted : PatternFault → List Char
  | .brokenPhrase failure => failure.shown
  | .unknownParameter name => name.toList
  | .brokenExpansion .. => []
  | .brokenRegex _ => []

theorem Phrase.Item.eq_parameter_of_expand {params : Parameters} {item : Item} {fault : PatternFault}
    (h : item.expand params = .error fault) : ∃ name, item = .parameter name ∧ fault = .unknownParameter name := by
  cases item with
  | parameter name =>
    rw [expand] at h
    split at h <;> cases h
    exact ⟨name, rfl, rfl⟩
  | alternation alternatives => cases h
  | optional chars => cases h
  | text chars => cases h
  | spaces count => cases h

theorem Phrase.quoted_subset_of_compile {source : String} {params : Parameters} {fault : PatternFault}
    (h : compile source params = .error fault) : fault.quoted ⊆ source.toList := by
  intro x hx
  by_contra hsource
  have hread : Spares x (fun items => ∀ name, .parameter name ∈ items → x ∉ name.toList) (read source) :=
    readItems_spares source.length hsource
  rcases except_bind_eq_error h with h | ⟨items, hitems, h⟩
  · cases hfailure : read source with
    | error failure =>
      rw [hfailure] at h hread
      cases h
      exact hread hx
    | ok items =>
      rw [hfailure] at h
      cases h
  rw [except_mapError_eq_ok hitems] at hread
  rcases except_bind_eq_error h with h | ⟨pieces, -, h⟩
  · obtain ⟨before, item, after, rfl, -, hexpand⟩ := exists_of_mapM_eq_error h
    obtain ⟨name, rfl, rfl⟩ := Item.eq_parameter_of_expand hexpand
    exact hread name (by simp) hx
  · split at h <;> cases h
    cases hx

theorem Pattern.quoted_subset_of_compile {p : Pattern} {params : Parameters} {fault : PatternFault}
    (h : p.compile params = .error fault) : fault.quoted ⊆ p.source.toList := by
  cases p with
  | phrase source => exact Phrase.quoted_subset_of_compile h
  | regex source expression => cases h

end FeaturePlan
