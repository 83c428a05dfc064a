import FeaturePlan.Proofs.Text
import FeaturePlan.Scope.Identifier
import Mathlib.Data.List.Nodup

/-!
Sources that never repeat themselves. Among them is the sequential source, whose identifiers tell what they
were requested for and the number of that request among those of its kind. A source that tells only the
kind repeats itself as soon as one kind is requested twice.
-/
namespace FeaturePlan
namespace IdSource

def answers (source : IdSource) : List IdKind → List String
  | [] => []
  | kind :: earlier => source.answer earlier kind :: source.answers earlier

/-- No identifier is handed out twice, whatever is requested. -/
def NeverRepeats (source : IdSource) : Prop := ∀ requests, (source.answers requests).Nodup

theorem NeverRepeats.answer_not_mem {source : IdSource} (h : source.NeverRepeats) (requests : List IdKind)
    (kind : IdKind) : source.answer requests kind ∉ source.answers requests :=
  (List.nodup_cons.1 (h (kind :: requests))).1

end IdSource

theorem IdKind.hyphen_not_mem_label (kind : IdKind) : '-' ∉ kind.label.toList := by
  rcases kind with ⟨_ | _ | _ | _ | _⟩ | _ | _ <;> decide

theorem IdKind.label_injective : Function.Injective IdKind.label := by
  intro kind kind' h
  rcases kind with ⟨_ | _ | _ | _ | _⟩ | _ | _ <;> rcases kind' with ⟨_ | _ | _ | _ | _⟩ | _ | _ <;>
    first | rfl | exact absurd h (by decide)

namespace IdSource

theorem toList_sequential (earlier : List IdKind) (kind : IdKind) :
    (sequential.answer earlier kind).toList =
      kind.label.toList ++ '-' :: Nat.toDigits 10 (earlier.count kind + 1) := by
  simp [sequential]

/-- The label ends at the first hyphen, and after it stands the number. -/
theorem sequential_inj {earlier earlier' : List IdKind} {kind kind' : IdKind}
    (h : sequential.answer earlier kind = sequential.answer earlier' kind') :
    kind = kind' ∧ earlier.count kind = earlier'.count kind' := by
  have hchars := congrArg String.toList h
  rw [toList_sequential, toList_sequential] at hchars
  obtain ⟨hlabels, hnumbers⟩ :=
    append_cons_inj_of_not_mem kind.hyphen_not_mem_label kind'.hyphen_not_mem_label hchars
  obtain rfl := IdKind.label_injective (String.toList_injective hlabels)
  exact ⟨rfl, Nat.succ.inj (toDigits_injective hnumbers)⟩

theorem isAlphanum_of_mem_sequential {earlier : List IdKind} {kind : IdKind} {c : Char}
    (hc : c ∈ (sequential.answer earlier kind).toList) : c.isAlphanum = true ∨ c = '-' := by
  have hlabel : kind.label.toList.all Char.isAlphanum = true := by
    rcases kind with ⟨_ | _ | _ | _ | _⟩ | _ | _ <;> rfl
  rw [toList_sequential, List.mem_append, List.mem_cons] at hc
  rcases hc with hc | hc | hc
  · exact .inl (List.all_eq_true.1 hlabel c hc)
  · exact .inr hc
  · have hdigit := Nat.isDigit_of_mem_toDigits (by decide) (by decide) hc
    exact .inl (by simp [Char.isAlphanum, hdigit])

theorem exists_of_mem_answers {source : IdSource} {requests : List IdKind} {id : String}
    (h : id ∈ source.answers requests) :
    ∃ later kind earlier, requests = later ++ kind :: earlier ∧ id = source.answer earlier kind := by
  induction requests with
  | nil => cases h
  | cons kind earlier ih =>
    rcases List.mem_cons.1 h with rfl | h
    · exact ⟨[], kind, earlier, rfl, rfl⟩
    · obtain ⟨later, kind', earlier', rfl, hid⟩ := ih h
      exact ⟨kind :: later, kind', earlier', rfl, hid⟩

theorem answers_kindOnly (requests : List IdKind) : kindOnly.answers requests = requests.map IdKind.label := by
  induction requests with
  | nil => rfl
  | cons kind earlier ih => rw [answers, ih, kindOnly, List.map_cons]

/-- Told by what it is requested for, an identifier is handed out again with the next request of its kind. -/
theorem nodup_answers_kindOnly_iff {requests : List IdKind} :
    (kindOnly.answers requests).Nodup ↔ requests.Nodup := by
  rw [answers_kindOnly, List.nodup_map_iff IdKind.label_injective]

theorem sequential_neverRepeats : sequential.NeverRepeats := by
  intro requests
  induction requests with
  | nil => exact .nil
  | cons kind requests ih =>
    refine List.nodup_cons.2 ⟨fun hmem => ?_, ih⟩
    obtain ⟨later, kind', earlier, rfl, hid⟩ := exists_of_mem_answers hmem
    obtain ⟨rfl, hcount⟩ := sequential_inj hid
    -- The earlier request is counted by the later one.
    rw [List.count_append, List.count_cons_self] at hcount
    omega

end IdSource
end FeaturePlan
