import Mathlib.Data.List.Induction

namespace HardwareWallet

def Since {α : Type} (event : List α → α → Prop) (rest : List α → Prop) (past : List α) : Prop :=
  ∃ before x after, past = before ++ x :: after ∧ event before x ∧ rest after

section Since

variable {α : Type} {event : List α → α → Prop} {rest : List α → Prop}

theorem not_since_nil : ¬ Since event rest [] := by
  rintro ⟨before, x, after, h, -, -⟩
  cases before <;> cases h

theorem since_concat {past : List α} {y : α} :
    Since event rest (past ++ [y]) ↔
      (event past y ∧ rest []) ∨ Since event (fun after => rest (after ++ [y])) past := by
  constructor
  · rintro ⟨before, x, after, h, hx, hr⟩
    rcases List.eq_nil_or_concat after with rfl | ⟨after, z, rfl⟩
    · obtain ⟨rfl, hy⟩ := List.append_inj' h rfl
      obtain rfl := List.singleton_inj.mp hy
      exact .inl ⟨hx, hr⟩
    · rw [List.concat_eq_append, ← List.cons_append, ← List.append_assoc] at h
      obtain ⟨rfl, hy⟩ := List.append_inj' h rfl
      obtain rfl := List.singleton_inj.mp hy
      exact .inr ⟨before, x, after, rfl, hx, by simpa using hr⟩
  · rintro (⟨hy, hr⟩ | ⟨before, x, after, rfl, hx, hr⟩)
    · exact ⟨past, y, [], rfl, hy, hr⟩
    · exact ⟨before, x, after ++ [y], by simp, hx, hr⟩

def Lasts (event : List α → α → Prop) (ends : α → Bool) (past : List α) : Prop :=
  Since event (fun after => ∀ x ∈ after, ends x = false) past

theorem not_lasts_nil {ends : α → Bool} : ¬ Lasts event ends [] :=
  not_since_nil

theorem lasts_concat {ends : α → Bool} {past : List α} {y : α} :
    Lasts event ends (past ++ [y]) ↔ event past y ∨ (ends y = false ∧ Lasts event ends past) := by
  unfold Lasts
  rw [since_concat]
  constructor
  · rintro (⟨hy, -⟩ | ⟨before, x, after, rfl, hx, hr⟩)
    · exact .inl hy
    · exact .inr ⟨hr y (by simp), before, x, after, rfl, hx, fun z hz => hr z (by simp [hz])⟩
  · rintro (hy | ⟨hn, before, x, after, rfl, hx, hr⟩)
    · exact .inl ⟨hy, by simp⟩
    · refine .inr ⟨before, x, after, rfl, hx, ?_⟩
      intro z hz
      rcases List.mem_append.mp hz with hz | hz
      · exact hr z hz
      · rwa [List.mem_singleton.mp hz]

theorem foldl_iff_lasts {σ : Type} {f : σ → α → σ} (holds : σ → Bool) {begins ends : α → Bool}
    (hf : ∀ s x, holds (f s x) = (begins x || !ends x && holds s)) {s : σ} (hs : holds s = false) (past : List α) :
    holds (past.foldl f s) = true ↔ Lasts (fun _ x => begins x = true) ends past := by
  induction past using List.reverseRecOn with
  | nil => exact iff_of_false (by simp [hs]) not_lasts_nil
  | append_singleton past x ih =>
    rw [List.foldl_append, lasts_concat, ← ih]
    simp [hf]

def Throughout (right : List α → α → Prop) (past : List α) : Prop :=
  ∀ before x after, past = before ++ x :: after → right before x

theorem throughout_nil {right : List α → α → Prop} : Throughout right [] := by
  simp [Throughout]

theorem throughout_concat {right : List α → α → Prop} {past : List α} {y : α} :
    Throughout right (past ++ [y]) ↔ Throughout right past ∧ right past y := by
  have h : ∀ past, Throughout right past ↔ ¬ Since (fun before x => ¬ right before x) (fun _ => True) past := by
    simp [Throughout, Since]
  rw [h, h, since_concat]
  simp [and_comm]

end Since

end HardwareWallet
