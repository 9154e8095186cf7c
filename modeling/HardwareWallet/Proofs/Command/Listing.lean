import HardwareWallet.Command.Enumerate
import HardwareWallet.Proofs.Command.Outcome
import HardwareWallet.Proofs.Link.Outcome

namespace HardwareWallet

open Attempt

theorem Report.exists_ofError {e : Error} (h : e.IsTold) (preface : Option String) (code : Int) (r : Report) :
    ∃ text code', Report.ofError preface code e r = .ok (r.putError preface text (.int code')) := by
  obtain ⟨hn, text, ht⟩ := h
  refine ⟨text, e.code.getD code, ?_⟩
  unfold ofError
  split
  · exact absurd rfl hn
  · rename_i s hs
    rw [Value.text.inj (hs.symm.trans ht)]
  · rename_i hs
    exact absurd ht (hs text)

theorem Client.exists_describe {τ : Type} [Transport τ] {P : τ → Prop} {timeout : Timeout}
    (hτ : Transport.Answers τ P Error.IsTold Message.IsTold timeout) {c : Client τ}
    (hc : c.Sound P Message.IsTold timeout) (r : Report) : ∃ report, (describe r c).1 = .ok report := by
  unfold describe
  split
  · exact ⟨r, rfl⟩
  · dsimp only
    split
    · have hf := ends_masterFingerprint hτ admits_told c hc
      split
      · exact ⟨_, rfl⟩
      · rename_i e c' he
        rw [he] at hf
        obtain ⟨text, code, h⟩ := Report.exists_ofError hf.2 _ _ _
        exact ⟨_, h⟩
    · exact ⟨_, rfl⟩

namespace AnyLink

theorem sound_listAll (bus : Bus) : ∀ p ∈ (listAll bus).1, p.Sound := by
  refine List.foldlRecOn (motive := fun found : List AnyLink × List Notice => ∀ p ∈ found.1, p.Sound)
    LinkKind.all _ (List.forall_mem_nil _) fun (links, notices) h kind _ => ?_
  dsimp only
  split
  · rename_i found hf
    exact List.forall_mem_append.mpr ⟨h, sound_of_list hf⟩
  · exact h

theorem exists_report {p : AnyLink} (hp : p.Sound) (chain : Chain) : ∃ report, (describe chain p).1 = .ok report := by
  have ho := Client.ends_opened (answers_told .standard) admits_told _
    (Client.sound_create hp (.text p.path) chain (.int 64) .standard)
  unfold describe
  dsimp only
  split
  · rename_i c hc
    rw [hc] at ho
    exact Client.exists_describe (answers_told .standard) ho.1 p.entry
  · rename_i e c he
    rw [he] at ho
    obtain ⟨text, code, h⟩ := Report.exists_ofError ho.2 _ _ _
    exact ⟨_, h⟩

theorem length_enumerate (bus : Bus) (allowEmulated : Bool) (chain : Chain) :
    (enumerate bus allowEmulated chain).1.length =
      ((listAll bus).1.filter fun p => allowEmulated || !p.isEmulated).length := by
  unfold enumerate
  dsimp only
  rw [List.filterMap_map, List.length_filterMap_eq_countP, List.countP_eq_length]
  intro p hp
  obtain ⟨report, hr⟩ := exists_report (sound_listAll bus p (List.mem_filter.mp hp).1) chain
  simp [hr, Except.toOption]

end AnyLink

end HardwareWallet
