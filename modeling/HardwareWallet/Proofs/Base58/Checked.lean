import HardwareWallet.Proofs.Base58.Bijection

namespace HardwareWallet.Base58

variable {text : String} {payload data : Bytes} {fault : Base58Fault}

theorem length_checksum (payload : Bytes) : (checksum payload).length = 4 := by
  rw [checksum, List.length_take, length_hash256]
  rfl

theorem decodeCheck_of_decode (h : decode text = .ok data) :
    decodeCheck text =
      let payload := data.take (data.length - 4)
      if checksum payload = data.drop (data.length - 4) then .ok payload else .error .checksum := by
  rw [decodeCheck, h]
  rfl

theorem decodeCheck_encodeCheck (payload : Bytes) : decodeCheck (encodeCheck payload) = .ok payload := by
  have hl : (payload ++ checksum payload).length - 4 = payload.length := by
    rw [List.length_append, length_checksum, Nat.add_sub_cancel]
  rw [encodeCheck, decodeCheck_of_decode (decode_encode (payload ++ checksum payload)), hl, List.take_left,
    List.drop_left]
  exact if_pos rfl

theorem eq_encodeCheck_of_decodeCheck (h : decodeCheck text = .ok payload) : text = encodeCheck payload := by
  obtain ⟨data, hd, -⟩ := exists_of_bind_eq_ok h
  rw [decodeCheck_of_decode hd] at h
  dsimp only at h
  split at h
  · rename_i hc
    obtain rfl := Except.ok.inj h
    rw [encodeCheck, hc, List.take_append_drop]
    exact decode_eq_ok_iff.mp hd
  · cases h

theorem decodeCheck_eq_ok_iff : decodeCheck text = .ok payload ↔ text = encodeCheck payload := by
  constructor
  · exact eq_encodeCheck_of_decodeCheck
  · rintro rfl
    exact decodeCheck_encodeCheck payload

theorem decodeCheck_checksum_iff (h : decodeCheck text = .error fault) :
    fault = .checksum ↔ ∀ c ∈ text.toList, c ∈ alphabet := by
  cases hd : decode text with
  | ok data =>
    rw [decodeCheck_of_decode hd] at h
    dsimp only at h
    split at h
    · cases h
    · exact iff_of_true (Except.error.inj h).symm (mem_alphabet_of_decode hd)
  | error fault' =>
    rw [decodeCheck, hd] at h
    obtain rfl : fault' = fault := Except.error.inj h
    obtain ⟨c, -, rfl⟩ := decode_eq_error_iff.mp hd
    obtain ⟨c', hc', hn⟩ := exists_fault_iff.mp ⟨_, hd⟩
    exact iff_of_false nofun fun ha => hn (ha c' hc')

/-- A text is read as a payload just if it is the text that is written for it. Any other text is refused, for its check sum
    if it is spelled with digits, and no second text is read as the same payload. -/
theorem accepted_iff_written (text : String) (payload : Bytes) :
    (decodeCheck text = .ok payload ↔ text = encodeCheck payload) ∧
      ((∀ payload, text ≠ encodeCheck payload) →
        ∃ fault, decodeCheck text = .error fault ∧ (fault = .checksum ↔ ∀ c ∈ text.toList, c ∈ alphabet)) ∧
      ∀ other, decodeCheck text = .ok payload → decodeCheck other = .ok payload → other = text := by
  refine ⟨decodeCheck_eq_ok_iff, fun hn => ?_, fun other h h' => ?_⟩
  · cases hd : decodeCheck text with
    | ok payload => exact absurd (decodeCheck_eq_ok_iff.mp hd) (hn payload)
    | error fault => exact ⟨fault, rfl, decodeCheck_checksum_iff hd⟩
  · rw [decodeCheck_eq_ok_iff.mp h, decodeCheck_eq_ok_iff.mp h']

theorem emptyPayload_written :
    decodeCheck "3QJmnh" = .ok [] ∧ (∀ payload, "" ≠ encodeCheck payload) ∧
      (∃ fault, decodeCheck "" = .error fault ∧ (fault = .checksum ↔ ∀ c ∈ "".toList, c ∈ alphabet)) ∧
      ∀ other, decodeCheck other = .ok [] → other = "3QJmnh" := by
  have hw : "3QJmnh" = encodeCheck [] := by decide +kernel
  have he : decodeCheck "" = .error .checksum := by decide +kernel
  have hn : ∀ payload, "" ≠ encodeCheck payload := by
    intro payload h
    rw [decodeCheck_eq_ok_iff.mpr h] at he
    cases he
  obtain ⟨hp, -, hu⟩ := accepted_iff_written "3QJmnh" []
  exact ⟨hp.mpr hw, hn, (accepted_iff_written "" []).2.1 hn, fun other => hu other (hp.mpr hw)⟩

end HardwareWallet.Base58
