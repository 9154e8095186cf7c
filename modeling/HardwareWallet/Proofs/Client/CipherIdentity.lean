import HardwareWallet.ExtendedKey.Cipher
import HardwareWallet.Proofs.Client.Readiness
import HardwareWallet.Proofs.Client.Written
import HardwareWallet.Proofs.Path.CipherKey

namespace HardwareWallet

namespace ExtendedKey

variable {r r' : CipherRequest}

def cipherMarks (r : CipherRequest) : Bytes :=
  [0x45, if r.askOnEncrypt.isGiven then 0x31 else 0x30, 0x44, if r.askOnDecrypt.isGiven then 0x31 else 0x30]

theorem cipherIdentity_eq (r : CipherRequest) : cipherIdentity r = r.key ++ cipherMarks r := by
  have hE : ∀ b : Bool, Bytes.ofText (if b then "E1" else "E0") = [0x45, if b then 0x31 else 0x30] := by decide +kernel
  have hD : ∀ b : Bool, Bytes.ofText (if b then "D1" else "D0") = [0x44, if b then 0x31 else 0x30] := by decide +kernel
  rw [cipherIdentity, hE, hD, List.append_assoc]
  rfl

theorem cipherMarks_eq_iff : cipherMarks r = cipherMarks r' ↔
    r.askOnEncrypt.isGiven = r'.askOnEncrypt.isGiven ∧ r.askOnDecrypt.isGiven = r'.askOnDecrypt.isGiven := by
  have hb : ∀ b b' : Bool, (if b then 0x31 else 0x30 : UInt8) = (if b' then 0x31 else 0x30) ↔ b = b' := by decide
  simp only [cipherMarks, List.cons.injEq, hb, true_and, and_true]

theorem cipherIdentity_eq_iff : cipherIdentity r = cipherIdentity r' ↔ r.key = r'.key ∧
    r.askOnEncrypt.isGiven = r'.askOnEncrypt.isGiven ∧ r.askOnDecrypt.isGiven = r'.askOnDecrypt.isGiven := by
  rw [cipherIdentity_eq, cipherIdentity_eq, ← cipherMarks_eq_iff]
  constructor
  · intro h
    -- there are four marks in each, so the label ends at one place whatever it ends in
    exact List.append_inj' h rfl
  · rintro ⟨hk, hm⟩
    rw [hk, hm]

end ExtendedKey

namespace Client

variable {τ τ' : Type} [Transport τ] [Transport τ'] {c : Client τ} {c' : Client τ'} {a a' : CipherArguments}
  {chain chain' : Chain} {r r' : CipherRequest} {s : ℤ}

structure CipherArguments.SameKey (a : CipherArguments) (chain : Chain) (a' : CipherArguments) (chain' : Chain) :
    Prop where
  coinType : chain.coinType = chain'.coinType
  keyIndex : a.keyIndex.agrees a'.keyIndex = true
  changeLevel : Path.changeLevel a.purpose = Path.changeLevel a'.purpose
  subIndex : a.subIndex.agrees a'.subIndex = true
  label : a.label = a'.label
  askOnEncrypt : a.askOnEncrypt.isGiven = a'.askOnEncrypt.isGiven
  askOnDecrypt : a.askOnDecrypt.isGiven = a'.askOnDecrypt.isGiven

theorem CipherArguments.request_of_proper {label value : Bytes} {purpose : KeyPurpose} (hl : a.label = .proper label)
    (hv : a.value = .proper value) (hp : a.purpose = .proper purpose) (chain : Chain) :
    a.request chain = Path.ofCipherKey a.keyIndex (.proper purpose) a.subIndex chain >>= fun address =>
      .ok ⟨address, label, value, a.encrypt, a.askOnEncrypt, a.askOnDecrypt, []⟩ := by
  rw [CipherArguments.request, hl, hv, hp]
  rfl

theorem CipherArguments.exists_proper_of_request (h : a.request chain = .ok r) :
    ∃ label value purpose, a.label = .proper label ∧ a.value = .proper value ∧ a.purpose = .proper purpose := by
  rw [CipherArguments.request] at h
  split at h
  · exact ⟨_, _, _, ‹_›, ‹_›, ‹_›⟩
  all_goals cases h

theorem CipherArguments.request_eq_ok_iff : a.request chain = .ok r ↔
    ∃ label value purpose k n, a.label = .proper label ∧ a.value = .proper value ∧ a.purpose = .proper purpose ∧
      a.keyIndex.int? = some k ∧ a.subIndex.number? = some n ∧ Path.IsIndex k ∧ Path.IsBounded n ∧
      r = ⟨Path.cipherKey chain k purpose a.subIndex, label, value, a.encrypt, a.askOnEncrypt, a.askOnDecrypt, []⟩ := by
  constructor
  · intro h
    obtain ⟨label, value, purpose, hl, hv, hp⟩ := exists_proper_of_request h
    rw [request_of_proper hl hv hp] at h
    obtain ⟨address, ha, hr⟩ := exists_of_bind_eq_ok h
    obtain ⟨k, n, hk, hn, hi, hb, rfl⟩ := Path.ofCipherKey_eq_ok_iff.mp ha
    exact ⟨label, value, purpose, k, n, hl, hv, hp, hk, hn, hi, hb, (Except.ok.inj hr).symm⟩
  · rintro ⟨label, value, purpose, k, n, hl, hv, hp, hk, hn, hi, hb, rfl⟩
    rw [request_of_proper hl hv hp, Path.ofCipherKey_eq_ok_iff.mpr ⟨k, n, hk, hn, hi, hb, rfl⟩, ok_bind]

theorem mem_written_cipher : .cipherKeyValue r ∈ c.written (.cipherKeyValue a) ↔
    c.session.connection = .connected ∧ a.request c.chain = .ok r := by
  rw [written_eq]
  split
  · rename_i hc
    rw [Option.mem_toList, Operation.request?]
    cases a.request c.chain <;> simp [hc, Except.toOption]
  · rename_i hc
    simp [hc]

theorem changeLevel_eq_iff {purpose purpose' : KeyPurpose} (hp : a.purpose = .proper purpose)
    (hp' : a'.purpose = .proper purpose') :
    Path.changeLevel a.purpose = Path.changeLevel a'.purpose ↔ purpose.changeLevel = purpose'.changeLevel := by
  rw [hp, hp', Path.changeLevel, Path.changeLevel, Except.ok.injEq, Nat.cast_inj]

theorem sameKey_iff (h : a.request chain = .ok r) (h' : a'.request chain' = .ok r') :
    Value.agreesItems r.address r'.address = true ∧ ExtendedKey.cipherIdentity r = ExtendedKey.cipherIdentity r' ↔
      a.SameKey chain a' chain' := by
  obtain ⟨label, -, purpose, k, -, hl, -, hp, hk, -, -, -, rfl⟩ := CipherArguments.request_eq_ok_iff.mp h
  obtain ⟨label', -, purpose', k', -, hl', -, hp', hk', -, -, -, rfl⟩ := CipherArguments.request_eq_ok_iff.mp h'
  have hkey := Value.agrees_iff_of_int? hk hk'
  have hlevel := changeLevel_eq_iff hp hp'
  have hlabel : a.label = a'.label ↔ label = label' := by rw [hl, hl', Argument.proper.injEq]
  rw [Path.agreesItems_cipherKey, ExtendedKey.cipherIdentity_eq_iff]
  constructor
  · rintro ⟨⟨hc, hi, hv, hs⟩, hb, he, hd⟩
    exact ⟨hc, hkey.mpr hi, hlevel.mpr hv, hs, hlabel.mpr hb, he, hd⟩
  · rintro ⟨hc, hi, hv, hs, hb, he, hd⟩
    exact ⟨⟨hc, hkey.mp hi, hlevel.mp hv, hs⟩, hlabel.mp hb, he, hd⟩

theorem exists_levels_of_request (h : a.request chain = .ok r) (hs : a.subIndex.int? = some s) :
    ∃ levels, r.address.map Value.int? = levels.map some ∧ Path.IsKeyPath levels := by
  obtain ⟨-, -, purpose, k, n, -, -, -, -, hn, hi, hb, rfl⟩ := CipherArguments.request_eq_ok_iff.mp h
  exact Path.exists_levels chain purpose hi hs (hb.isIndex hn hs)

/-- Two requests have one path and one digested text just if the calls that they were sent for agree in all that a key
    depends on. The path of a request has five levels, of which the first three are hardened. Indexes are refused just if
    one of them has more than 31 bits. -/
theorem cipher_identity_unshared (c : Client τ) (c' : Client τ') (a a' : CipherArguments) :
    (∀ r r', .cipherKeyValue r ∈ c.written (.cipherKeyValue a) →
      .cipherKeyValue r' ∈ c'.written (.cipherKeyValue a') →
      (Value.agreesItems r.address r'.address = true ∧
        ExtendedKey.cipherIdentity r = ExtendedKey.cipherIdentity r' ↔ a.SameKey c.chain a' c'.chain)) ∧
    (∀ r s, .cipherKeyValue r ∈ c.written (.cipherKeyValue a) → a.subIndex.int? = some s →
      ∃ levels, r.address.map Value.int? = levels.map some ∧ Path.IsKeyPath levels) ∧
    ∀ (keyIndex subIndex : Value) (k s : ℤ) (purpose : KeyPurpose) (chain : Chain),
      keyIndex.int? = some k → subIndex.int? = some s →
      ((∃ e, Path.ofCipherKey keyIndex (.proper purpose) subIndex chain = .error e ∧ e.kind = .badArgument) ↔
        ¬ Path.IsIndex k ∨ ¬ Path.IsIndex s) ∧
      (Path.IsIndex k → Path.IsIndex s →
        ∃ address, Path.ofCipherKey keyIndex (.proper purpose) subIndex chain = .ok address) := by
  refine ⟨fun r r' h h' => ?_, fun r s h hs => ?_, fun keyIndex subIndex k s purpose chain hk hs => ?_⟩
  · exact sameKey_iff (mem_written_cipher.mp h).2 (mem_written_cipher.mp h').2
  · exact exists_levels_of_request (mem_written_cipher.mp h).2 hs
  · refine ⟨Path.refused_iff hk hs purpose chain, fun hi his => ?_⟩
    rw [Path.ofCipherKey_of_int? hk hs]
    exact ⟨_, if_pos ⟨hi, his⟩⟩

def markedCall : CipherArguments where
  keyIndex := .int 2147483647
  purpose := .proper .change
  subIndex := .int 0
  label := .proper [0x61, 0x45, 0x31, 0x44, 0x31]
  value := .proper []

theorem markedCall_unshared :
    let test := connectedTo (.ofProfile .wiped) .test (.seconds (.whole 5)) (.int 100)
    let signet := connectedTo (.ofProfile .wiped) .signet (.seconds (.whole 5)) (.int 100)
    let authenticating := { markedCall with purpose := .proper .authentication, encrypt := .truth false }
    let shorter := { markedCall with label := .proper [0x61] }
    ∃ r r' r'', .cipherKeyValue r ∈ test.written (.cipherKeyValue markedCall) ∧
      .cipherKeyValue r' ∈ signet.written (.cipherKeyValue authenticating) ∧
      .cipherKeyValue r'' ∈ test.written (.cipherKeyValue shorter) ∧
      Value.agreesItems r.address r'.address = true ∧
      ExtendedKey.cipherIdentity r = ExtendedKey.cipherIdentity r' ∧
      ¬ (Value.agreesItems r.address r''.address = true ∧
        ExtendedKey.cipherIdentity r = ExtendedKey.cipherIdentity r'') ∧
      (∃ levels, r.address.map Value.int? = levels.map some ∧ Path.IsKeyPath levels) ∧
      ∃ e, Path.ofCipherKey (.int 2147483648) (.proper .change) (.int 0) .test = .error e ∧ e.kind = .badArgument := by
  intro test signet authenticating shorter
  obtain ⟨r, hr⟩ : ∃ r, markedCall.request .test = .ok r := ⟨_, rfl⟩
  obtain ⟨r', hr'⟩ : ∃ r, authenticating.request .signet = .ok r := ⟨_, rfl⟩
  obtain ⟨r'', hr''⟩ : ∃ r, shorter.request .test = .ok r := ⟨_, rfl⟩
  have h : .cipherKeyValue r ∈ test.written (.cipherKeyValue markedCall) := mem_written_cipher.mpr ⟨rfl, hr⟩
  have h' : .cipherKeyValue r' ∈ signet.written (.cipherKeyValue authenticating) := mem_written_cipher.mpr ⟨rfl, hr'⟩
  have h'' : .cipherKeyValue r'' ∈ test.written (.cipherKeyValue shorter) := mem_written_cipher.mpr ⟨rfl, hr''⟩
  obtain ⟨shared, levels, refused⟩ := cipher_identity_unshared test signet markedCall authenticating
  obtain ⟨unshared, -⟩ := cipher_identity_unshared test test markedCall shorter
  obtain ⟨ha, hi⟩ := (shared r r' h h').mpr ⟨rfl, by decide +kernel, rfl, by decide +kernel, rfl, rfl, rfl⟩
  refine ⟨r, r', r'', h, h', h'', ha, hi, fun hs => ?_, levels r 0 h rfl, ?_⟩
  · have hl := ((unshared r r'' h h'').mp hs).label
    cases hl
  · exact (refused (.int 2147483648) (.int 0) 2147483648 0 .change .test rfl rfl).1.mpr (.inl (by decide))

end Client

end HardwareWallet
