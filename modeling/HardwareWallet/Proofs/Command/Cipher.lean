import HardwareWallet.Proofs.Command.PublicKey
import HardwareWallet.Proofs.Command.SetUp
import HardwareWallet.Proofs.ExtendedKey.Cipher
import HardwareWallet.Proofs.Path.CipherKey

namespace HardwareWallet

open Attempt

structure CipherCall where
  keyIndex : Value
  subIndex : Value
  label : String
  digits : String
  purpose : KeyPurpose
  encrypt : Value
  key : ℤ
  sub : ℤ
  data : Bytes
  keyIndex_eq : keyIndex.int? = some key
  key_inRange : 0 ≤ key ∧ key < 2 ^ 31
  subIndex_eq : subIndex.int? = some sub
  sub_inRange : 0 ≤ sub ∧ sub < 2 ^ 31
  digits_eq : Bytes.ofHex? digits = some data
  wholeBlocks : data.length % 16 = 0

namespace CipherCall

variable (call : CipherCall)

def path (chain : Chain) : Path :=
  [.int (2 ^ 31 + 44), .int (2 ^ 31 + chain.coinType), .int (2 ^ 31 + call.key), .int call.purpose.changeLevel,
    call.subIndex]

def request (chain : Chain) : CipherRequest where
  address := call.path chain
  key := Bytes.ofText call.label
  value := call.data
  encrypt := call.encrypt

def arguments : Client.CipherArguments where
  keyIndex := call.keyIndex
  purpose := .proper call.purpose
  subIndex := call.subIndex
  label := .proper (Bytes.ofText call.label)
  value := .proper call.data
  encrypt := call.encrypt

def perform (pin : Value) : Attempt (Client EmulatedLink) Report :=
  Client.cipherKey call.keyIndex call.subIndex (.text call.label) (.text call.digits) (.proper call.purpose)
    call.encrypt pin

theorem ofCipherKey_eq (chain : Chain) :
    Path.ofCipherKey call.keyIndex (.proper call.purpose) call.subIndex chain = .ok (call.path chain) := by
  rw [Path.ofCipherKey_of_int? call.keyIndex_eq call.subIndex_eq, if_pos ⟨call.key_inRange, call.sub_inRange⟩]
  rfl

theorem request_eq (chain : Chain) : call.arguments.request chain = .ok (call.request chain) := by
  have hp : call.arguments.request chain =
      Path.ofCipherKey call.keyIndex (.proper call.purpose) call.subIndex chain >>= fun address =>
        .ok { call.request chain with address := address } := rfl
  rw [hp, call.ofCipherKey_eq, ok_bind]
  rfl

end CipherCall

namespace Device

variable {d : Device} {seed out : Bytes} {master node : ExtendedKey} {r : CipherRequest} {pin : Value}

theorem answer_cipher_unlocked (hs : d.seed = some seed) (hu : d.unlocked = true) (hl : r.value.length % 16 = 0)
    (hn : ExtendedKey.ofPath seed false r.address = .ok node) (ho : node.cipher r = .ok out) :
    d.answer (.cipherKeyValue r) = .ok (.cipheredKeyValue out, d) := by
  obtain ⟨master, hd, hn⟩ := exists_master hs hn
  have hu' : ¬ (!d.unlocked) = true := by rw [hu]; decide
  have hl' : ¬ r.value.length % 16 > 0 := by omega
  rw [answer, cipherKeyValue, hd]
  dsimp only
  rw [ok_bind, if_neg hu', if_neg hl', hn, ok_bind, ho]
  rfl

theorem answer_cipher_locked (hs : d.seed = some seed) (hu : d.unlocked = false)
    (hn : ExtendedKey.ofPath seed false r.address = .ok node) :
    d.answer (.cipherKeyValue r) = .ok (.pinMatrixRequest (some .current), d) := by
  obtain ⟨master, hd, -⟩ := exists_master hs hn
  have hu' : (!d.unlocked) = true := by rw [hu]; rfl
  rw [answer, cipherKeyValue, hd]
  dsimp only
  rw [ok_bind, if_pos hu']
  rfl

theorem pinMatrixAck_first (ha : pin.agrees d.pin = true) (hp : d.phase = none) (hn : d.pinAcks = 0) :
    d.pinMatrixAck pin = (confirmation .protectCall "", { d with pinAcks := 1, unlocked := true }) := by
  simp only [pinMatrixAck, ha, hp, hn, Bool.not_true, Bool.false_eq_true, if_false, Nat.zero_add, if_true]

end Device

namespace Client

variable {c : Client EmulatedLink} {call : CipherCall} {d : Device} {reply : Message} {kind : EventKind} {out : Bytes}
  {pin : String} {c' : Client EmulatedLink}

theorem perform_eq (call : CipherCall) (pin : Value) :
    call.perform pin = cipherWith (cipherKeyValue call.arguments) pin := by
  have hv : valueBytes (.text call.digits) = .ok call.data := by rw [valueBytes, call.digits_eq]
  rw [CipherCall.perform, cipherKey, hv]
  rfl

theorem Ready.exchange_cipher (h : c.Ready)
    (ha : c.device.answer (.cipherKeyValue (call.request c.chain)) = .ok (reply, d))
    (hk : EventKind.ofReply? reply = some kind) (expected : List EventKind) :
    ∃ reset c', Client.exchange (cipherKeyValue call.arguments) expected c =
        (Event.replyOf [⟨kind, some reply⟩] false expected, c') ∧
      c.Answered (.cipherKeyValue (call.request c.chain)) reply d reset c' := by
  have hm : Message.HasStrength (.cipherKeyValue (call.request c.chain)) := nofun
  obtain ⟨reset, notices, hr⟩ := ResetProgress.exists_observe hm c.progress.reset reply
  have ho (channel : Channel) : cipherKeyValue call.arguments (c.withChannel channel) =
      Client.request (.cipherKeyValue (call.request c.chain)) (c.withChannel channel) := by
    have hq : Attempt.ofExcept (call.arguments.request c.chain) (c.withChannel channel) =
        (.ok (call.request c.chain), c.withChannel channel) := by
      rw [call.request_eq]
      rfl
    rw [cipherKeyValue, get_bind]
    exact bind_of_ok _ hq
  exact ⟨reset, h.exchange rfl ho ha hk hr expected⟩

theorem Ready.cipher_unlocked (h : c.Ready)
    (ha : c.device.answer (.cipherKeyValue (call.request c.chain)) = .ok (.cipheredKeyValue out, c.device))
    (pin : Value) : ∃ c', call.perform pin c = (.ok [("value", .hex out)], c') ∧ c'.device = c.device := by
  obtain ⟨reset, c', hx, hc⟩ := h.exchange_cipher ha rfl [.cipheredKeyValue, .pinMatrixRequest]
  refine ⟨c', ?_, hc.device⟩
  rw [perform_eq]
  unfold cipherWith
  rw [bind_of_ok _ hx]
  rfl

structure Asked (c c' : Client EmulatedLink) : Prop where
  ready : c'.Ready
  device : c'.device = c.device
  chain : c'.chain = c.chain
  allows : c'.progress.authentication.allowsAttempt = true

theorem Ready.cipher_locked (h : c.Ready) (hp : c.progress.authentication.allowsAttempt = true)
    (ha : c.device.answer (.cipherKeyValue (call.request c.chain)) = .ok (.pinMatrixRequest (some .current), c.device)) :
    ∃ c', c.Asked c' ∧ call.perform .null c = (.error .locked, c') ∧
      ∀ pin, call.perform (.text pin) c = askAgain (cipherKeyValue call.arguments) (.text pin) c' := by
  obtain ⟨reset, c', hx, hc⟩ := h.exchange_cipher ha rfl [.cipheredKeyValue, .pinMatrixRequest]
  have ha' : c'.progress.authentication.allowsAttempt = true := by
    rw [hc.authentication]
    exact hp
  refine ⟨c', ⟨hc.ready, hc.device, hc.chain, ha'⟩, ?_, fun pin => ?_⟩
  all_goals
    rw [perform_eq]
    unfold cipherWith
    rw [bind_of_ok _ hx]
    rfl

theorem Asked.pinAccepted (h : c.Asked c') (hd : c.device.pin = .text pin) (hp : c.device.phase = none)
    (hn : c.device.pinAcks = 0) : ∃ e c₂,
      Client.exchange (Client.pinMatrixAck (.text pin)) [.buttonRequest, .success] c' = (.ok e, c₂) ∧
      c₂.Ready ∧ c₂.device = { c.device with pinAcks := 1, unlocked := true } ∧ c₂.chain = c.chain ∧
      c₂.progress.authentication.unlocked = .truth true := by
  have hpin : Value.agrees (.text pin) c.device.pin = true := Value.agrees_text_iff.mpr hd
  have hansw : c'.device.answer (.pinMatrixAck (.text pin)) =
      .ok (Device.confirmation .protectCall "", { c.device with pinAcks := 1, unlocked := true }) := by
    rw [h.device]
    exact congrArg Except.ok (Device.pinMatrixAck_first hpin hp hn)
  have hm : Message.HasStrength (.pinMatrixAck (.text pin)) := nofun
  obtain ⟨reset, notices, hr⟩ := ResetProgress.exists_observe hm c'.progress.reset
    (Device.confirmation .protectCall "")
  obtain ⟨c₂, hx, hc⟩ := h.ready.exchange_pin h.allows hansw rfl rfl hr [.buttonRequest, .success]
  exact ⟨_, c₂, hx, hc.ready, hc.device, hc.chain.trans h.chain, by rw [hc.authentication]; rfl⟩

theorem Ready.cipher_asked_again (h : c.Ready)
    (ha : c.device.answer (.cipherKeyValue (call.request c.chain)) = .ok (.cipheredKeyValue out, c.device)) :
    ∃ e c', Client.exchange (cipherKeyValue call.arguments) [.cipheredKeyValue] c = (.ok e, c') ∧
      reportValue e c' = (.ok [("value", .hex out)], c') ∧ c'.device = c.device ∧
      c'.progress.authentication = c.progress.authentication ∧ c'.progress.pending = none := by
  obtain ⟨reset, c', hx, hc⟩ := h.exchange_cipher ha rfl [.cipheredKeyValue]
  exact ⟨_, c', hx, rfl, hc.device, hc.authentication, hc.pending⟩

structure CanCipher (c : Client EmulatedLink) (call : CipherCall) (node : ExtendedKey) : Prop where
  connected : c.session.connection = .connected
  plugged : c.device.plugged = true
  awake : c.device.stalled = false
  allows : c.progress.authentication.allowsAttempt = true
  bound : c.progress.authentication.policy.limit.isWritable = true
  derived : ∃ seed, c.device.seed = some seed ∧ ExtendedKey.ofPath seed false (call.path c.chain) = .ok node

namespace CanCipher

variable {node : ExtendedKey}

theorem exists_value (h : c.CanCipher call node) : ∃ out, node.cipher (call.request c.chain) = .ok out := by
  obtain ⟨seed, -, hn⟩ := h.derived
  obtain ⟨-, key, hk, -⟩ := (ExtendedKey.inTree_of_ofPath hn).paired
  exact ExtendedKey.exists_cipher hk call.wholeBlocks

theorem answer_unlocked (h : c.CanCipher call node) (ho : node.cipher (call.request c.chain) = .ok out)
    (hs : d.seed = c.device.seed) (hu : d.unlocked = true) :
    d.answer (.cipherKeyValue (call.request c.chain)) = .ok (.cipheredKeyValue out, d) := by
  obtain ⟨seed, hseed, hn⟩ := h.derived
  exact Device.answer_cipher_unlocked (hs.trans hseed) hu call.wholeBlocks hn ho

theorem answer_locked (h : c.CanCipher call node) (hu : c.device.unlocked = false) :
    c.device.answer (.cipherKeyValue (call.request c.chain)) = .ok (.pinMatrixRequest (some .current), c.device) := by
  obtain ⟨seed, hseed, hn⟩ := h.derived
  exact Device.answer_cipher_locked hseed hu hn

end CanCipher

structure PinDetour (c : Client EmulatedLink) (call : CipherCall) (out : Bytes) : Prop where
  accepted : ∀ pin, c.device.pin = .text pin → ∃ c', call.perform (.text pin) c = (.ok [("value", .hex out)], c') ∧
    c'.device = { c.device with pinAcks := 1, unlocked := true } ∧
    c'.progress.authentication.unlocked = .truth true ∧ c'.progress.pending = none
  missing : ∃ c', call.perform .null c = (.error .locked, c') ∧ c'.device = c.device
  refused : ∀ pin, c.device.pin ≠ .text pin → ∃ c',
    call.perform (.text pin) c = (.error (.deviceRefused (.text "Invalid PIN")), c') ∧ c'.device = c.device

theorem CanCipher.pinDetour {node : ExtendedKey} (h : c.CanCipher call node) (hc : c.Ready)
    (ho : node.cipher (call.request c.chain) = .ok out) (hu : c.device.unlocked = false)
    (hp : c.device.phase = none) (hn : c.device.pinAcks = 0) : c.PinDetour call out := by
  obtain ⟨c₁, hasked, hnull, hpin⟩ := hc.cipher_locked h.allows (h.answer_locked hu)
  refine ⟨fun pin hd => ?_, ⟨c₁, hnull, hasked.device⟩, fun pin hd => ?_⟩
  · obtain ⟨_, c₂, hx₂, hready, hdevice, hchain, hunlocked⟩ := hasked.pinAccepted hd hp hn
    have hansw : c₂.device.answer (.cipherKeyValue (call.request c₂.chain)) =
        .ok (.cipheredKeyValue out, c₂.device) := by
      rw [hchain]
      exact h.answer_unlocked ho (by rw [hdevice]) (by rw [hdevice])
    obtain ⟨_, c₃, hx₃, hreport, hdevice₃, hauth, hpending⟩ := hready.cipher_asked_again hansw
    refine ⟨c₃, ?_, hdevice₃.trans hdevice, by rw [hauth, hunlocked], hpending⟩
    rw [hpin]
    unfold askAgain
    rw [bind_of_ok _ hx₂, bind_of_ok _ hx₃, hreport]
  · obtain ⟨c₂, hx, hdevice⟩ := hasked.ready.pinRefused hasked.allows (hasked.device ▸ hd) [.buttonRequest, .success]
    refine ⟨c₂, ?_, hdevice.trans hasked.device⟩
    rw [hpin]
    unfold askAgain
    rw [bind_of_error _ hx]

/-- A device that is unlocked gives the value that the key at the path makes of what it is asked for. One that is locked
    gives the same after its PIN, and nothing without it. The device is one that has left the factory well formed, as
    each does (`Device.wellFormed_fresh`), and whatever has happened since. -/
theorem cipherKey_answers {path : Value} {chain : Chain} {device : Device} {timeout : Timeout} {capacity : Value}
    {policy : PinPolicy} (hd : device.WellFormed) (ht : timeout.isMeasurable = true) (hn : Channel.IsCapacity capacity)
    (happenings : List Happening) :
    let c := (fresh path chain device timeout capacity policy).lifetime happenings
    ∀ call node, c.CanCipher call node → ∃ out, node.cipher (call.request c.chain) = .ok out ∧
      (c.device.unlocked = true → ∀ pin, ∃ c', call.perform pin c = (.ok [("value", .hex out)], c') ∧
        c'.device = c.device) ∧
      (c.device.unlocked = false → c.device.pinAcks = 0 → c.PinDetour call out) := by
  intro c call node h
  have hready : c.Ready := lifetime_ready ht hn rfl h.connected h.plugged h.awake
  obtain ⟨out, ho⟩ := h.exists_value
  refine ⟨out, ho, fun hu pin => hready.cipher_unlocked (h.answer_unlocked ho rfl hu) pin, fun hu hp => ?_⟩
  have hc : c.device.WellFormed := by
    have hdevice : c.device = device.run _ :=
      lifetime_device (fresh_tidy path chain device timeout capacity policy) happenings
    rw [hdevice]
    exact hd.run _
  obtain ⟨seed, hseed, -⟩ := h.derived
  have hphase : c.device.phase = none := hc.seed_iff.mp (by rw [hseed]; rfl)
  exact h.pinDetour hready ho hu hphase hp

def plainCall : CipherCall where
  keyIndex := .int 7
  subIndex := .int 3
  label := "label"
  digits := "000102030405060708090a0b0c0d0e0f"
  purpose := .receiveFunds
  encrypt := .truth true
  key := 7
  sub := 3
  data := masterSeed
  keyIndex_eq := rfl
  key_inRange := by decide
  subIndex_eq := rfl
  sub_inRange := by decide
  digits_eq := by decide +kernel
  wholeBlocks := by decide +kernel

theorem seededDevice_wellFormed : seededDevice.WellFormed :=
  ⟨by decide, by decide, by decide, nofun⟩

theorem exists_plainCall_node : ∃ node, ExtendedKey.ofPath masterSeed false (plainCall.path .main) = .ok node := by
  have hd : (ExtendedKey.ofPath masterSeed false (plainCall.path .main)).toBool = true := by decide +kernel
  cases hk : ExtendedKey.ofPath masterSeed false (plainCall.path .main) with
  | error e =>
    rw [hk] at hd
    cases hd
  | ok node => exact ⟨node, rfl⟩

theorem seededDevice_ciphers :
    let start := fresh (.text "direct") .main seededDevice (.seconds (.whole 5)) (.int 100) .standard
    let locked := start.lifetime [.operation .connect]
    let unlocked := start.lifetime [.operation .connect, .operation (.pinMatrixAck (.text Device.defaultPin))]
    locked.device.pin = .text Device.defaultPin ∧ unlocked.device.unlocked = true ∧
      ∃ (node : ExtendedKey) (out : Bytes), node.cipher (plainCall.request .main) = .ok out ∧
        locked.PinDetour plainCall out ∧
        ∃ c', plainCall.perform .null unlocked = (.ok [("value", .hex out)], c') ∧ c'.device = unlocked.device := by
  intro start locked unlocked
  obtain ⟨node, hnode⟩ := exists_plainCall_node
  have ht : (Timeout.seconds (.whole 5)).isMeasurable = true := by decide +kernel
  have hn : Channel.IsCapacity (.int 100) := ⟨.whole 100, rfl, by decide⟩
  have hl : locked.CanCipher plainCall node := ⟨rfl, rfl, rfl, by decide +kernel, by decide +kernel, masterSeed, rfl, hnode⟩
  have hchain : unlocked.chain = .main := by decide +kernel
  have hu : unlocked.CanCipher plainCall node :=
    ⟨by decide +kernel, by decide +kernel, by decide +kernel, by decide +kernel, by decide +kernel, masterSeed,
      by decide +kernel, by rw [hchain]; exact hnode⟩
  have hunlocked : unlocked.device.unlocked = true := by decide +kernel
  obtain ⟨out, ho, -, hdetour⟩ := cipherKey_answers seededDevice_wellFormed ht hn [.operation .connect] plainCall node hl
  obtain ⟨out', ho', hdirect, -⟩ := cipherKey_answers seededDevice_wellFormed ht hn
    [.operation .connect, .operation (.pinMatrixAck (.text Device.defaultPin))] plainCall node hu
  rw [hchain] at ho'
  -- both are the value that the same key makes of the same request
  obtain rfl : out = out' := Except.ok.inj (ho.symm.trans ho')
  exact ⟨rfl, hunlocked, node, out, ho, hdetour rfl rfl, hdirect hunlocked .null⟩

theorem seededDevice_ciphers_nothing :
    let impatient := connectedTo seededDevice .main (.seconds (.whole (-1))) (.int 100)
    let roomless := connectedTo seededDevice .main (.seconds (.whole 5)) (.int 0)
    ∃ node, impatient.CanCipher plainCall node ∧ impatient.device = seededDevice ∧
      (plainCall.perform (.text Device.defaultPin) impatient).1.toBool = false ∧
      roomless.CanCipher plainCall node ∧ roomless.device = seededDevice ∧
      (plainCall.perform (.text Device.defaultPin) roomless).1.toBool = false := by
  obtain ⟨node, hnode⟩ := exists_plainCall_node
  exact ⟨node, ⟨rfl, rfl, rfl, by decide +kernel, by decide +kernel, masterSeed, rfl, hnode⟩, rfl, by decide +kernel,
    ⟨rfl, rfl, rfl, by decide +kernel, by decide +kernel, masterSeed, rfl, hnode⟩, rfl, by decide +kernel⟩

end Client

end HardwareWallet
