import HardwareWallet.Proofs.Device.WellFormed

namespace HardwareWallet

namespace Exchange

def isRefused (x : Exchange) : Bool :=
  match x.reply with
  | .failure .. => true
  | _ => false

def isWordAck (x : Exchange) : Bool :=
  match x.request with
  | .wordAck _ => true
  | _ => false

def entropyTaken? (x : Exchange) : Option Bytes :=
  match x.request, x.reply with
  | .entropyAck entropy, .buttonRequest .. => some entropy
  | _, _ => none

def strength? (x : Exchange) : Option Number :=
  match x.request with
  | .resetDevice r => if x.isRefused then none else r.strength.number?
  | _ => none

def interrupts (x : Exchange) : Bool :=
  match x.request with
  | .initialise => true
  | .cancel => true
  | .wipeDevice => true
  | .resetDevice _ => !x.isRefused
  | _ => false

theorem strength?_agreed {r : ResetRequest} {reply : Message} {n : Number}
    (hr : isRefused ⟨.resetDevice r, reply⟩ = false) (hn : r.strength.number? = some n) :
    strength? ⟨.resetDevice r, reply⟩ = some n := by
  simp only [strength?, hr, Bool.false_eq_true, ↓reduceIte, hn]

theorem of_unknown {m : Message} (reply : Message) (hm : m.isRequest = false) :
    entropyTaken? ⟨m, reply⟩ = none ∧ interrupts ⟨m, reply⟩ = false ∧ strength? ⟨m, reply⟩ = none ∧
      isWordAck ⟨m, reply⟩ = false := by
  cases m <;> first | exact ⟨rfl, rfl, rfl, rfl⟩ | exact Bool.noConfusion hm

end Exchange

namespace Device

def strengthInForce (past : List Exchange) : Number :=
  past.foldl (fun strength x => x.strength?.getD strength) (.whole 128)

def WordCycle (past : List Exchange) (strength : Int) (entropy : Bytes) (steps : Nat) : Prop :=
  Since (fun before x => x.entropyTaken? = some entropy ∧ (strengthInForce before).whole? = some strength)
    (fun after => (∀ x ∈ after, x.entropyTaken? = none ∧ x.interrupts = false) ∧
      after.countP Exchange.isWordAck = steps) past

def wordSteps (strength : Int) : Nat :=
  2 * (strength / 32 * 3).toNat

theorem strengthInForce_concat (past : List Exchange) (x : Exchange) :
    strengthInForce (past ++ [x]) = x.strength?.getD (strengthInForce past) := by
  simp [strengthInForce]

theorem wordCycle_concat {past : List Exchange} {x : Exchange} {strength : Int} {entropy : Bytes} {steps : Nat} :
    WordCycle (past ++ [x]) strength entropy steps ↔
      (x.entropyTaken? = some entropy ∧ (strengthInForce past).whole? = some strength ∧ steps = 0) ∨
        (x.entropyTaken? = none ∧ x.interrupts = false ∧
          ∃ before, WordCycle past strength entropy before ∧ steps = before + if x.isWordAck then 1 else 0) := by
  unfold WordCycle
  rw [since_concat]
  constructor
  · rintro (⟨⟨he, hs⟩, -, hc⟩ | ⟨before, y, after, rfl, hy, hr, hc⟩)
    · exact .inl ⟨he, hs, by simpa using hc.symm⟩
    · obtain ⟨he, hi⟩ := hr x (by simp)
      refine .inr ⟨he, hi, _, ⟨before, y, after, rfl, hy, fun z hz => hr z (by simp [hz]), rfl⟩, ?_⟩
      simpa [List.countP_append, List.countP_singleton] using hc.symm
  · rintro (⟨he, hs, rfl⟩ | ⟨he, hi, k, ⟨before, y, after, rfl, hy, hr, hc⟩, rfl⟩)
    · exact .inl ⟨⟨he, hs⟩, by simp⟩
    · refine .inr ⟨before, y, after, rfl, hy, ?_, by simp [List.countP_append, List.countP_singleton, hc]⟩
      intro z hz
      rcases List.mem_append.mp hz with hz | hz
      · exact hr z hz
      · obtain rfl := List.mem_singleton.mp hz
        exact ⟨he, hi⟩

theorem wordCycle_wordAck {past : List Exchange} {word : Value} {reply : Message} {strength : Int}
    {entropy : Bytes} {steps : Nat} :
    WordCycle (past ++ [⟨.wordAck word, reply⟩]) strength entropy steps ↔
      ∃ before, WordCycle past strength entropy before ∧ steps = before + 1 := by
  simp [wordCycle_concat, Exchange.entropyTaken?, Exchange.interrupts, Exchange.isWordAck]

structure Follows (internal : Bytes) (past : List Exchange) (d : Device) : Prop where
  wellFormed : d.WellFormed
  internalEntropy : d.internalEntropy = internal
  strength : d.strength = strengthInForce past
  underWay : d.phase = some .words → ∃ strength entropy, WordCycle past strength entropy d.wordStep
  steps : d.phase = some .words → ∀ strength entropy k, WordCycle past strength entropy k →
    k = d.wordStep ∧ d.strength.whole? = some strength ∧
      d.words = Mnemonic.ofEntropy (walletEntropy internal entropy strength)
  ended : d.phase ≠ some .words → ∀ strength entropy k, WordCycle past strength entropy k → wordSteps strength ≤ k

variable {internal : Bytes} {past : List Exchange} {d d' : Device} {x : Exchange}

theorem follows_fresh (profile : Profile) (pin : Value) (mnemonic : String) (internal : Bytes) (label : Value) :
    Follows internal [] (fresh profile pin mnemonic internal label) := by
  have hp : (fresh profile pin mnemonic internal label).phase ≠ some .words := by cases profile <;> simp [fresh]
  exact ⟨wellFormed_fresh .., by cases profile <;> rfl, by cases profile <;> rfl, fun h => absurd h hp,
    fun h => absurd h hp, fun _ _ _ _ h => absurd h not_since_nil⟩

theorem Follows.two_mul_length (h : Follows internal past d) (hp : d.phase = some .words) {strength : Int}
    {entropy : Bytes} {k : Nat} (hc : WordCycle past strength entropy k) :
    2 * d.words.length = wordSteps strength := by
  obtain ⟨s, he, hl, -⟩ := h.wellFormed.words hp
  have hs := (h.steps hp _ _ _ hc).2.1
  obtain rfl : s = strength := by simpa [he, Number.whole?, Number.content] using hs
  rw [hl, wordSteps]

theorem Follows.outside (h : Follows internal past d) (hd : d'.WellFormed)
    (hi : d'.internalEntropy = d.internalEntropy) (hs : d'.strength = x.strength?.getD d.strength)
    (hp : d'.phase ≠ some .words) (he : x.entropyTaken? = none)
    (hx : x.interrupts = true ∨ d.phase ≠ some .words) :
    Follows internal (past ++ [x]) d' where
  wellFormed := hd
  internalEntropy := hi.trans h.internalEntropy
  strength := by rw [hs, h.strength, strengthInForce_concat]
  underWay hw := absurd hw hp
  steps hw := absurd hw hp
  ended _ strength entropy k hc := by
    rcases wordCycle_concat.mp hc with ⟨ht, -⟩ | ⟨-, hn, j, hj, rfl⟩
    · simp [he] at ht
    · have := h.ended (hx.resolve_left (by simp [hn])) strength entropy j hj
      omega

theorem Follows.aside (h : Follows internal past d) (hd : d'.WellFormed)
    (hi : d'.internalEntropy = d.internalEntropy) (hs : d'.strength = d.strength) (hp : d'.phase = d.phase)
    (hw : d'.words = d.words) (hn : d'.wordStep = d.wordStep) (he : x.entropyTaken? = none)
    (hx : x.interrupts = false) (hr : x.strength? = none) (ha : x.isWordAck = false) :
    Follows internal (past ++ [x]) d' := by
  have hc {strength entropy k} :
      WordCycle (past ++ [x]) strength entropy k ↔ WordCycle past strength entropy k := by
    simp [wordCycle_concat, he, hx, ha]
  refine ⟨hd, hi.trans h.internalEntropy, ?_, ?_, ?_, ?_⟩
  · rw [hs, h.strength, strengthInForce_concat, hr, Option.getD_none]
  · simpa only [hp, hn, hc] using h.underWay
  · simpa only [hp, hn, hs, hw, hc] using h.steps
  · simpa only [hp, hc] using h.ended

theorem Follows.unmoved {m reply : Message} (h : Follows internal past d) (hu : d.Unmoved m reply) :
    Follows internal (past ++ [⟨m, reply⟩]) d := by
  cases hu with
  | wordRefused hp => exact h.outside h.wellFormed rfl rfl hp rfl (.inr hp)
  | unknown hm =>
    obtain ⟨he, hx, hs, ha⟩ := Exchange.of_unknown unexpected hm
    exact h.aside h.wellFormed rfl rfl rfl rfl rfl he hx hs ha
  | _ => exact h.aside h.wellFormed rfl rfl rfl rfl rfl rfl rfl rfl rfl

theorem Follows.reaction {m reply : Message} (h : Follows internal past d) (hr : d.Reaction m reply d') :
    Follows internal (past ++ [⟨m, reply⟩]) d' := by
  have hd := h.wellFormed.reaction hr
  cases hr with
  | unmoved hu => exact h.unmoved hu
  | resumed _ hw => exact h.outside hd rfl rfl hw rfl (.inl rfl)
  | abandoned => exact h.outside hd rfl rfl (by cases d.seed <;> simp) rfl (.inl rfl)
  | locked => exact h.aside hd rfl rfl rfl rfl rfl rfl rfl rfl rfl
  | cancelledIdle hp => exact h.outside hd rfl rfl (by rcases hp with hp | hp <;> simp [hp]) rfl (.inl rfl)
  | cancelled => exact h.outside hd rfl rfl (by simp) rfl (.inl rfl)
  | pinChosen _ hp => exact h.outside hd rfl rfl (by simp) rfl (.inr (by simp [hp]))
  | pinRepeated _ hp => exact h.outside hd rfl rfl (by simp) rfl (.inr (by simp [hp]))
  | unlocked => exact h.aside hd rfl rfl rfl rfl rfl rfl rfl rfl rfl
  | pinKnown => exact h.aside hd rfl rfl rfl rfl rfl rfl rfl rfl rfl
  | wiped => exact h.outside hd rfl rfl (by simp [wipe]) rfl (.inl rfl)
  | resetWithPin _ hn =>
    exact h.outside hd rfl (by rw [Exchange.strength?_agreed rfl hn]; rfl) (by simp) rfl (.inl rfl)
  | resetWithoutPin _ hn =>
    exact h.outside hd rfl (by rw [Exchange.strength?_agreed rfl hn]; rfl) (by simp) rfl (.inl rfl)
  | @entropyTaken entropy strength text hp hs =>
    have hc {s e k} : WordCycle (past ++ [⟨.entropyAck entropy, confirmation .confirmWord text⟩]) s e k ↔
        entropy = e ∧ strength = s ∧ k = 0 := by
      simp [wordCycle_concat, Exchange.entropyTaken?, confirmation, ← h.strength, hs]
    refine ⟨hd, h.internalEntropy, ?_, fun _ => ⟨strength, entropy, hc.mpr ⟨rfl, rfl, rfl⟩⟩, ?_,
      fun hn => absurd rfl hn⟩
    · rw [h.strength, strengthInForce_concat]
      rfl
    · intro _ s e k hk
      obtain ⟨rfl, rfl, rfl⟩ := hc.mp hk
      exact ⟨rfl, hs, h.internalEntropy ▸ rfl⟩
  | wordShown hp hw =>
    refine ⟨hd, h.internalEntropy, ?_, ?_, ?_, fun hn => absurd hp hn⟩
    · rw [h.strength, strengthInForce_concat]
      rfl
    · intro _
      obtain ⟨s, e, hs⟩ := h.underWay hp
      exact ⟨s, e, wordCycle_wordAck.mpr ⟨_, hs, rfl⟩⟩
    · intro _ s e k hk
      obtain ⟨j, hj, rfl⟩ := wordCycle_wordAck.mp hk
      obtain ⟨rfl, hs, he⟩ := h.steps hp s e j hj
      exact ⟨rfl, hs, he⟩
  | walletMade hp hw =>
    refine ⟨hd, h.internalEntropy, ?_, by simp, by simp, ?_⟩
    · rw [h.strength, strengthInForce_concat]
      rfl
    · intro _ s e k hk
      obtain ⟨j, hj, rfl⟩ := wordCycle_wordAck.mp hk
      obtain ⟨rfl, -⟩ := h.steps hp s e j hj
      have := h.two_mul_length hp hj
      omega

theorem follows_run (profile : Profile) (pin : Value) (mnemonic : String) (internal : Bytes) (label : Value)
    (stimuli : List Stimulus) :
    Follows internal ((fresh profile pin mnemonic internal label).exchanges stimuli)
      ((fresh profile pin mnemonic internal label).run stimuli) :=
  history_induction (P := Follows internal) (follows_fresh profile pin mnemonic internal label)
    (fun _ _ stalled h => ⟨h.wellFormed.act (.stall stalled), h.internalEntropy, h.strength, h.underWay, h.steps,
      h.ended⟩)
    (fun _ _ plugged h => ⟨h.wellFormed.act (.plug plugged), h.internalEntropy, h.strength, h.underWay, h.steps,
      h.ended⟩)
    (fun _ _ _ _ _ h hr => h.reaction hr) stimuli

/-- The last word step makes the wallet, those before it go on, and any other is refused. -/
theorem wordAck_reply (profile : Profile) (pin : Value) (mnemonic : String) (internal : Bytes) (label : Value)
    (stimuli : List Stimulus) (word : Value) :
    let d := (fresh profile pin mnemonic internal label).run stimuli
    let past := (fresh profile pin mnemonic internal label).exchanges stimuli
    d.stalled = false → ∃ reply d', process (.wordAck word) d = (.ok (some reply), d') ∧
      ((∃ text, reply = .success text) ↔
        ∃ strength entropy k, WordCycle past strength entropy k ∧ k + 1 = wordSteps strength) ∧
      ((∃ text, reply = .buttonRequest .confirmWord text) ↔
        ∃ strength entropy k, WordCycle past strength entropy k ∧ k + 1 < wordSteps strength) ∧
      ((∃ text, reply = .failure .unexpectedMessage text) ↔
        ¬ ∃ strength entropy k, WordCycle past strength entropy k ∧ k + 1 ≤ wordSteps strength) ∧
      ∀ strength entropy k, WordCycle past strength entropy k → k + 1 = wordSteps strength →
        d'.seed = some (Mnemonic.seed (" ".intercalate
          (Mnemonic.ofEntropy ((Sha256.digest (internal ++ entropy)).take (strength / 8).toNat)))) := by
  intro d past hs
  have h : Follows internal past d := follows_run profile pin mnemonic internal label stimuli
  obtain ⟨reply, d', ha⟩ : ∃ reply d', d.answer (.wordAck word) = .ok (reply, d') := ⟨_, _, rfl⟩
  refine ⟨reply, d', process_of_ok hs ha, ?_⟩
  cases reaction_of_answer ha with
  | unmoved hu =>
    obtain ⟨hp, rfl⟩ : d.phase ≠ some .words ∧ reply = notInReset := by
      cases hu with
      | wordRefused hp => exact ⟨hp, rfl⟩
      | unknown hm => cases hm
    have hn {strength entropy k} (hc : WordCycle past strength entropy k) : wordSteps strength < k + 1 :=
      Nat.lt_succ_of_le (h.ended hp strength entropy k hc)
    refine ⟨⟨nofun, ?_⟩, ⟨nofun, ?_⟩, ⟨?_, fun _ => ⟨_, rfl⟩⟩, ?_⟩
    · rintro ⟨strength, entropy, k, hc, hk⟩
      exact absurd hk (Nat.ne_of_gt (hn hc))
    · rintro ⟨strength, entropy, k, hc, hk⟩
      exact absurd hk (Nat.lt_asymm (hn hc))
    · rintro - ⟨strength, entropy, k, hc, hk⟩
      exact absurd hk (Nat.not_le_of_lt (hn hc))
    · intro strength entropy k hc hk
      exact absurd hk (Nat.ne_of_gt (hn hc))
  | wordShown hp hw =>
    have hn {strength entropy k} (hc : WordCycle past strength entropy k) : k + 1 < wordSteps strength := by
      obtain ⟨rfl, -⟩ := h.steps hp strength entropy k hc
      exact h.two_mul_length hp hc ▸ hw
    obtain ⟨strength, entropy, hc⟩ := h.underWay hp
    refine ⟨⟨nofun, ?_⟩, ⟨fun _ => ⟨strength, entropy, _, hc, hn hc⟩, fun _ => ⟨_, rfl⟩⟩, ⟨nofun, ?_⟩, ?_⟩
    · rintro ⟨strength, entropy, k, hc, hk⟩
      exact absurd hk (Nat.ne_of_lt (hn hc))
    · intro hr
      exact absurd ⟨strength, entropy, _, hc, Nat.le_of_lt (hn hc)⟩ hr
    · intro strength entropy k hc hk
      exact absurd hk (Nat.ne_of_lt (hn hc))
  | walletMade hp hw =>
    have hn {strength entropy k} (hc : WordCycle past strength entropy k) : k + 1 = wordSteps strength := by
      obtain ⟨-, -, -, hl⟩ := h.wellFormed.words hp
      obtain ⟨rfl, -⟩ := h.steps hp strength entropy k hc
      have := h.two_mul_length hp hc
      omega
    obtain ⟨strength, entropy, hc⟩ := h.underWay hp
    refine ⟨⟨fun _ => ⟨strength, entropy, _, hc, hn hc⟩, fun _ => ⟨_, rfl⟩⟩, ⟨nofun, ?_⟩, ⟨nofun, ?_⟩, ?_⟩
    · rintro ⟨strength, entropy, k, hc, hk⟩
      exact absurd (hn hc) (Nat.ne_of_lt hk)
    · intro hr
      exact absurd ⟨strength, entropy, _, hc, Nat.le_of_eq (hn hc)⟩ hr
    · intro strength entropy k hc hk
      obtain ⟨-, -, he⟩ := h.steps hp strength entropy k hc
      rw [he]
      rfl

def allButLastWord : List Stimulus :=
  [.request (.resetDevice { pinProtection := .truth false }), .request (.entropyAck [1, 2]),
    .request (.pinMatrixAck (.text defaultPin))] ++ List.replicate 23 (.request (.wordAck (.text "")))

theorem last_word_makes_wallet :
    ((ofProfile .wiped).run allButLastWord).stalled = false ∧
      ∃ reply d', process (.wordAck (.text "")) ((ofProfile .wiped).run allButLastWord) = (.ok (some reply), d') ∧
        (∃ text, reply = .success text) ∧
        d'.seed = some (Mnemonic.seed (" ".intercalate
          (Mnemonic.ofEntropy ((Sha256.digest (defaultEntropy ++ [1, 2])).take 16)))) := by
  have hs : ((ofProfile .wiped).run allButLastWord).stalled = false := by decide +kernel
  have hc : WordCycle ((ofProfile .wiped).exchanges allButLastWord) 128 [1, 2] 23 :=
    ⟨[⟨.resetDevice { pinProtection := .truth false }, .entropyRequest⟩], ⟨.entropyAck [1, 2], _⟩,
      ((ofProfile .wiped).exchanges allButLastWord).drop 2, rfl, ⟨rfl, rfl⟩, by decide +kernel⟩
  obtain ⟨reply, d', hp, ha, -, -, hw⟩ := wordAck_reply .wiped (.text defaultPin) defaultMnemonic defaultEntropy
    (.text defaultLabel) allButLastWord (.text "") hs
  exact ⟨hs, reply, d', hp, ha.mpr ⟨128, [1, 2], 23, hc, rfl⟩, hw 128 [1, 2] 23 hc rfl⟩

end Device

end HardwareWallet
