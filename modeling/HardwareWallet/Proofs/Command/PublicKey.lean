import HardwareWallet.Proofs.Command.Exchange
import HardwareWallet.Proofs.ExtendedKey.Network

namespace HardwareWallet

open Attempt

theorem Device.exists_master {d : Device} {seed : Bytes} {address : Path} {node : ExtendedKey}
    (hs : d.seed = some seed) (hn : ExtendedKey.ofPath seed false address = .ok node) :
    ∃ master, d.master? = some (.ok master) ∧ master.derive address = .ok node := by
  obtain ⟨master, hm, hn⟩ := exists_of_bind_eq_ok hn
  exact ⟨master, by rw [master?, hs, Option.map_some, hm], hn⟩

theorem Device.publicKey_of_ofPath {d : Device} {seed : Bytes} {address : Path} {node : ExtendedKey} {told : String}
    (hs : d.seed = some seed) (hn : ExtendedKey.ofPath seed false address = .ok node)
    (ht : node.neuter.text = .ok told) :
    d.publicKey address = .ok (.publicKey node.toNode (.text told)) := by
  obtain ⟨master, hd, hn⟩ := exists_master hs hn
  rw [publicKey, hd]
  dsimp only
  rw [ok_bind, hn, ok_bind, ht]
  rfl

namespace Client

variable {c : Client EmulatedLink} {given : Value} {address : Path} {seed : Bytes} {node : ExtendedKey}

theorem hierarchy_eq {τ : Type} [Transport τ] (ha : Path.ofArgument given = .ok address) (hl : address.length ≤ 3) :
    (hierarchy given : Attempt (Client τ) Unit) = request (.getPublicKey address (.truth false)) := by
  have hd : ¬ maxDepth < address.length := Nat.not_lt.mpr hl
  funext c
  have hp : Attempt.ofExcept (addressOf given) c = (.ok address, c) := by
    rw [addressOf, ha, ok_bind, if_neg hd]
    rfl
  rw [hierarchy, bind_of_ok _ hp]

theorem Ready.publicNode (h : c.Ready) (hs : c.device.seed = some seed) (ha : Path.ofArgument given = .ok address)
    (hl : address.length ≤ 3) (hn : ExtendedKey.ofPath seed false address = .ok node) :
    ∃ told c', c.device.answer (.getPublicKey address (.truth false)) =
        .ok (.publicKey node.toNode (.text told), c.device) ∧
      node.neuter.text = .ok told ∧ Client.publicNode given c = (.ok node.toNode, c') ∧ c'.device = c.device ∧
      c'.chain = c.chain := by
  obtain ⟨told, ht⟩ := (ExtendedKey.inTree_of_ofPath hn).exists_neuter_text (by omega)
  have hansw : c.device.answer (.getPublicKey address (.truth false)) =
      .ok (.publicKey node.toNode (.text told), c.device) := by
    rw [Device.answer, Device.publicKey_of_ofPath hs hn ht]
    rfl
  have hm : Message.HasStrength (.getPublicKey address (.truth false)) := nofun
  obtain ⟨reset, notices, hr⟩ := ResetProgress.exists_observe hm c.progress.reset
    (.publicKey node.toNode (.text told))
  obtain ⟨c', hx, hc⟩ := h.exchange_request (hierarchy_eq ha hl) hansw rfl rfl hr [.publicKey]
  refine ⟨told, c', hansw, ht, ?_, hc.device, hc.chain⟩
  rw [Client.publicNode, bind_of_ok _ hx]
  rfl

theorem getXpub_eq {c' : Client EmulatedLink} {reply : PublicNode} {key : ExtendedKey} {xpub : String}
    (hp : publicNode given c = (.ok reply, c')) (hk : ExtendedKey.ofNode reply (c'.chain ≠ .main) = .ok key)
    (hx : key.text = .ok xpub) (expert : Bool) :
    getXpub given expert c = (.ok (("xpub", .text xpub) :: if expert then key.report else []), c') := by
  have hkey : Attempt.ofExcept (ExtendedKey.ofNode reply (c'.chain ≠ .main)) c' = (.ok key, c') := by rw [hk]; rfl
  have htext : Attempt.ofExcept key.text c' = (.ok xpub, c') := by rw [hx]; rfl
  rw [getXpub, bind_of_ok _ hp, get_bind, bind_of_ok _ hkey, bind_of_ok _ htext]
  rfl

def GivesKey (c : Client EmulatedLink) (given : Value) (expert : Bool) (address : Path) (node : ExtendedKey) : Prop :=
  ∃ xpub told reply c', node.neuter.text = .ok xpub ∧
    getXpub given expert c = (.ok (("xpub", .text xpub) :: if expert then node.neuter.report else []), c') ∧
    publicNode given c = (.ok reply, c') ∧
    Device.process (.getPublicKey address (.truth false)) c.device =
      (.ok (some (.publicKey reply (.text told))), c.device) ∧
    (ExtendedKey.ofNode reply false >>= ExtendedKey.text) = .ok told ∧ (c.chain = .main → told = xpub) ∧
    reply.depth = .int address.length ∧ c'.device = c.device

theorem Ready.getXpub (h : c.Ready) (hs : c.device.seed = some seed) (ha : Path.ofArgument given = .ok address)
    (hl : address.length ≤ 3) (hn : ExtendedKey.ofPath seed (c.chain ≠ .main) address = .ok node) (expert : Bool) :
    c.GivesKey given expert address node := by
  have htree := ExtendedKey.inTree_of_ofPath hn
  obtain ⟨told, c', hansw, htold, hp, hdev, hchain⟩ := h.publicNode hs ha hl (ExtendedKey.ofPath_onNetwork hn)
  obtain ⟨xpub, hx⟩ := htree.exists_neuter_text (by omega)
  have hkey : ExtendedKey.ofNode node.toNode (c'.chain ≠ .main) = .ok node.neuter := by
    rw [ExtendedKey.ofNode_toNode htree, hchain, ExtendedKey.onNetwork_self htree.version]
  refine ⟨xpub, told, node.toNode, c', hx, getXpub_eq hp hkey hx expert, hp, Device.process_of_ok h.awake hansw, ?_,
    fun hm => ?_, htree.depth, hdev⟩
  · rw [ExtendedKey.ofNode_toNode htree, ok_bind, htold]
  · have hv : node.version = ExtendedKey.privateVersion false := by
      rw [htree.version, hm]
      rfl
    rw [ExtendedKey.onNetwork_self hv, hx] at htold
    exact (Except.ok.inj htold).symm

/-- The key at a path, put together from the reply of the device, is the one that derivation from its seed arrives at on
    the network of the client. On the main network its text is also the one in the reply. The device stays as it was. -/
theorem getXpub_derived {path : Value} {chain : Chain} {device : Device} {timeout : Timeout} {capacity : Value}
    {policy : PinPolicy} (ht : timeout.isMeasurable = true) (hn : Channel.IsCapacity capacity)
    (happenings : List Happening) :
    let c := (fresh path chain device timeout capacity policy).lifetime happenings
    c.session.connection = .connected → c.device.plugged = true → c.device.stalled = false →
    ∀ seed given address node expert, c.device.seed = some seed → Path.ofArgument given = .ok address →
      address.length ≤ 3 → ExtendedKey.ofPath seed (c.chain ≠ .main) address = .ok node →
      c.GivesKey given expert address node := by
  intro c hc hp hs seed given address node expert hseed ha hl hnode
  exact (lifetime_ready ht hn rfl hc hp hs).getXpub hseed ha hl hnode expert

def masterSeed : Bytes :=
  Bytes.ofNat 16 0x000102030405060708090a0b0c0d0e0f

def seededDevice : Device :=
  { Device.ofProfile .initialised with seed := some masterSeed }

theorem seededDevice_gives_key :
    ∃ node, ExtendedKey.ofPath masterSeed true [.int 0x8000002c] = .ok node ∧
      (connectedTo seededDevice .test (.seconds (.whole 5)) (.int 100)).GivesKey (.text "m/44h") true [.int 0x8000002c]
        node := by
  have hd : (ExtendedKey.ofPath masterSeed true [.int 0x8000002c]).toBool = true := by decide +kernel
  cases hk : ExtendedKey.ofPath masterSeed true [.int 0x8000002c] with
  | error e =>
    rw [hk] at hd
    cases hd
  | ok node =>
    have ht : (Timeout.seconds (.whole 5)).isMeasurable = true := by decide +kernel
    have hn : Channel.IsCapacity (.int 100) := ⟨.whole 100, rfl, by decide⟩
    have hp : Path.parse? "m/44h" = some [0x8000002c] := by decide +kernel
    have ha : Path.ofArgument (.text "m/44h") = .ok [.int 0x8000002c] := by
      rw [Path.ofArgument, hp]
      rfl
    exact ⟨node, rfl, getXpub_derived ht hn [.operation .connect] rfl rfl rfl masterSeed (.text "m/44h")
      [.int 0x8000002c] node true rfl ha (by decide) hk⟩

theorem seededDevice_gives_nothing :
    let impatient := connectedTo seededDevice .main (.seconds (.whole (-1))) (.int 100)
    let roomless := connectedTo seededDevice .main (.seconds (.whole 5)) (.int 0)
    (ExtendedKey.ofPath masterSeed false []).toBool = true ∧
      impatient.session.connection = .connected ∧ (getXpub (.array []) false impatient).1.toBool = false ∧
      roomless.session.connection = .connected ∧ (getXpub (.array []) false roomless).1.toBool = false := by
  refine ⟨by decide +kernel, rfl, by decide +kernel, rfl, by decide +kernel⟩

end Client

end HardwareWallet
