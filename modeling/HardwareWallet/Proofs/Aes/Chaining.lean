import Mathlib.Data.List.Basic
import HardwareWallet.Aes.Chaining
import HardwareWallet.Proofs.Aes.Block

namespace HardwareWallet.Aes

variable {bs value : Bytes} {s : Block} {ss : List Block} {i : ℕ}

theorem Block.ofBytes?_eq_some_iff : Block.ofBytes? bs = some s ↔ bs = s.toBytes := by
  constructor
  · intro h
    rw [Block.ofBytes?.eq_def] at h
    split at h
    · obtain rfl := Option.some.inj h
      rfl
    · cases h
  · rintro rfl
    rfl

theorem Block.exists_ofBytes? (h : bs.length = 16) : ∃ s, Block.ofBytes? bs = some s := by
  match bs, h with
  | [b0, b1, b2, b3, b4, b5, b6, b7, b8, b9, b10, b11, b12, b13, b14, b15], _ => exact ⟨_, rfl⟩

@[simp] theorem Block.length_toBytes (s : Block) : s.toBytes.length = 16 := rfl

theorem Block.toBytes_add (s t : Block) : (s.add t).toBytes = Bytes.xor s.toBytes t.toBytes := rfl

theorem length_flatMap_toBytes (ss : List Block) : (ss.flatMap Block.toBytes).length = 16 * ss.length := by
  induction ss with
  | nil => rfl
  | cons s ss ih =>
    rw [List.flatMap_cons, List.length_append, ih, Block.length_toBytes, List.length_cons]
    omega

theorem blocks?_nil : blocks? [] = some [] := by
  rw [blocks?, Bytes.chunks]
  rfl

theorem blocks?_of_ne_nil (h : value ≠ []) :
    blocks? value = (Block.ofBytes? (value.take 16)).bind fun s => (blocks? (value.drop 16)).map (s :: ·) := by
  have hc : ¬ (value = [] ∨ 16 = 0) := by
    rintro (hv | h0)
    · exact h hv
    · cases h0
  rw [blocks?, Bytes.chunks, dif_neg hc, List.mapM_cons]
  refine congrArg (Option.bind _) (funext fun s => ?_)
  cases hd : (Bytes.chunks 16 (value.drop 16)).mapM Block.ofBytes? with
  | none => rw [blocks?, hd]; rfl
  | some ss => rw [blocks?, hd]; rfl

theorem blocks?_eq_some_iff : blocks? value = some ss ↔ value = ss.flatMap Block.toBytes := by
  induction ss generalizing value with
  | nil =>
    rcases eq_or_ne value [] with rfl | hv
    · exact ⟨fun _ => rfl, fun _ => blocks?_nil⟩
    · rw [blocks?_of_ne_nil hv]
      refine ⟨fun h => ?_, fun h => absurd h hv⟩
      obtain ⟨_, -, h⟩ := Option.bind_eq_some_iff.mp h
      obtain ⟨_, -, h⟩ := Option.map_eq_some_iff.mp h
      cases h
  | cons s ss ih =>
    rw [List.flatMap_cons]
    constructor
    · intro h
      have hv : value ≠ [] := by
        rintro rfl
        rw [blocks?_nil] at h
        cases h
      rw [blocks?_of_ne_nil hv] at h
      obtain ⟨t, ht, h⟩ := Option.bind_eq_some_iff.mp h
      obtain ⟨ts, hts, h⟩ := Option.map_eq_some_iff.mp h
      obtain ⟨rfl, rfl⟩ := List.cons.inj h
      rw [← Block.ofBytes?_eq_some_iff.mp ht, ← ih.mp hts, List.take_append_drop]
    · rintro rfl
      have hv : s.toBytes ++ ss.flatMap Block.toBytes ≠ [] := nofun
      rw [blocks?_of_ne_nil hv, List.take_left' (Block.length_toBytes s), List.drop_left' (Block.length_toBytes s),
        Block.ofBytes?_eq_some_iff.mpr rfl, ih.mpr rfl]
      rfl

theorem exists_blocks? (h : value.length % 16 = 0) : ∃ ss, blocks? value = some ss := by
  obtain ⟨n, hn⟩ : ∃ n, value.length = 16 * n := ⟨value.length / 16, by omega⟩
  induction n generalizing value with
  | zero =>
    obtain rfl := List.eq_nil_of_length_eq_zero hn
    exact ⟨[], blocks?_nil⟩
  | succ n ih =>
    have hv : value ≠ [] := by
      rintro rfl
      cases hn
    have ht : (value.take 16).length = 16 := by rw [List.length_take]; omega
    obtain ⟨s, hs⟩ := Block.exists_ofBytes? ht
    have hd : (value.drop 16).length = 16 * n := by rw [List.length_drop]; omega
    obtain ⟨ss, hss⟩ := ih (by omega) hd
    rw [blocks?_of_ne_nil hv, hs, hss]
    exact ⟨s :: ss, rfl⟩

theorem blocks?_eq_none (h : value.length % 16 ≠ 0) : blocks? value = none := by
  cases hb : blocks? value with
  | none => rfl
  | some ss =>
    have hl := length_flatMap_toBytes ss
    rw [← blocks?_eq_some_iff.mp hb] at hl
    omega

def piece (i : ℕ) (bs : Bytes) : Bytes :=
  (bs.drop (16 * i)).take 16

theorem piece_flatMap_toBytes (h : ss[i]? = some s) : piece i (ss.flatMap Block.toBytes) = s.toBytes := by
  induction ss generalizing i with
  | nil => cases h
  | cons t ss ih =>
    rw [List.flatMap_cons]
    cases i with
    | zero =>
      obtain rfl := Option.some.inj h
      exact List.take_left' (Block.length_toBytes t)
    | succ i =>
      have hd : (t.toBytes ++ ss.flatMap Block.toBytes).drop (16 * (i + 1)) = (ss.flatMap Block.toBytes).drop (16 * i) := by
        rw [Nat.mul_succ, Nat.add_comm, ← List.drop_drop, List.drop_left' (Block.length_toBytes t)]
      rw [piece, hd]
      exact ih h

variable {keys : List Block} {previous : Block}

theorem length_encryptChain (keys : List Block) (previous : Block) (ss : List Block) :
    (encryptChain keys previous ss).length = ss.length := by
  induction ss generalizing previous with
  | nil => rfl
  | cons s ss ih => exact congrArg (· + 1) (ih _)

theorem length_decryptChain (keys : List Block) (previous : Block) (ss : List Block) :
    (decryptChain keys previous ss).length = ss.length := by
  induction ss generalizing previous with
  | nil => rfl
  | cons s ss ih => exact congrArg (· + 1) (ih _)

theorem decryptChain_encryptChain (keys : List Block) (previous : Block) (ss : List Block) :
    decryptChain keys previous (encryptChain keys previous ss) = ss := by
  induction ss generalizing previous with
  | nil => rfl
  | cons s ss ih =>
    rw [encryptChain, decryptChain, decrypt_encrypt, Block.add_cancel_right, ih]

theorem encryptChain_decryptChain (keys : List Block) (previous : Block) (ts : List Block) :
    encryptChain keys previous (decryptChain keys previous ts) = ts := by
  induction ts generalizing previous with
  | nil => rfl
  | cons t ts ih =>
    rw [decryptChain, encryptChain, Block.add_cancel_right, encrypt_decrypt, ih]

theorem getElem?_encryptChain {t : Block} (h : (encryptChain keys previous ss)[i]? = some t) :
    ∃ s before, ss[i]? = some s ∧ (previous :: encryptChain keys previous ss)[i]? = some before ∧
      t = encrypt keys (s.add before) := by
  induction ss generalizing previous i with
  | nil => cases h
  | cons s ss ih =>
    cases i with
    | zero => exact ⟨s, previous, rfl, rfl, (Option.some.inj h).symm⟩
    | succ i => exact ih h

variable {key start : Bytes} {setting : Setting}

def encryptBytes? (key bs : Bytes) : Option Bytes := do
  let high ← Block.ofBytes? (key.take 16)
  let low ← Block.ofBytes? (key.drop 16)
  let s ← Block.ofBytes? bs
  return (encrypt (roundKeys high low) s).toBytes

theorem Setting.exists_ofBytes? (hk : key.length = 32) (hs : start.length = 16) :
    ∃ setting, Setting.ofBytes? key start = some setting := by
  have ht : (key.take 16).length = 16 := by rw [List.length_take]; omega
  have hd : (key.drop 16).length = 16 := by rw [List.length_drop]; omega
  obtain ⟨high, hh⟩ := Block.exists_ofBytes? ht
  obtain ⟨low, hl⟩ := Block.exists_ofBytes? hd
  obtain ⟨first, hf⟩ := Block.exists_ofBytes? hs
  rw [Setting.ofBytes?, hh, hl, hf]
  exact ⟨_, rfl⟩

theorem Setting.ofBytes?_eq_some (h : Setting.ofBytes? key start = some setting) :
    start = setting.start.toBytes ∧ ∀ s, encryptBytes? key s.toBytes = some (encrypt setting.keys s).toBytes := by
  rw [Setting.ofBytes?] at h
  obtain ⟨high, hh, h⟩ := Option.bind_eq_some_iff.mp h
  obtain ⟨low, hl, h⟩ := Option.bind_eq_some_iff.mp h
  obtain ⟨first, hf, h⟩ := Option.bind_eq_some_iff.mp h
  obtain rfl := Option.some.inj h
  refine ⟨Block.ofBytes?_eq_some_iff.mp hf, fun s => ?_⟩
  rw [encryptBytes?, hh, hl, Block.ofBytes?_eq_some_iff.mpr rfl]
  rfl

theorem Setting.length_run (setting : Setting) (encrypting : Bool) (ss : List Block) :
    (setting.run encrypting ss).length = ss.length := by
  cases encrypting
  · exact length_decryptChain _ _ ss
  · exact length_encryptChain _ _ ss

theorem Setting.run_run (setting : Setting) (encrypting : Bool) (ss : List Block) :
    setting.run (!encrypting) (setting.run encrypting ss) = ss := by
  cases encrypting
  · exact encryptChain_decryptChain _ _ ss
  · exact decryptChain_encryptChain _ _ ss

theorem Setting.encryptBytes?_piece (h : Setting.ofBytes? key start = some setting) (hi : i < ss.length) :
    let out := (setting.run true ss).flatMap Block.toBytes
    encryptBytes? key (Bytes.xor (piece i (ss.flatMap Block.toBytes)) (if i = 0 then start else piece (i - 1) out)) =
      some (piece i out) := by
  obtain ⟨hs, he⟩ := Setting.ofBytes?_eq_some h
  obtain ⟨t, ht⟩ : ∃ t, (setting.run true ss)[i]? = some t :=
    ⟨_, List.getElem?_eq_getElem (by rwa [Setting.length_run])⟩
  obtain ⟨s, before, hv, hb, rfl⟩ := getElem?_encryptChain ht
  have hbefore : (if i = 0 then start else piece (i - 1) ((setting.run true ss).flatMap Block.toBytes)) =
      before.toBytes := by
    cases i with
    | zero =>
      obtain rfl := Option.some.inj hb
      exact hs
    | succ i => exact piece_flatMap_toBytes hb
  dsimp only
  rw [hbefore, piece_flatMap_toBytes hv, piece_flatMap_toBytes ht, ← Block.toBytes_add, he]

end HardwareWallet.Aes
