import Mathlib.Logic.Function.Basic
import HardwareWallet.Aes.Key

namespace HardwareWallet.Aes

open Function (LeftInverse)

theorem xor_left_comm (a b c : UInt8) : a ^^^ (b ^^^ c) = b ^^^ (a ^^^ c) := by
  rw [← UInt8.xor_assoc, UInt8.xor_comm a b, UInt8.xor_assoc]

theorem xor_cancel_left (a b : UInt8) : a ^^^ (a ^^^ b) = b := by
  rw [← UInt8.xor_assoc, UInt8.xor_self, UInt8.zero_xor]

theorem xor_cancel_right (a b : UInt8) : a ^^^ b ^^^ b = a := by
  rw [UInt8.xor_assoc, UInt8.xor_self, UInt8.xor_zero]

theorem getD_getD (table back : Array UInt8)
    (h : table.toList.map (fun c => (back.toList.getD c.toNat 0).toNat) = List.range 256) (b : UInt8) :
    back.getD (table.getD b.toNat 0).toNat 0 = b := by
  have hl : table.toList.length = 256 := by rw [← List.length_map, h, List.length_range]
  have hb : b.toNat < table.toList.length := hl ▸ b.toNat_lt
  have ht : table.getD b.toNat 0 = table.toList[b.toNat] := by
    rw [Array.getD_eq_getD_getElem?, ← Array.getElem?_toList, List.getElem?_eq_getElem hb, Option.getD_some]
  have hr : (List.range 256)[b.toNat]? = some b.toNat := List.getElem?_range b.toNat_lt
  rw [← h, List.getElem?_map, List.getElem?_eq_getElem hb] at hr
  apply UInt8.toNat.inj
  rw [ht, Array.getD_eq_getD_getElem?, ← Array.getElem?_toList, ← List.getD_eq_getElem?_getD]
  exact Option.some.inj hr

theorem unsubstitute_substitute : LeftInverse unsubstitute substitute :=
  getD_getD substitutes originals (by decide +kernel)

theorem substitute_unsubstitute : LeftInverse substitute unsubstitute :=
  getD_getD originals substitutes (by decide +kernel)

theorem shiftRight_seven (b : UInt8) : b >>> 7 = 0 ∨ b >>> 7 = 1 := by
  have h : ∀ n : Fin 256, UInt8.ofFin n >>> 7 = 0 ∨ UInt8.ofFin n >>> 7 = 1 := by decide +kernel
  exact h b.toFin

theorem shiftRight_mul_xor (a b c : UInt8) : (a ^^^ b) >>> 7 * c = a >>> 7 * c ^^^ b >>> 7 * c := by
  rw [UInt8.shiftRight_xor]
  rcases shiftRight_seven a with ha | ha <;> rcases shiftRight_seven b with hb | hb
  all_goals
    rw [ha, hb]
    simp

theorem double_xor (a b : UInt8) : double (a ^^^ b) = double a ^^^ double b := by
  rw [double, UInt8.shiftLeft_xor, shiftRight_mul_xor, double, double]
  simp only [UInt8.xor_assoc, xor_left_comm]

namespace Column

theorem map_leftInverse {f g : UInt8 → UInt8} (h : LeftInverse g f) : LeftInverse (map g) (map f) := by
  rintro ⟨a, b, c, d⟩
  simp only [map, h a, h b, h c, h d]

theorem add_cancel_right (k l : Column) : (k.add l).add l = k := by
  simp only [add, xor_cancel_right]

def spread (k : Column) : Column :=
  let u := double (double (k.a ^^^ k.c))
  let v := double (double (k.b ^^^ k.d))
  ⟨k.a ^^^ u, k.b ^^^ v, k.c ^^^ u, k.d ^^^ v⟩

theorem spread_spread (k : Column) : k.spread.spread = k := by
  have hu (a c u : UInt8) : a ^^^ u ^^^ (c ^^^ u) = a ^^^ c := by
    rw [UInt8.xor_comm c u, UInt8.xor_assoc, xor_cancel_left]
  simp only [spread, hu, xor_cancel_right]

theorem mix_mix (k : Column) : k.mix.mix = k.spread := by
  simp only [mix, spread, double_xor]
  simp only [UInt8.xor_assoc, UInt8.xor_comm, xor_left_comm, xor_cancel_left, UInt8.xor_self, UInt8.xor_zero,
    UInt8.zero_xor]

theorem unmix_eq (k : Column) : k.unmix = k.spread.mix := rfl

theorem mix_unmix : LeftInverse mix unmix := by
  intro k
  rw [unmix_eq, mix_mix, spread_spread]

theorem unmix_mix : LeftInverse unmix mix := by
  intro k
  rw [unmix_eq, ← mix_mix k.mix, mix_mix k.mix.mix, mix_mix k, spread_spread]

end Column

namespace Block

theorem map_leftInverse {f g : Column → Column} (h : LeftInverse g f) : LeftInverse (map g) (map f) := by
  rintro ⟨k0, k1, k2, k3⟩
  simp only [map, h k0, h k1, h k2, h k3]

theorem add_cancel_right (s t : Block) : (s.add t).add t = s := by
  simp only [add, Column.add_cancel_right]

theorem unshift_shift : LeftInverse unshift shift := fun _ => rfl

theorem shift_unshift : LeftInverse shift unshift := fun _ => rfl

theorem map_unsubstitute : LeftInverse (map (Column.map unsubstitute)) (map (Column.map substitute)) :=
  map_leftInverse (Column.map_leftInverse unsubstitute_substitute)

theorem map_substitute : LeftInverse (map (Column.map substitute)) (map (Column.map unsubstitute)) :=
  map_leftInverse (Column.map_leftInverse substitute_unsubstitute)

theorem map_unmix : LeftInverse (map Column.unmix) (map Column.mix) :=
  map_leftInverse Column.unmix_mix

theorem map_mix : LeftInverse (map Column.mix) (map Column.unmix) :=
  map_leftInverse Column.mix_unmix

end Block

theorem decryptRounds_encryptRounds (keys : List Block) : LeftInverse (decryptRounds keys) (encryptRounds keys) := by
  intro s
  induction keys generalizing s with
  | nil => rfl
  | cons key keys ih =>
    cases keys with
    | nil => rw [encryptRounds, decryptRounds, Block.add_cancel_right, Block.unshift_shift, Block.map_unsubstitute]
    | cons key' keys => rw [encryptRounds, decryptRounds, ih, Block.add_cancel_right, Block.map_unmix,
        Block.unshift_shift, Block.map_unsubstitute]

theorem encryptRounds_decryptRounds (keys : List Block) : LeftInverse (encryptRounds keys) (decryptRounds keys) := by
  intro s
  induction keys with
  | nil => rfl
  | cons key keys ih =>
    cases keys with
    | nil => rw [decryptRounds, encryptRounds, Block.map_substitute, Block.shift_unshift, Block.add_cancel_right]
    | cons key' keys => rw [decryptRounds, encryptRounds, Block.map_substitute, Block.shift_unshift, Block.map_mix,
        Block.add_cancel_right, ih]

theorem decrypt_encrypt (keys : List Block) : LeftInverse (decrypt keys) (encrypt keys) := by
  intro s
  cases keys with
  | nil => rfl
  | cons key keys => rw [encrypt, decrypt, decryptRounds_encryptRounds, Block.add_cancel_right]

theorem encrypt_decrypt (keys : List Block) : LeftInverse (encrypt keys) (decrypt keys) := by
  intro s
  cases keys with
  | nil => rfl
  | cons key keys => rw [decrypt, encrypt, Block.add_cancel_right, encryptRounds_decryptRounds]

end HardwareWallet.Aes
