import HardwareWallet.Aes.Block

namespace HardwareWallet.Aes

def nextKeys (constant : UInt8) (p q : Block) : Block × Block :=
  let t := (q.k3.rotate.map substitute).add ⟨constant, 0, 0, 0⟩
  let c0 := p.k0.add t
  let c1 := p.k1.add c0
  let c2 := p.k2.add c1
  let c3 := p.k3.add c2
  let c4 := q.k0.add (c3.map substitute)
  let c5 := q.k1.add c4
  let c6 := q.k2.add c5
  let c7 := q.k3.add c6
  (⟨c0, c1, c2, c3⟩, ⟨c4, c5, c6, c7⟩)

def expand : List UInt8 → Block → Block → List Block
  | [], p, _ => [p]
  | constant :: constants, p, q =>
    let (p', q') := nextKeys constant p q
    p :: q :: expand constants p' q'

def roundKeys (high low : Block) : List Block :=
  expand [1, 2, 4, 8, 16, 32, 64] high low

def encryptRounds : List Block → Block → Block
  | [], s => s
  | [last], s => (s.map (Column.map substitute)).shift.add last
  | key :: key' :: keys, s =>
    encryptRounds (key' :: keys) (((s.map (Column.map substitute)).shift.map Column.mix).add key)

def decryptRounds : List Block → Block → Block
  | [], s => s
  | [last], s => (s.add last).unshift.map (Column.map unsubstitute)
  | key :: key' :: keys, s =>
    ((((decryptRounds (key' :: keys) s).add key).map Column.unmix).unshift).map (Column.map unsubstitute)

def encrypt (keys : List Block) (s : Block) : Block :=
  match keys with
  | [] => s
  | key :: keys => encryptRounds keys (s.add key)

def decrypt (keys : List Block) (s : Block) : Block :=
  match keys with
  | [] => s
  | key :: keys => (decryptRounds keys s).add key

end HardwareWallet.Aes
