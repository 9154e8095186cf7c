import HardwareWallet.Number.Shortest
import HardwareWallet.Text.Numeral

/-!
Numbers as they are given: whole ones of any size, numbers of 64 bits, and the truth values, which count as
one and zero. Whole numbers stay whole, and what a number of 64 bits takes part in is rounded to one.
-/

namespace HardwareWallet

inductive Number where
  | truth (b : Bool)
  | whole (n : Int)
  | rounded (x : Binary64)
  deriving DecidableEq

namespace Number

def content : Number → Int ⊕ Binary64
  | truth b => .inl (if b then 1 else 0)
  | whole n => .inl n
  | rounded x => .inr x

def whole? (a : Number) : Option Int :=
  a.content.getLeft?

def compare? (a b : Number) : Option Ordering :=
  match a.content, b.content with
  | .inl m, .inl n => some (compare m n)
  | .inl m, .inr y => (y.compareInt? m).map Ordering.swap
  | .inr x, .inl n => x.compareInt? n
  | .inr x, .inr y => x.compare? y

def lt (a b : Number) : Bool :=
  a.compare? b = some .lt

def le (a b : Number) : Bool :=
  a.lt b || a.compare? b = some .eq

def agrees (a b : Number) : Bool :=
  a.compare? b = some .eq

theorem compare?_whole (m n : Int) :
    (whole m).compare? (whole n) = some (if m < n then .lt else if m = n then .eq else .gt) := rfl

theorem lt_whole (m n : Int) : (whole m).lt (whole n) = decide (m < n) := by
  simp only [lt, compare?_whole]
  by_cases h : m < n <;> by_cases e : m = n <;> simp [h, e]

theorem agrees_whole (m n : Int) : (whole m).agrees (whole n) = decide (m = n) := by
  simp only [agrees, compare?_whole]
  by_cases h : m < n
  · have : m ≠ n := by omega
    simp [h, this]
  · by_cases e : m = n <;> simp [h, e]

theorem le_whole (m n : Int) : (whole m).le (whole n) = decide (m ≤ n) := by
  have : decide (m ≤ n) = (decide (m < n) || decide (m = n)) := by
    by_cases h : m ≤ n <;> by_cases e : m = n <;> simp [e] <;> omega
  rw [this, ← lt_whole, ← agrees_whole]
  rfl

def min (a b : Number) : Number :=
  if b.lt a then b else a

def max (a b : Number) : Number :=
  if a.lt b then b else a

def succ (a : Number) : Number :=
  match a.content with
  | .inl n => whole (n + 1)
  | .inr x => rounded (x.add (.ofInt 1))

def sub? (a b : Number) : Option Number :=
  match a.content, b.content with
  | .inl m, .inl n => some (whole (m - n))
  | .inl m, .inr y => (Binary64.ofInt? m).map fun x => rounded (x.sub y)
  | .inr x, .inl n => (Binary64.ofInt? n).map fun y => rounded (x.sub y)
  | .inr x, .inr y => some (rounded (x.sub y))

def times (k : Nat) (a : Number) : Number :=
  match a.content with
  | .inl n => whole (k * n)
  | .inr x => rounded (x.times k)

def floorQuotient (k : Nat) (a : Number) : Number :=
  match a.content with
  | .inl n => whole (n / k)
  | .inr x => rounded (x.floorQuotient k)

def isWritable : Number → Bool
  | whole n => Text.isWritable n
  | _ => true

def text : Number → String
  | truth true => "True"
  | truth false => "False"
  | whole n => toString n
  | rounded x => x.text

end Number

end HardwareWallet
