import HardwareWallet.Value.Access

namespace HardwareWallet

namespace Number

variable {a b : Number} {m n : Int}

theorem compare?_of_whole? (ha : a.whole? = some m) (hb : b.whole? = some n) :
    a.compare? b = (whole m).compare? (whole n) := by
  have hm : a.content = .inl m := Sum.getLeft?_eq_some_iff.mp ha
  have hn : b.content = .inl n := Sum.getLeft?_eq_some_iff.mp hb
  unfold compare?
  rw [hm, hn]
  rfl

theorem lt_of_whole? (ha : a.whole? = some m) (hb : b.whole? = some n) : a.lt b = decide (m < n) := by
  rw [← lt_whole, lt, lt, compare?_of_whole? ha hb]

theorem le_of_whole? (ha : a.whole? = some m) (hb : b.whole? = some n) : a.le b = decide (m ≤ n) := by
  rw [← le_whole, le, le, lt, lt, compare?_of_whole? ha hb]

theorem agrees_of_whole? (ha : a.whole? = some m) (hb : b.whole? = some n) : a.agrees b = decide (m = n) := by
  rw [← agrees_whole, agrees, agrees, compare?_of_whole? ha hb]

end Number

namespace Value

variable {v w : Value} {a : Number} {m n : Int}

theorem comparable_eq_ok_iff {operator : String} : v.comparable operator = .ok a ↔ v.number? = some a := by
  rw [comparable]
  cases v.number? with
  | none => exact ⟨nofun, nofun⟩
  | some b => rw [Except.ok.injEq, Option.some_inj]

theorem agrees_of_number? (h : v.number? = some a) : v.agrees w = w.number?.any a.agrees := by
  cases v with
  | truth b | int n | rounded x =>
    obtain rfl := Option.some.inj h
    rfl
  | _ => cases h

theorem agrees_iff_of_int? (hv : v.int? = some m) (hw : w.int? = some n) : v.agrees w = true ↔ m = n := by
  obtain ⟨a, ha, hm⟩ := Option.bind_eq_some_iff.mp hv
  obtain ⟨b, hb, hn⟩ := Option.bind_eq_some_iff.mp hw
  rw [agrees_of_number? ha, hb, Option.any_some, Number.agrees_of_whole? hm hn, decide_eq_true_iff]

end Value

end HardwareWallet
