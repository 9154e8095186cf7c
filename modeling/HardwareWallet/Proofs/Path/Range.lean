import HardwareWallet.Proofs.ExtendedKey.Derivation
import HardwareWallet.Proofs.ExtendedKey.Faults
import HardwareWallet.Proofs.Path.Text

namespace HardwareWallet

variable {α : Type}

def Packs (x : Except Error α) : Prop :=
  ∀ e, x = .error e → e.kind ≠ .packing

namespace Path

variable {v : Value} {path : Path} {cs : List Char} {i n : ℤ} {s : String}

def InRange (v : Value) : Prop :=
  ∃ i, v.int? = some i ∧ 0 ≤ i ∧ i < 2 ^ 32

theorem isChildNumber_iff : isChildNumber i = true ↔ 0 ≤ i ∧ i < 2 ^ 32 := by
  rw [isChildNumber, Bool.and_eq_true, decide_eq_true_eq, decide_eq_true_eq]
  rfl

theorem inRange_int : InRange (.int i) ↔ 0 ≤ i ∧ i < 2 ^ 32 :=
  ⟨fun ⟨_, hi, h⟩ => Option.some.inj hi ▸ h, fun h => ⟨i, rfl, h⟩⟩

theorem inRange_map_int {p : List ℤ} : (∀ v ∈ p.map Value.int, InRange v) ↔ ∀ i ∈ p, 0 ≤ i ∧ i < 2 ^ 32 := by
  simp only [List.forall_mem_map, inRange_int]

theorem packChild_eq_ok_iff : (∃ index, ExtendedKey.packChild v = .ok index) ↔ InRange v := by
  rw [ExtendedKey.packChild, InRange]
  cases hv : v.int? with
  | none => simp
  | some i =>
    dsimp only
    by_cases hi : isChildNumber i = true
    · rw [if_pos hi]
      exact ⟨fun _ => ⟨i, rfl, isChildNumber_iff.mp hi⟩, fun _ => ⟨_, rfl⟩⟩
    · rw [if_neg hi]
      constructor
      · rintro ⟨index, h⟩
        cases h
      · rintro ⟨j, hj, h⟩
        obtain rfl := Option.some.inj hj
        exact absurd (isChildNumber_iff.mpr h) hi

theorem packs_packChild (h : InRange v) : Packs (ExtendedKey.packChild v) := by
  obtain ⟨index, hi⟩ := packChild_eq_ok_iff.mpr h
  rw [hi]
  exact nofun

theorem packs_derive (k : ExtendedKey) (h : ∀ v ∈ path, InRange v) : Packs (k.derive path) :=
  ExtendedKey.errorsIn_derive (P := (· ≠ .packing)) nofun nofun nofun k fun v hv => packs_packChild (h v hv)

theorem inRange_of_child {k next : ExtendedKey} (h : k.child v = .ok next) : InRange v := by
  rw [ExtendedKey.child] at h
  split at h
  · cases hk : k.privateKey with
    | none =>
      rw [ExtendedKey.derivePrivate, hk] at h
      cases h
    | some key =>
      obtain ⟨_, index, _, _, -, hi, -⟩ := ExtendedKey.derivePrivate_eq_ok hk h
      exact packChild_eq_ok_iff.mp ⟨index, hi⟩
  · obtain ⟨_, index, _, _, _, -, -, hi, -⟩ := ExtendedKey.derivePublic_eq_ok_iff.mp h
    exact packChild_eq_ok_iff.mp ⟨index, hi⟩

theorem inRange_of_derive {k node : ExtendedKey} (h : k.derive path = .ok node) : ∀ v ∈ path, InRange v := by
  induction path generalizing k with
  | nil => nofun
  | cons v path ih =>
    obtain ⟨next, hn, h⟩ := exists_of_bind_eq_ok h
    exact List.forall_mem_cons.mpr ⟨inRange_of_child hn, ih h⟩

theorem ofItem_cases (v : Value) :
    ¬ InRange v ∧ ofItem v = .error ((Error.childNumber v).showing v) ∨ InRange v ∧ ofItem v = .ok v := by
  rw [ofItem, InRange]
  cases hv : v.int? with
  | none => exact .inl ⟨nofun, rfl⟩
  | some i =>
    by_cases hi : isChildNumber i = true
    · exact .inr ⟨⟨i, rfl, isChildNumber_iff.mp hi⟩, if_pos hi⟩
    · refine .inl ⟨?_, if_neg hi⟩
      rintro ⟨j, hj, hr⟩
      obtain rfl := Option.some.inj hj
      exact hi (isChildNumber_iff.mpr hr)

def StopsAt (items : List Value) (v : Value) : Prop :=
  ∃ before after, items = before ++ v :: after ∧ (∀ w ∈ before, InRange w) ∧ ¬ InRange v

theorem stopsAt_cons_iff {w : Value} {items : List Value} (hw : InRange w) :
    StopsAt (w :: items) v ↔ StopsAt items v := by
  constructor
  · rintro ⟨before, after, he, hb, hv⟩
    cases before with
    | nil =>
      obtain rfl : w = v := (List.cons.inj he).1
      exact absurd hw hv
    | cons w' before => exact ⟨before, after, (List.cons.inj he).2, (List.forall_mem_cons.mp hb).2, hv⟩
  · rintro ⟨before, after, rfl, hb, hv⟩
    exact ⟨w :: before, after, rfl, List.forall_mem_cons.mpr ⟨hw, hb⟩, hv⟩

theorem stopsAt_unique {w : Value} {items : List Value} (h : StopsAt items v) (h' : StopsAt items w) : v = w := by
  obtain ⟨before, after, rfl, hb, hv⟩ := h
  induction before with
  | nil =>
    obtain ⟨before', after', he, hb', -⟩ := h'
    cases before' with
    | nil => exact (List.cons.inj he).1
    | cons u before' =>
      obtain rfl : v = u := (List.cons.inj he).1
      exact absurd (hb' v List.mem_cons_self) hv
  | cons u before ih =>
    obtain ⟨hu, hb⟩ := List.forall_mem_cons.mp hb
    exact ih ((stopsAt_cons_iff hu).mp h') hb

theorem mapM_ofItem_cases (items : List Value) :
    (∃ v, StopsAt items v ∧ items.mapM ofItem = .error ((Error.childNumber v).showing v)) ∨
      items.mapM ofItem = .ok items ∧ ∀ v ∈ items, InRange v := by
  induction items with
  | nil => exact .inr ⟨rfl, nofun⟩
  | cons v items ih =>
    rw [List.mapM_cons]
    rcases ofItem_cases v with ⟨hr, hv⟩ | ⟨hr, hv⟩
    · rw [hv]
      exact .inl ⟨v, ⟨[], items, rfl, nofun, hr⟩, rfl⟩
    · rw [hv, ok_bind]
      rcases ih with ⟨w, hw, he⟩ | ⟨ho, hrs⟩
      · rw [he]
        exact .inl ⟨w, (stopsAt_cons_iff hr).mpr hw, rfl⟩
      · rw [ho]
        exact .inr ⟨rfl, List.forall_mem_cons.mpr ⟨hr, hrs⟩⟩

def numeral (cs : List Char) : List Char :=
  if cs.getLast?.any (fun c => decide (IsMark c)) then cs.dropLast else cs

def written? (cs : List Char) : Option ℤ :=
  if cs.head? = some '-' then (Text.readInt? cs).map fun n => (n.natAbs : ℤ)
  else Text.readInt? (numeral cs)

def numbers? (s : String) : Option (List ℤ) :=
  if s.isEmpty then some [] else (components s.toList).mapM written?

theorem inRange_harden : 0 ≤ harden n ∧ harden n < 2 ^ 32 ↔ 0 ≤ n ∧ n < 2 ^ 32 := by
  have hf : hardenedFlag = 2 ^ 31 := rfl
  rw [harden]
  split
  · exact Iff.rfl
  · rename_i h
    rw [isHardened_iff] at h
    omega

theorem component?_cases (cs : List Char) :
    written? cs = none ∧ component? cs = none ∨
      ∃ n i, written? cs = some n ∧ component? cs = some i ∧ (i = harden n ∨ i = n) := by
  by_cases hm : cs.head? = some '-'
  · obtain ⟨rest, rfl⟩ := List.head?_eq_some_iff.mp hm
    rw [written?, if_pos hm, component?_of_minus]
    cases Text.readInt? ('-' :: rest) with
    | none => exact .inl ⟨rfl, rfl⟩
    | some n => exact .inr ⟨_, _, rfl, rfl, .inl rfl⟩
  · rw [written?, if_neg hm, numeral]
    by_cases hl : cs.getLast?.any (fun c => decide (IsMark c)) = true
    · rw [if_pos hl]
      obtain ⟨c, hc, hmark⟩ := (Option.any_eq_true _ _).mp hl
      obtain ⟨ds, rfl⟩ := List.getLast?_eq_some_iff.mp hc
      have hd : ds.head? ≠ some '-' := by
        intro hd
        rw [List.head?_append, hd] at hm
        exact hm rfl
      rw [component?_of_mark hd (of_decide_eq_true hmark), List.dropLast_concat]
      cases Text.readInt? ds with
      | none => exact .inl ⟨rfl, rfl⟩
      | some n => exact .inr ⟨_, _, rfl, rfl, .inl rfl⟩
    · have hp : ∀ c, cs.getLast? = some c → ¬ IsMark c := by
        intro c hc hmark
        exact hl ((Option.any_eq_true _ _).mpr ⟨c, hc, decide_eq_true hmark⟩)
      rw [if_neg hl, component?_of_plain hm hp]
      cases Text.readInt? cs with
      | none => exact .inl ⟨rfl, rfl⟩
      | some n => exact .inr ⟨_, _, rfl, rfl, .inr rfl⟩

theorem mapM_component?_cases (pieces : List (List Char)) :
    pieces.mapM written? = none ∧ pieces.mapM component? = none ∨
      ∃ ns p, pieces.mapM written? = some ns ∧ pieces.mapM component? = some p ∧
        ((∀ i ∈ p, 0 ≤ i ∧ i < 2 ^ 32) ↔ ∀ n ∈ ns, 0 ≤ n ∧ n < 2 ^ 32) := by
  induction pieces with
  | nil => exact .inr ⟨[], [], rfl, rfl, Iff.rfl⟩
  | cons cs pieces ih =>
    rw [List.mapM_cons, List.mapM_cons]
    rcases component?_cases cs with ⟨hw, hc⟩ | ⟨n, i, hw, hc, hi⟩
    · rw [hw, hc]
      exact .inl ⟨rfl, rfl⟩
    · rcases ih with ⟨hws, hcs⟩ | ⟨ns, p, hws, hcs, hp⟩
      · rw [hw, hc, hws, hcs]
        exact .inl ⟨rfl, rfl⟩
      · rw [hw, hc, hws, hcs]
        refine .inr ⟨n :: ns, i :: p, rfl, rfl, ?_⟩
        have hin : 0 ≤ i ∧ i < 2 ^ 32 ↔ 0 ≤ n ∧ n < 2 ^ 32 := by
          rcases hi with rfl | rfl
          · exact inRange_harden
          · exact Iff.rfl
        rw [List.forall_mem_cons, List.forall_mem_cons, hin, hp]

theorem parse?_cases (s : String) :
    numbers? s = none ∧ parse? s = none ∨
      ∃ ns p, numbers? s = some ns ∧ parse? s = some p ∧
        ((∀ i ∈ p, 0 ≤ i ∧ i < 2 ^ 32) ↔ ∀ n ∈ ns, 0 ≤ n ∧ n < 2 ^ 32) := by
  rw [numbers?, parse?]
  split
  · exact .inr ⟨[], [], rfl, rfl, Iff.rfl⟩
  · exact mapM_component?_cases _

def Guarded (given : Value) : Prop :=
  (∃ e, ofArgument given = .error e ∧ e.kind = .badArgument) ∨
    ∃ path, ofArgument given = .ok path ∧ (∀ v ∈ path, InRange v) ∧ ∀ k : ExtendedKey, Packs (k.derive path)

theorem ofArgument_array (items : List Value) : ofArgument (.array items) = items.mapM ofItem := rfl

theorem guarded_array_iff (items : List Value) :
    (Guarded (.array items) ↔ ∀ v, StopsAt items v → v.isWritable = true) ∧
      (Guarded (.array items) ∨ ofArgument (.array items) = .error .unwritable) := by
  rcases mapM_ofItem_cases items with ⟨v, hv, he⟩ | ⟨ho, hr⟩
  · cases hw : v.isWritable with
    | true =>
      have hg : Guarded (.array items) := .inl ⟨.childNumber v, he.trans (congrArg Except.error (if_pos hw)), rfl⟩
      exact ⟨⟨fun _ w h => stopsAt_unique hv h ▸ hw, fun _ => hg⟩, .inl hg⟩
    | false =>
      have hu : ofArgument (.array items) = .error .unwritable :=
        he.trans (congrArg Except.error (if_neg (Bool.eq_false_iff.mp hw)))
      refine ⟨⟨?_, fun h => absurd (h v hv) (Bool.eq_false_iff.mp hw)⟩, .inr hu⟩
      rintro (⟨e, h, hk⟩ | ⟨path, h, -⟩)
      · obtain rfl := Except.error.inj (hu.symm.trans h)
        cases hk
      · cases hu.symm.trans h
  · have hg : Guarded (.array items) := .inr ⟨items, ho, hr, fun k => packs_derive k hr⟩
    refine ⟨⟨fun _ v hv => ?_, fun _ => hg⟩, .inl hg⟩
    obtain ⟨before, after, rfl, -, hv⟩ := hv
    exact absurd (hr v (List.mem_append_right _ List.mem_cons_self)) hv

theorem guarded_of_refused (h : parse? s = none) : Guarded (.text s) := by
  refine .inl ⟨.pathArgument s, ?_, rfl⟩
  rw [ofArgument, h]

theorem guarded_iff_of_read {p : List ℤ} (h : parse? s = some p) :
    Guarded (.text s) ↔ ∀ v ∈ p.map Value.int, InRange v := by
  have ho : ofArgument (.text s) = .ok (p.map .int) := by rw [ofArgument, h]
  constructor
  · rintro (⟨e, he, -⟩ | ⟨path, hp, hr, -⟩)
    · rw [ho] at he
      cases he
    · rw [ho] at hp
      exact Except.ok.inj hp ▸ hr
  · intro hr
    exact .inr ⟨_, ho, hr, fun k => packs_derive k hr⟩

/-- Child numbers given one by one are guarded just if the first that is none can be written, so that the message for it
    can be. A path text is guarded just if every number in its components is in range. Otherwise it is let through all
    the same, and no key is derived along it. -/
theorem guarded_iff (items : List Value) (s : String) :
    (Guarded (.array items) ↔ ∀ v, StopsAt items v → v.isWritable = true) ∧
    (Guarded (.array items) ∨ ofArgument (.array items) = .error .unwritable) ∧
    (Guarded (.text s) ↔ ∀ ns, numbers? s = some ns → ∀ n ∈ ns, 0 ≤ n ∧ n < 2 ^ 32) ∧
    (Guarded (.text s) ∨
      ∃ path, ofArgument (.text s) = .ok path ∧ ∀ (k node : ExtendedKey), k.derive path ≠ .ok node) := by
  obtain ⟨harray, hrefused⟩ := guarded_array_iff items
  refine ⟨harray, hrefused, ?_⟩
  rcases parse?_cases s with ⟨hn, hp⟩ | ⟨ns, p, hn, hp, hr⟩
  · have hg := guarded_of_refused hp
    refine ⟨⟨fun _ ns hs => ?_, fun _ => hg⟩, .inl hg⟩
    rw [hn] at hs
    cases hs
  · have hg := guarded_iff_of_read hp
    constructor
    · rw [hg, inRange_map_int, hr, hn]
      exact ⟨fun h _ hs => Option.some.inj hs ▸ h, fun h => h ns rfl⟩
    · by_cases h : Guarded (.text s)
      · exact .inl h
      · refine .inr ⟨p.map .int, by rw [ofArgument, hp], fun k node hd => h ?_⟩
        exact hg.mpr (inRange_of_derive hd)

theorem ofArgument_of_wide (hi : ¬ isChildNumber i = true) (hw : Text.isWritable i = true) :
    ofArgument (.array [.int i]) = .error (.childNumber (.int i)) := by
  have ho : ofItem (.int i) = .error (.childNumber (.int i)) :=
    (if_neg hi).trans (congrArg Except.error (if_pos hw))
  rw [ofArgument_array, List.mapM_cons, ho]
  rfl

theorem wide_text_let_through :
    ofArgument (.array [.int 4294967296]) = .error (.childNumber (.int 4294967296)) ∧
    ofArgument (.text "4294967296") = .ok [.int 4294967296] ∧ ¬ Guarded (.text "4294967296") ∧
    ∀ (k : ExtendedKey) (key : Bytes), k.isPrivate = true → k.privateKey = some key →
      k.derive [.int 4294967296] = .error (.childNumberRange 4294967296) := by
  have hp : parse? "4294967296" = some [4294967296] := by decide +kernel
  have hw : Text.isWritable 4294967296 = true := by decide +kernel
  refine ⟨ofArgument_of_wide (by decide) hw, ?_, ?_, fun k key hv hk => ?_⟩
  · rw [ofArgument, hp]
    rfl
  · rw [guarded_iff_of_read hp, inRange_map_int]
    decide
  · rw [ExtendedKey.derive, ExtendedKey.child_of_isPrivate hv, ExtendedKey.derivePrivate, hk]
    rfl

end Path

end HardwareWallet
