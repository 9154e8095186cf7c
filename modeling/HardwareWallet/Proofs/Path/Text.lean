import Mathlib.Data.List.Forall2
import HardwareWallet.Path
import HardwareWallet.Proofs.Attempt
import HardwareWallet.Proofs.Text.Numeral

namespace HardwareWallet

theorem mapM_eq_some_iff {α β : Type} {f : α → Option β} {as : List α} {bs : List β} :
    as.mapM f = some bs ↔ List.Forall₂ (fun a b => f a = some b) as bs := by
  induction as generalizing bs with
  | nil =>
    rw [List.mapM_nil, List.forall₂_nil_left_iff]
    exact Option.some_inj.trans eq_comm
  | cons a as ih =>
    rw [List.mapM_cons, List.forall₂_cons_left_iff]
    constructor
    · intro h
      obtain ⟨b, hb, h⟩ := Option.bind_eq_some_iff.mp h
      obtain ⟨rest, hr, h⟩ := Option.bind_eq_some_iff.mp h
      exact ⟨b, rest, hb, ih.mp hr, (Option.some.inj h).symm⟩
    · rintro ⟨b, rest, hb, hr, rfl⟩
      exact Option.bind_eq_some_iff.mpr ⟨b, hb, Option.bind_eq_some_iff.mpr ⟨rest, ih.mpr hr, rfl⟩⟩

namespace Path

variable {cs : List Char} {i n : ℤ} {p : List ℤ} {s : String} {v : Value}

theorem bits_eq_ok (h : bits v = .ok n) : v.int? = some n := by
  rw [bits] at h
  split at h
  · rename_i m hm
    rw [hm, Except.ok.inj h]
  · cases h

theorem isHardened_iff : isHardened i = true ↔ i / 2 ^ 31 % 2 = 1 := by
  rw [isHardened, hardenedFlag, decide_eq_true_eq]
  rfl

theorem isHardened_iff_le (h0 : 0 ≤ i) (h : i < 2 ^ 32) : isHardened i = true ↔ 2 ^ 31 ≤ i := by
  rw [isHardened_iff]
  omega

theorem harden_eq_add (h0 : 0 ≤ i) (h : i < 2 ^ 31) : harden i = i + 2 ^ 31 := by
  have hi : ¬ isHardened i = true := by
    rw [isHardened_iff]
    omega
  rw [harden, if_neg hi]
  rfl

theorem soften_eq_sub (h : 2 ^ 31 ≤ i) (hu : i < 2 ^ 32) : soften i = i - 2 ^ 31 := by
  rw [soften, if_pos ((isHardened_iff_le (by omega) hu).mpr h)]
  rfl

theorem component?_of_minus (cs : List Char) :
    component? ('-' :: cs) = (Text.readInt? ('-' :: cs)).map fun n => harden n.natAbs := rfl

def IsMark (c : Char) : Prop :=
  c = 'h' ∨ c = '\''

instance (c : Char) : Decidable (IsMark c) :=
  inferInstanceAs (Decidable (_ ∨ _))

theorem component?_of_mark {c : Char} (hm : cs.head? ≠ some '-') (hc : IsMark c) :
    component? (cs ++ [c]) = (Text.readInt? cs).map harden := by
  have hh : c ≠ '-' := by rcases hc with rfl | rfl <;> decide
  have hs : ∀ rest, cs ++ [c] = '-' :: rest → False := by
    intro rest he
    cases cs with
    | nil => exact hh (List.cons.inj he).1
    | cons d cs => exact hm (congrArg some (List.cons.inj he).1)
  unfold component?
  split
  · exact (hs _ ‹_›).elim
  · rw [List.dropLast_concat]
  · rw [List.dropLast_concat]
  · rename_i hl hq
    rw [List.getLast?_concat] at hl hq
    rcases hc with rfl | rfl
    · exact absurd rfl hl
    · exact absurd rfl hq

theorem component?_of_plain (hm : cs.head? ≠ some '-') (hl : ∀ c, cs.getLast? = some c → ¬ IsMark c) :
    component? cs = Text.readInt? cs := by
  unfold component?
  split
  · exact absurd rfl hm
  · exact absurd (.inl rfl) (hl _ ‹_›)
  · exact absurd (.inr rfl) (hl _ ‹_›)
  · rfl

theorem splitAt_eq_splitOn (separator : Char) (cs : List Char) : splitAt separator cs = cs.splitOn separator := by
  induction cs with
  | nil => exact (List.splitOn_nil separator).symm
  | cons c cs ih =>
    rw [splitAt, List.splitOn_cons_eq_if_modifyHead, ih]
    simp only [beq_iff_eq]
    split
    · rfl
    · obtain ⟨piece, pieces, h⟩ := List.exists_cons_of_ne_nil (List.splitOn_ne_nil separator cs)
      rw [h]
      rfl

theorem splitAt_intercalate {pieces : List (List Char)} (hne : pieces ≠ []) (h : ∀ piece ∈ pieces, '/' ∉ piece) :
    splitAt '/' (['/'].intercalate pieces) = pieces := by
  rw [splitAt_eq_splitOn, List.splitOn_intercalate '/' h hne]

inductive Hardening where
  | letter
  | apostrophe
  | minus

def Hardening.write (way : Hardening) (i : ℤ) : String :=
  if i < 2 ^ 31 then toString i
  else match way with
  | letter => toString (i % 2 ^ 31) ++ "h"
  | apostrophe => toString (i % 2 ^ 31) ++ "'"
  | minus => "-" ++ toString (i % 2 ^ 31)

def spell (led : Bool) (choices : List (ℤ × Hardening)) : String :=
  "/".intercalate ((if led then ["m"] else []) ++ choices.map fun choice => choice.2.write choice.1)

def Hardening.mark (way : Hardening) (digits : List Char) : List Char :=
  match way with
  | letter => digits ++ ['h']
  | apostrophe => digits ++ ['\'']
  | minus => '-' :: digits

theorem toList_toString (n : ℕ) : (toString (n : ℤ)).toList = Nat.toDigits 10 n := by
  have hs : toString (n : ℤ) = toString n := rfl
  rw [hs, Nat.toString_eq_ofList_toDigits, String.toList_ofList]

-- Bit 31 is taken off first: what is left is written in decimal digits, and the mark stands for the bit.
theorem exists_low (h0 : 0 ≤ i) (h : i < 2 ^ 32) : ∃ n : ℕ, n < 2 ^ 31 ∧ (i = n ∨ i = n + 2 ^ 31) :=
  ⟨(i % 2 ^ 31).toNat, by omega, by omega⟩

theorem toList_write_plain (way : Hardening) {n : ℕ} (h : n < 2 ^ 31) :
    (way.write n).toList = Nat.toDigits 10 n := by
  rw [Hardening.write.eq_def, if_pos (by omega), toList_toString]

theorem toList_write_hardened (way : Hardening) {n : ℕ} (h : n < 2 ^ 31) :
    (way.write (n + 2 ^ 31)).toList = way.mark (Nat.toDigits 10 n) := by
  have hl : (n + 2 ^ 31 : ℤ) % 2 ^ 31 = n := by omega
  rw [Hardening.write.eq_def, if_neg (by omega), hl]
  cases way with
  | letter => exact String.toList_append.trans (congrArg (· ++ ['h']) (toList_toString n))
  | apostrophe => exact String.toList_append.trans (congrArg (· ++ ['\'']) (toList_toString n))
  | minus => exact String.toList_append.trans (congrArg ('-' :: ·) (toList_toString n))

theorem head?_toDigits (n : ℕ) : (Nat.toDigits 10 n).head? ≠ some '-' := fun h =>
  Text.ne_of_isDigit (Text.isDigit_of_mem_toDigits (List.mem_of_mem_head? h)) rfl rfl

theorem not_isMark_of_isDigit {c : Char} (h : c.isDigit = true) : ¬ IsMark c := by
  rintro (rfl | rfl)
  · cases h
  · cases h

theorem component?_toDigits {n : ℕ} (h : n < 2 ^ 31) : component? (Nat.toDigits 10 n) = some (n : ℤ) := by
  rw [component?_of_plain (head?_toDigits n), Text.readInt?_toDigits (Text.lt_pow_maxDigits (by omega))]
  intro c hc
  exact not_isMark_of_isDigit (Text.isDigit_of_mem_toDigits (List.mem_of_mem_getLast? hc))

theorem component?_mark (way : Hardening) {n : ℕ} (h : n < 2 ^ 31) :
    component? (way.mark (Nat.toDigits 10 n)) = some (n + 2 ^ 31 : ℤ) := by
  have hl : n < 10 ^ Text.maxDigits := Text.lt_pow_maxDigits (by omega)
  have hh : harden n = n + 2 ^ 31 := harden_eq_add (by omega) (by omega)
  cases way with
  | letter => rw [Hardening.mark, component?_of_mark (head?_toDigits n) (.inl rfl), Text.readInt?_toDigits hl,
      Option.map_some, hh]
  | apostrophe => rw [Hardening.mark, component?_of_mark (head?_toDigits n) (.inr rfl), Text.readInt?_toDigits hl,
      Option.map_some, hh]
  | minus => rw [Hardening.mark, component?_of_minus, Text.readInt?_minus_toDigits hl, Option.map_some,
      Int.natAbs_neg, Int.natAbs_natCast, hh]

theorem component?_write (way : Hardening) (h0 : 0 ≤ i) (h : i < 2 ^ 32) :
    component? (way.write i).toList = some i := by
  obtain ⟨n, hn, rfl | rfl⟩ := exists_low h0 h
  · rw [toList_write_plain way hn, component?_toDigits hn]
  · rw [toList_write_hardened way hn, component?_mark way hn]

theorem separator_notMem_write (way : Hardening) (h0 : 0 ≤ i) (h : i < 2 ^ 32) : '/' ∉ (way.write i).toList := by
  have hd (n : ℕ) : '/' ∉ Nat.toDigits 10 n := fun hm => Text.ne_of_isDigit (Text.isDigit_of_mem_toDigits hm) rfl rfl
  obtain ⟨n, hn, rfl | rfl⟩ := exists_low h0 h
  · rw [toList_write_plain way hn]
    exact hd n
  · rw [toList_write_hardened way hn]
    cases way <;> simpa [Hardening.mark] using hd n

theorem components_cons (first : List Char) {rest : List (List Char)} (h : ∀ piece ∈ first :: rest, '/' ∉ piece) :
    components (['/'].intercalate (first :: rest)) = if first = ['m'] then rest else first :: rest := by
  rw [components, splitAt_intercalate (List.cons_ne_nil first rest) h]
  split
  · rename_i he
    obtain ⟨rfl, rfl⟩ := List.cons.inj he
    rw [if_pos rfl]
  · rename_i he
    rw [if_neg fun hf => he rest (congrArg (· :: rest) hf)]

theorem parse?_of_ne (h : s.toList ≠ []) : parse? s = (components s.toList).mapM component? := by
  have he : ¬ s.isEmpty = true := by
    rw [String.isEmpty_iff]
    rintro rfl
    exact h rfl
  rw [parse?, if_neg he]

theorem toList_ne_nil_of_components (h : components s.toList ≠ [[]]) : s.toList ≠ [] := by
  intro ht
  rw [ht] at h
  exact h rfl

theorem parse?_intercalate {pieces : List String} {p : List ℤ} (hs : ∀ piece ∈ pieces, '/' ∉ piece.toList)
    (hp : (pieces.map String.toList).mapM component? = some p) (led : Bool) :
    parse? ("/".intercalate ((if led then ["m"] else []) ++ pieces)) = some p := by
  have hs' : ∀ piece ∈ pieces.map String.toList, '/' ∉ piece := List.forall_mem_map.mpr hs
  -- Neither the empty component nor `m` is read.
  have hr := mapM_eq_some_iff.mp hp
  have hne : pieces.map String.toList ≠ [[]] := by
    intro he
    rw [he] at hp
    cases hp
  cases led with
  | true =>
    have ht : ("/".intercalate (["m"] ++ pieces)).toList = ['/'].intercalate (['m'] :: pieces.map String.toList) :=
      String.toList_intercalate
    have hc := components_cons ['m'] (List.forall_mem_cons.mpr ⟨by decide, hs'⟩)
    rw [if_pos rfl, ← ht] at hc
    rw [if_pos rfl, parse?_of_ne (toList_ne_nil_of_components (hc ▸ hne)), hc, hp]
  | false =>
    rw [if_neg Bool.false_ne_true, List.nil_append]
    cases pieces with
    | nil =>
      obtain rfl : p = [] := List.forall₂_nil_left_iff.mp hr
      rfl
    | cons first rest =>
      have hm : first.toList ≠ ['m'] := by
        intro he
        obtain ⟨b, _, hb, -⟩ := List.forall₂_cons_left_iff.mp hr
        rw [he] at hb
        cases hb
      have ht : ("/".intercalate (first :: rest)).toList = ['/'].intercalate ((first :: rest).map String.toList) :=
        String.toList_intercalate
      have hc := components_cons _ hs'
      rw [if_neg hm, ← List.map_cons, ← ht] at hc
      rw [parse?_of_ne (toList_ne_nil_of_components (hc ▸ hne)), hc, hp]

theorem parse?_spell {choices : List (ℤ × Hardening)} (h : ∀ choice ∈ choices, 0 ≤ choice.1 ∧ choice.1 < 2 ^ 32)
    (led : Bool) : parse? (spell led choices) = some (choices.map Prod.fst) := by
  refine parse?_intercalate (List.forall_mem_map.mpr fun choice hc => ?_) ?_ led
  · exact separator_notMem_write choice.2 (h choice hc).1 (h choice hc).2
  · rw [List.map_map, mapM_eq_some_iff, List.forall₂_map_left_iff, List.forall₂_map_right_iff, List.forall₂_same]
    exact fun choice hc => component?_write choice.2 (h choice hc).1 (h choice hc).2

def text (path : List ℤ) (mark : String) : String :=
  "m" ++ String.join (path.map fun i => "/" ++ toString (soften i) ++ (if isHardened i then mark else ""))

theorem intercalate_eq_join (separator first : String) (rest : List String) :
    separator.intercalate (first :: rest) = first ++ String.join (rest.map (separator ++ ·)) := by
  induction rest generalizing first with
  | nil => rw [String.intercalate_singleton, List.map_nil, String.join_nil, String.append_empty]
  | cons next rest ih => rw [String.intercalate_cons_cons, ih, List.map_cons, String.join_cons, String.append_assoc,
      String.append_assoc]

theorem write_eq_soften {way : Hardening} {mark : String}
    (hw : ∀ i, ¬ i < 2 ^ 31 → way.write i = toString (i % 2 ^ 31) ++ mark) (h0 : 0 ≤ i) (h : i < 2 ^ 32) :
    way.write i = toString (soften i) ++ (if isHardened i then mark else "") := by
  by_cases hi : i < 2 ^ 31
  · have hf : ¬ isHardened i = true := by
      rw [isHardened_iff_le h0 h]
      omega
    rw [soften, if_neg hf, if_neg hf, Hardening.write.eq_def, if_pos hi, String.append_empty]
  · have hs : i - 2 ^ 31 = i % 2 ^ 31 := by omega
    rw [soften_eq_sub (by omega) h, if_pos ((isHardened_iff_le h0 h).mpr (by omega)), hw i hi, hs]

theorem text_eq_spell {way : Hardening} {mark : String}
    (hw : ∀ i, ¬ i < 2 ^ 31 → way.write i = toString (i % 2 ^ 31) ++ mark) (h : ∀ i ∈ p, 0 ≤ i ∧ i < 2 ^ 32) :
    text p mark = spell true (p.map fun i => (i, way)) := by
  rw [spell, if_pos rfl, List.singleton_append, intercalate_eq_join, List.map_map, List.map_map]
  refine congrArg (fun parts => "m" ++ String.join parts) (List.map_congr_left fun i hi => ?_)
  exact (String.append_assoc ..).trans (congrArg ("/" ++ ·) (write_eq_soften hw (h i hi).1 (h i hi).2).symm)

theorem parse?_text {mark : String} (hm : mark = "h" ∨ mark = "'") (h : ∀ i ∈ p, 0 ≤ i ∧ i < 2 ^ 32) :
    parse? (text p mark) = some p := by
  have ht : ∃ way : Hardening, text p mark = spell true (p.map fun i => (i, way)) := by
    rcases hm with rfl | rfl
    · exact ⟨.letter, text_eq_spell (fun i hi => by rw [Hardening.write.eq_def, if_neg hi]) h⟩
    · exact ⟨.apostrophe, text_eq_spell (fun i hi => by rw [Hardening.write.eq_def, if_neg hi]) h⟩
  obtain ⟨way, ht⟩ := ht
  rw [ht, parse?_spell (List.forall_mem_map.mpr h), List.map_map]
  exact congrArg some (List.map_id' p)

theorem soften_eq_or (i : ℤ) : soften i = i ∨ isHardened i = true ∧ soften i = i - 2 ^ 31 := by
  rw [soften]
  split
  · exact .inr ⟨‹_›, rfl⟩
  · exact .inl rfl

theorem componentText_int (mark : String) (hw : Text.isWritable (soften i) = true) :
    componentText (.text mark) (.int i) =
      .ok ("/" ++ toString (soften i) ++ (if isHardened i then mark else "")) := by
  have hb : bits (.int i) = .ok i := rfl
  rw [componentText, hb, ok_bind, hw]
  change (Except.ok _ : Except Error String) = _
  split
  · rfl
  · rw [String.append_empty]

theorem mapM_componentText (mark : String) (hw : ∀ i ∈ p, Text.isWritable (soften i) = true) :
    (p.map Value.int).mapM (componentText (.text mark)) =
      .ok (p.map fun i => "/" ++ toString (soften i) ++ (if isHardened i then mark else "")) := by
  induction p with
  | nil => rfl
  | cons i p ih =>
    rw [List.map_cons, List.mapM_cons, componentText_int mark (hw i List.mem_cons_self), ok_bind,
      ih fun i hi => hw i (List.mem_cons_of_mem _ hi)]
    rfl

theorem render_writable (mark : String) (hw : ∀ i ∈ p, Text.isWritable (soften i) = true) :
    render (Value.ints p) (.text mark) = .ok (text p mark) := by
  have hm : (Value.ints p).members = .ok (p.map Value.int) := rfl
  rw [render, hm, ok_bind, mapM_componentText mark hw]
  rfl

theorem isWritable_soften (h0 : 0 ≤ i) (h : i < 2 ^ 32) : Text.isWritable (soften i) = true := by
  apply Text.isWritable_of_lt
  rcases soften_eq_or i with hs | ⟨hi, hs⟩
  · omega
  · have := (isHardened_iff_le h0 h).mp hi
    omega

theorem render_ints (mark : String) (h : ∀ i ∈ p, 0 ≤ i ∧ i < 2 ^ 32) :
    render (Value.ints p) (.text mark) = .ok (text p mark) :=
  render_writable mark fun i hi => isWritable_soften (h i hi).1 (h i hi).2

theorem parse_of_parse? (h : parse? s = some p) : parse (.text s) = .ok (p.map Value.int) := by
  rw [parse, h]

/-- A path of child numbers is read back from its text, with either mark, and from every text that writes it with a way
    of its own for each component. So its text determines the path. -/
theorem parse_render {p : List ℤ} (h : ∀ i ∈ p, 0 ≤ i ∧ i < 2 ^ 32) :
    (∀ mark, mark = "h" ∨ mark = "'" →
      ∃ s, render (Value.ints p) (.text mark) = .ok s ∧ parse (.text s) = .ok (p.map .int)) ∧
    (∀ led choices, choices.map Prod.fst = p → parse (.text (spell led choices)) = .ok (p.map .int)) ∧
    (∀ mark, mark = "h" ∨ mark = "'" → ∀ q : List ℤ, (∀ i ∈ q, 0 ≤ i ∧ i < 2 ^ 32) →
      render (Value.ints q) (.text mark) = render (Value.ints p) (.text mark) → q = p) := by
  refine ⟨fun mark hm => ⟨text p mark, render_ints mark h, parse_of_parse? (parse?_text hm h)⟩, ?_, ?_⟩
  · rintro led choices rfl
    exact parse_of_parse? (parse?_spell (List.forall_mem_map.mp h) led)
  · intro mark hm q hq he
    rw [render_ints mark hq, render_ints mark h] at he
    have hr := parse?_text hm hq
    rw [Except.ok.inj he, parse?_text hm h] at hr
    exact (Option.some.inj hr).symm

theorem parse_render_edges :
    (∀ i ∈ [2 ^ 31, 0, 2 ^ 32 - 1], (0 : ℤ) ≤ i ∧ i < 2 ^ 32) ∧
    (∃ s, render (Value.ints [2 ^ 31, 0, 2 ^ 32 - 1]) (.text "'") = .ok s ∧
      parse (.text s) = .ok [.int (2 ^ 31), .int 0, .int (2 ^ 32 - 1)]) ∧
    parse (.text (spell true [(2 ^ 31, .minus), (0, .letter), (2 ^ 32 - 1, .apostrophe)])) =
      .ok [.int (2 ^ 31), .int 0, .int (2 ^ 32 - 1)] := by
  have h : ∀ i ∈ [2 ^ 31, 0, 2 ^ 32 - 1], (0 : ℤ) ≤ i ∧ i < 2 ^ 32 := by decide
  exact ⟨h, (parse_render h).1 "'" (.inr rfl), (parse_render h).2.1 true _ rfl⟩

example : spell true [(2 ^ 31, .minus), (0, .letter), (2 ^ 32 - 1, .apostrophe)] = "m/-0/0/2147483647'" := by
  decide +kernel

example : spell true [] = "m" ∧ spell false [] = "" := by
  decide +kernel

end Path

end HardwareWallet
