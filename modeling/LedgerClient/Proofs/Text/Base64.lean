import LedgerClient.Proofs.Outcome
import LedgerClient.Text.Base64
import Mathlib.Data.List.GetD
import Mathlib.Data.List.Nodup

/-! # One Base64 text for each byte string

A text spells a byte string if its symbols, four for three bytes, are the bits of the bytes, with
the last group filled up by `=` and its unused bits zero (`LedgerClient.Base64.Spells`). Writing
gives the text that spells the bytes (`LedgerClient.Base64.encode_eq_iff`), and reading takes no
other text for them (`LedgerClient.Base64.decode_eq_ok_iff`).
-/

namespace LedgerClient.Base64

/-! ### Symbols -/

section Symbols

variable {p : Nat}

private theorem length_alphabet : alphabet.length = 64 := by decide +kernel

private theorem nodup_alphabet : alphabet.Nodup := by decide +kernel

private theorem symbol_mem (small : p < 64) : symbol p ∈ alphabet := by
  rw [← length_alphabet] at small
  rw [symbol, List.getD_eq_getElem _ _ small]
  exact List.getElem_mem small

/-- A symbol is not the sign that fills up, and takes one byte in a text. -/
theorem symbol_ne_pad (small : p < 64) : symbol p ≠ pad := by
  have noPad : pad ∉ alphabet := by decide +kernel
  intro same
  exact noPad (same ▸ symbol_mem small)

private theorem toNat_symbol_lt (small : p < 64) : (symbol p).toNat < 128 := by
  have ascii : (alphabet.all fun byte => decide (byte.toNat < 128)) = true := by decide +kernel
  exact of_decide_eq_true (List.all_eq_true.mp ascii _ (symbol_mem small))

/-- Symbols are known by their numbers. -/
theorem sextet?_eq_some_iff {byte : UInt8} : sextet? byte = some p ↔ p < 64 ∧ byte = symbol p := by
  rw [sextet?, List.idxOf?_eq_some_iff, ← length_alphabet]
  constructor
  · rintro ⟨inside, same, _⟩
    refine ⟨inside, ?_⟩
    rw [symbol, List.getD_eq_getElem _ _ inside, same]
  · rintro ⟨inside, rfl⟩
    have place : symbol p = alphabet[p] := by rw [symbol, List.getD_eq_getElem _ _ inside]
    refine ⟨inside, place.symm, fun other earlier same => ?_⟩
    rw [place] at same
    exact Nat.ne_of_lt earlier ((List.Nodup.getElem_inj_iff nodup_alphabet).mp same)

/-- A symbol stands for its own six bits. -/
theorem sextet?_symbol (small : p < 64) : sextet? (symbol p) = some p :=
  sextet?_eq_some_iff.mpr ⟨small, rfl⟩

end Symbols

/-! ### The form of a text -/

/-- The last four signs of a text and their bytes: the bits of three, two or one byte, and zeros. -/
inductive SpellsLast : List UInt8 → List UInt8 → Prop
  | three {p q r s : Nat} {a b c : UInt8} (below : p < 64 ∧ q < 64 ∧ r < 64 ∧ s < 64)
      (bits : ((p * 64 + q) * 64 + r) * 64 + s = (a.toNat * 256 + b.toNat) * 256 + c.toNat) :
      SpellsLast [symbol p, symbol q, symbol r, symbol s] [a, b, c]
  | two {p q r : Nat} {a b : UInt8} (below : p < 64 ∧ q < 64 ∧ r < 64)
      (bits : (p * 64 + q) * 64 + r = (a.toNat * 256 + b.toNat) * 4) :
      SpellsLast [symbol p, symbol q, symbol r, pad] [a, b]
  | one {p q : Nat} {a : UInt8} (below : p < 64 ∧ q < 64) (bits : p * 64 + q = a.toNat * 16) :
      SpellsLast [symbol p, symbol q, pad, pad] [a]

/-- **A text spells a byte string**: whole groups, and then the last one. -/
inductive Spells : List UInt8 → List UInt8 → Prop
  | nil : Spells [] []
  | last {text bytes : List UInt8} (group : SpellsLast text bytes) : Spells text bytes
  | group {text bytes : List UInt8} {p q r s : Nat} {a b c : UInt8}
      (below : p < 64 ∧ q < 64 ∧ r < 64 ∧ s < 64)
      (bits : ((p * 64 + q) * 64 + r) * 64 + s = (a.toNat * 256 + b.toNat) * 256 + c.toNat)
      (rest : Spells text bytes) :
      Spells (symbol p :: symbol q :: symbol r :: symbol s :: text) (a :: b :: c :: bytes)

variable {text bytes last tail : List UInt8} {p q r s : Nat} {a b c : UInt8}

/-- Each sign of a text is one byte of it. -/
theorem toNat_lt_of_spells (spells : Spells text bytes) : ∀ sign ∈ text, sign.toNat < 128 := by
  have padded : pad.toNat < 128 := by decide
  induction spells with
  | nil => exact List.forall_mem_nil _
  | last group =>
      cases group with
      | three below =>
          obtain ⟨first, second, third, fourth⟩ := below
          simp [toNat_symbol_lt, first, second, third, fourth]
      | two below =>
          obtain ⟨first, second, third⟩ := below
          simp [toNat_symbol_lt, first, second, third, padded]
      | one below =>
          obtain ⟨first, second⟩ := below
          simp [toNat_symbol_lt, first, second, padded]
  | group below _ _ ih =>
      obtain ⟨first, second, third, fourth⟩ := below
      simpa [toNat_symbol_lt, first, second, third, fourth] using ih

/-! ### Writing -/

private theorem encodeOnto_eq (written bytes : List UInt8) :
    encodeOnto written bytes = written.reverse ++ encode bytes := by
  have onto (first second : List UInt8) :
      encodeOnto (first ++ second) bytes = second.reverse ++ encodeOnto first bytes := by
    fun_induction encodeOnto first bytes with
    | case1 first a b c rest group ih =>
        rw [encodeOnto, ← ih]
        rfl
    | case2 first a b group => simp [encodeOnto, group]
    | case3 first a group => simp [encodeOnto, group]
    | case4 first => simp [encodeOnto]
  exact onto [] written

/-- Three bytes are written as four symbols. -/
theorem encode_group (a b c : UInt8) (rest : List UInt8) :
    encode (a :: b :: c :: rest) =
      let group := (a.toNat * 256 + b.toNat) * 256 + c.toNat
      symbol (group / 262144) :: symbol (group / 4096 % 64) :: symbol (group / 64 % 64) ::
        symbol (group % 64) :: encode rest := by
  rw [encode, encodeOnto, encodeOnto_eq]
  rfl

/-- **What is written spells the bytes.** -/
theorem spells_encode : (bytes : List UInt8) → Spells (encode bytes) bytes
  | [] => .nil
  | [a] => by
      have small := a.toNat_lt
      refine .last (.one ⟨?_, ?_⟩ ?_) <;> omega
  | [a, b] => by
      have small := a.toNat_lt
      have next := b.toNat_lt
      refine .last (.two ⟨?_, ?_, ?_⟩ ?_) <;> omega
  | a :: b :: c :: rest => by
      have small := a.toNat_lt
      have next := b.toNat_lt
      have third := c.toNat_lt
      rw [encode_group]
      refine .group ⟨?_, ?_, ?_, ?_⟩ ?_ (spells_encode rest) <;> omega

private theorem encode_eq_nil_iff : encode bytes = [] ↔ bytes = [] := by
  match bytes with
  | [] => exact iff_of_true rfl rfl
  | [_] | [_, _] => exact iff_of_false (List.cons_ne_nil _ _) (List.cons_ne_nil _ _)
  | _ :: _ :: _ :: _ =>
      rw [encode_group]
      exact iff_of_false (List.cons_ne_nil _ _) (List.cons_ne_nil _ _)

/-- The bits of three bytes lie in four symbols in one way. -/
theorem encode_group_eq (below : p < 64 ∧ q < 64 ∧ r < 64 ∧ s < 64)
    (bits : ((p * 64 + q) * 64 + r) * 64 + s = (a.toNat * 256 + b.toNat) * 256 + c.toNat)
    (rest : List UInt8) :
    encode (a :: b :: c :: rest) =
      symbol p :: symbol q :: symbol r :: symbol s :: encode rest := by
  rw [encode_group, ← bits]
  have first : (((p * 64 + q) * 64 + r) * 64 + s) / 262144 = p := by omega
  have second : (((p * 64 + q) * 64 + r) * 64 + s) / 4096 % 64 = q := by omega
  have third : (((p * 64 + q) * 64 + r) * 64 + s) / 64 % 64 = r := by omega
  have fourth : (((p * 64 + q) * 64 + r) * 64 + s) % 64 = s := by omega
  simp only [first, second, third, fourth]

/-- The last group is encoded as it is spelled. -/
theorem encode_of_spellsLast (spells : SpellsLast text bytes) : encode bytes = text := by
  cases spells with
  | three below bits => exact encode_group_eq below bits []
  | @two p q r a b below bits =>
      change [symbol ((a.toNat * 256 + b.toNat) * 4 / 4096),
        symbol ((a.toNat * 256 + b.toNat) * 4 / 64 % 64),
        symbol ((a.toNat * 256 + b.toNat) * 4 % 64), pad] = _
      rw [← bits]
      have first : ((p * 64 + q) * 64 + r) / 4096 = p := by omega
      have second : ((p * 64 + q) * 64 + r) / 64 % 64 = q := by omega
      have third : ((p * 64 + q) * 64 + r) % 64 = r := by omega
      rw [first, second, third]
  | @one p q a below bits =>
      change [symbol (a.toNat * 16 / 64), symbol (a.toNat * 16 % 64), pad, pad] = _
      rw [← bits]
      have first : (p * 64 + q) / 64 = p := by omega
      have second : (p * 64 + q) % 64 = q := by omega
      rw [first, second]

/-- **Writing** gives the text that spells a byte string. -/
theorem encode_eq_iff : encode bytes = text ↔ Spells text bytes := by
  constructor
  · rintro rfl
    exact spells_encode bytes
  · intro spells
    induction spells with
    | nil => rfl
    | last group => exact encode_of_spellsLast group
    | group below bits rest ih => rw [encode_group_eq below bits, ih]

/-! ### Reading symbols -/

private theorem sextetsFrom_eq_ok_iff {offset : Nat} {found sextets : List Nat} :
    sextetsFrom offset found text = .ok sextets ↔
      ∃ ps, (∀ p ∈ ps, p < 64) ∧ text = ps.map symbol ∧ sextets = found.reverse ++ ps := by
  induction text generalizing offset found with
  | nil =>
      constructor
      · intro same
        cases same
        exact ⟨[], List.forall_mem_nil _, rfl, (List.append_nil _).symm⟩
      · rintro ⟨ps, _, empty, rfl⟩
        rw [List.map_eq_nil_iff.mp empty.symm, List.append_nil]
        rfl
  | cons byte rest ih =>
      rw [sextetsFrom]
      cases known : sextet? byte with
      | none =>
          refine iff_of_false (fun impossible => by cases impossible) ?_
          rintro ⟨ps, below, split, rfl⟩
          cases ps with
          | nil => cases split
          | cons p ps =>
              cases split
              rw [sextet?_symbol (below p List.mem_cons_self)] at known
              cases known
      | some p =>
          obtain ⟨small, rfl⟩ := sextet?_eq_some_iff.mp known
          simp only [ih]
          constructor
          · rintro ⟨ps, below, rfl, rfl⟩
            refine ⟨p :: ps, List.forall_mem_cons.mpr ⟨small, below⟩, rfl, ?_⟩
            rw [List.reverse_cons, List.append_assoc, List.singleton_append]
          · rintro ⟨ps, below, split, rfl⟩
            cases ps with
            | nil => cases split
            | cons other ps =>
                obtain ⟨first, rfl⟩ := List.cons.inj split
                have same : other = p := by
                  rw [first, sextet?_symbol (below other List.mem_cons_self)] at known
                  exact Option.some.inj known
                subst same
                refine ⟨ps, fun p member => below p (List.mem_cons_of_mem _ member), rfl, ?_⟩
                rw [List.reverse_cons, List.append_assoc, List.singleton_append]

private theorem regroupOnto_eq (found : List UInt8) (ps : List Nat) :
    regroupOnto found ps = found.reverse ++ regroupOnto [] ps := by
  have onto (first second : List UInt8) :
      regroupOnto (first ++ second) ps = second.reverse ++ regroupOnto first ps := by
    fun_induction regroupOnto first ps with
    | case1 first p q r s rest group ih =>
        rw [regroupOnto, ← ih]
        rfl
    | case2 first ps others =>
        rw [regroupOnto, List.reverse_append]
        exact others
  exact onto [] found

/-- The three bytes of four sextets. -/
theorem regroupOnto_group (p q r s : Nat) (rest : List Nat) :
    regroupOnto [] (p :: q :: r :: s :: rest) =
      let group := ((p * 64 + q) * 64 + r) * 64 + s
      UInt8.ofNat (group / 65536) :: UInt8.ofNat (group / 256 % 256) ::
        UInt8.ofNat (group % 256) :: regroupOnto [] rest := by
  rw [regroupOnto, regroupOnto_eq]
  rfl

/-- Four symbols are the number of their three bytes. -/
theorem bits_of_group (below : p < 64 ∧ q < 64 ∧ r < 64 ∧ s < 64) :
    let group := ((p * 64 + q) * 64 + r) * 64 + s
    group = ((UInt8.ofNat (group / 65536)).toNat * 256 +
      (UInt8.ofNat (group / 256 % 256)).toNat) * 256 + (UInt8.ofNat (group % 256)).toNat := by
  intro group
  have first : (UInt8.ofNat (group / 65536)).toNat = group / 65536 :=
    UInt8.toNat_ofNat_of_lt' (show group / 65536 < 256 by omega)
  have second : (UInt8.ofNat (group / 256 % 256)).toNat = group / 256 % 256 :=
    UInt8.toNat_ofNat_of_lt' (Nat.mod_lt _ (by decide))
  have third : (UInt8.ofNat (group % 256)).toNat = group % 256 :=
    UInt8.toNat_ofNat_of_lt' (Nat.mod_lt _ (by decide))
  rw [first, second, third]
  omega

/-- The bits of four sextets are three bytes in one way. -/
theorem regroupOnto_of_bits
    (bits : ((p * 64 + q) * 64 + r) * 64 + s = (a.toNat * 256 + b.toNat) * 256 + c.toNat)
    (rest : List Nat) :
    regroupOnto [] (p :: q :: r :: s :: rest) = a :: b :: c :: regroupOnto [] rest := by
  have second := b.toNat_lt
  have third := c.toNat_lt
  have high : (((p * 64 + q) * 64 + r) * 64 + s) / 65536 = a.toNat := by omega
  have middle : (((p * 64 + q) * 64 + r) * 64 + s) / 256 % 256 = b.toNat := by omega
  have low : (((p * 64 + q) * 64 + r) * 64 + s) % 256 = c.toNat := by omega
  rw [regroupOnto_group]
  simp only [high, middle, low, UInt8.ofNat_toNat]

/-- Whole groups in front are read as whole groups, whatever spelling follows. -/
theorem spells_append (ps : List Nat) (rest : Spells last tail) (whole : 4 ∣ ps.length)
    (below : ∀ p ∈ ps, p < 64) :
    Spells (ps.map symbol ++ last) (regroupOnto [] ps ++ tail) := by
  match ps with
  | [] => exact rest
  | [_] | [_, _] | [_, _, _] => simp at whole
  | p :: q :: r :: s :: ps =>
      simp only [List.forall_mem_cons] at below
      obtain ⟨first, second, third, fourth, below⟩ := below
      have small : p < 64 ∧ q < 64 ∧ r < 64 ∧ s < 64 := ⟨first, second, third, fourth⟩
      rw [regroupOnto_group]
      refine .group small (bits_of_group small) (spells_append ps rest ?_ below)
      exact (Nat.dvd_add_left (Nat.dvd_refl 4)).mp whole

/-! ### Reading the last group -/

section Last

variable {start pads : Nat} {symbols : List (UInt8 × Nat)} {met : LastGroup}

private theorem scanLast_symbol (small : p < 64) :
    scanLast start ⟨symbols, 0⟩ (symbol p :: last) =
      scanLast start ⟨(symbol p, p) :: symbols, 0⟩ last := by
  rw [scanLast, if_neg (symbol_ne_pad small), if_neg (Nat.lt_irrefl 0), sextet?_symbol small]

private theorem scanLast_pad (enough : 2 ≤ symbols.length + pads) :
    scanLast start ⟨symbols, pads⟩ (pad :: last) = scanLast start ⟨symbols, pads + 1⟩ last := by
  rw [scanLast, if_pos rfl, if_neg (Nat.not_lt.mpr enough)]

/-- The last group is some symbols, and then nothing but signs that fill up. -/
theorem exists_of_scanLast (met final : LastGroup)
    (scanned : scanLast start met last = .ok final) :
    ∃ ps count, (∀ p ∈ ps, p < 64) ∧ last = ps.map symbol ++ List.replicate count pad ∧
      final = ⟨(ps.map fun p => (symbol p, p)).reverse ++ met.symbols, met.pads + count⟩ ∧
      (0 < met.pads → ps = []) := by
  induction last generalizing met with
  | nil =>
      cases scanned
      exact ⟨[], 0, List.forall_mem_nil _, rfl, rfl, fun _ => rfl⟩
  | cons byte rest ih =>
      rw [scanLast] at scanned
      split at scanned
      case isTrue fills =>
        split at scanned
        case isTrue => cases scanned
        case isFalse =>
          obtain ⟨ps, count, _, split, rfl, none⟩ := ih _ scanned
          obtain rfl := none (Nat.succ_pos _)
          refine ⟨[], count + 1, List.forall_mem_nil _, ?_, ?_, fun _ => rfl⟩
          · rw [split, fills]
            rfl
          · rw [Nat.add_right_comm]
            rfl
      case isFalse =>
        split at scanned
        case isTrue => cases scanned
        case isFalse first =>
          split at scanned
          case h_2 => cases scanned
          case h_1 p known =>
            obtain ⟨small, rfl⟩ := sextet?_eq_some_iff.mp known
            obtain ⟨ps, count, below, split, rfl, _⟩ := ih _ scanned
            refine ⟨p :: ps, count, List.forall_mem_cons.mpr ⟨small, below⟩, ?_, ?_, ?_⟩
            · rw [split]
              rfl
            · rw [List.map_cons, List.reverse_cons, List.append_assoc, Nat.eq_zero_of_not_pos first]
              rfl
            · exact fun filled => (first filled).elim

/-- Two symbols close with one byte, if the bits behind it are zero. -/
theorem closeLast_one_eq_ok_iff {x y : UInt8} (below : p < 64 ∧ q < 64) :
    closeLast start ⟨[(x, q), (y, p)], 2⟩ = .ok tail ↔
      ∃ a : UInt8, p * 64 + q = a.toNat * 16 ∧ tail = [a] := by
  have form : closeLast start ⟨[(x, q), (y, p)], 2⟩ =
      if q % 16 ≠ 0 then .error (.invalidLastSymbol x (start + 1))
      else .ok [UInt8.ofNat ((p * 64 + q) / 16)] := rfl
  rw [form]
  by_cases zeros : q % 16 = 0
  · have first : (UInt8.ofNat ((p * 64 + q) / 16)).toNat = (p * 64 + q) / 16 :=
      UInt8.toNat_ofNat_of_lt' (show (p * 64 + q) / 16 < 256 by omega)
    rw [if_neg (not_not_intro zeros)]
    constructor
    · intro same
      cases same
      exact ⟨_, by omega, rfl⟩
    · rintro ⟨a, bits, rfl⟩
      have same : (p * 64 + q) / 16 = a.toNat := by omega
      rw [same, UInt8.ofNat_toNat]
  · rw [if_pos zeros]
    refine iff_of_false (fun impossible => by cases impossible) ?_
    rintro ⟨a, bits, _⟩
    omega

/-- Three symbols close with two bytes, if the bits behind them are zero. -/
theorem closeLast_two_eq_ok_iff {x y z : UInt8} (below : p < 64 ∧ q < 64 ∧ r < 64) :
    closeLast start ⟨[(x, r), (y, q), (z, p)], 1⟩ = .ok tail ↔
      ∃ a b : UInt8, (p * 64 + q) * 64 + r = (a.toNat * 256 + b.toNat) * 4 ∧ tail = [a, b] := by
  have form : closeLast start ⟨[(x, r), (y, q), (z, p)], 1⟩ =
      if r % 4 ≠ 0 then .error (.invalidLastSymbol x (start + 2))
      else .ok [UInt8.ofNat (((p * 64 + q) * 64 + r) / 4 / 256),
        UInt8.ofNat (((p * 64 + q) * 64 + r) / 4 % 256)] := rfl
  rw [form]
  by_cases zeros : r % 4 = 0
  · have first : (UInt8.ofNat (((p * 64 + q) * 64 + r) / 4 / 256)).toNat =
        ((p * 64 + q) * 64 + r) / 4 / 256 :=
      UInt8.toNat_ofNat_of_lt' (show ((p * 64 + q) * 64 + r) / 4 / 256 < 256 by omega)
    have second : (UInt8.ofNat (((p * 64 + q) * 64 + r) / 4 % 256)).toNat =
        ((p * 64 + q) * 64 + r) / 4 % 256 :=
      UInt8.toNat_ofNat_of_lt' (Nat.mod_lt _ (by decide))
    rw [if_neg (not_not_intro zeros)]
    constructor
    · intro same
      cases same
      exact ⟨_, _, by omega, rfl⟩
    · rintro ⟨a, b, bits, rfl⟩
      have low := b.toNat_lt
      have high : ((p * 64 + q) * 64 + r) / 4 / 256 = a.toNat := by omega
      have rest : ((p * 64 + q) * 64 + r) / 4 % 256 = b.toNat := by omega
      rw [high, rest, UInt8.ofNat_toNat, UInt8.ofNat_toNat]
  · rw [if_pos zeros]
    refine iff_of_false (fun impossible => by cases impossible) ?_
    rintro ⟨a, b, bits, _⟩
    omega

/-- Four symbols close with three bytes. -/
theorem closeLast_three_eq_ok_iff {x y z w : UInt8} (below : p < 64 ∧ q < 64 ∧ r < 64 ∧ s < 64) :
    closeLast start ⟨[(x, s), (y, r), (z, q), (w, p)], 0⟩ = .ok tail ↔
      ∃ a b c : UInt8, ((p * 64 + q) * 64 + r) * 64 + s =
        (a.toNat * 256 + b.toNat) * 256 + c.toNat ∧ tail = [a, b, c] := by
  have form : closeLast start ⟨[(x, s), (y, r), (z, q), (w, p)], 0⟩ =
      .ok (regroupOnto [] [p, q, r, s]) := rfl
  rw [form]
  constructor
  · intro same
    rw [regroupOnto_group] at same
    cases same
    exact ⟨_, _, _, bits_of_group below, rfl⟩
  · rintro ⟨a, b, c, bits, rfl⟩
    rw [regroupOnto_of_bits bits]
    rfl

private theorem length_of_closeLast (closed : closeLast start met = .ok tail) :
    2 ≤ met.symbols.length ∧ met.symbols.length + met.pads = 4 := by
  rw [closeLast] at closed
  split at closed
  case isTrue => cases closed
  case isFalse some =>
    split at closed
    case isTrue => cases closed
    case isFalse full => exact ⟨Nat.not_lt.mp some, not_not.mp full⟩

/-- **The last group** is read as the bytes that it spells. -/
theorem spellsLast_iff : SpellsLast last tail ↔
    ∃ met, scanLast start ⟨[], 0⟩ last = .ok met ∧ closeLast start met = .ok tail := by
  constructor
  · intro spells
    cases spells with
    | @three p q r s _ _ _ below bits =>
        have ⟨first, second, third, fourth⟩ := below
        refine ⟨⟨[(symbol s, s), (symbol r, r), (symbol q, q), (symbol p, p)], 0⟩, ?_,
          (closeLast_three_eq_ok_iff below).mpr ⟨_, _, _, bits, rfl⟩⟩
        rw [scanLast_symbol first, scanLast_symbol second, scanLast_symbol third,
          scanLast_symbol fourth]
        rfl
    | @two p q r _ _ below bits =>
        have ⟨first, second, third⟩ := below
        refine ⟨⟨[(symbol r, r), (symbol q, q), (symbol p, p)], 1⟩, ?_,
          (closeLast_two_eq_ok_iff below).mpr ⟨_, _, bits, rfl⟩⟩
        rw [scanLast_symbol first, scanLast_symbol second, scanLast_symbol third,
          scanLast_pad (Nat.le_succ 2)]
        rfl
    | @one p q _ below bits =>
        have ⟨first, second⟩ := below
        refine ⟨⟨[(symbol q, q), (symbol p, p)], 2⟩, ?_,
          (closeLast_one_eq_ok_iff below).mpr ⟨_, bits, rfl⟩⟩
        rw [scanLast_symbol first, scanLast_symbol second, scanLast_pad (Nat.le_refl 2),
          scanLast_pad (Nat.le_succ 2)]
        rfl
  · rintro ⟨met, scanned, closed⟩
    obtain ⟨ps, count, below, rfl, rfl, _⟩ := exists_of_scanLast _ _ scanned
    obtain ⟨some, full⟩ := length_of_closeLast closed
    simp only [List.append_nil, List.length_reverse, List.length_map, Nat.zero_add] at some full
    -- The number of symbols, from two to four, says how many signs fill them up.
    match ps with
    | [] | [_] => simp at some
    | [p, q] =>
        obtain rfl : count = 2 := Nat.add_left_cancel full
        have small : p < 64 ∧ q < 64 := by simpa using below
        obtain ⟨a, bits, rfl⟩ := (closeLast_one_eq_ok_iff small).mp closed
        exact .one small bits
    | [p, q, r] =>
        obtain rfl : count = 1 := Nat.add_left_cancel full
        have small : p < 64 ∧ q < 64 ∧ r < 64 := by simpa using below
        obtain ⟨a, b, bits, rfl⟩ := (closeLast_two_eq_ok_iff small).mp closed
        exact .two small bits
    | [p, q, r, s] =>
        obtain rfl : count = 0 := Nat.add_left_cancel full
        have small : p < 64 ∧ q < 64 ∧ r < 64 ∧ s < 64 := by simpa using below
        obtain ⟨a, b, c, bits, rfl⟩ := (closeLast_three_eq_ok_iff small).mp closed
        exact .three small bits
    | _ :: _ :: _ :: _ :: _ :: _ =>
        simp only [List.length_cons] at full
        omega

end Last

/-! ### Reading a text -/

private theorem length_of_spellsLast (spells : SpellsLast last tail) : last.length = 4 := by
  cases spells <;> rfl

private theorem dvd_length_of_spells (spells : Spells text bytes) : 4 ∣ text.length := by
  induction spells with
  | nil => exact Nat.dvd_zero 4
  | last group => exact ⟨1, length_of_spellsLast group⟩
  | group _ _ _ ih => exact (Nat.dvd_add_left (Nat.dvd_refl 4)).mpr ih

/-- A text that spells some bytes is whole groups and the last one. -/
theorem exists_of_spells (spells : Spells text bytes) (some : text ≠ []) :
    ∃ ps last tail, (∀ p ∈ ps, p < 64) ∧ 4 ∣ ps.length ∧ SpellsLast last tail ∧
      text = ps.map symbol ++ last ∧ bytes = regroupOnto [] ps ++ tail := by
  induction spells with
  | nil => exact (some rfl).elim
  | @last text bytes group =>
      exact ⟨[], text, bytes, List.forall_mem_nil _, Nat.dvd_zero 4, group, rfl, rfl⟩
  | @group text bytes p q r s a b c below bits rest ih =>
      rcases eq_or_ne text [] with rfl | others
      · -- The rest spells nothing, so these four symbols are the last group.
        obtain rfl : bytes = [] := encode_eq_nil_iff.mp (encode_eq_iff.mpr rest)
        exact ⟨[], _, _, List.forall_mem_nil _, Nat.dvd_zero 4, .three below bits, rfl, rfl⟩
      · obtain ⟨ps, last, tail, small, whole, group, rfl, rfl⟩ := ih others
        have ⟨first, second, third, fourth⟩ := below
        have longer : 4 ∣ ps.length + 4 := (Nat.dvd_add_left (Nat.dvd_refl 4)).mpr whole
        refine ⟨p :: q :: r :: s :: ps, last, tail, ?_, longer, group, rfl, ?_⟩
        · simp only [List.forall_mem_cons]
          exact ⟨first, second, third, fourth, small⟩
        · rw [regroupOnto_of_bits bits]
          rfl

/-- A text that is there spells its whole groups and its last group. -/
theorem spells_iff (some : text ≠ []) : Spells text bytes ↔
    ∃ ps tail, (∀ p ∈ ps, p < 64) ∧ text.take (lastGroupStart text.length) = ps.map symbol ∧
      SpellsLast (text.drop (lastGroupStart text.length)) tail ∧
      bytes = regroupOnto [] ps ++ tail := by
  constructor
  · intro spells
    obtain ⟨ps, last, tail, below, whole, group, rfl, rfl⟩ := exists_of_spells spells some
    have four := length_of_spellsLast group
    have start : lastGroupStart (ps.map symbol ++ last).length = (ps.map symbol).length := by
      rw [List.length_append, List.length_map, four, lastGroupStart, if_pos (by omega),
        Nat.add_sub_cancel]
    rw [start, List.take_left, List.drop_left]
    exact ⟨ps, tail, below, rfl, group, rfl⟩
  · rintro ⟨ps, tail, below, front, group, rfl⟩
    have four := length_of_spellsLast group
    have length := congrArg List.length front
    rw [List.length_drop] at four
    rw [List.length_take, List.length_map] at length
    have whole : 4 ∣ ps.length := by
      by_cases filled : text.length % 4 = 0
      · rw [lastGroupStart, if_pos filled] at four length
        omega
      · rw [lastGroupStart, if_neg filled] at four
        omega
    have spells := spells_append ps (.last group) whole below
    rwa [← front, List.take_append_drop] at spells

/-- What is left of a reading after its checks of the length. -/
theorem groups_eq_ok_iff (some : text ≠ []) : (do
      let sextets ← sextetsFrom 0 [] (text.take (lastGroupStart text.length))
      let met ← scanLast (lastGroupStart text.length) ⟨[], 0⟩
        (text.drop (lastGroupStart text.length))
      let tail ← closeLast (lastGroupStart text.length) met
      return regroupOnto [] sextets ++ tail) = .ok bytes ↔ Spells text bytes := by
  rw [spells_iff some]
  simp only [Outcome.bind_eq_ok_iff, Outcome.pure_eq_ok_iff, sextetsFrom_eq_ok_iff]
  constructor
  · rintro ⟨ps, ⟨_, below, front, rfl⟩, met, scanned, tail, closed, rfl⟩
    exact ⟨ps, tail, below, front, spellsLast_iff.mpr ⟨met, scanned, closed⟩, rfl⟩
  · rintro ⟨ps, tail, below, front, group, rfl⟩
    obtain ⟨met, scanned, closed⟩ := spellsLast_iff.mp group
    exact ⟨_, ⟨ps, below, front, rfl⟩, met, scanned, tail, closed, rfl⟩

/-- **Reading** takes the text that spells a byte string, and no other text for it. -/
theorem decode_eq_ok_iff : decode text = .ok bytes ↔ Spells text bytes := by
  rcases eq_or_ne text [] with rfl | some
  · rw [← encode_eq_iff, encode_eq_nil_iff]
    constructor
    · intro decoded
      cases decoded
      rfl
    · rintro rfl
      rfl
  · have there : ¬ text.length = 0 := fun empty => some (List.eq_nil_of_length_eq_zero empty)
    rw [← groups_eq_ok_iff some, decode]
    by_cases stray : text.length % 4 = 1
    · rw [if_pos stray]
      split
      case h_2 => rw [if_neg there]
      case h_1 sign _ =>
        split
        case isFalse => exact Iff.rfl
        case isTrue =>
          refine iff_of_false Outcome.throw_ne_ok ?_
          rw [groups_eq_ok_iff some]
          intro spells
          have whole := dvd_length_of_spells spells
          omega
    · rw [if_neg stray]
      simp only [if_neg there]

/-- The signs `QQ==` spell one byte, and `QR==` have a bit behind it. -/
example : decode [81, 81, 61, 61] = .ok [65] ∧
    decode [81, 82, 61, 61] = .error (.invalidLastSymbol 82 1) := by
  exact ⟨rfl, rfl⟩

end LedgerClient.Base64
