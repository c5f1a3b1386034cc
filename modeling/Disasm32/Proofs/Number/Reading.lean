import Disasm32.Proofs.Text.Numerals

/-! Reading plain numerals: digits of a base, without sign, marker and underscores, denote their
value, if there are not too many of them. -/
namespace Disasm32.Literal

open Digits

theorem latinDigit_char : ∀ d < 36, latinDigit (char d) = char d := by decide +kernel

theorem isSpace_char : ∀ d < 36, isSpace (char d) = false := by decide

theorem char_ne_sign : ∀ d < 36, char d ≠ '-' ∧ char d ≠ '+' ∧ char d ≠ '_' := by decide

variable {base : Nat} {ds : List Nat}

theorem lt_alphabet (alphabet : base ≤ 36) (small : ∀ d ∈ ds, d < base) : ∀ d ∈ ds, d < 36 :=
  fun d member => Nat.lt_of_lt_of_le (small d member) alphabet

theorem takeDigits_map_char (alphabet : base ≤ 36) (small : ∀ d ∈ ds, d < base)
    (underscore : Bool) :
    takeDigits base underscore (ds.map char) = (ds, ds.isEmpty && underscore, []) := by
  induction ds generalizing underscore with
  | nil => cases underscore <;> rfl
  | cons d ds ih =>
    rw [List.forall_mem_cons] at small
    have below : d < 36 := Nat.lt_of_lt_of_le small.1 alphabet
    have digit : digitOf? base (char d) = some d := by
      simp [digitOf?, digit?_char d below, small.1]
    rw [List.map_cons, takeDigits, if_neg (by simpa using (char_ne_sign d below).2.2), digit,
      ih small.2]
    simp

theorem readUnsigned_map_char (alphabet : base ≤ 36) (positional : 2 ≤ base) (filled : ds ≠ [])
    (small : ∀ d ∈ ds, d < base) (unmarked : markerBase? (ds.map char) ≠ some base)
    (short : isPowerOfTwo base = true ∨ ds.length ≤ maxDigits) :
    readUnsigned base (ds.map char) = .ok (value base ds) := by
  have nonzero : base ≠ 0 := by omega
  have few : ¬((!isPowerOfTwo base && decide (maxDigits < ds.length)) = true) := by
    rcases short with power | few
    · simp [power]
    · simp [Nat.not_lt.2 few]
  have empty : ds.isEmpty = false := by simpa using filled
  simp only [readUnsigned, nonzero, if_neg unmarked, takeDigits_map_char alphabet small, empty,
    Bool.false_and, Bool.or_self, Bool.false_eq_true, if_false, if_neg few, List.all_nil,
    Bool.not_true, false_and]

theorem read_map_char (alphabet : base ≤ 36) (positional : 2 ≤ base) (filled : ds ≠ [])
    (small : ∀ d ∈ ds, d < base) (unmarked : markerBase? (ds.map char) ≠ some base)
    (short : isPowerOfTwo base = true ∨ ds.length ≤ maxDigits) :
    read base (ds.map char) = .ok (value base ds) := by
  have below := lt_alphabet alphabet small
  have latin : (ds.map char).map latinDigit = ds.map char := by
    rw [List.map_map]
    exact List.map_congr_left fun d member => latinDigit_char d (below d member)
  have plain := readUnsigned_map_char alphabet positional filled small unmarked short
  cases ds with
  | nil => exact absurd rfl filled
  | cons d ds =>
    have first : d < 36 := below d List.mem_cons_self
    obtain ⟨minus, plus, -⟩ := char_ne_sign d first
    rw [read, if_neg (by omega), latin, List.map_cons,
      List.dropWhile_cons_of_neg (by simp [isSpace_char d first])]
    split
    · rename_i same
      exact absurd (List.cons.inj same).1 minus
    · rename_i same
      exact absurd (List.cons.inj same).1 plus
    · rw [Int.toNat_natCast, ← List.map_cons, plain]
      rfl

theorem isWritable_of_lt {n : Int} (bound : n.natAbs < 10 ^ 10) : isWritable n = true := by
  have enough : 10 ^ 10 ≤ 10 ^ maxDigits := Nat.pow_le_pow_right (by decide) (by decide)
  simp only [isWritable, Nat.pow_eq, decide_eq_true_eq]
  omega

theorem takeDigits_bound (base : Nat) (underscore : Bool) (cs : List Char) :
    (takeDigits base underscore cs).1.length ≤ cs.length ∧
      ∀ d ∈ (takeDigits base underscore cs).1, d < base := by
  induction cs generalizing underscore with
  | nil => exact ⟨Nat.le_refl 0, fun d member => by cases member⟩
  | cons c cs ih =>
    rw [takeDigits]
    split
    · split
      · exact ⟨Nat.zero_le _, fun d member => by cases member⟩
      · exact ⟨Nat.le_succ_of_le (ih true).1, (ih true).2⟩
    · cases digit : digitOf? base c with
      | none => exact ⟨Nat.zero_le _, fun d member => by cases member⟩
      | some d =>
        have below : d < base := by simpa using (Option.filter_eq_some_iff.1 digit).2
        exact ⟨Nat.succ_le_succ (ih false).1, List.forall_mem_cons.2 ⟨below, (ih false).2⟩⟩

theorem readUnsigned_lt (positional : 2 ≤ base) {cs : List Char} {n : Nat}
    (read : readUnsigned base cs = .ok n) : n < base ^ cs.length := by
  have nonzero : base ≠ 0 := by omega
  have cut : (cs.drop 2).length ≤ cs.length := by simp
  have below {digits : List Char} (short : digits.length ≤ cs.length) :
      value base (takeDigits base true digits).1 < base ^ cs.length := by
    obtain ⟨few, small⟩ := takeDigits_bound base true digits
    exact Nat.lt_of_lt_of_le (value_lt positional small)
      (Nat.pow_le_pow_right (by omega) (Nat.le_trans few short))
  simp only [readUnsigned, nonzero, if_false, false_and] at read
  repeat' split at read
  all_goals cases read
  · rename_i rest opened _ _ _
    rw [opened, List.length_cons] at cut
    exact below (Nat.le_of_succ_le cut)
  · exact below cut
  · exact below (Nat.le_refl _)

/-- What is read comes from an unsigned numeral behind blanks and perhaps a sign. -/
theorem exists_readUnsigned {cs : List Char} {n : Int} (found : read base cs = .ok n) :
    ∃ rest m, readUnsigned base rest = .ok m ∧
      ((cs.map latinDigit).dropWhile isSpace = '-' :: rest ∧ n = -(m : Int) ∨
        ((cs.map latinDigit).dropWhile isSpace = '+' :: rest ∨
          (cs.map latinDigit).dropWhile isSpace = rest) ∧ n = m) := by
  have origin {sign : Int → Int} {rest : List Char}
      (value : ((readUnsigned base rest).bind fun m => .ok (m : Int)).map sign = .ok n) :
      ∃ m : Nat, readUnsigned base rest = .ok m ∧ n = sign m := by
    cases unsigned : readUnsigned base rest with
    | error => rw [unsigned] at value; cases value
    | ok m =>
      rw [unsigned] at value
      exact ⟨m, rfl, (Except.ok.inj value).symm⟩
  unfold Literal.read at found
  split at found
  · cases found
  simp only [Int.toNat_natCast] at found
  split at found
  · rename_i rest opened
    obtain ⟨m, value, same⟩ := origin found
    exact ⟨rest, m, value, .inl ⟨opened, same⟩⟩
  · rename_i rest opened
    obtain ⟨m, value, same⟩ := origin found
    exact ⟨rest, m, value, .inr ⟨.inl opened, same⟩⟩
  · obtain ⟨m, value, same⟩ := origin found
    exact ⟨_, m, value, .inr ⟨.inr rfl, same⟩⟩

/-- A text has no value that needs more digits than the text has characters. -/
theorem natAbs_read_lt (positional : 2 ≤ base) {cs : List Char} {n : Int}
    (found : read base cs = .ok n) : n.natAbs < base ^ cs.length := by
  have short : ((cs.map latinDigit).dropWhile isSpace).length ≤ cs.length := by
    simpa using (List.dropWhile_sublist isSpace (l := cs.map latinDigit)).length_le
  obtain ⟨rest, m, value, origin⟩ := exists_readUnsigned found
  have size : n.natAbs = m ∧ rest.length ≤ cs.length := by
    rcases origin with ⟨opened, rfl⟩ | ⟨opened | opened, rfl⟩ <;> rw [opened] at short
    · exact ⟨Int.natAbs_neg _, Nat.le_of_succ_le short⟩
    · exact ⟨rfl, Nat.le_of_succ_le short⟩
    · exact ⟨rfl, short⟩
  rw [size.1]
  exact Nat.lt_of_lt_of_le (readUnsigned_lt positional value)
    (Nat.pow_le_pow_right (by omega) size.2)

theorem markerBase?_ne_ten (cs : List Char) : markerBase? cs ≠ some 10 := by
  unfold markerBase?
  split
  · repeat' split
    all_goals simp
  · simp

/-- A decimal numeral of at most 4300 digits, zeros at the front included. -/
theorem read_decimal {cs : List Char} (filled : cs ≠ []) (decimal : cs.all Char.isDigit = true)
    (short : cs.length ≤ maxDigits) :
    read 10 cs = .ok (value 10 (cs.map fun c => c.toNat - 48)) := by
  have range : ∀ c ∈ cs, 48 ≤ c.toNat ∧ c.toNat ≤ 57 := by
    intro c member
    have digit := List.all_eq_true.1 decimal c member
    simp only [Char.isDigit, Bool.and_eq_true, decide_eq_true_eq] at digit
    exact ⟨digit.1, digit.2⟩
  have written : (cs.map fun c => c.toNat - 48).map char = cs := by
    rw [List.map_map]
    refine (List.map_congr_left fun c member => ?_).trans (List.map_id cs)
    have bounds := range c member
    rw [Function.comp, char, if_pos (by omega), show 48 + (c.toNat - 48) = c.toNat by omega]
    exact Char.ofNat_toNat c
  have small : ∀ d ∈ cs.map fun c => c.toNat - 48, d < 10 := by
    intro d member
    obtain ⟨c, inside, rfl⟩ := List.mem_map.1 member
    have bounds := range c inside
    omega
  have plain := read_map_char (by decide) (by decide) (by simpa using filled) small
    (markerBase?_ne_ten _) (.inr (by simpa using short))
  rwa [written] at plain

end Disasm32.Literal
