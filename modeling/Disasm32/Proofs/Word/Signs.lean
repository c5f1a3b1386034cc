import Disasm32.Proofs.Word.Literals

/-! The sign of a word as it is read. A sign directly before the digits is refused, but the blanks
that a literal may begin with hide one: behind them a minus makes the word negative. -/
namespace Disasm32

namespace Literal

theorem not_isBlank_of_run :
    ∀ start ∈ Text.digitRuns, ∀ d < 10, Text.isBlank (Char.ofNat (start + d)) = false := by
  decide +kernel

theorem not_isBlank_of_decimalDigit? {c : Char} {d : Nat} (digit : Text.decimalDigit? c = some d) :
    Text.isBlank c = false := by
  obtain ⟨start, found, -⟩ := Option.map_eq_some_iff.1 digit
  have within := List.find?_some found
  simp only [Bool.and_eq_true, decide_eq_true_eq] at within
  have solid := not_isBlank_of_run start (List.mem_of_find?_eq_some found) (c.toNat - start)
    (by omega)
  rwa [Nat.add_sub_cancel' within.1, Char.ofNat_toNat] at solid

theorem latinDigit_cases (c : Char) : latinDigit c = c ∨
    Text.isBlank c = false ∧ ∃ d < 10, latinDigit c = Digits.char d := by
  cases digit : Text.decimalDigit? c with
  | none => exact .inl (by rw [latinDigit, digit])
  | some d =>
    have below := Text.lt_ten_of_decimalDigit? digit
    refine .inr ⟨not_isBlank_of_decimalDigit? digit, d, below, ?_⟩
    rw [latinDigit, digit, Digits.char, if_pos below]

theorem isSpace_latinDigit (c : Char) : isSpace (latinDigit c) = isSpace c := by
  rcases latinDigit_cases c with same | ⟨solid, d, below, latin⟩
  · rw [same]
  · rw [latin, isSpace_char d (by omega), isSpace, solid, Bool.false_and]

theorem eq_minus_of_latinDigit {c : Char} (minus : latinDigit c = '-') : c = '-' := by
  rcases latinDigit_cases c with same | ⟨-, d, below, latin⟩
  · rwa [same] at minus
  · exact absurd (latin.symm.trans minus) (char_ne_sign d (by omega)).1

theorem dropWhile_map_latinDigit (cs : List Char) :
    (cs.map latinDigit).dropWhile isSpace = (cs.dropWhile isSpace).map latinDigit := by
  rw [List.dropWhile_map]
  simp only [Function.comp_def, isSpace_latinDigit]

variable {base : Nat}

theorem read_of_minus (positional : 2 ≤ base) (alphabet : base ≤ 36) {blanks rest : List Char}
    (blank : blanks.all isSpace = true) {n : Nat}
    (value : readUnsigned base (rest.map latinDigit) = .ok n) :
    read base (blanks ++ '-' :: rest) = .ok (-(n : Int)) := by
  have front : (blanks ++ '-' :: rest).dropWhile isSpace = '-' :: rest :=
    List.dropWhile_append_of_pos (by simpa using blank)
  rw [read, if_neg (by omega), dropWhile_map_latinDigit, front, List.map_cons,
    show latinDigit '-' = '-' by decide]
  simp only [Int.toNat_natCast, value]
  rfl

/-- What is read is negative only behind a minus. -/
theorem nonneg_or_minus {cs : List Char} {n : Int} (found : read base cs = .ok n) :
    0 ≤ n ∨ ∃ blanks rest, ∃ m : Nat, cs = blanks ++ '-' :: rest ∧ blanks.all isSpace = true ∧
      readUnsigned base (rest.map latinDigit) = .ok m ∧ n = -(m : Int) := by
  obtain ⟨rest, m, value, ⟨opened, same⟩ | ⟨-, same⟩⟩ := exists_readUnsigned found
  · rw [dropWhile_map_latinDigit] at opened
    obtain ⟨c, tail, front, first, rfl⟩ := List.map_eq_cons_iff.1 opened
    rw [eq_minus_of_latinDigit first] at front
    refine .inr ⟨cs.takeWhile isSpace, tail, m, ?_, List.all_takeWhile, value, same⟩
    rw [← front, List.takeWhile_append_dropWhile]
  · exact .inl (same ▸ Int.natCast_nonneg m)

end Literal

namespace Word

/-- Behind its marker, or underscores before all else, the text goes on with blanks, a minus and
the digits of `n`. -/
def HidesMinus (text : String) (defaultBase : Int) (n : Nat) : Prop :=
  ∃ base blanks rest, splitMarker defaultBase (plain text.toList) = (base, blanks ++ '-' :: rest) ∧
    blanks ≠ [] ∧ blanks.all Literal.isSpace = true ∧
      Literal.readUnsigned base.toNat (rest.map Literal.latinDigit) = .ok n

variable {base : Int} {text : String}

theorem splitMarker_base (least : 2 ≤ base) (greatest : base ≤ 36) {radix : Int}
    {cs digits : List Char} (split : splitMarker base cs = (radix, digits)) :
    ∃ b : Nat, radix = b ∧ 2 ≤ b ∧ b ≤ 36 := by
  have bounds : 2 ≤ radix ∧ radix ≤ 36 := by
    unfold splitMarker at split
    split at split <;> cases split
    · decide
    · decide
    · exact ⟨least, greatest⟩
  exact ⟨radix.toNat, by omega, by omega, by omega⟩

theorem startsWithSign_minus_iff {blanks : List Char} (blank : blanks.all Literal.isSpace = true)
    (rest : List Char) :
    startsWithSign (blanks ++ '-' :: rest) = true ↔ blanks = [] := by
  cases blanks with
  | nil => simp [startsWithSign]
  | cons c blanks =>
    rw [List.all_cons, Bool.and_eq_true] at blank
    have space := blank.1
    have minus : c ≠ '-' := by
      rintro rfl
      cases space
    have plus : c ≠ '+' := by
      rintro rfl
      cases space
    simp [startsWithSign, minus, plus]

theorem read_of_hidesMinus (least : 2 ≤ base) (greatest : base ≤ 36) {n : Nat}
    (hidden : HidesMinus text base n) : read text base = .ok (-(n : Int)) := by
  obtain ⟨radix, blanks, rest, split, filled, blank, value⟩ := hidden
  obtain ⟨b, rfl, positional, alphabet⟩ := splitMarker_base least greatest split
  rw [Int.toNat_natCast] at value
  have unsigned := mt (startsWithSign_minus_iff blank rest).1 filled
  rw [read_eq_ok_iff, split]
  exact ⟨Bool.eq_false_iff.2 unsigned, Literal.read_of_minus positional alphabet blank value⟩

theorem nonneg_or_hidesMinus (least : 2 ≤ base) (greatest : base ≤ 36) {n : Int}
    (found : read text base = .ok n) :
    0 ≤ n ∨ ∃ m : Nat, HidesMinus text base m ∧ n = -(m : Int) := by
  obtain ⟨unsigned, value⟩ := read_eq_ok_iff.1 found
  cases split : splitMarker base (plain text.toList) with
  | mk radix digits =>
    obtain ⟨b, rfl, -, -⟩ := splitMarker_base least greatest split
    rw [split] at unsigned value
    obtain nonneg | ⟨blanks, rest, m, rfl, blank, digits, same⟩ := Literal.nonneg_or_minus value
    · exact .inl nonneg
    · have filled := mt (startsWithSign_minus_iff blank rest).2 (Bool.eq_false_iff.1 unsigned)
      exact .inr ⟨m, ⟨b, blanks, rest, split, filled, blank, digits⟩, same⟩

theorem isBlank_toLower_ascii :
    ∀ n < 128, Text.isBlank (Char.ofNat n).toLower = Text.isBlank (Char.ofNat n) := by decide

theorem isBlank_lower (c : Char) : Text.isBlank (lower c) = Text.isBlank c := by
  unfold lower
  split
  · rename_i unit
    simp only [Text.isBlank, unit]
    decide
  by_cases capital : c.val ≥ 'A'.val ∧ c.val ≤ 'Z'.val
  · have ascii : c.toNat < 128 :=
      Nat.lt_of_le_of_lt (UInt32.le_iff_toNat_le.1 capital.2) (by decide)
    have same := isBlank_toLower_ascii c.toNat ascii
    rwa [Char.ofNat_toNat] at same
  · have same : c.toLower = c := dif_neg capital
    rw [same]

theorem mem_of_mem_splitMarker {cs : List Char} {c : Char}
    (member : c ∈ (splitMarker base cs).2) : c ∈ cs := by
  unfold splitMarker at member
  split at member
  · exact List.mem_cons_of_mem _ (List.mem_cons_of_mem _ member)
  · exact List.mem_cons_of_mem _ (List.mem_cons_of_mem _ member)
  · exact member

theorem head?_ne_minus_of_read {n : Int} (found : read text base = .ok n) :
    text.toList.head? ≠ some '-' := by
  intro first
  obtain ⟨rest, front⟩ := List.head?_eq_some_iff.1 first
  let minus : Text.Token := ⟨['-'], by simp, by decide⟩
  have stripped : Text.strip text.toList = '-' :: Text.stripRight rest := by
    rw [front]
    exact @Text.Token.strip_append minus [] rfl rest
  obtain ⟨unsigned, -⟩ := read_eq_ok_iff.1 found
  rw [plain, stripped] at unsigned
  cases unsigned

/-- Without blanks a text hides no sign. -/
theorem nonneg_of_solid (least : 2 ≤ base) (greatest : base ≤ 36)
    (solid : ∀ c ∈ text.toList, Text.isBlank c = false) {n : Int}
    (found : read text base = .ok n) : 0 ≤ n := by
  obtain nonneg | ⟨m, ⟨radix, blanks, rest, split, filled, blank, -⟩, -⟩ :=
    nonneg_or_hidesMinus least greatest found
  · exact nonneg
  obtain ⟨c, blanks, rfl⟩ := List.exists_cons_of_ne_nil filled
  have space : Literal.isSpace c = true := List.all_eq_true.1 blank c List.mem_cons_self
  have behind : c ∈ (splitMarker base (plain text.toList)).2 := by simp [split]
  have inside : c ∈ plain text.toList := mem_of_mem_splitMarker behind
  rw [plain, Text.strip_of_not_blank solid] at inside
  obtain ⟨d, member, rfl⟩ := List.mem_map.1 (List.mem_filter.1 inside).1
  rw [Literal.isSpace, isBlank_lower, solid d member] at space
  cases space

/-- A text is refused or read as a number from zero up exactly if it hides no minus, but before a
zero; a minus that it hides is obeyed. -/
theorem read_nonneg_iff (least : 2 ≤ base) (greatest : base ≤ 36) (text : String) :
    ((∃ e, read text base = .error e) ∨ (∃ n, read text base = .ok n ∧ 0 ≤ n) ↔
        ∀ n, HidesMinus text base n → n = 0) ∧
      ∀ n, HidesMinus text base n → read text base = .ok (-(n : Int)) := by
  refine ⟨⟨?_, fun plain => ?_⟩, fun n => read_of_hidesMinus least greatest⟩
  · intro sound n hidden
    have negative := read_of_hidesMinus least greatest hidden
    obtain ⟨e, refused⟩ | ⟨m, found, nonneg⟩ := sound
    · cases refused.symm.trans negative
    · cases found.symm.trans negative
      omega
  · cases found : read text base with
    | error e => exact .inl ⟨e, rfl⟩
    | ok n =>
      refine .inr ⟨n, rfl, ?_⟩
      obtain nonneg | ⟨m, hidden, rfl⟩ := nonneg_or_hidesMinus least greatest found
      · exact nonneg
      · rw [plain m hidden]
        decide

/-- In base ten, behind an underscore. -/
theorem read_nonneg_underscored :
    (2 : Int) ≤ 10 ∧ (10 : Int) ≤ 36 ∧ HidesMinus "_ -1_3" 10 13 ∧
      ((∃ e, read "_ -1_3" 10 = .error e) ∨ (∃ n, read "_ -1_3" 10 = .ok n ∧ 0 ≤ n) ↔
          ∀ n, HidesMinus "_ -1_3" 10 n → n = 0) ∧
        ∀ n, HidesMinus "_ -1_3" 10 n → read "_ -1_3" 10 = .ok (-(n : Int)) :=
  ⟨by decide, by decide,
    ⟨10, [' '], ['1', '3'], by decide +kernel, by decide, by decide, by decide +kernel⟩,
    read_nonneg_iff (by decide) (by decide) "_ -1_3"⟩

/-- A blank behind the marker lets a minus pass. -/
theorem not_read_nonneg_marked :
    read "0x -13" 16 = .ok (-19) ∧
      ¬((∃ e, read "0x -13" 16 = .error e) ∨ ∃ n, read "0x -13" 16 = .ok n ∧ 0 ≤ n) := by
  have negative : read "0x -13" 16 = .ok (-19) := by decide +kernel
  refine ⟨negative, ?_⟩
  rintro (⟨e, refused⟩ | ⟨n, found, nonneg⟩)
  · cases refused.symm.trans negative
  · cases found.symm.trans negative
    omega

end Word

end Disasm32
