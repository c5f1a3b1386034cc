import Disasm32.Proofs.Word.Literals

/-! Spellings of a number. Capitals, underscores and the blanks around a text are taken away before
it is read, so every spelling of a numeral is read as the numeral itself. A marker in front decides
the base; without one the digits `0b` at the front are the only ones that are taken for a marker. -/
namespace Disasm32.Word

open Digits

/-- The characters, any of them as a capital, with underscores at any places. -/
inductive Underscored : List Char → List Char → Prop where
  | done : Underscored [] []
  | underscore {cs text : List Char} : Underscored cs text → Underscored cs ('_' :: text)
  | same (c : Char) {cs text : List Char} : Underscored cs text → Underscored (c :: cs) (c :: text)
  | capital (c : Char) {cs text : List Char} :
      Underscored cs text → Underscored (c :: cs) (c.toUpper :: text)

/-- The text spells the characters, with blanks around the whole. -/
def Writes (cs line : List Char) : Prop :=
  ∃ front text back, line = front ++ (text ++ back) ∧ front.all Text.isBlank = true ∧
    back.all Text.isBlank = true ∧ Underscored cs text

inductive Announces : Char → Nat → Prop where
  | hexadecimal : Announces 'x' 16
  | binary : Announces 'b' 2

def leading (base zeros n : Nat) : List Nat := List.replicate zeros 0 ++ digits base n

theorem isBlank_toUpper_char : ∀ d < 36, Text.isBlank (char d).toUpper = false := by decide

theorem lower_toUpper_char : ∀ d < 36, lower (char d).toUpper = char d := by decide

variable {cs text line : List Char}

theorem Underscored.solid (alphabet : ∀ c ∈ cs, ∃ d < 36, char d = c)
    (spelled : Underscored cs text) : ∀ c ∈ text, Text.isBlank c = false := by
  induction spelled with
  | done => simp
  | underscore _ ih => simpa using ⟨by decide, ih alphabet⟩
  | same c _ ih =>
    obtain ⟨⟨d, small, rfl⟩, rest⟩ := List.forall_mem_cons.1 alphabet
    simpa using ⟨isBlank_char d small, ih rest⟩
  | capital c _ ih =>
    obtain ⟨⟨d, small, rfl⟩, rest⟩ := List.forall_mem_cons.1 alphabet
    simpa using ⟨isBlank_toUpper_char d small, ih rest⟩

theorem Underscored.filter_map_lower (alphabet : ∀ c ∈ cs, ∃ d < 36, char d = c)
    (spelled : Underscored cs text) : (text.map lower).filter (· != '_') = cs := by
  induction spelled with
  | done => rfl
  | underscore _ ih => simpa [lower] using ih alphabet
  | same c _ ih =>
    obtain ⟨⟨d, small, rfl⟩, rest⟩ := List.forall_mem_cons.1 alphabet
    simp [lower_char d small, (Literal.char_ne_sign d small).2.2, ih rest]
  | capital c _ ih =>
    obtain ⟨⟨d, small, rfl⟩, rest⟩ := List.forall_mem_cons.1 alphabet
    simp [lower_toUpper_char d small, (Literal.char_ne_sign d small).2.2, ih rest]

theorem Underscored.refl (cs : List Char) : Underscored cs cs := by
  induction cs with
  | nil => exact .done
  | cons c cs ih => exact .same c ih

theorem Writes.refl (cs : List Char) : Writes cs cs :=
  ⟨[], cs, [], (List.append_nil cs).symm, rfl, rfl, .refl cs⟩

theorem Underscored.ne_nil (filled : cs ≠ []) (spelled : Underscored cs text) : text ≠ [] := by
  cases spelled with
  | done => exact absurd rfl filled
  | underscore | same | capital => simp

theorem plain_of_writes (filled : cs ≠ []) (alphabet : ∀ c ∈ cs, ∃ d < 36, char d = c)
    (writes : Writes cs line) : plain line = cs := by
  obtain ⟨front, text, back, rfl, blank, blank', spelled⟩ := writes
  have solid : text.all (!Text.isBlank ·) = true := by
    simpa using spelled.solid alphabet
  have stripped : Text.strip (front ++ (text ++ back)) = text := by
    have token := Text.Token.strip_append ⟨text, spelled.ne_nil filled, solid⟩ blank back
    rw [token, Text.stripRight_of_blanks blank', List.append_nil]
  rw [plain, stripped, spelled.filter_map_lower alphabet]

theorem lt_of_mem_leading {base zeros n : Nat} (positional : 2 ≤ base) :
    ∀ d ∈ leading base zeros n, d < base := by
  intro d member
  rcases List.mem_append.1 member with zero | digit
  · rw [List.eq_of_mem_replicate zero]
    omega
  · exact lt_of_mem_digits positional n d digit

theorem value_leading (base zeros n : Nat) : value base (leading base zeros n) = n := by
  rw [leading, value_replicate_zero_append, value_digits]

theorem leading_ne_nil (base zeros n : Nat) : leading base zeros n ≠ [] := by
  simp [leading, digits_ne_nil]

variable {letter : Char} {radix : Nat} {ds : List Nat}

theorem exists_char_of_mem (small : ∀ d ∈ ds, d < 36) :
    ∀ c ∈ ds.map char, ∃ d < 36, char d = c := by
  intro c member
  obtain ⟨d, inside, rfl⟩ := List.mem_map.1 member
  exact ⟨d, small d inside, rfl⟩

theorem Announces.bounds (announces : Announces letter radix) :
    2 ≤ radix ∧ radix ≤ 16 ∧ Literal.isPowerOfTwo radix = true := by
  cases announces <;> decide

theorem Announces.splitMarker_eq (announces : Announces letter radix) (base : Int)
    (cs : List Char) : splitMarker base ('0' :: letter :: cs) = ((radix : Int), cs) := by
  cases announces <;> rfl

/-- Behind its marker no numeral begins with a marker of the same base. -/
theorem Announces.unmarked (announces : Announces letter radix) (small : ∀ d ∈ ds, d < radix) :
    Literal.markerBase? (ds.map char) ≠ some radix := by
  intro marks
  have below : ∀ d ∈ ds, d < 16 := fun d member =>
    Nat.lt_of_lt_of_le (small d member) announces.bounds.2.1
  obtain ⟨rfl, rest, rfl⟩ := eq_two_of_markerBase? below marks
  have := small 11 (by simp)
  omega

theorem read_of_announces (announces : Announces letter radix) (filled : ds ≠ [])
    (small : ∀ d ∈ ds, d < radix) (base : Int) {text : String}
    (writes : Writes ('0' :: letter :: ds.map char) text.toList) :
    read text base = .ok (value radix ds) := by
  obtain ⟨positional, few, power⟩ := announces.bounds
  have below := Literal.lt_alphabet (by omega) small
  have alphabet : ∀ c ∈ '0' :: letter :: ds.map char, ∃ d < 36, char d = c := by
    have marker : ∃ d < 36, char d = letter := by
      cases announces <;> decide
    exact List.forall_mem_cons.2 ⟨⟨0, by decide, rfl⟩,
      List.forall_mem_cons.2 ⟨marker, exists_char_of_mem below⟩⟩
  rw [read_eq_ok_iff, plain_of_writes (by simp) alphabet writes, announces.splitMarker_eq]
  refine ⟨startsWithSign_map_char below, ?_⟩
  exact Literal.read_map_char (by omega) positional filled small (announces.unmarked small)
    (.inl power)

theorem read_writes_iff (filled : ds ≠ []) (small : ∀ d ∈ ds, d < 16) {text : String}
    (writes : Writes (ds.map char) text.toList) :
    read text 16 = .ok (value 16 ds) ↔ ¬Marked ds := by
  have below := Literal.lt_alphabet (by decide) small
  have left := plain_of_writes (by simpa using filled) (exists_char_of_mem below) writes
  rw [← read_numeral_iff filled small, read_eq_ok_iff, read_eq_ok_iff, left, String.toList_ofList,
    plain_map_char below]

/-- Every spelling of a number is read as the number: behind a marker, whatever the default base
is, and in base 16 also without one, exactly if its digits do not begin with `0b`. -/
theorem read_spelled (n zeros : Nat) (text : String) :
    (∀ letter radix, Announces letter radix →
      Writes ('0' :: letter :: (leading radix zeros n).map char) text.toList →
        ∀ base, read text base = .ok n) ∧
      (Writes ((leading 16 zeros n).map char) text.toList →
        (read text 16 = .ok n ↔ ¬Marked (leading 16 zeros n))) := by
  constructor
  · intro letter radix announces writes base
    have found := read_of_announces announces (leading_ne_nil radix zeros n)
      (lt_of_mem_leading announces.bounds.1) base writes
    rwa [value_leading] at found
  · intro writes
    have small : ∀ d ∈ leading 16 zeros n, d < 16 := lt_of_mem_leading (by decide)
    have numeral := read_writes_iff (leading_ne_nil 16 zeros n) small writes
    rwa [value_leading] at numeral

/-- Behind a marker the digits `0b` are digits, and capitals may stand beside small letters. -/
theorem read_spelled_marked :
    (Announces 'x' 16 ∧ Writes ('0' :: 'x' :: (leading 16 1 0xb1).map char) " _0X_0b_1\t".toList ∧
      read " _0X_0b_1\t" 10 = .ok (0xb1 : Nat)) ∧
    (Writes ((leading 16 2 0xdead).map char) "00_De__aD".toList ∧
      (read "00_De__aD" 16 = .ok (0xdead : Nat) ↔ ¬Marked (leading 16 2 0xdead))) := by
  have marked : Writes ('0' :: 'x' :: (leading 16 1 0xb1).map char) " _0X_0b_1\t".toList := by
    rw [show (leading 16 1 0xb1).map char = ['0', 'b', '1'] by decide +kernel]
    refine ⟨[' '], ['_', '0', 'X', '_', '0', 'b', '_', '1'], ['\t'], rfl, rfl, rfl, ?_⟩
    exact .underscore <| .same '0' <| .capital 'x' <| .underscore <| .same '0' <| .same 'b' <|
      .underscore <| .same '1' .done
  have bare : Writes ((leading 16 2 0xdead).map char) "00_De__aD".toList := by
    rw [show (leading 16 2 0xdead).map char = ['0', '0', 'd', 'e', 'a', 'd'] by decide +kernel]
    refine ⟨[], ['0', '0', '_', 'D', 'e', '_', '_', 'a', 'D'], [], rfl, rfl, rfl, ?_⟩
    exact .same '0' <| .same '0' <| .underscore <| .capital 'd' <| .same 'e' <| .underscore <|
      .underscore <| .same 'a' <| .capital 'd' .done
  have found := (read_spelled 0xb1 1 " _0X_0b_1\t").1 'x' 16 .hexadecimal marked 10
  exact ⟨⟨.hexadecimal, marked, found⟩, bare, (read_spelled 0xdead 2 "00_De__aD").2 bare⟩

end Disasm32.Word
