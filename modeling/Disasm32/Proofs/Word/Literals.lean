import Disasm32.Proofs.Number.Reading
import Disasm32.Proofs.Text.Tokens
import Disasm32.Word.Literal

/-! Reading words that are written in hexadecimal without a marker. The digits `0b` at the front
are taken for the marker of base two, and what is read then is never what was written. -/
namespace Disasm32.Word

open Digits

theorem isBlank_char : ∀ d < 36, Text.isBlank (char d) = false := by decide

theorem lower_char : ∀ d < 36, lower (char d) = char d := by decide

theorem char_eq_zero_iff : ∀ d < 36, char d = '0' ↔ d = 0 := by decide

theorem char_eq_b_iff : ∀ d < 36, char d = 'b' ↔ d = 11 := by decide

theorem char_ne_x : ∀ d < 16, char d ≠ 'x' ∧ char d ≠ 'X' := by decide

theorem char_ne_o : ∀ d < 16, char d ≠ 'o' ∧ char d ≠ 'O' := by decide

theorem char_ne_B : ∀ d < 16, char d ≠ 'B' := by decide

variable {ds : List Nat}

theorem not_isBlank_of_mem_map_char (small : ∀ d ∈ ds, d < 36) :
    ∀ c ∈ ds.map char, Text.isBlank c = false := by
  intro c member
  obtain ⟨d, inside, rfl⟩ := List.mem_map.1 member
  exact isBlank_char d (small d inside)

theorem plain_map_char (small : ∀ d ∈ ds, d < 36) : plain (ds.map char) = ds.map char := by
  have solid := not_isBlank_of_mem_map_char small
  have lowered : (ds.map char).map lower = ds.map char := by
    rw [List.map_map]
    exact List.map_congr_left fun d member => lower_char d (small d member)
  have unscored : (ds.map char).filter (· != '_') = ds.map char := by
    refine List.filter_eq_self.2 fun c member => ?_
    obtain ⟨d, inside, rfl⟩ := List.mem_map.1 member
    simpa using (Literal.char_ne_sign d (small d inside)).2.2
  rw [plain, Text.strip_of_not_blank solid, lowered, unscored]

theorem startsWithSign_map_char (small : ∀ d ∈ ds, d < 36) :
    startsWithSign (ds.map char) = false := by
  cases ds with
  | nil => rfl
  | cons d ds =>
    obtain ⟨minus, plus, -⟩ := Literal.char_ne_sign d (small d List.mem_cons_self)
    simp [startsWithSign, minus, plus]

def Marked (ds : List Nat) : Prop := [0, 11] <+: ds

theorem splitMarker_map_char (small : ∀ d ∈ ds, d < 16) (unmarked : ¬Marked ds) (base : Int) :
    splitMarker base (ds.map char) = (base, ds.map char) := by
  unfold splitMarker
  split
  · rename_i opened
    obtain ⟨d, tail, rfl, -, rest⟩ := List.map_eq_cons_iff.1 opened
    obtain ⟨e, tail, rfl, second, -⟩ := List.map_eq_cons_iff.1 rest
    exact absurd second (char_ne_x e (small e (by simp))).1
  · rename_i opened
    obtain ⟨d, tail, rfl, first, rest⟩ := List.map_eq_cons_iff.1 opened
    obtain ⟨e, tail, rfl, second, -⟩ := List.map_eq_cons_iff.1 rest
    have below : d < 36 ∧ e < 36 := by
      have := small d (by simp)
      have := small e (by simp)
      omega
    rw [(char_eq_zero_iff d below.1).1 first, (char_eq_b_iff e below.2).1 second] at unmarked
    exact absurd ⟨tail, rfl⟩ unmarked
  · rfl

/-- Among the digits of base 16 only those of a marker of base two look like a marker. -/
theorem eq_two_of_markerBase? (small : ∀ d ∈ ds, d < 16) {marker : Nat}
    (marks : Literal.markerBase? (ds.map char) = some marker) : marker = 2 ∧ Marked ds := by
  unfold Literal.markerBase? at marks
  split at marks
  · rename_i c _ opened
    obtain ⟨d, tail, rfl, first, rest⟩ := List.map_eq_cons_iff.1 opened
    obtain ⟨e, tail, rfl, rfl, -⟩ := List.map_eq_cons_iff.1 rest
    have other := char_ne_x e (small e (by simp))
    have octal := char_ne_o e (small e (by simp))
    rw [if_neg (by simpa using other), if_neg (by simpa using octal)] at marks
    split at marks
    · rename_i second
      have below : d < 36 ∧ e < 36 := by
        have := small d (by simp)
        have := small e (by simp)
        omega
      have lower : char e = 'b' := by simpa [char_ne_B e (small e (by simp))] using second
      rw [(char_eq_zero_iff d below.1).1 first, (char_eq_b_iff e below.2).1 lower]
      exact ⟨(Option.some.inj marks).symm, tail, rfl⟩
    · cases marks
  · cases marks

/-- What is read is read as an integer behind the marker, if there is no sign directly there. -/
theorem read_eq_ok_iff {text : String} {base n : Int} :
    read text base = .ok n ↔
      startsWithSign (splitMarker base (plain text.toList)).2 = false ∧
        Literal.read (splitMarker base (plain text.toList)).1
          (splitMarker base (plain text.toList)).2 = .ok n := by
  unfold read
  cases splitMarker base (plain text.toList) with
  | mk radix digits =>
    cases signed : startsWithSign digits with
    | true => simp [signed]
    | false => cases value : Literal.read radix digits <;> simp [signed, value]

theorem eq_of_read_error {text : String} {base : Int} {e : LiteralError}
    (failed : read text base = .error e) : e = ⟨text⟩ := by
  unfold read at failed
  dsimp only at failed
  split at failed
  · cases failed
    rfl
  · split at failed
    · cases failed
    · cases failed
      rfl

theorem read_of_not_marked (filled : ds ≠ []) (small : ∀ d ∈ ds, d < 16) (unmarked : ¬Marked ds) :
    read (String.ofList (ds.map char)) 16 = .ok (value 16 ds) := by
  have alphabet := Literal.lt_alphabet (by decide) small
  rw [read_eq_ok_iff, String.toList_ofList, plain_map_char alphabet,
    splitMarker_map_char small unmarked]
  refine ⟨startsWithSign_map_char alphabet, ?_⟩
  have other : Literal.markerBase? (ds.map char) ≠ some 16 := fun marks =>
    unmarked (eq_two_of_markerBase? small marks).2
  exact Literal.read_map_char (by decide) (by decide) filled small other (.inl rfl)

/-- After the marker fewer digits of a smaller base are left. -/
theorem read_of_marked (small : ∀ d ∈ ds, d < 16) (marked : Marked ds) :
    read (String.ofList (ds.map char)) 16 ≠ .ok (value 16 ds) := by
  have alphabet := Literal.lt_alphabet (by decide) small
  obtain ⟨rest, rfl⟩ := marked
  have split : splitMarker 16 (([0, 11] ++ rest).map char) = (2, rest.map char) := rfl
  have least : 2 ^ rest.length ≤ 16 ^ rest.length := Nat.pow_le_pow_left (by decide) _
  have great : value 16 ([0, 11] ++ rest) = 11 * 16 ^ rest.length + value 16 rest :=
    value_append 16 [0, 11] rest
  intro found
  obtain ⟨-, number⟩ := read_eq_ok_iff.1 found
  rw [String.toList_ofList, plain_map_char alphabet, split] at number
  have few : (value 16 ([0, 11] ++ rest) : Int).natAbs < 2 ^ (rest.map char).length :=
    Literal.natAbs_read_lt (by decide) number
  rw [List.length_map] at few
  omega

/-- A numeral is read as its value exactly if it does not begin with the marker. -/
theorem read_numeral_iff (filled : ds ≠ []) (small : ∀ d ∈ ds, d < 16) :
    read (String.ofList (ds.map char)) 16 = .ok (value 16 ds) ↔ ¬Marked ds :=
  ⟨fun found marked => read_of_marked small marked found, read_of_not_marked filled small⟩

end Disasm32.Word
