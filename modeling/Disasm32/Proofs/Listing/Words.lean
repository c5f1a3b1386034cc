import Disasm32.Proofs.Listing.Steps
import Disasm32.Proofs.Word.Literals

/-! Listings of words in the form in which words are shown, as eight hexadecimal digits. Such a
listing is read back exactly if none of its words begins with the digits `0b`. -/
namespace Disasm32

open Digits Text

theorem Word.marked_hexDigits_iff {w : Nat} (bound : w < 0x100000000) :
    Marked (hexDigits 8 w) ↔ w / 0x1000000 = 0x0b := by
  have eight : (hexDigits 8 w).length = 8 := length_hexDigits (k := 7) bound
  have whole := value_hexDigits 8 w
  have small : ∀ d ∈ hexDigits 8 w, d < 16 := lt_of_mem_hexDigits
  match digits : hexDigits 8 w with
  | [] | [_] => rw [digits] at eight; cases eight
  | d :: e :: rest =>
    rw [digits] at eight whole small
    have six : rest.length = 6 := by simpa using eight
    have cut : value 16 (d :: e :: rest) = (d * 16 + e) * 16 ^ rest.length + value 16 rest := by
      have parts := value_append 16 [d, e] rest
      simpa [value] using parts
    have least : value 16 rest < 16 ^ rest.length :=
      value_lt (by decide) fun x member => small x (by simp [member])
    have first := small d (by simp)
    have second := small e (by simp)
    rw [six] at cut least
    have marked : Marked (d :: e :: rest) ↔ d = 0 ∧ e = 11 := by
      simp [Marked, List.cons_prefix_cons, eq_comm]
    rw [marked]
    omega

/-- The digits of a word and nothing else are read as this word, with one exception. -/
theorem Word.read_hex_iff {w : Nat} (bound : w < 0x100000000) :
    read (String.ofList (hex 8 w)) 16 = .ok w ↔ w / 0x1000000 ≠ 0x0b := by
  have filled : hexDigits 8 w ≠ [] := by
    rw [← List.length_pos_iff, length_hexDigits (k := 7) bound]
    decide
  have numeral := read_numeral_iff filled lt_of_mem_hexDigits
  rwa [map_char_hexDigits, value_hexDigits, marked_hexDigits_iff bound] at numeral

namespace Listing

theorem hex_solid (w : Nat) : (hex 8 w).all (!isBlank ·) = true := by
  have small : ∀ d ∈ hexDigits 8 w, d < 16 := lt_of_mem_hexDigits
  rw [← map_char_hexDigits]
  simpa using Word.not_isBlank_of_mem_map_char (Literal.lt_alphabet (by decide) small)

def numeral (w : Nat) : Token where
  chars := hex 8 w
  filled := by simp [hex, padLeft, ofNat_ne_nil]
  solid := hex_solid w

/-- The lines hold the words as they are shown, with blanks between them and perhaps around them. -/
def Holds (lists : List (List Nat)) (lines : List String) : Prop :=
  List.Forall₂ (fun ws line => Spells (ws.map numeral) line.toList) lists lines

def entriesFrom (base : Int) (index : Nat) (ws : List Nat) : List Entry :=
  (ws.zipIdx index).map fun (w, i) => ⟨base + 4 * i, w, String.ofList (hex 8 w)⟩

variable {ws : List Nat} {lists : List (List Nat)} {line : String} {lines : List String}

theorem uncommented_of_spells (spells : Spells (ws.map numeral) line.toList) :
    uncommented line.toList = line.toList := by
  have plain (c : Char) (solid : isBlank c = false) (other : c.isAlphanum = false) :
      c ∉ line.toList := by
    intro member
    rcases mem_of_spells spells member with blank | ⟨t, listed, inside⟩
    · simp [blank] at solid
    · obtain ⟨w, -, rfl⟩ := List.mem_map.1 listed
      simp [isAlphanum_of_mem_hex inside] at other
  exact uncommented_of_absent (plain '#' rfl rfl) (plain '/' rfl rfl)

theorem tokens_of_holds (holds : Holds lists lines) : tokens lines = lists.flatten.map (hex 8) := by
  induction holds with
  | nil => rfl
  | cons spells _ ih =>
    rw [tokens, List.flatMap_cons, ← tokens, ih, uncommented_of_spells spells,
      words_of_spells spells, List.flatten_cons, List.map_append, List.map_map]
    rfl

theorem isJump_hex (w : Nat) : isJump (hex 8 w) = false := by
  rw [Bool.eq_false_iff]
  intro jump
  obtain ⟨number, digits⟩ := isJump_iff.1 jump
  have sign : '@' ∈ hex 8 w := digits ▸ List.mem_cons_self
  exact absurd (isAlphanum_of_mem_hex sign) (by decide)

theorem readTokens_hex (base index : Int) (w : Nat) (rest : List (List Char)) :
    readTokens base index (hex 8 w :: rest) =
      match Word.read (String.ofList (hex 8 w)) 16 with
      | .ok word => (⟨base + 4 * index, word, String.ofList (hex 8 w)⟩ ::
          (readTokens base (index + 1) rest).1, (readTokens base (index + 1) rest).2)
      | .error e => ([], some e) := by
  rw [readTokens_cons, written_of_word (isJump_hex w)]
  simp only [shown, next, isJump_hex, Bool.false_eq_true, if_false]
  cases Word.read (String.ofList (hex 8 w)) 16 <;> rfl

theorem readTokens_map_hex_iff (base : Int) (index : Nat) (bound : ∀ w ∈ ws, w < 0x100000000) :
    readTokens base index (ws.map (hex 8)) = (entriesFrom base index ws, none) ↔
      ∀ w ∈ ws, w / 0x1000000 ≠ 0x0b := by
  induction ws generalizing index with
  | nil => simp [readTokens, entriesFrom]
  | cons w ws ih =>
    obtain ⟨small, bound⟩ := List.forall_mem_cons.1 bound
    have rest := ih (index + 1) bound
    rw [Nat.cast_succ] at rest
    rw [List.forall_mem_cons, ← rest, ← Word.read_hex_iff small, List.map_cons, readTokens_hex]
    cases Word.read (String.ofList (hex 8 w)) 16 with
    | error e => simp
    | ok word => simp [entriesFrom, Prod.ext_iff, and_assoc]

/-- A listing of words is read back, with the addresses from the base on, exactly if none of the
words begins with the digits that mark base two. -/
theorem read_holds_iff (base : Int) (bound : ∀ w ∈ lists.flatten, w < 0x100000000)
    (holds : Holds lists lines) :
    read lines base = (entriesFrom base 0 lists.flatten, none) ↔
      ∀ w ∈ lists.flatten, w / 0x1000000 ≠ 0x0b := by
  rw [read, tokens_of_holds holds]
  exact readTokens_map_hex_iff base 0 bound

/-- Two lines with an empty one between them; no word begins with the marker. -/
theorem read_holds_spaced :
    let lists := [[0x13, 0x100073], [], [0xdeadbeef]]
    let lines := ["00000013 00100073\n", "\n", "  deadbeef"]
    (∀ w ∈ lists.flatten, w < 0x100000000) ∧ Holds lists lines ∧
      (read lines 0x80000000 = (entriesFrom 0x80000000 0 lists.flatten, none) ↔
        ∀ w ∈ lists.flatten, w / 0x1000000 ≠ 0x0b) :=
  have holds : Holds [[0x13, 0x100073], [], [0xdeadbeef]]
      ["00000013 00100073\n", "\n", "  deadbeef"] :=
    .cons (spells_join [] ['\n'] rfl rfl (by decide +kernel)) <| .cons (.done rfl) <|
      .cons (spells_join [' ', ' '] [] rfl rfl (by decide +kernel)) .nil
  ⟨by decide, holds, read_holds_iff 0x80000000 (by decide) holds⟩

/-- The addition of 176 to the register that is always zero is refused where it is listed. -/
theorem not_read_holds_marked :
    Holds [[0x13, 0x0b000013]] ["00000013 0b000013"] ∧
      (∀ w ∈ [[0x13, 0x0b000013]].flatten, w < 0x100000000) ∧
      read ["00000013 0b000013"] 0 = ([⟨0, 0x13, "00000013"⟩], some ⟨"0b000013"⟩) ∧
      read ["00000013 0b000013"] 0 ≠ (entriesFrom 0 0 [[0x13, 0x0b000013]].flatten, none) := by
  have refused : read ["00000013 0b000013"] 0 = ([⟨0, 0x13, "00000013"⟩], some ⟨"0b000013"⟩) := by
    decide +kernel
  refine ⟨.cons (spells_join [] [] rfl rfl (by decide +kernel)) .nil, by decide, refused, ?_⟩
  rw [refused]
  exact fun same => nomatch congrArg Prod.snd same

end Listing

end Disasm32
