import Disasm32.Proofs.Listing.Steps
import Disasm32.Proofs.Word.Signs

/-! What no listing can hold: a negative word, or a word at an address below the base or between
the places of words. Tokens are cut at blanks, so none of them hides a sign. -/
namespace Disasm32.Listing

/-- The word of an entry is the number that its token denotes, and has a place. -/
structure InPlace (base : Int) (e : Entry) : Prop where
  nonneg : 0 ≤ e.word
  value : Word.read e.token 16 = .ok e.word
  above : base ≤ e.address
  aligned : 4 ∣ e.address - base

def Solid (token : List Char) : Prop := ∀ c ∈ token, Text.isBlank c = false

variable {token : List Char} {ts : List (List Char)} {lines : List String} {base index n : Int}
  {e : Entry}

theorem solid_of_mem_tokens (member : token ∈ tokens lines) : Solid token := by
  obtain ⟨line, -, inside⟩ := List.mem_flatMap.1 member
  exact fun c => Text.not_blank_of_mem_words inside

theorem nonneg_of_read_written (solid : Solid token)
    (found : Word.read (written token) 16 = .ok n) : 0 ≤ n := by
  have number : ∀ c ∈ (written token).toList, Text.isBlank c = false := by
    unfold written
    split
    · intro c inside
      rw [String.toList_ofList] at inside
      exact solid c (List.mem_cons_of_mem _ inside)
    · rw [String.toList_ofList]
      exact solid
  exact Word.nonneg_of_solid (by decide) (by decide) number found

theorem next_nonneg (start : 0 ≤ index) (nonneg : 0 ≤ n) : 0 ≤ next index token n := by
  unfold next
  split <;> omega

theorem inPlace_of_mem_shown (nonneg : 0 ≤ index) (solid : Solid token)
    (found : Word.read (written token) 16 = .ok n) (member : e ∈ shown base index token n) :
    InPlace base e := by
  unfold shown at member
  split at member
  · cases member
  rename_i word
  rw [List.mem_singleton] at member
  subst member
  rw [written_of_word (by simpa using word)] at found
  constructor
  · exact nonneg_of_read_written solid (by rwa [written_of_word (by simpa using word)])
  · exact found
  · change base ≤ base + 4 * index
    omega
  · exact ⟨index, by simp⟩

/-- The invariant is that the index is not negative, which a jump keeps since no number is. -/
theorem inPlace_of_mem_readTokens (nonneg : 0 ≤ index) (solid : ∀ t ∈ ts, Solid t)
    (member : e ∈ (readTokens base index ts).1) : InPlace base e := by
  induction ts generalizing index with
  | nil => cases member
  | cons t ts ih =>
    rw [List.forall_mem_cons] at solid
    rw [readTokens_cons] at member
    cases found : Word.read (written t) 16 with
    | error fault =>
      rw [found] at member
      cases member
    | ok n =>
      rw [found] at member
      rcases List.mem_append.1 member with first | later
      · exact inPlace_of_mem_shown nonneg solid.1 found first
      · exact ih (next_nonneg nonneg (nonneg_of_read_written solid.1 found)) solid.2 later

/-- Every entry that is found before a listing ends or fails has a word from zero up at a place of
words. -/
theorem inPlace_of_mem_read (member : e ∈ (read lines base).1) : InPlace base e :=
  inPlace_of_mem_readTokens (Int.le_refl 0) (fun _ => solid_of_mem_tokens) member

/-- Behind a jump, and before a token with a sign in it. -/
theorem inPlace_of_mem_read_jump :
    (⟨0x80000020, 0x13, "0x1_3"⟩ : Entry) ∈ (read ["@8 0x1_3 // nop", "0x-13"] 0x80000000).1 ∧
      InPlace 0x80000000 ⟨0x80000020, 0x13, "0x1_3"⟩ := by
  have member : (⟨0x80000020, 0x13, "0x1_3"⟩ : Entry) ∈
      (read ["@8 0x1_3 // nop", "0x-13"] 0x80000000).1 := by
    decide +kernel
  exact ⟨member, inPlace_of_mem_read member⟩

end Disasm32.Listing
