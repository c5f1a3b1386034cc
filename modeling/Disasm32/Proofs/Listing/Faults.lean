import Disasm32.Proofs.Listing.Indices
import Mathlib.Data.List.Induction

/-! Where a listing ends. Its entries are the words before the first token that holds no number,
each at the index that the tokens before it lead to. Nothing behind that token is read. -/
namespace Disasm32.Listing

/-- The token holds no number. -/
def IsBad (token : List Char) : Prop := ∃ e, Word.read (written token) 16 = .error e

/-- The token `bad` is the first one without a number, and `before` are those before it. -/
structure EndsAt (ts before : List (List Char)) (bad : List Char) : Prop where
  sound : ∀ t ∈ before, ¬IsBad t
  isBad : IsBad bad
  place : ∃ after, ts = before ++ bad :: after

/-- The entries of tokens that all hold numbers. -/
inductive Lists (base : Int) : List (List Char) → List Entry → Prop where
  | none : Lists base [] []
  | jump {ts : List (List Char)} {token : List Char} {es : List Entry} {n : Int} :
      Lists base ts es → isJump token = true → Word.read (written token) 16 = .ok n →
      Lists base (ts ++ [token]) es
  | word {ts : List (List Char)} {token : List Char} {es : List Entry} {i w : Int} :
      Lists base ts es → isJump token = false → Word.read (String.ofList token) 16 = .ok w →
      Leads 0 ts i →
      Lists base (ts ++ [token]) (es ++ [⟨base + 4 * i, w, String.ofList token⟩])

variable {ts before : List (List Char)} {token bad : List Char} {es : List Entry} {base index : Int}

theorem not_isBad_iff : ¬IsBad token ↔ ∃ n, Word.read (written token) 16 = .ok n := by
  unfold IsBad
  cases Word.read (written token) 16 <;> simp

theorem exists_endsAt (fault : ∃ t ∈ ts, IsBad t) : ∃ before bad, EndsAt ts before bad := by
  induction ts with
  | nil => simp at fault
  | cons t ts ih =>
    by_cases first : IsBad t
    · exact ⟨[], t, by simp, first, ts, rfl⟩
    · have later : ∃ t ∈ ts, IsBad t := by simpa [first] using fault
      obtain ⟨before, bad, ends⟩ := ih later
      obtain ⟨after, rfl⟩ := ends.place
      exact ⟨t :: before, bad, List.forall_mem_cons.2 ⟨first, ends.sound⟩, ends.isBad, after, rfl⟩

theorem readTokens_whole_iff : (readTokens base index ts).2 = none ↔ ∀ t ∈ ts, ¬IsBad t := by
  induction ts generalizing index with
  | nil => simp [readTokens]
  | cons t ts ih =>
    rw [readTokens_cons, List.forall_mem_cons, not_isBad_iff]
    cases Word.read (written t) 16 with
    | error fault => simp
    | ok n => simpa [extend] using ih

theorem readTokens_of_endsAt (ends : EndsAt ts before bad) :
    readTokens base index ts = ((readTokens base index before).1, some ⟨written bad⟩) := by
  obtain ⟨fault, failed⟩ := ends.isBad
  obtain ⟨after, rfl⟩ := ends.place
  obtain ⟨i, -, rest⟩ := readTokens_append (readTokens_whole_iff.2 ends.sound)
  rw [rest, readTokens_cons, failed, Word.eq_of_read_error failed]
  simp [extend]

theorem readTokens_of_lists (lists : Lists base ts es) : readTokens base 0 ts = (es, none) := by
  induction lists with
  | none => rfl
  | @jump ts token es n _ moves number ih =>
    obtain ⟨i, -, rest⟩ := readTokens_append (congrArg Prod.snd ih)
    rw [rest, ih, readTokens_cons, number]
    simp [shown, moves, extend, readTokens]
  | @word ts token es i w _ plain number leads ih =>
    obtain ⟨j, unique, rest⟩ := readTokens_append (congrArg Prod.snd ih)
    obtain rfl := (unique i).1 leads
    rw [rest, ih, readTokens_cons, written_of_word plain, number]
    simp [shown, plain, extend, readTokens]

theorem lists_readTokens (sound : ∀ t ∈ ts, ¬IsBad t) : Lists base ts (readTokens base 0 ts).1 := by
  induction ts using List.reverseRecOn with
  | nil => exact .none
  | append_singleton ts token ih =>
    rw [List.forall_mem_append, List.forall_mem_singleton] at sound
    obtain ⟨n, number⟩ := not_isBad_iff.1 sound.2
    have lists := ih sound.1
    obtain ⟨i, leads, rest⟩ := readTokens_append (readTokens_whole_iff.2 sound.1)
    rw [rest, readTokens_cons, number]
    cases moves : isJump token with
    | true => simpa [shown, moves, extend, readTokens] using lists.jump moves number
    | false =>
      rw [written_of_word moves] at number
      simpa [shown, moves, extend, readTokens] using lists.word moves number ((leads i).2 rfl)

theorem lists_iff (sound : ∀ t ∈ ts, ¬IsBad t) :
    Lists base ts es ↔ es = (readTokens base 0 ts).1 := by
  constructor
  · intro lists
    rw [readTokens_of_lists lists]
  · rintro rfl
    exact lists_readTokens sound

end Disasm32.Listing
