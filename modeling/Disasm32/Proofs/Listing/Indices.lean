import Disasm32.Proofs.Listing.Bounds
import Disasm32.Proofs.Word.Spellings

/-! The word index of a listing. It is all that a line leaves to the next, so a listing goes on as
if its second part began with a jump, and the base moves every address alike. -/
namespace Disasm32.Listing

open Digits

/-- The word index that tokens lead to from `start`: behind the number of the last jump among them,
or else behind `start`, by as many places as there are words. -/
inductive Leads (start : Int) : List (List Char) → Int → Prop where
  | straight {words : List (List Char)} : (∀ w ∈ words, isJump w = false) →
      Leads start words (start + words.length)
  | jump {before words : List (List Char)} {token : List Char} {n : Int} : isJump token = true →
      Word.read (written token) 16 = .ok n → (∀ w ∈ words, isJump w = false) →
      Leads start (before ++ token :: words) (n + words.length)

def jumpLine (index : Nat) : String := "@0x" ++ String.ofList (ofNat 16 index)

def Entry.moved (distance : Int) (e : Entry) : Entry := { e with address := e.address + distance }

variable {token : List Char} {ts : List (List Char)} {lines : List String} {base start i n : Int}
  {e : Entry}

theorem leads_nil_iff : Leads start [] i ↔ i = start := by
  constructor
  · intro leads
    generalize none : [] = ts at leads
    cases leads with
    | straight =>
      subst none
      simp
    | jump => simp at none
  · rintro rfl
    have none : ∀ w ∈ ([] : List (List Char)), isJump w = false := by simp
    have leads : Leads i [] (i + ([] : List (List Char)).length) := .straight none
    simpa using leads

/-- One token moves the start. -/
theorem leads_cons_iff (found : Word.read (written token) 16 = .ok n) :
    Leads start (token :: ts) i ↔ Leads (next start token n) ts i := by
  have far (word : isJump token = false) :
      start + ((token :: ts).length : Int) = next start token n + ts.length := by
    rw [next, word, List.length_cons]
    simp
    omega
  constructor
  · intro leads
    generalize whole : token :: ts = all at leads
    cases leads with
    | straight plain =>
      subst whole
      rw [List.forall_mem_cons] at plain
      rw [far plain.1]
      exact .straight plain.2
    | @jump before words last m moves number plain =>
      cases before with
      | nil =>
        obtain ⟨rfl, rfl⟩ := List.cons.inj whole
        cases found.symm.trans number
        rw [next, if_pos moves]
        exact .straight plain
      | cons first before =>
        obtain ⟨rfl, rfl⟩ := List.cons.inj whole
        exact .jump moves number plain
  · intro leads
    generalize moved : next start token n = start' at leads
    cases leads with
    | straight plain =>
      subst moved
      cases moves : isJump token with
      | true =>
        rw [next, if_pos moves]
        exact @Leads.jump start [] ts token n moves found plain
      | false =>
        rw [← far moves]
        exact .straight (List.forall_mem_cons.2 ⟨moves, plain⟩)
    | @jump before words last m moves number plain =>
      exact @Leads.jump start (token :: before) words last m moves number plain

theorem nonneg_of_leads (nonneg : 0 ≤ start) (solid : ∀ t ∈ ts, Solid t)
    (leads : Leads start ts i) : 0 ≤ i := by
  cases leads with
  | straight => omega
  | jump _ number _ =>
    have := nonneg_of_read_written (solid _ (by simp)) number
    omega

/-- A listing that is read to its end goes on from the index that it leads to. -/
theorem readTokens_append {index : Int} (whole : (readTokens base index ts).2 = none) :
    ∃ i, (∀ j, Leads index ts j ↔ j = i) ∧ ∀ more,
      readTokens base index (ts ++ more) =
        extend (readTokens base index ts).1 (readTokens base i more) := by
  induction ts generalizing index with
  | nil => exact ⟨index, fun j => leads_nil_iff, fun more => rfl⟩
  | cons t ts ih =>
    simp only [List.cons_append, readTokens_cons] at whole ⊢
    cases found : Word.read (written t) 16 with
    | error fault => simp [found] at whole
    | ok n =>
      simp only [found] at whole ⊢
      obtain ⟨i, leads, rest⟩ := ih whole
      refine ⟨i, fun j => (leads_cons_iff found).trans (leads j), fun more => ?_⟩
      rw [rest, extend_extend]
      rfl

theorem words_jumpLine (index : Nat) :
    Text.words (uncommented (jumpLine index).toList) = ['@' :: '0' :: 'x' :: ofNat 16 index] := by
  have letters : (jumpLine index).toList = '@' :: '0' :: 'x' :: ofNat 16 index := by
    simp [jumpLine]
  have absent {c : Char} (other : c.isAlphanum = false) : c ∉ ofNat 16 index := by
    intro inside
    rw [isAlphanum_of_mem_ofNat (by decide) (by decide) inside] at other
    cases other
  have solid : ('@' :: '0' :: 'x' :: ofNat 16 index).all (!Text.isBlank ·) = true := by
    have small : ∀ d ∈ digits 16 index, d < 16 := lt_of_mem_digits (by decide) index
    have digits := Word.not_isBlank_of_mem_map_char (Literal.lt_alphabet (by decide) small)
    simpa using ⟨by decide, by decide, by decide, digits⟩
  rw [letters, uncommented_of_absent (by simp [absent (c := '#') rfl])
    (by simp [absent (c := '/') rfl]), Text.words_of_not_blank (by simp) solid]

theorem read_jumpLine (index : Nat) :
    Word.read (written ('@' :: '0' :: 'x' :: ofNat 16 index)) 16 = .ok index := by
  have spelled : Word.Writes ('0' :: 'x' :: (digits 16 index).map char)
      (written ('@' :: '0' :: 'x' :: ofNat 16 index)).toList := by
    rw [written, String.toList_ofList]
    exact .refl _
  have found := Word.read_of_announces .hexadecimal (digits_ne_nil 16 index)
    (lt_of_mem_digits (by decide) index) 16 spelled
  rwa [value_digits] at found

theorem readTokens_jumpLine (base start : Int) (index : Nat) (lines : List String) :
    readTokens base start (tokens (jumpLine index :: lines)) =
      readTokens base index (tokens lines) := by
  rw [tokens_cons, words_jumpLine, List.singleton_append, readTokens_cons, read_jumpLine]
  rfl

theorem readTokens_moved (base distance index : Int) (ts : List (List Char)) :
    readTokens (base + distance) index ts =
      ((readTokens base index ts).1.map (.moved distance), (readTokens base index ts).2) := by
  induction ts generalizing index with
  | nil => rfl
  | cons t ts ih =>
    simp only [readTokens_cons]
    cases Word.read (written t) 16 with
    | error fault => rfl
    | ok n =>
      have first : shown (base + distance) index t n =
          (shown base index t n).map (.moved distance) := by
        unfold shown
        split
        · rfl
        · simp [Entry.moved]
          omega
      simp only [ih, first, extend, List.map_append]

/-- The entry of a token stands at the index that the tokens before it lead to. -/
theorem entry_of_readTokens {index : Int} {before after : List (List Char)}
    (word : isJump token = false)
    (entry : (readTokens base index (before ++ token :: after)).1[before.countP (!isJump ·)]? =
      some e) :
    e.token = String.ofList token ∧
      ∃ i, (∀ j, Leads index before j ↔ j = i) ∧ e.address = base + 4 * i := by
  induction before generalizing index with
  | nil =>
    rw [List.nil_append, readTokens_cons] at entry
    cases found : Word.read (written token) 16 with
    | error fault => simp [found] at entry
    | ok n =>
      simp only [found, shown, word, extend] at entry
      cases entry
      exact ⟨rfl, index, fun j => leads_nil_iff, rfl⟩
  | cons t before ih =>
    rw [List.cons_append, readTokens_cons] at entry
    cases found : Word.read (written t) 16 with
    | error fault => simp [found] at entry
    | ok n =>
      simp only [found] at entry
      have later : (readTokens base (next index t n) (before ++ token :: after)).1[
          before.countP (!isJump ·)]? = some e := by
        cases moves : isJump t <;> simpa [shown, extend, moves, List.countP_cons] using entry
      obtain ⟨same, i, leads, place⟩ := ih later
      exact ⟨same, i, fun j => (leads_cons_iff found).trans (leads j), place⟩

/-- What is read so far leaves nothing but the index to what follows: it may as well stand behind a
jump there. A word stands so many places behind the last jump, and a greater base moves the
addresses and nothing else. -/
theorem read_append_jump (lines : List String) (base : Int) :
    ((read lines base).2 = none → ∃ i : Nat, (∀ j, Leads 0 (tokens lines) j ↔ j = i) ∧
      ∀ more, read (lines ++ more) base =
        extend (read lines base).1 (read (jumpLine i :: more) base)) ∧
    (∀ before token after e, tokens lines = before ++ token :: after → isJump token = false →
      (read lines base).1[before.countP (!isJump ·)]? = some e →
        e.token = String.ofList token ∧
          ∃ i, (∀ j, Leads 0 before j ↔ j = i) ∧ e.address = base + 4 * i) ∧
    ∀ distance, read lines (base + distance) =
      ((read lines base).1.map (.moved distance), (read lines base).2) := by
  refine ⟨fun whole => ?_, fun before token after e parts word entry => ?_, fun distance => ?_⟩
  · obtain ⟨i, leads, rest⟩ := readTokens_append whole
    have nonneg : 0 ≤ i := nonneg_of_leads (Int.le_refl 0) (fun _ => solid_of_mem_tokens)
      ((leads i).2 rfl)
    obtain ⟨index, rfl⟩ := Int.eq_ofNat_of_zero_le nonneg
    refine ⟨index, leads, fun more => ?_⟩
    rw [read_eq (jumpLine index :: more), readTokens_jumpLine, read_eq, tokens_append, rest]
    rfl
  · rw [read_eq, parts] at entry
    exact entry_of_readTokens word entry
  · exact readTokens_moved base distance 0 (tokens lines)

/-- A jump in the middle of a line, and a word behind it on the next. -/
theorem read_append_jump_inside :
    let lines := ["00000013 @40 // boot", "00000073 0x1_3"]
    let before := ["00000013".toList, "@40".toList, "00000073".toList]
    let e : Entry := ⟨0x1104, 0x13, "0x1_3"⟩
    ((read lines 0x1000).2 = none ∧ ∃ i : Nat, (∀ j, Leads 0 (tokens lines) j ↔ j = i) ∧
      ∀ more, read (lines ++ more) 0x1000 =
        extend (read lines 0x1000).1 (read (jumpLine i :: more) 0x1000)) ∧
    tokens lines = before ++ "0x1_3".toList :: [] ∧ isJump "0x1_3".toList = false ∧
      (read lines 0x1000).1[before.countP (!isJump ·)]? = some e ∧
        e.token = String.ofList "0x1_3".toList ∧
          ∃ i, (∀ j, Leads 0 before j ↔ j = i) ∧ e.address = 0x1000 + 4 * i := by
  intro lines before e
  have whole : (read lines 0x1000).2 = none := by decide +kernel
  have parts : tokens lines = before ++ "0x1_3".toList :: [] := by decide +kernel
  have word : isJump "0x1_3".toList = false := by decide
  have entry : (read lines 0x1000).1[before.countP (!isJump ·)]? = some e := by decide +kernel
  obtain ⟨onward, placed, -⟩ := read_append_jump lines 0x1000
  exact ⟨⟨whole, onward whole⟩, parts, word, entry, placed _ _ _ _ parts word entry⟩

end Disasm32.Listing
