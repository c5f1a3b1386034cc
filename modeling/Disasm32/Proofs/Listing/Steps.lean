import Disasm32.Listing
import Disasm32.Proofs.Text.Division

/-! Listings token by token. A token holds a number, perhaps behind the sign that moves to an index.
The number is the next index or a word, and a token without a number ends the listing. -/
namespace Disasm32.Listing

abbrev Found := List Entry × Option Word.LiteralError

def extend (entries : List Entry) (found : Found) : Found := (entries ++ found.1, found.2)

def isJump (token : List Char) : Bool := token.head? == some '@'

def written : List Char → String
  | '@' :: number => String.ofList number
  | token => String.ofList token

def next (index : Int) (token : List Char) (n : Int) : Int :=
  if isJump token then n else index + 1

def shown (base index : Int) (token : List Char) (n : Int) : List Entry :=
  if isJump token then [] else [⟨base + 4 * index, n, String.ofList token⟩]

variable {token : List Char}

theorem isJump_iff : isJump token = true ↔ ∃ number, token = '@' :: number := by
  cases token <;> simp [isJump]

theorem written_of_word (word : isJump token = false) : written token = String.ofList token := by
  unfold written
  split
  · cases word
  · rfl

theorem extend_nil (found : Found) : extend [] found = found := rfl

theorem extend_extend (xs ys : List Entry) (found : Found) :
    extend xs (extend ys found) = extend (xs ++ ys) found := by
  simp only [extend, List.append_assoc]

theorem readTokens_cons (base index : Int) (token : List Char) (rest : List (List Char)) :
    readTokens base index (token :: rest) =
      match Word.read (written token) 16 with
      | .ok n => extend (shown base index token n) (readTokens base (next index token n) rest)
      | .error e => ([], some e) := by
  cases jump : isJump token with
  | true =>
    obtain ⟨number, rfl⟩ := isJump_iff.1 jump
    rw [readTokens, written]
    cases Word.read (String.ofList number) 16 with
    | error => rfl
    | ok n => simp only [shown, next, jump, if_true, extend_nil]
  | false =>
    have word : ∀ number, token = '@' :: number → False := by
      rintro number rfl
      cases jump
    rw [readTokens.eq_3 base index token rest word, written_of_word jump]
    cases Word.read (String.ofList token) 16 with
    | error => rfl
    | ok n => simp [shown, next, jump, extend]

theorem read_eq (lines : List String) (base : Int) :
    read lines base = readTokens base 0 (tokens lines) := rfl

theorem tokens_append (lines more : List String) :
    tokens (lines ++ more) = tokens lines ++ tokens more := List.flatMap_append

theorem tokens_cons (line : String) (lines : List String) :
    tokens (line :: lines) = Text.words (uncommented line.toList) ++ tokens lines := rfl

theorem uncommented_of_absent {line : List Char} (hash : '#' ∉ line) (slash : '/' ∉ line) :
    uncommented line = line := by
  rw [uncommented, Text.before_of_absent hash, Text.before_of_absent slash]

end Disasm32.Listing
