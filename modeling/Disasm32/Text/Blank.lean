/-! The white space that separates tokens, and the ways of cutting text that need only a predicate:
stripping, splitting and taking what stands before a marker. Splitting loses nothing but the
separators (`flatten_splitWhere`), no word holds a blank (`not_blank_of_mem_words`), and the words
on the two sides of a blank are found independently (`words_append_cons`). -/
namespace Disasm32.Text

/-- The white space characters of Unicode together with the four information separators. -/
def isBlank (c : Char) : Bool :=
  let n := c.toNat
  (0x09 ≤ n && n ≤ 0x0d) || (0x1c ≤ n && n ≤ 0x20) || n == 0x85 || n == 0xa0 || n == 0x1680 ||
    (0x2000 ≤ n && n ≤ 0x200a) || n == 0x2028 || n == 0x2029 || n == 0x202f || n == 0x205f ||
    n == 0x3000

def stripRight (cs : List Char) : List Char :=
  (cs.reverse.dropWhile isBlank).reverse

def strip (cs : List Char) : List Char :=
  stripRight (cs.dropWhile isBlank)

/-- The pieces between the characters that satisfy `p`; there is always one more piece than
there are such characters. -/
def splitWhere (p : Char → Bool) : List Char → List (List Char)
  | [] => [[]]
  | c :: cs =>
    if p c then [] :: splitWhere p cs
    else match splitWhere p cs with
      | [] => [[c]]
      | piece :: pieces => (c :: piece) :: pieces

def words (cs : List Char) : List (List Char) :=
  (splitWhere isBlank cs).filter (!·.isEmpty)

/-- What stands before the first occurrence of `marker`, or everything if it does not occur. -/
def before (marker : List Char) : List Char → List Char
  | [] => []
  | c :: cs => if marker.isPrefixOf (c :: cs) then [] else c :: before marker cs

def contains (pattern : List Char) : List Char → Bool
  | [] => pattern.isEmpty
  | c :: cs => pattern.isPrefixOf (c :: cs) || contains pattern cs

def join (separator : List Char) (pieces : List (List Char)) : List Char :=
  separator.intercalate pieces

theorem splitWhere_ne_nil (p : Char → Bool) (cs : List Char) : splitWhere p cs ≠ [] := by
  induction cs with
  | nil => simp [splitWhere]
  | cons c cs ih =>
    unfold splitWhere
    split
    · simp
    · split <;> simp

/-- A separator cuts the text in two that are split independently. -/
theorem splitWhere_append_cons {p : Char → Bool} {c : Char} (hc : p c) (xs ys : List Char) :
    splitWhere p (xs ++ c :: ys) = splitWhere p xs ++ splitWhere p ys := by
  induction xs with
  | nil => simp [splitWhere, hc]
  | cons x xs ih =>
    by_cases hx : p x
    · simp [splitWhere, hx, ih]
    · simp only [List.cons_append, splitWhere, hx, ih]
      cases hs : splitWhere p xs with
      | nil => exact absurd hs (splitWhere_ne_nil p xs)
      | cons piece pieces => simp

theorem words_append_cons {c : Char} (hc : isBlank c) (xs ys : List Char) :
    words (xs ++ c :: ys) = words xs ++ words ys := by
  simp [words, splitWhere_append_cons hc]

/-- The pieces hold exactly the characters that do not satisfy `p`, in order. -/
theorem flatten_splitWhere (p : Char → Bool) (cs : List Char) :
    (splitWhere p cs).flatten = cs.filter (!p ·) := by
  induction cs with
  | nil => rfl
  | cons c cs ih =>
    unfold splitWhere
    by_cases hc : p c
    · simp [hc, ih]
    · have hne := splitWhere_ne_nil p cs
      cases hs : splitWhere p cs with
      | nil => exact absurd hs hne
      | cons piece pieces => simp_all

theorem flatten_words (cs : List Char) : (words cs).flatten = cs.filter (!isBlank ·) := by
  rw [← flatten_splitWhere]
  simp only [words]
  induction splitWhere isBlank cs with
  | nil => rfl
  | cons piece pieces ih => cases piece <;> simp_all

theorem not_blank_of_mem_words {cs word : List Char} (hw : word ∈ words cs) {c : Char}
    (hc : c ∈ word) : isBlank c = false := by
  have h : c ∈ (words cs).flatten := List.mem_flatten.2 ⟨word, hw, hc⟩
  rw [flatten_words] at h
  simpa using (List.mem_filter.1 h).2

theorem ne_nil_of_mem_words {cs word : List Char} (hw : word ∈ words cs) : word ≠ [] := by
  simpa using (List.mem_filter.1 hw).2

end Disasm32.Text
