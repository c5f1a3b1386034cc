import Disasm32.Number.Literal
import Disasm32.Proofs.Text.Division
import Mathlib.Data.Nat.Digits.Defs

/-! Numerals can be read back: the digits of a numeral, read one by one, have the number as
their value, whatever zeros fill it on the left. So two numbers with one numeral are equal. -/
namespace Disasm32.Digits

theorem digit?_char : ∀ d < 36, Literal.digit? (char d) = some d := by decide

theorem isDigit_char : ∀ d < 10, (char d).isDigit = true := by decide

theorem isAlphanum_char : ∀ d < 36, (char d).isAlphanum = true := by decide

variable {base : Nat}

theorem lt_of_mem_digits (positional : 2 ≤ base) (n : Nat) : ∀ d ∈ digits base n, d < base := by
  induction n using Nat.strongRecOn with
  | _ n ih =>
    unfold digits
    split
    · rename_i single
      intro d member
      rw [List.mem_singleton.1 member]
      exact single.resolve_right (by omega)
    · rename_i several
      intro d member
      rcases List.mem_append.1 member with front | last
      · exact ih _ (Nat.div_lt_self (by omega) (by omega)) d front
      · rw [List.mem_singleton.1 last]
        exact Nat.mod_lt _ (by omega)

theorem filterMap_digit?_map_char {ds : List Nat} (small : ∀ d ∈ ds, d < 36) :
    (ds.map char).filterMap Literal.digit? = ds := by
  induction ds with
  | nil => rfl
  | cons d ds ih =>
    rw [List.map_cons, List.filterMap_cons, digit?_char d (small d List.mem_cons_self),
      ih fun e member => small e (List.mem_cons_of_mem _ member)]

theorem value_ofNat (positional : 2 ≤ base) (alphabet : base ≤ 36) (n : Nat) :
    value base ((ofNat base n).filterMap Literal.digit?) = n := by
  rw [ofNat, filterMap_digit?_map_char, value_digits]
  intro d member
  exact Nat.lt_of_lt_of_le (lt_of_mem_digits positional n d member) alphabet

theorem value_replicate_zero_append (k : Nat) (ds : List Nat) :
    value base (List.replicate k 0 ++ ds) = value base ds := by
  induction k with
  | zero => rfl
  | succ k ih => simpa [value, List.replicate_succ] using ih

theorem value_hex (width n : Nat) : value 16 ((hex width n).filterMap Literal.digit?) = n := by
  have zero : Literal.digit? '0' = some 0 := by decide
  rw [hex, padLeft, List.filterMap_append, List.filterMap_replicate_of_some zero,
    value_replicate_zero_append, value_ofNat (by decide) (by decide)]

theorem value_eq_ofDigits (base : Nat) (ds : List Nat) :
    value base ds = Nat.ofDigits base ds.reverse := by
  rw [Nat.ofDigits_eq_foldr, List.foldr_reverse]
  simp only [value, Nat.cast_id, Nat.add_comm, Nat.mul_comm]

theorem value_append (base : Nat) (ds es : List Nat) :
    value base (ds ++ es) = value base ds * base ^ es.length + value base es := by
  simp only [value_eq_ofDigits, List.reverse_append, Nat.ofDigits_append, List.length_reverse]
  ring

theorem value_lt (positional : 2 ≤ base) {ds : List Nat} (small : ∀ d ∈ ds, d < base) :
    value base ds < base ^ ds.length := by
  rw [value_eq_ofDigits, ← List.length_reverse]
  exact Nat.ofDigits_lt_base_pow_length positional fun d member =>
    small d (List.mem_reverse.1 member)

theorem length_digits_le {k n : Nat} (bound : n < base ^ (k + 1)) :
    (digits base n).length ≤ k + 1 := by
  induction k generalizing n with
  | zero =>
    have single : n < base := by simpa using bound
    rw [digits, dif_pos (.inl single), List.length_singleton]
  | succ k ih =>
    unfold digits
    split
    · simp
    · have below : n / base < base ^ (k + 1) :=
        Nat.div_lt_of_lt_mul (by rwa [Nat.mul_comm, ← Nat.pow_succ])
      rw [List.length_append, List.length_singleton]
      exact Nat.succ_le_succ (ih below)

/-- A numeral begins with a zero only if it is one. -/
theorem head?_digits_ne_zero (positional : 2 ≤ base) {n : Nat} (positive : 0 < n) :
    (digits base n).head? ≠ some 0 := by
  induction n using Nat.strongRecOn with
  | _ n ih =>
    unfold digits
    split
    · intro zero
      cases zero
      exact absurd positive (Nat.lt_irrefl 0)
    · rename_i several
      have front : 0 < n / base := Nat.div_pos (by omega) (by omega)
      rw [List.head?_append_of_ne_nil _ (digits_ne_nil base _)]
      exact ih _ (Nat.div_lt_self positive (by omega)) front

def hexDigits (width n : Nat) : List Nat :=
  List.replicate (width - (digits 16 n).length) 0 ++ digits 16 n

theorem map_char_hexDigits (width n : Nat) : (hexDigits width n).map char = hex width n := by
  have zero : char 0 = '0' := by decide
  rw [hexDigits, List.map_append, List.map_replicate, zero, hex, padLeft, ofNat, List.length_map]

theorem value_hexDigits (width n : Nat) : value 16 (hexDigits width n) = n := by
  rw [hexDigits, value_replicate_zero_append, value_digits]

theorem lt_of_mem_hexDigits {width n : Nat} : ∀ d ∈ hexDigits width n, d < 16 := by
  intro d member
  rcases List.mem_append.1 member with fill | digit
  · rw [List.eq_of_mem_replicate fill]
    decide
  · exact lt_of_mem_digits (by decide) n d digit

theorem length_hexDigits {k n : Nat} (bound : n < 16 ^ (k + 1)) :
    (hexDigits (k + 1) n).length = k + 1 := by
  have short := length_digits_le bound
  rw [hexDigits, List.length_append, List.length_replicate]
  omega

theorem hex_injective (width : Nat) : Function.Injective (hex width) := by
  intro m n same
  rw [← value_hex width m, same, value_hex]

theorem isDigit_of_mem_ofNat {n : Nat} {c : Char} (member : c ∈ ofNat 10 n) :
    c.isDigit = true := by
  obtain ⟨d, among, rfl⟩ := List.mem_map.1 member
  exact isDigit_char d (lt_of_mem_digits (by decide) n d among)

theorem isAlphanum_of_mem_ofNat (positional : 2 ≤ base) (alphabet : base ≤ 36) {n : Nat} {c : Char}
    (member : c ∈ ofNat base n) : c.isAlphanum = true := by
  obtain ⟨d, among, rfl⟩ := List.mem_map.1 member
  exact isAlphanum_char d (Nat.lt_of_lt_of_le (lt_of_mem_digits positional n d among) alphabet)

theorem isAlphanum_of_mem_hex {width n : Nat} {c : Char} (member : c ∈ hex width n) :
    c.isAlphanum = true := by
  rcases List.mem_append.1 member with fill | digit
  · rw [List.eq_of_mem_replicate fill]
    decide
  · exact isAlphanum_of_mem_ofNat (by decide) (by decide) digit

theorem ofNat_ne_nil (base n : Nat) : ofNat base n ≠ [] := by
  simpa [ofNat] using digits_ne_nil base n

theorem ofNat_injective (positional : 2 ≤ base) (alphabet : base ≤ 36) :
    Function.Injective (ofNat base) := by
  intro m n same
  rw [← value_ofNat positional alphabet m, same, value_ofNat positional alphabet]

theorem isDigit_of_mem_head?_ofNat {i : Nat} {es : List Char} :
    ∀ c ∈ (ofNat 10 i ++ es).head?, c.isDigit = true := by
  cases digits : ofNat 10 i with
  | nil => exact absurd digits (ofNat_ne_nil 10 i)
  | cons d ds =>
    rintro c ⟨⟩
    exact isDigit_of_mem_ofNat (digits ▸ List.mem_cons_self)

/-- A numeral ends where the digits do. -/
theorem numeral_inj {i j : Nat} {es es' : List Char} (plain : es.all (!·.isDigit) = true)
    (plain' : es'.all (!·.isDigit) = true) (same : ofNat 10 i ++ es = ofNat 10 j ++ es') :
    i = j ∧ es = es' := by
  have stop {es : List Char} (plain : es.all (!·.isDigit) = true) :
      ∀ c ∈ es.head?, c.isDigit = false := by
    intro c first
    simpa using List.all_eq_true.1 plain c (List.mem_of_mem_head? first)
  obtain ⟨numeral, ending⟩ := Text.append_inj_of_stop (fun _ => isDigit_of_mem_ofNat)
    (stop plain) (fun _ => isDigit_of_mem_ofNat) (stop plain') same
  exact ⟨ofNat_injective (by decide) (by decide) numeral, ending⟩

theorem decimal_ne_nil (n : Int) : decimal n ≠ [] := by
  unfold decimal
  split
  · exact List.cons_ne_nil _ _
  · exact ofNat_ne_nil 10 _

theorem eq_minus_or_isDigit_of_mem_decimal {n : Int} {c : Char} (member : c ∈ decimal n) :
    c = '-' ∨ c.isDigit = true := by
  unfold decimal at member
  split at member
  · exact (List.mem_cons.1 member).imp_right isDigit_of_mem_ofNat
  · exact .inr (isDigit_of_mem_ofNat member)

theorem eq_minus_or_isAlphanum_of_mem_decimal {n : Int} {c : Char} (member : c ∈ decimal n) :
    c = '-' ∨ c.isAlphanum = true :=
  (eq_minus_or_isDigit_of_mem_decimal member).imp_right fun digit => by
    rw [Char.isAlphanum, digit, Bool.or_true]

/-- No digit is a minus sign, so the sign is read back as well. -/
theorem decimal_injective : Function.Injective decimal := by
  have unsigned (k : Nat) (cs : List Char) : ofNat 10 k ≠ '-' :: cs := by
    intro same
    have digit : '-'.isDigit = true := isDigit_of_mem_ofNat (same ▸ List.mem_cons_self)
    exact absurd digit (by decide)
  intro m n same
  unfold decimal at same
  split at same <;> split at same
  · have magnitudes := ofNat_injective (by decide) (by decide) (List.cons.inj same).2
    omega
  · exact absurd same.symm (unsigned _ _)
  · exact absurd same (unsigned _ _)
  · have magnitudes := ofNat_injective (by decide) (by decide) same
    omega

end Disasm32.Digits
