import Disasm32.Proofs.Csr.Names
import Mathlib.Data.Set.Function

/-! The addresses behind the texts of control registers. No address is listed twice, so each listed
name is the text of its address, whatever the order of the list; every other address is written
in hexadecimal. Texts are the same for addresses of the same 32 bits only. -/
namespace Disasm32.Csr

open Digits

/-- The lower-case hexadecimal digits of a number, at least `width` of them, and more only as far
as the number needs them. -/
structure IsHex (width n : Nat) (cs : List Char) : Prop where
  lower : ∀ c ∈ cs, c ∈ "0123456789abcdef".toList
  value : Digits.value 16 (cs.map "0123456789abcdef".toList.idxOf) = n
  filled : width ≤ cs.length
  tight : width < cs.length → cs.head? ≠ some '0'

/-- The texts of addresses tell them apart: those of twelve bits, those of twelve bits in two's
complement, and those in the words of instructions. A listed address has its name as its text,
any other the hexadecimal digits of its 32 bits. -/
structure Separates (text : Int → String) : Prop where
  injective : ∀ a b, text a = text b → a % 0x100000000 = b % 0x100000000
  unsigned : Set.InjOn text {a | 0 ≤ a ∧ a < 0x1000}
  signed : Set.InjOn text {a | -0x800 ≤ a ∧ a < 0x800}
  passed : ∀ v w, text (Word.immI v) = text (Word.immI w) → Word.bits v 20 12 = Word.bits w 20 12
  once : (table.map (·.1)).Nodup
  single : ∀ entry ∈ named, text entry.1 = entry.2
  numbered : ∀ f ∈ families, ∀ i, 3 ≤ i → i ≤ 31 →
    text (f.base + i : Nat) = f.stem ++ String.ofList (ofNat 10 i) ++ f.ending
  bare : ∀ a : Int, (∀ entry ∈ table, (entry.1 : Int) ≠ a) →
    ∃ cs, text a = "$0x" ++ String.ofList cs ∧ IsHex 3 (a % 0x100000000).toNat cs

theorem map_fst_members (f : Family) : f.members.map (·.1) = List.range' (f.base + 3) 29 := by
  rw [Family.members, List.map_map, ← List.map_add_range']
  rfl

/-- The families have their addresses one after the other, without those of named registers. -/
theorem table_nodup : (table.map (·.1)).Nodup := by
  have distinct : (named.map (·.1)).Nodup := by decide +kernel
  have ordered : families.Pairwise fun f g => f.base + 29 ≤ g.base := by decide
  have outside : ∀ n ∈ named.map (·.1), ∀ f ∈ families, n < f.base + 3 ∨ f.base + 32 ≤ n := by
    decide +kernel
  simp only [table, List.map_append, List.map_flatMap, map_fst_members]
  refine List.nodup_append.2 ⟨distinct, List.nodup_flatMap.2 ⟨fun f _ => List.nodup_range', ?_⟩, ?_⟩
  · refine ordered.imp fun {f g} apart n first second => ?_
    rw [List.mem_range'_1] at first second
    omega
  · rintro n among m member rfl
    obtain ⟨f, listed, inside⟩ := List.mem_flatMap.1 member
    rw [List.mem_range'_1] at inside
    have apart := outside n among f listed
    omega

/-- A list without repetitions is searched from either end with the same result. -/
theorem listed?_of_mem {entry : Nat × String} (listed : entry ∈ table) :
    listed? entry.1 = some entry.2 := by
  have found : (table.find? fun other => (other.1 : Int) = entry.1).isSome = true :=
    List.find?_isSome.2 ⟨entry, listed, by simp⟩
  obtain ⟨other, first⟩ := Option.isSome_iff_exists.1 found
  have address : other.1 = entry.1 := by simpa using List.find?_some first
  rw [listed?, first, List.inj_on_of_nodup_map table_nodup (List.mem_of_find?_eq_some first) listed
    address]
  rfl

theorem name_of_mem_table {entry : Nat × String} (listed : entry ∈ table) :
    name entry.1 = entry.2 := by
  rw [name, listed?_of_mem listed]
  rfl

theorem mem_members {f : Family} {i : Nat} (least : 3 ≤ i) (greatest : i ≤ 31) :
    (f.base + i, f.stem ++ String.ofList (ofNat 10 i) ++ f.ending) ∈ f.members :=
  List.mem_map.2 ⟨i, List.mem_range'_1.2 ⟨least, by omega⟩, rfl⟩

theorem hexCharacters : ∀ d < 16, char d ∈ "0123456789abcdef".toList ∧
    "0123456789abcdef".toList.idxOf (char d) = d ∧ (char d = '0' → d = 0) := by
  decide +kernel

theorem isHex_hex {width : Nat} (positive : 0 < width) (n : Nat) : IsHex width n (hex width n) := by
  have digit (d : Nat) (member : d ∈ hexDigits width n) :=
    hexCharacters d (lt_of_mem_hexDigits d member)
  have length : (hexDigits width n).length = max width (digits 16 n).length := by
    rw [hexDigits, List.length_append, List.length_replicate]
    omega
  rw [← map_char_hexDigits]
  constructor
  · intro c member
    obtain ⟨d, among, rfl⟩ := List.mem_map.1 member
    exact (digit d among).1
  · have same : (hexDigits width n).map ("0123456789abcdef".toList.idxOf ∘ char) =
        hexDigits width n :=
      (List.map_congr_left fun d among => (digit d among).2.1).trans (List.map_id _)
    rw [List.map_map, same, value_hexDigits]
  · rw [List.length_map, length]
    exact Nat.le_max_left ..
  · -- With more digits than the width nothing fills the numeral, which has several digits.
    rw [List.length_map, length]
    intro longer
    have several : width < (digits 16 n).length := by omega
    have plain : hexDigits width n = digits 16 n := by
      rw [hexDigits, Nat.sub_eq_zero_of_le (Nat.le_of_lt several)]
      rfl
    have large : 0 < n := by
      rw [Nat.pos_iff_ne_zero]
      rintro rfl
      rw [digits] at several
      simp at several
      omega
    rw [plain] at digit ⊢
    intro zero
    rw [List.head?_map] at zero
    obtain ⟨d, first, same⟩ := Option.map_eq_some_iff.1 zero
    rw [(digit d (List.mem_of_mem_head? first)).2.2 same] at first
    exact head?_digits_ne_zero (by decide) large first

theorem name_of_unlisted {a : Int} (unlisted : ∀ entry ∈ table, (entry.1 : Int) ≠ a) :
    name a = "$0x" ++ String.ofList (hex 3 (Word.low a)) := by
  have absent : table.find? (fun entry => (entry.1 : Int) = a) = none :=
    List.find?_eq_none.2 fun entry member => by simpa using unlisted entry member
  rw [name, listed?, absent]
  rfl

theorem separates_name : Separates name where
  injective a b same := (Word.low_eq_low_iff a b).1 (low_eq_of_name_eq same)
  unsigned := by
    rintro a ⟨_, _⟩ b ⟨_, _⟩ same
    have congruent := (Word.low_eq_low_iff a b).1 (low_eq_of_name_eq same)
    omega
  signed := by
    rintro a ⟨_, _⟩ b ⟨_, _⟩ same
    have congruent := (Word.low_eq_low_iff a b).1 (low_eq_of_name_eq same)
    omega
  passed v w same := by
    rw [Word.immI_eq, Word.immI_eq] at same
    exact name_inj (Word.bits_lt v 20 12) (Word.bits_lt w 20 12) same
  once := table_nodup
  single entry member := name_of_mem_table (mem_table_iff.2 (.inl member))
  numbered f listed i least greatest :=
    name_of_mem_table (mem_table_iff.2 (.inr ⟨f, listed, mem_members least greatest⟩))
  bare a unlisted := ⟨_, name_of_unlisted unlisted, isHex_hex (by decide) _⟩

/-- Example: the address of a counter, and the same twelve bits as an instruction passes them. -/
example : name 0xb83 = "mhpmcounter3h" ∧ name (-0x47d) = "$0xfffffb83" := by decide +kernel

end Disasm32.Csr
