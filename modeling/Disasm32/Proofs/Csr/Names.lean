import Disasm32.Csr
import Disasm32.Proofs.Text.Numerals
import Disasm32.Proofs.Word.Fields
import Mathlib.Data.List.Nodup

/-! The text of a control register gives back its address. A name in a family divides into stem,
number and ending at its digits, so it belongs to one register; and a name is told from a bare
address by its first character. -/
namespace Disasm32.Csr

open Digits Text

def stem (name : String) : List Char := name.toList.takeWhile (!·.isDigit)

theorem exists_of_mem_members {f : Family} {entry : Nat × String} (member : entry ∈ f.members) :
    ∃ i, entry.1 = f.base + i ∧
      entry.2.toList = f.stem.toList ++ (ofNat 10 i ++ f.ending.toList) := by
  obtain ⟨i, -, rfl⟩ := List.mem_map.1 member
  exact ⟨i, rfl, by simp⟩

theorem families_undigited : ∀ f ∈ families,
    f.stem.toList.all (!·.isDigit) = true ∧ f.ending.toList.all (!·.isDigit) = true := by
  decide

theorem families_inj : ∀ f ∈ families, ∀ g ∈ families,
    f.stem.toList = g.stem.toList → f.ending.toList = g.ending.toList → f.base = g.base := by
  decide

theorem stem_of_mem_members {f : Family} (listed : f ∈ families) {entry : Nat × String}
    (member : entry ∈ f.members) : stem entry.2 = f.stem.toList := by
  obtain ⟨i, -, name⟩ := exists_of_mem_members member
  rw [stem, name]
  refine takeWhile_append_of_stop (List.all_eq_true.1 (families_undigited f listed).1) ?_
  intro c first
  rw [isDigit_of_mem_head?_ofNat c first]
  rfl

theorem stem_named : ∀ entry ∈ named, ∀ f ∈ families, stem entry.2 ≠ f.stem.toList := by
  decide +kernel

theorem named_nodup : (named.map (·.2)).Nodup := by decide +kernel

theorem mem_table_iff {entry : Nat × String} :
    entry ∈ table ↔ entry ∈ named ∨ ∃ f ∈ families, entry ∈ f.members := by
  rw [table, List.mem_append, List.mem_flatMap]

/-- A name belongs to one register. -/
theorem eq_of_name_eq {p q : Nat × String} (hp : p ∈ table) (hq : q ∈ table)
    (same : p.2 = q.2) : p.1 = q.1 := by
  rcases mem_table_iff.1 hp with hp | ⟨f, hf, hp⟩ <;>
    rcases mem_table_iff.1 hq with hq | ⟨g, hg, hq⟩
  · rw [List.inj_on_of_nodup_map named_nodup hp hq same]
  · exact absurd (same ▸ stem_of_mem_members hg hq) (stem_named p hp g hg)
  · exact absurd (same ▸ stem_of_mem_members hf hp) (stem_named q hq f hf)
  · have stems : f.stem.toList = g.stem.toList := by
      rw [← stem_of_mem_members hf hp, same, stem_of_mem_members hg hq]
    obtain ⟨i, address, name⟩ := exists_of_mem_members hp
    obtain ⟨j, address', name'⟩ := exists_of_mem_members hq
    rw [same, name', stems] at name
    obtain ⟨number, ending⟩ := numeral_inj (families_undigited g hg).2 (families_undigited f hf).2
      (List.append_cancel_left name)
    rw [address, address', number, families_inj f hf g hg stems ending.symm]

theorem named_isAlphanum : ∀ entry ∈ named, entry.2.toList.all Char.isAlphanum = true := by
  decide +kernel

theorem families_isAlphanum : ∀ f ∈ families,
    (f.stem.toList ++ f.ending.toList).all Char.isAlphanum = true := by
  decide

theorem isAlphanum_of_mem_table {entry : Nat × String} (listed : entry ∈ table) :
    ∀ c ∈ entry.2.toList, c.isAlphanum = true := by
  rcases mem_table_iff.1 listed with direct | ⟨f, hf, member⟩
  · exact List.all_eq_true.1 (named_isAlphanum entry direct)
  · obtain ⟨i, -, name⟩ := exists_of_mem_members member
    have letters := List.all_eq_true.1 (families_isAlphanum f hf)
    intro c inside
    rw [name, List.mem_append, List.mem_append] at inside
    rcases inside with front | digit | back
    · exact letters c (List.mem_append_left _ front)
    · exact isAlphanum_of_mem_ofNat (by decide) (by decide) digit
    · exact letters c (List.mem_append_right _ back)

theorem named_filled : ∀ entry ∈ named, entry.2 ≠ "" := by decide +kernel

theorem ne_empty_of_mem_table {entry : Nat × String} (listed : entry ∈ table) : entry.2 ≠ "" := by
  rcases mem_table_iff.1 listed with direct | ⟨f, -, member⟩
  · exact named_filled entry direct
  · obtain ⟨i, -, name⟩ := exists_of_mem_members member
    intro empty
    simp [empty, ofNat_ne_nil] at name

theorem listed?_eq_some {address : Int} {m : String} (found : listed? address = some m) :
    ∃ n : Nat, address = n ∧ (n, m) ∈ table := by
  obtain ⟨⟨n, m⟩, first, rfl⟩ := Option.map_eq_some_iff.1 found
  have equal := List.find?_some first
  exact ⟨n, (of_decide_eq_true equal).symm, List.mem_of_find?_eq_some first⟩

/-- The text of an address is the name of a register or marks a bare number. -/
theorem name_cases (address : Int) :
    (∃ n : Nat, address = n ∧ (n, name address) ∈ table) ∨
      (name address).toList = '$' :: '0' :: 'x' :: hex 3 (Word.low address) := by
  cases found : listed? address with
  | some m =>
    obtain ⟨n, equal, listed⟩ := listed?_eq_some found
    refine .inl ⟨n, equal, ?_⟩
    rwa [name, found]
  | none =>
    refine .inr ?_
    rw [name, found]
    simp

theorem name_ne_empty (address : Int) : name address ≠ "" := by
  rcases name_cases address with ⟨n, -, listed⟩ | bare
  · exact ne_empty_of_mem_table listed
  · intro empty
    simp [empty] at bare

theorem isAlphanum_of_mem_name {address : Int} {c : Char} (member : c ∈ (name address).toList) :
    c = '$' ∨ c.isAlphanum = true := by
  rcases name_cases address with ⟨n, -, listed⟩ | bare
  · exact .inr (isAlphanum_of_mem_table listed c member)
  · rw [bare, List.mem_cons, List.mem_cons, List.mem_cons] at member
    rcases member with rfl | rfl | rfl | digit
    · exact .inl rfl
    · exact .inr (by decide)
    · exact .inr (by decide)
    · exact .inr (isAlphanum_of_mem_hex digit)

theorem name_toList_ne_of_mem {entry : Nat × String} (listed : entry ∈ table) (cs : List Char) :
    entry.2.toList ≠ '$' :: cs := by
  intro same
  have letter := isAlphanum_of_mem_table listed '$' (same ▸ List.mem_cons_self)
  exact absurd letter (by decide)

/-- Addresses with one text are the same number of 32 bits. -/
theorem low_eq_of_name_eq {a b : Int} (same : name a = name b) : Word.low a = Word.low b := by
  rcases name_cases a with ⟨m, rfl, ha⟩ | ha <;> rcases name_cases b with ⟨n, rfl, hb⟩ | hb
  · rw [show m = n from eq_of_name_eq ha hb same]
  · exact absurd (same ▸ hb) (name_toList_ne_of_mem ha _)
  · exact absurd (same ▸ ha) (name_toList_ne_of_mem hb _)
  · rw [same, hb] at ha
    simp only [List.cons.injEq, true_and] at ha
    exact (hex_injective 3 ha).symm

/-- An instruction passes twelve bits in two's complement. -/
theorem name_inj {m n : Nat} (hm : m < 0x1000) (hn : n < 0x1000)
    (same : name (Word.signExtend 12 m) = name (Word.signExtend 12 n)) : m = n := by
  have lows := low_eq_of_name_eq same
  unfold Word.low Word.signExtend at lows
  split at lows <;> split at lows <;> omega

end Disasm32.Csr
