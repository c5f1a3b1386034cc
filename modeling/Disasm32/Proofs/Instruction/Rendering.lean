import Disasm32.Proofs.Csr.Names
import Disasm32.Proofs.Instruction.Layout

/-! Reading a line back. Operands of one kind that a word holds have different texts if they are
different, no text of an operand holds a comma or a blank, and so a line in a given column has
one mnemonic and one list of operands. -/
namespace Disasm32

open Digits

def Operand.SameKind : Operand → Operand → Prop
  | .register _, .register _ | .immediate _, .immediate _ | .literal _, .literal _
  | .target _, .target _ | .memory _ _, .memory _ _ | .csr _, .csr _ => True
  | _, _ => False

theorem Form.sameKind_read (f : Form) (a b : Int) :
    List.Forall₂ Operand.SameKind (f.read a) (f.read b) := by
  cases f <;> simp [Operand.SameKind]

def isOperandChar (c : Char) : Bool :=
  c.isAlphanum || c ∈ ['$', '(', ')', '+', '-', '.']

theorem isOperandChar_of_isAlphanum {c : Char} (alnum : c.isAlphanum = true) :
    isOperandChar c = true := by
  rw [isOperandChar, alnum, Bool.true_or]

theorem isOperandChar_of_mem_decimal {n : Int} {c : Char} (member : c ∈ decimal n) :
    isOperandChar c = true := by
  rcases eq_minus_or_isAlphanum_of_mem_decimal member with rfl | alnum
  · decide
  · exact isOperandChar_of_isAlphanum alnum

theorem isOperandChar_of_mem_hex {width n : Nat} {c : Char} (member : c ∈ hex width n) :
    isOperandChar c = true :=
  isOperandChar_of_isAlphanum (isAlphanum_of_mem_hex member)

theorem targetText_toList (offset : Int) :
    (targetText offset).toList =
      '.' :: (if offset < 0 then '-' else '+') :: '0' :: 'x' :: hex 8 offset.natAbs := by
  unfold targetText
  split <;> simp

theorem targetText_inj {m n : Int} (same : targetText m = targetText n) : m = n := by
  have texts := congrArg String.toList same
  rw [targetText_toList, targetText_toList] at texts
  obtain ⟨-, signs, texts⟩ := by simpa only [List.cons.injEq] using texts
  have magnitudes := hex_injective 8 texts.2.2
  split at signs <;> split at signs
  · omega
  · exact absurd signs (by decide)
  · exact absurd signs (by decide)
  · omega

namespace Display

variable {d : Display}

theorem lookup_numericName : ∀ n : Nat, n < 0x20 →
    Register.numbers.lookup (Register.numericName n) = some n := by
  decide +kernel

theorem lookup_abiNames : ∀ n < 0x20,
    Register.numbers.lookup (Register.abiNames.getD n "") = some n := by
  decide +kernel

/-- Either name of a register is listed with its number. -/
theorem lookup_registerText {n : Nat} (bound : n < 0x20) :
    Register.numbers.lookup (d.registerText n) = some n := by
  unfold registerText
  cases d.registerNames with
  | numeric => exact lookup_numericName n bound
  | abi => exact lookup_abiNames n bound

theorem registerText_inj {m n : Nat} (hm : m < 0x20) (hn : n < 0x20)
    (same : d.registerText m = d.registerText n) : m = n := by
  have listed := lookup_registerText (d := d) hm
  rw [same, lookup_registerText hn] at listed
  exact (Option.some.inj listed).symm

theorem abiNames_isAlphanum : ∀ n < 0x20,
    (Register.abiNames.getD n "").toList.all Char.isAlphanum = true := by
  decide +kernel

theorem isOperandChar_of_mem_registerText {n : Nat} (bound : n < 0x20) :
    ∀ c ∈ (d.registerText n).toList, isOperandChar c = true := by
  intro c member
  unfold registerText at member
  cases names : d.registerNames with
  | numeric =>
    rw [names] at member
    simp only [Register.numericName, String.toList_append, String.toList_ofList,
      List.mem_append] at member
    rcases member with mark | digit
    · rw [List.mem_singleton.1 mark]
      decide
    · exact isOperandChar_of_mem_decimal digit
  | abi =>
    rw [names] at member
    exact isOperandChar_of_isAlphanum (List.all_eq_true.1 (abiNames_isAlphanum n bound) c member)

/-- The parenthesis ends the offset, which has none itself. -/
theorem memoryText_inj {m n : Int} {r s : Nat} (hr : r < 0x20) (hs : s < 0x20)
    (same : d.operandText (.memory m r) = d.operandText (.memory n s)) : m = n ∧ r = s := by
  have run (k : Int) : ∀ c ∈ decimal k, (c != '(') = true := by
    intro c member
    refine bne_iff_ne.2 fun parenthesis => ?_
    rcases eq_minus_or_isAlphanum_of_mem_decimal member with rfl | alnum
    · exact absurd parenthesis (by decide)
    · rw [parenthesis] at alnum
      exact absurd alnum (by decide)
  have stop (cs : List Char) : ∀ c ∈ ('(' :: cs).head?, (c != '(') = false := by
    rintro c ⟨⟩
    rfl
  have texts := congrArg String.toList same
  have opening : "(".toList = ['('] := rfl
  simp only [operandText, String.toList_append, String.toList_ofList, List.append_assoc, opening,
    List.cons_append, List.nil_append] at texts
  obtain ⟨offsets, rest⟩ := Text.append_inj_of_stop (run m) (stop _) (run n) (stop _) texts
  have bases := List.append_cancel_right (List.cons.inj rest).2
  exact ⟨decimal_injective offsets, registerText_inj hr hs (String.toList_inj.1 bases)⟩

theorem operandText_inj {o p : Operand} (kind : o.SameKind p) (ho : o.Fits) (hp : p.Fits)
    (same : d.operandText o = d.operandText p) : o = p := by
  -- only the diagonal is left: other pairs are of different kinds
  cases o <;> cases p <;> first | exact False.elim kind | skip
  case register m n => rw [registerText_inj ho hp same]
  case immediate m n => rw [decimal_injective (String.ofList_injective same)]
  case literal m n =>
    have texts := congrArg String.toList same
    simp only [operandText, String.toList_append, String.toList_ofList] at texts
    rw [hex_injective 8 (List.append_cancel_left texts)]
  case target m n => rw [targetText_inj same]
  case memory m r n s =>
    obtain ⟨rfl, rfl⟩ := memoryText_inj ho.2 hp.2 same
    rfl
  case csr m n =>
    obtain ⟨m, hm, rfl⟩ := ho
    obtain ⟨n, hn, rfl⟩ := hp
    rw [Csr.name_inj hm hn same]

theorem isOperandChar_of_mem_operandText {o : Operand} (fits : o.Fits) :
    ∀ c ∈ (d.operandText o).toList, isOperandChar c = true := by
  intro c member
  cases o with
  | register n => exact isOperandChar_of_mem_registerText fits c member
  | immediate value =>
    rw [operandText, String.toList_ofList] at member
    exact isOperandChar_of_mem_decimal member
  | literal value =>
    simp only [operandText, String.toList_append, String.toList_ofList, List.mem_append] at member
    rcases member with mark | digit
    · have plain : "0x".toList.all isOperandChar = true := by decide
      exact List.all_eq_true.1 plain c mark
    · exact isOperandChar_of_mem_hex digit
  | target offset =>
    rw [operandText, targetText_toList] at member
    simp only [List.mem_cons] at member
    rcases member with rfl | sign | rfl | rfl | digit
    · decide
    · rw [sign]
      split <;> decide
    · decide
    · decide
    · exact isOperandChar_of_mem_hex digit
  | memory offset base =>
    simp only [operandText, String.toList_append, String.toList_ofList, List.mem_append] at member
    rcases member with ((digit | mark) | name) | mark
    · exact isOperandChar_of_mem_decimal digit
    · rw [List.mem_singleton.1 mark]
      decide
    · exact isOperandChar_of_mem_registerText fits.2 c name
    · rw [List.mem_singleton.1 mark]
      decide
  | csr address =>
    rcases Csr.isAlphanum_of_mem_name member with rfl | alnum
    · decide
    · exact isOperandChar_of_isAlphanum alnum

theorem map_operandText_inj {os ps : List Operand} (kinds : List.Forall₂ Operand.SameKind os ps)
    (ho : ∀ o ∈ os, o.Fits) (hp : ∀ p ∈ ps, p.Fits)
    (same : os.map d.operandText = ps.map d.operandText) : os = ps := by
  induction kinds with
  | nil => rfl
  | cons kind kinds ih =>
    rw [List.forall_mem_cons] at ho hp
    obtain ⟨first, rest⟩ := List.cons.inj same
    rw [operandText_inj kind ho.1 hp.1 first, ih ho.2 hp.2 rest]

end Display

theorem comma_notMem_operandText (d : Display) {os : List Operand} (fits : ∀ o ∈ os, o.Fits) :
    ∀ text ∈ os.map d.operandText, ',' ∉ text.toList := by
  intro text member comma
  obtain ⟨o, among, rfl⟩ := List.mem_map.1 member
  have plain := Display.isOperandChar_of_mem_operandText (fits o among) ',' comma
  exact absurd plain (by decide)

theorem mnemonic_eq_of_lineText_eq {width : Int} {e f : Encoding} (he : e ∈ Encoding.table)
    (hf : f ∈ Encoding.table) {xs ys : List String}
    (same : lineText width e.mnemonic xs = lineText width f.mnemonic ys) :
    e.mnemonic = f.mnemonic := by
  have first := congrArg (fun line => (Text.words line.toList).head?) same
  simp only [Encoding.head?_words_lineText he, Encoding.head?_words_lineText hf] at first
  exact String.toList_inj.1 (Option.some.inj first)

theorem operands_eq_of_lineText_eq {width : Int} {m : String} {xs ys : List String}
    (length : xs.length = ys.length) (plain : ∀ x ∈ xs, ',' ∉ x.toList)
    (plain' : ∀ y ∈ ys, ',' ∉ y.toList) (same : lineText width m xs = lineText width m ys) :
    xs = ys := by
  by_cases bare : xs = []
  · subst bare
    exact (List.length_eq_zero_iff.1 length.symm).symm
  · have operate : ys ≠ [] := fun none =>
      bare (List.length_eq_zero_iff.1 (length.trans (List.length_eq_zero_iff.2 none)))
    rw [lineText, lineText, if_neg bare, if_neg operate] at same
    have texts := congrArg String.toList same
    rw [String.toList_append, String.toList_append] at texts
    exact Text.intercalate_inj (iff_of_false bare operate) plain plain'
      (String.toList_inj.1 (List.append_cancel_left texts))

/-- A line holds the operands of its form. -/
theorem Form.read_eq_of_lineText_eq {f : Form} {d : Display} {width : Int} {m : String} {a b : Int}
    (same : lineText width m ((f.read a).map d.operandText) =
      lineText width m ((f.read b).map d.operandText)) : f.read a = f.read b := by
  have kinds := f.sameKind_read a b
  have texts := operands_eq_of_lineText_eq (by simpa using kinds.length_eq)
    (comma_notMem_operandText d fits_of_mem_read) (comma_notMem_operandText d fits_of_mem_read) same
  exact Display.map_operandText_inj kinds fits_of_mem_read fits_of_mem_read texts

end Disasm32
