import Disasm32.Proofs.Waveform.Headers

/-! Finding declared variables. A path holds no blank, so it is what remains of a signal's name
without the range; but of the variables that share an identifier only the last declared can be
found under its own path. -/
namespace Disasm32.Waveform

open Text

theorem exists_of_mem_intercalate {separator : List Char} {pieces : List (List Char)} {c : Char}
    (other : c ∉ separator) (member : c ∈ separator.intercalate pieces) :
    ∃ piece ∈ pieces, c ∈ piece := by
  induction pieces with
  | nil => cases member
  | cons piece pieces ih =>
    cases pieces with
    | nil => exact ⟨piece, List.mem_cons_self, by simpa using member⟩
    | cons next pieces =>
      rw [List.intercalate_cons_cons, List.append_assoc, List.mem_append, List.mem_append] at member
      rcases member with first | between | others
      · exact ⟨piece, List.mem_cons_self, first⟩
      · exact absurd between other
      · obtain ⟨later, listed, inside⟩ := ih others
        exact ⟨later, List.mem_cons_of_mem _ listed, inside⟩

namespace Declaration

theorem blank_notMem_path (d : Declaration) : ' ' ∉ d.path := by
  intro member
  obtain ⟨_, listed, inside⟩ := exists_of_mem_intercalate (by decide) member
  obtain ⟨t, -, rfl⟩ := List.mem_map.1 listed
  exact absurd (t.isBlank_of_mem inside) (by decide)

theorem baseName_signal (size : Variable → Int) (d : Declaration) :
    (d.signal size).baseName = String.ofList d.path := by
  have absent := d.blank_notMem_path
  rw [Signal.baseName, signal, String.toList_ofList, name]
  cases ranged : d.var.range with
  | none => rw [before_of_absent absent]
  | some range =>
    obtain ⟨bits, opened⟩ := List.head?_eq_some_iff.1 (d.var.bracketed range ranged)
    simp only [opened]
    exact congrArg String.ofList (before_append_of_absent absent bits)

end Declaration

variable {forest : Forest} {lines : List String} {d : Declaration}

theorem endsIn_iff (name path : List Char) : endsIn name path = true ↔ ('.' :: name) <:+ path := by
  rw [endsIn, List.isPrefixOf_iff_prefix, List.reverse_prefix]

/-- A path is looked up among the declarations that stay: exactly, or else as the end of one. -/
theorem find?_latest (size : Variable → Int) (ds : List Declaration) (path : List Char) :
    find? (latest Signal.identifier (ds.map (·.signal size))) (String.ofList path) =
      (((latest Declaration.identifier ds).find? (·.path = path)).or
        ((latest Declaration.identifier ds).find? fun d => ('.' :: path) <:+ d.path)).map
          (·.signal size) := by
  have exact (d : Declaration) :
      decide ((d.signal size).baseName = String.ofList path) = decide (d.path = path) := by
    simp only [d.baseName_signal, String.ofList_inj]
  have ending (d : Declaration) :
      endsIn (String.ofList path).toList (d.signal size).baseName.toList =
        decide (('.' :: path) <:+ d.path) := by
    rw [d.baseName_signal, String.toList_ofList, String.toList_ofList, Bool.eq_iff_iff, endsIn_iff,
      decide_eq_true_iff]
  have kept : latest Signal.identifier (ds.map (·.signal size)) =
      (latest Declaration.identifier ds).map (·.signal size) := latest_map _ _ _
  rw [kept, find?, List.find?_map, List.find?_map, Option.map_or]
  simp only [Function.comp_def, exact, ending]
  cases (latest Declaration.identifier ds).find? (·.path = path) <;> rfl

variable {ds kept : List Declaration}

theorem find?_path_of_mem (distinct : (ds.map Declaration.path).Nodup) (within : kept ⊆ ds)
    (member : d ∈ kept) : kept.find? (·.path = d.path) = some d := by
  cases found : kept.find? (·.path = d.path) with
  | none => exact absurd (List.find?_eq_none.1 found d member) (by simp)
  | some e =>
    have same : e.path = d.path := by simpa using List.find?_some found
    have listed := within (List.mem_of_find?_eq_some found)
    rw [List.inj_on_of_nodup_map distinct listed (within member) same]

theorem find?_path_of_notMem (distinct : (ds.map Declaration.path).Nodup) (within : kept ⊆ ds)
    (member : d ∈ ds) (gone : d ∉ kept) : kept.find? (·.path = d.path) = none := by
  rw [List.find?_eq_none]
  intro e stays same
  have equal := List.inj_on_of_nodup_map distinct (within stays) member (by simpa using same)
  exact gone (equal ▸ stays)

/-- One whose identifier is declared again is only found if its path is the end of another. -/
theorem exists_find?_latest_iff (size : Variable → Int)
    (distinct : (ds.map Declaration.path).Nodup) (member : d ∈ ds) :
    (∃ s, find? (latest Signal.identifier (ds.map (·.signal size))) (String.ofList d.path) =
          some s ∧ s.identifier = d.identifier) ↔
      d ∈ latest Declaration.identifier ds ∨
        ∃ e, (latest Declaration.identifier ds).find? (fun e => ('.' :: d.path) <:+ e.path) =
            some e ∧ e.identifier = d.identifier := by
  have within : latest Declaration.identifier ds ⊆ ds := fun e => mem_of_mem_latest
  rw [find?_latest]
  by_cases stays : d ∈ latest Declaration.identifier ds
  · rw [find?_path_of_mem distinct within stays]
    exact iff_of_true ⟨d.signal size, rfl, rfl⟩ (.inl stays)
  · rw [find?_path_of_notMem distinct within member stays, Option.none_or, or_iff_right stays]
    constructor
    · rintro ⟨s, found, same⟩
      obtain ⟨e, first, rfl⟩ := Option.map_eq_some_iff.1 found
      exact ⟨e, first, same⟩
    · rintro ⟨e, found, same⟩
      exact ⟨e.signal size, by rw [found]; rfl, same⟩

/-- A variable can be found under its path exactly if every width can be read and, unless it is
the last of those with its identifier, the first path that stays and ends in its own belongs to
this identifier as well. -/
theorem find?_path_iff {start : Nat} (dump : Dump forest lines start)
    (distinct : ((forest.declarations []).map Declaration.path).Nodup)
    (member : d ∈ forest.declarations []) :
    (∃ signals stop s, readHeader lines = .ok (signals, stop) ∧
        find? signals (String.ofList d.path) = some s ∧ s.identifier = d.identifier) ↔
      (∀ e ∈ forest.declarations [], ∃ n, Literal.read 10 e.var.width.chars = .ok n) ∧
        (d ∈ latest Declaration.identifier (forest.declarations []) ∨
          ∃ e, (latest Declaration.identifier (forest.declarations [])).find?
              (fun e => ('.' :: d.path) <:+ e.path) = some e ∧ e.identifier = d.identifier) := by
  by_cases reads : ∀ e ∈ forest.declarations [], ∃ n, Literal.read 10 e.var.width.chars = .ok n
  · have read := readHeader_of_dump dump
    rw [addAll_ok fun e listed => read_readSize (reads e listed)] at read
    rw [← exists_find?_latest_iff Variable.readSize distinct member, and_iff_right reads]
    constructor
    · rintro ⟨signals, stop, s, answer, found⟩
      cases read.symm.trans answer
      exact ⟨s, found⟩
    · rintro ⟨s, found⟩
      exact ⟨_, _, s, read, found⟩
  · obtain ⟨e, failed⟩ := addAll_error reads []
    rw [readHeader_of_dump dump, failed]
    exact iff_of_false (fun ⟨_, _, _, answer, _⟩ => nomatch answer) fun found => reads found.1

/-- The wider variable is alone with its identifier. -/
theorem find?_path_nested :
    let d : Declaration := ⟨[.literal "tb", .literal "dut"], Sample.instruction⟩
    Dump Sample.header Sample.text 10 ∧
      ((Sample.header.declarations []).map Declaration.path).Nodup ∧
      d ∈ Sample.header.declarations [] ∧
      ∃ signals stop s, readHeader Sample.text = .ok (signals, stop) ∧
        find? signals (String.ofList d.path) = some s ∧ s.identifier = d.identifier := by
  intro d
  have distinct : ((Sample.header.declarations []).map Declaration.path).Nodup := by decide
  have member : d ∈ Sample.header.declarations [] := .tail _ (.head _)
  have reads : ∀ e ∈ Sample.header.declarations [],
      ∃ n, Literal.read 10 e.var.width.chars = .ok n :=
    fun e listed => ⟨_, read_of_decimal (Sample.decimal e listed)⟩
  have stays : d ∈ latest Declaration.identifier (Sample.header.declarations []) :=
    .tail _ (.head _)
  exact ⟨Sample.dump, distinct, member,
    (find?_path_iff Sample.dump distinct member).2 ⟨reads, .inl stays⟩⟩

/-- The outer clock is declared, under a path of its own, but cannot be found. -/
theorem not_find?_path_clock :
    let d : Declaration := ⟨[.literal "tb"], Sample.clock⟩
    Dump Sample.header Sample.text 10 ∧
      ((Sample.header.declarations []).map Declaration.path).Nodup ∧
      d ∈ Sample.header.declarations [] ∧
      (∀ e ∈ Sample.header.declarations [],
        ∃ n, Literal.read 10 e.var.width.chars = .ok n) ∧
      ¬∃ signals stop s, readHeader Sample.text = .ok (signals, stop) ∧
        find? signals (String.ofList d.path) = some s ∧ s.identifier = d.identifier := by
  have header : readHeader Sample.text =
      .ok ([⟨"!", "tb.dut.clk", 1⟩, ⟨"%", "tb.dut.insn [31:0]", 32⟩], 10) := by
    decide +kernel
  have missing : find? [⟨"!", "tb.dut.clk", 1⟩, ⟨"%", "tb.dut.insn [31:0]", 32⟩] "tb.clk" =
      none := by
    decide +kernel
  refine ⟨Sample.dump, by decide, .head _,
    fun e listed => ⟨_, read_of_decimal (Sample.decimal e listed)⟩, ?_⟩
  rintro ⟨signals, stop, s, answer, found, -⟩
  cases header.symm.trans answer
  cases missing.symm.trans found

end Disasm32.Waveform
