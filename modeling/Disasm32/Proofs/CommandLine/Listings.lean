import Disasm32.Host.Usual
import Disasm32.Proofs.CommandLine.Arguments
import Disasm32.Proofs.CommandLine.Shown
import Disasm32.Proofs.Listing.Faults

/-! The report on a listing. It has a line for each word before the first token without a number,
and an error for that token. What stands behind it makes no difference. -/
namespace Disasm32.CommandLine

open Listing

/-- The line of a word: the low 32 bits of its address and its own, and its text. -/
def entryLine (e : Entry) : String :=
  String.ofList (Digits.hex 8 (Word.low e.address)) ++ ": " ++
    String.ofList (Digits.hex 8 (Word.low e.word)) ++ "  " ++ usualText e.word ++ "\n"

def entryWarning (e : Entry) : String := widthText e.word e.token

variable {env : Environment} {m : Template.Members} {path base : String} {lines : List String}
  {address : Int} {entries : List Entry}

def baseSwitch : Switch :=
  ⟨some 'b', "base", some "BASE", "Address of the first word (default: 0)"⟩

theorem readKnown_disasm (value : base.toList.head? ≠ some '-')
    (file : path.toList.head? ≠ some '-') :
    Command.disasm.grammar.readKnown ["--base", base, path] =
      .ok { settings := [("base", [base])], operands? := some [path] } := by
  have switch : Command.disasm.grammar.role "--base" = .ok (.switch baseSwitch false none) := by
    decide +kernel
  have roles : Command.disasm.grammar.roles ["--base", base, path] =
      .ok [("--base", .switch baseSwitch false none), (base, .operand), (path, .operand)] :=
    Grammar.roles_cons (by decide) switch <|
      Grammar.roles_cons_of_head value <| Grammar.roles_cons_of_head file rfl
  rw [Grammar.readKnown, roles]
  rfl

theorem run_disasm (env : Environment) (value : base.toList.head? ≠ some '-')
    (file : path.toList.head? ≠ some '-') :
    run env ["disasm", "--base", base, path] = decodeFile env {} [base] path := by
  have command : Command.ofName? "disasm" = some .disasm := by decide
  rw [run_eq_runCommand env (by decide), runCommand, command]
  simp only [readKnown_disasm value file]
  rfl

theorem decodeFile_of_lines (file : path.toList.head? ≠ some '-')
    (held : env.read.lines path = .ok lines) (start : Word.read base 16 = .ok address) :
    decodeFile env {} [base] path = decodeListing env.host.members {} address lines := by
  have named : path ≠ "-" := by
    rintro rfl
    exact file rfl
  simp only [decodeFile, List.head?_cons, Option.map_some, start, listingLines, if_neg named, held]

theorem line_eq_entryLine (e : Entry) :
    Report.line (String.ofList (Digits.hex 8 (Word.low e.address)) ++ ": " ++
      wordLine e.word (usualText e.word)) = { output := entryLine e } := by
  simp only [Report.line, wordLine, entryLine, String.append_assoc]

theorem listingReport_eq (entries : List Entry) (fault : Option Word.LiteralError) :
    listingReport m {} entries fault =
      ({ output := String.join (entries.map entryLine)
         complaints := String.join (entries.map entryWarning) } : Report) ++
        listingReport m {} [] fault := by
  induction entries with
  | nil => exact (Report.empty_append _).symm
  | cons e entries ih =>
    simp only [listingReport, shownText_usual, widthWarning_eq, line_eq_entryLine, ih]
    simp only [Report.append_of_ok, List.map_cons, String.join_cons, String.append_assoc,
      String.empty_append, entryWarning]

theorem run_disasm_of_lines (file : path.toList.head? ≠ some '-')
    (held : env.read.lines path = .ok lines) (start : Word.read base 16 = .ok address)
    {fault : Option Word.LiteralError} (found : read lines address = (entries, fault)) :
    run env ["disasm", "--base", base, path] =
      ({ output := String.join (entries.map entryLine)
         complaints := String.join (entries.map entryWarning) } : Report) ++
        listingReport env.host.members {} [] fault := by
  rw [run_disasm env (Word.head?_ne_minus_of_read start) file, decodeFile_of_lines file held start,
    decodeListing, found]
  exact listingReport_eq entries fault

/-- A listing is reported up to its first token without a number, and as a whole if there is none.
Another listing that agrees with it so far has the same report. -/
theorem run_disasm_upTo (file : path.toList.head? ≠ some '-')
    (held : env.read.lines path = .ok lines) (start : Word.read base 16 = .ok address) :
    ((∃ t ∈ tokens lines, IsBad t) → ∃ before bad entries, EndsAt (tokens lines) before bad ∧
      (∀ es, Lists address before es ↔ es = entries) ∧
      run env ["disasm", "--base", base, path] =
        { output := String.join (entries.map entryLine)
          complaints := String.join (entries.map entryWarning) ++
            "Error: Invalid instruction word: '" ++ written bad ++ "'\n"
          ending := .ok 1 } ∧
      ∀ (env' : Environment) (path' : String) (lines' : List String),
        path'.toList.head? ≠ some '-' → env'.read.lines path' = .ok lines' →
          EndsAt (tokens lines') before bad →
            run env' ["disasm", "--base", base, path'] =
              run env ["disasm", "--base", base, path]) ∧
    ((∀ t ∈ tokens lines, ¬IsBad t) → ∃ entries,
      (∀ es, Lists address (tokens lines) es ↔ es = entries) ∧
      run env ["disasm", "--base", base, path] =
        { output := String.join (entries.map entryLine)
          complaints := String.join (entries.map entryWarning)
          ending := .ok 0 }) := by
  refine ⟨fun fault => ?_, fun sound => ?_⟩
  · obtain ⟨before, bad, ends⟩ := exists_endsAt fault
    have found {lines : List String} (ends : EndsAt (tokens lines) before bad) :
        read lines address = ((readTokens address 0 before).1, some ⟨written bad⟩) :=
      readTokens_of_endsAt ends
    refine ⟨before, bad, (readTokens address 0 before).1, ends, fun es => lists_iff ends.sound,
      ?_, fun env' path' lines' file' held' ends' => ?_⟩
    · rw [run_disasm_of_lines file held start (found ends), listingReport, error_invalid,
        Report.append_of_ok]
      simp only [String.append_empty, String.append_assoc]
    · rw [run_disasm_of_lines file' held' start (found ends'),
        run_disasm_of_lines file held start (found ends)]
      rfl
  · refine ⟨(readTokens address 0 (tokens lines)).1, fun es => lists_iff sound, ?_⟩
    have found : read lines address = ((readTokens address 0 (tokens lines)).1, none) :=
      Prod.ext rfl (readTokens_whole_iff.2 sound)
    rw [run_disasm_of_lines file held start found, listingReport, Report.append_empty]

/-- A wide word, a jump, and a jump to no number in the middle of a line. -/
theorem run_disasm_upTo_jump :
    let text := "13 // nop\n1_00000073 @40 6f @zz 13\n"
    let env : Environment := { host := .usual, read := fun _ => .ok (text.toList.map (·.toNat)) }
    let lines := ["13 // nop\n", "1_00000073 @40 6f @zz 13\n"]
    "boot.hex".toList.head? ≠ some '-' ∧ env.read.lines "boot.hex" = .ok lines ∧
      Word.read "0x80000000" 16 = .ok 0x80000000 ∧ (∃ t ∈ tokens lines, IsBad t) ∧
      run env ["disasm", "--base", "0x80000000", "boot.hex"] =
        { output := "80000000: 00000013  addi     x0, x0, 0\n80000004: 00000073  ecall\n" ++
            "80000100: 0000006f  jal      x0, .+0x00000000\n"
          complaints := "Warning: '1_00000073' is wider than 32 bits, using 0x00000073\n" ++
            "Error: Invalid instruction word: 'zz'\n"
          ending := .ok 1 } := by
  intro text env lines
  have file : "boot.hex".toList.head? ≠ some '-' := by decide
  have held : env.read.lines "boot.hex" = .ok lines := by decide +kernel
  have start : Word.read "0x80000000" 16 = .ok 0x80000000 := by decide +kernel
  have fault : ∃ t ∈ tokens lines, IsBad t :=
    ⟨"@zz".toList, by decide +kernel, ⟨"zz"⟩, by decide +kernel⟩
  obtain ⟨before, bad, entries, ends, lists, report, -⟩ :=
    (run_disasm_upTo file held start).1 fault
  let words : List Entry := [⟨0x80000000, 0x13, "13"⟩, ⟨0x80000004, 0x100000073, "1_00000073"⟩,
    ⟨0x80000100, 0x6f, "6f"⟩]
  have read : readTokens 0x80000000 0 (tokens lines) = (words, some ⟨"zz"⟩) := by decide +kernel
  rw [readTokens_of_endsAt ends] at read
  obtain ⟨shown, token⟩ := Prod.mk.inj read
  obtain rfl := (lists _).1 ((lists_iff ends.sound).2 shown.symm)
  have named : written bad = "zz" := congrArg Word.LiteralError.text (Option.some.inj token)
  have output : String.join (words.map entryLine) =
      "80000000: 00000013  addi     x0, x0, 0\n80000004: 00000073  ecall\n" ++
        "80000100: 0000006f  jal      x0, .+0x00000000\n" := by
    decide +kernel
  have complaints : String.join (words.map entryWarning) ++
      "Error: Invalid instruction word: '" ++ "zz" ++ "'\n" =
      "Warning: '1_00000073' is wider than 32 bits, using 0x00000073\n" ++
        "Error: Invalid instruction word: 'zz'\n" := by
    decide +kernel
  rw [output, named, complaints] at report
  exact ⟨file, held, start, fault, report⟩

end Disasm32.CommandLine
