import Disasm32.Host.Usual
import Disasm32.Proofs.CommandLine.Arguments
import Disasm32.Proofs.CommandLine.Shown
import Disasm32.Proofs.Word.Literals

/-! The report on words of the command line. Each word has its own part in it, whatever stands
beside it, so the report on two lists of words is the one on the first and then the one on the
second. -/
namespace Disasm32.CommandLine

variable {m : Template.Members} {verbose : Bool} {texts first second : List String}

/-- The text is no word. -/
def Rejected (text : String) : Prop := ∃ e, Word.read text 16 = .error e

def fieldText (name : String) (value : Nat) : String :=
  name ++ "=0x" ++ String.ofList (Digits.ofNat 16 value)

/-- What is said of the encoding of a word: that there is none, or its name with the letter of its
format, and the fields of the word with their values. -/
def encodingText (word : Nat) : String :=
  match Encoding.ofWord? word with
  | none => "  encoding: none\n"
  | some e => "  encoding: " ++ e.name ++ " (" ++ e.format.letter ++ "-type)\n" ++
      "  fields: " ++ " ".intercalate ((e.describe word).map fun field =>
        fieldText field.1 field.2) ++ "\n"

/-- What is printed for a text: its word and, if asked for, the encoding of it. -/
def outputText (verbose : Bool) (text : String) : String :=
  match Word.read text 16 with
  | .error _ => ""
  | .ok word =>
    String.ofList (Digits.hex 8 (Word.low word)) ++ "  " ++ usualText word ++ "\n" ++
      (if verbose then encodingText (Word.low word) else "")

def complaintText (text : String) : String :=
  match Word.read text 16 with
  | .error _ => "Error: Invalid instruction word: '" ++ text ++ "'\n"
  | .ok word => widthText word text

def exitCode (text : String) : Nat :=
  match Word.read text 16 with
  | .error _ => 1
  | .ok _ => 0

def worst (texts : List String) : Nat := (texts.map exitCode).foldr max 0

theorem exitCode_cases (text : String) :
    (exitCode text = 1 ∧ Rejected text) ∨ exitCode text = 0 ∧ ¬Rejected text := by
  unfold exitCode Rejected
  cases Word.read text 16 <;> simp

theorem worst_cases (texts : List String) :
    (worst texts = 1 ∧ ∃ t ∈ texts, Rejected t) ∨ worst texts = 0 ∧ ∀ t ∈ texts, ¬Rejected t := by
  induction texts with
  | nil => exact .inr ⟨rfl, by simp⟩
  | cons text texts ih =>
    have step : worst (text :: texts) = max (exitCode text) (worst texts) := rfl
    rw [step, List.exists_mem_cons_iff, List.forall_mem_cons]
    rcases exitCode_cases text with ⟨code, bad⟩ | ⟨code, good⟩
    · refine .inl ⟨?_, .inl bad⟩
      rcases ih with ⟨rest, -⟩ | ⟨rest, -⟩ <;> rw [code, rest] <;> rfl
    · rcases ih with ⟨rest, bad⟩ | ⟨rest, sound⟩
      · exact .inl ⟨by rw [code, rest]; rfl, .inr bad⟩
      · exact .inr ⟨by rw [code, rest]; rfl, good, sound⟩

theorem lines_eq (texts : List String) :
    Report.lines texts = { output := String.join (texts.map (· ++ "\n")) } := by
  induction texts with
  | nil => rfl
  | cons text texts ih =>
    show Report.line text ++ Report.lines texts = _
    rw [ih, Report.line, Report.append_of_ok, List.map_cons, String.join_cons, String.append_empty]

theorem lines_encodingLines (word : Int) :
    Report.lines (encodingLines word) = { output := encodingText (Word.low word) } := by
  rw [lines_eq, encodingLines, encodingText]
  cases Encoding.ofWord? (Word.low word) with
  | none => rfl
  | some e =>
    simp only [List.map_cons, List.map_nil, String.join_cons, String.join_nil, fieldText,
      String.append_assoc, String.append_empty]
    rfl

theorem wordReport_eq (m : Template.Members) (verbose : Bool) (text : String) :
    wordReport m {} verbose text =
      { output := outputText verbose text
        complaints := complaintText text
        ending := .ok (exitCode text) } := by
  unfold wordReport outputText complaintText exitCode
  cases read : Word.read text 16 with
  | error e =>
    rw [Word.eq_of_read_error read]
    exact error_invalid text
  | ok word =>
    have extra : Report.lines (if verbose then encodingLines word else []) =
        { output := if verbose then encodingText (Word.low word) else "" } := by
      cases verbose with
      | false => rfl
      | true => exact lines_encodingLines word
    simp only [widthWarning_eq, shownText_usual, extra, Report.line, wordLine,
      Report.append_of_ok, String.empty_append, String.append_empty, String.append_assoc]

theorem decodeWords_eq (m : Template.Members) (verbose : Bool) (texts : List String) :
    decodeWords m {} verbose texts =
      { output := String.join (texts.map (outputText verbose))
        complaints := String.join (texts.map complaintText)
        ending := .ok (worst texts) } := by
  induction texts with
  | nil => rfl
  | cons text texts ih =>
    show wordReport m {} verbose text ++ decodeWords m {} verbose texts = _
    rw [ih, wordReport_eq, List.map_cons, List.map_cons, String.join_cons, String.join_cons]
    rfl

def decodeArguments (verbose : Bool) (texts : List String) : List String :=
  "decode" :: (if verbose then ["-v"] else []) ++ texts

def encodingSwitch : Switch := verboseSwitch "Show matched encoding and field values"

theorem readKnown_decode (verbose : Bool) (filled : texts ≠ [])
    (plain : ∀ t ∈ texts, t.toList.head? ≠ some '-') :
    Command.decode.grammar.readKnown ((if verbose then ["-v"] else []) ++ texts) =
      .ok { settings := if verbose then [("verbose", [])] else [], operands? := some texts } := by
  have roles := Grammar.roles_of_plain (g := Command.decode.grammar) plain
  have operands (a : Arguments) :=
    Grammar.readFrom_operands (g := Command.decode.grammar) rfl filled a
  cases verbose with
  | false => exact Grammar.readKnown_of_readFrom roles (operands _) rfl
  | true =>
    have switch : Command.decode.grammar.role "-v" = .ok (.switch encodingSwitch true none) := by
      decide +kernel
    refine Grammar.readKnown_of_readFrom (Grammar.roles_cons (by decide) switch roles) ?_ rfl
    rw [Grammar.readFrom_alone rfl (by decide)]
    exact operands _

theorem run_decode (env : Environment) (verbose : Bool) (filled : texts ≠ [])
    (plain : ∀ t ∈ texts, t.toList.head? ≠ some '-') :
    run env (decodeArguments verbose texts) = decodeWords env.host.members {} verbose texts := by
  have command : Command.ofName? "decode" = some .decode := by decide
  rw [decodeArguments, List.cons_append, run_eq_runCommand env (by decide), runCommand, command]
  simp only [readKnown_decode verbose filled plain]
  cases verbose <;> rfl

/-- The words of two lists are decoded one list after the other: what is printed is put together,
and the greater exit code counts. A list is not decoded as a whole exactly if one of its texts is no
word, and then every other text has its own part of the report all the same. -/
theorem run_decode_append (env : Environment) (verbose : Bool) (filled : first ≠ [])
    (filled' : second ≠ []) (plain : ∀ t ∈ first ++ second, t.toList.head? ≠ some '-') :
    ∃ m n, (run env (decodeArguments verbose first)).ending = .ok m ∧
      (run env (decodeArguments verbose second)).ending = .ok n ∧
      run env (decodeArguments verbose (first ++ second)) =
        { output := (run env (decodeArguments verbose first)).output ++
            (run env (decodeArguments verbose second)).output
          complaints := (run env (decodeArguments verbose first)).complaints ++
            (run env (decodeArguments verbose second)).complaints
          ending := .ok (max m n) } ∧
      (m = 1 ∧ (∃ t ∈ first, Rejected t) ∨ m = 0 ∧ ∀ t ∈ first, ¬Rejected t) ∧
      (run env (decodeArguments verbose first)).output =
        String.join (first.map (outputText verbose)) ∧
      (run env (decodeArguments verbose first)).complaints =
        String.join (first.map complaintText) := by
  have plains := List.forall_mem_append.1 plain
  have joined : decodeWords env.host.members {} verbose (first ++ second) =
      decodeWords env.host.members {} verbose first ++
        decodeWords env.host.members {} verbose second := by
    rw [decodeWords, List.map_append, Report.concat_append]
    rfl
  rw [run_decode env verbose filled plains.1, run_decode env verbose filled' plains.2,
    run_decode env verbose (by simp [filled]) plain, joined, decodeWords_eq, decodeWords_eq]
  exact ⟨_, _, rfl, rfl, rfl, worst_cases first, rfl, rfl⟩

/-- No word, a word of more than 32 bits and one that is no instruction, and then a good word. -/
theorem run_decode_append_mixed :
    let env : Environment := { host := .usual, read := fun path => .error (.notFound path) }
    let first := ["zz", "1_23456789", "ffffffff"]
    let second := ["13"]
    first ≠ [] ∧ second ≠ [] ∧ (∀ t ∈ first ++ second, t.toList.head? ≠ some '-') ∧
      ∃ m n, (run env (decodeArguments true first)).ending = .ok m ∧
        (run env (decodeArguments true second)).ending = .ok n ∧
        run env (decodeArguments true (first ++ second)) =
          { output := (run env (decodeArguments true first)).output ++
              (run env (decodeArguments true second)).output
            complaints := (run env (decodeArguments true first)).complaints ++
              (run env (decodeArguments true second)).complaints
            ending := .ok (max m n) } ∧
        (m = 1 ∧ (∃ t ∈ first, Rejected t) ∨ m = 0 ∧ ∀ t ∈ first, ¬Rejected t) ∧
        (run env (decodeArguments true first)).output =
          String.join (first.map (outputText true)) ∧
        (run env (decodeArguments true first)).complaints =
          String.join (first.map complaintText) := by
  intro env first second
  have filled : first ≠ [] := by decide
  have filled' : second ≠ [] := by decide
  have plain : ∀ t ∈ first ++ second, t.toList.head? ≠ some '-' := by decide
  exact ⟨filled, filled', plain, run_decode_append env true filled filled' plain⟩

end Disasm32.CommandLine
