import Disasm32.CommandLine.Decode
import Disasm32.Proofs.Cache.Runs
import Disasm32.Proofs.Template.Placeholders

/-! The text of a word in the usual display. Every word has one: its instruction, or the message
that there is none, with the low 32 bits in eight digits. -/
namespace Disasm32

open Digits

namespace Template

/-- Zeros fill a numeral up to the width of the format. -/
theorem place_inner (s : Spec) (fill : s.fill = '0') (align : s.align = .inner)
    (unsigned : s.sign = none) (whole : s.separator = none) {digits : List Char}
    (filled : digits ≠ []) :
    s.place false [] digits [] = padLeft '0' (s.width.getD 0) digits := by
  have some : digits.isEmpty = false := by simpa using filled
  have long : s.width.getD 0 ≤ (padLeft '0' (s.width.getD 0) digits).length := by
    rw [padLeft, List.length_append, List.length_replicate]
    omega
  simp [Spec.place, Spec.signText, Spec.group, fill, align, unsigned, whole, some, long]

theorem formatInteger_hex (n : Nat) : formatInteger ['0', '8', 'x'] n = .ok (hex 8 n) := by
  let eight : Spec := ⟨'0', .inner, none, false, false, some 8, none, none, 'x'⟩
  have parsed : Spec.parse .int ['0', '8', 'x'] = .ok eight := by decide +kernel
  have placed := place_inner eight rfl rfl rfl rfl (ofNat_ne_nil 16 n)
  have nonneg : decide ((n : Int) < 0) = false := decide_eq_false (by omega)
  have text : integerText eight n =
      .ok (eight.place (decide ((n : Int) < 0)) [] (ofNat 16 n) []) := rfl
  rw [formatInteger, if_neg (by decide), parsed, ok_bind, if_pos (by decide), text, nonneg, placed]
  rfl

end Template

namespace Display

theorem invalidText_usual (m : Template.Members) (n : Nat) : ({} : Display).invalidText m n =
    .ok ("invalid instruction 0x" ++ String.ofList (hex 8 n)) := by
  have parts : Template.pieces ({} : Display).invalidFormat.toList =
      ([.text "invalid instruction 0x".toList,
        .placeholder ⟨"word".toList, none, ['0', '8', 'x']⟩, .text []], none) := by
    decide +kernel
  have filled : Template.Placeholder.text m 1 n ⟨"word".toList, none, ['0', '8', 'x']⟩ =
      .ok (hex 8 n) := Template.formatInteger_hex n
  rw [invalidText, Template.render, Template.fill_succ, parts]
  simp only [List.mapM_cons, List.mapM_nil, Template.Piece.filled, filled]
  refine congrArg Except.ok (String.toList_inj.1 ?_)
  simp only [List.flatten_cons, List.flatten_nil, List.append_nil, String.toList_append,
    String.toList_ofList]

end Display

namespace CommandLine

/-- The text of a word in the usual display. -/
def usualText (w : Int) : String :=
  match Display.decode {} w with
  | .ok (some text) => text
  | _ => "invalid instruction 0x" ++ String.ofList (hex 8 (Word.low w))

theorem shownText_usual (m : Template.Members) (w : Int) :
    shownText m {} w = .ok (usualText w) := by
  have columns : ({} : Display).mnemonicWidth = .columns 9 := rfl
  obtain ⟨text, decoded⟩ := (Display.exists_decode_iff (w := w) columns).2 (.inl (by decide))
  have outcome : Display.decodeWord {} w = .ok ⟨Word.low w, text, {}⟩ := by
    rw [Display.decodeWord, decoded]
    rfl
  rw [shownText, outcome, usualText, decoded]
  cases text with
  | some text => rfl
  | none =>
    show Except.mapError Failure.template (Display.invalidText {} m (Word.low w : Nat)) = _
    rw [Display.invalidText_usual]
    rfl

theorem error_invalid (text : String) : Report.error (Word.LiteralError.message ⟨text⟩) =
    { complaints := "Error: Invalid instruction word: '" ++ text ++ "'\n", ending := .ok 1 } := by
  have joined : "Error: " ++ ("Invalid instruction word: '" ++ text ++ "'") ++ "\n" =
      "Error: Invalid instruction word: '" ++ text ++ "'\n" := by
    apply String.toList_inj.1
    simp
  rw [← joined]
  rfl

def widthText (word : Int) (token : String) : String :=
  if 0xffffffff < word then
    "Warning: '" ++ token ++ "' is wider than 32 bits, using 0x" ++
      String.ofList (hex 8 (Word.low word)) ++ "\n"
  else ""

theorem widthWarning_eq (word : Int) (token : String) :
    widthWarning word token = { complaints := widthText word token } := by
  have joined (text : String) :
      "Warning: " ++ ("'" ++ token ++ "' is wider than 32 bits, using 0x" ++ text) ++ "\n" =
        "Warning: '" ++ token ++ "' is wider than 32 bits, using 0x" ++ text ++ "\n" := by
    apply String.toList_inj.1
    simp
  unfold widthWarning widthText
  split
  · rw [Report.warning, joined]
  · rfl

end CommandLine

end Disasm32
