import Disasm32.Proofs.Encoding.Agreement
import Disasm32.Proofs.Settings.Documented

/-! The column of mnemonics under accepted settings. An accepted width is a number from 1 to 32, so
an integer always gives a column; a real number passes the checks too, and no column has such a
width. -/
namespace Disasm32.Settings

variable {host : Host} {d : Document} {source : String} {s : Settings}

theorem isWidth_of_display {entries : List (Value × Value)} {a : Display}
    (sound : ∀ u ∈ Value.find? "mnemonic_width" entries,
      Schema.Holds d { type := .integer, minimum := some 1, maximum := some 32 } u)
    (read : (DisplaySection.ofEntries entries).display? = some a) :
    IsWidth a.mnemonicWidth.value := by
  obtain ⟨stored, -⟩ := DisplaySection.display?_eq_some_iff.1 read
  rw [← stored, DisplaySection.ofEntries]
  cases given : Value.find? "mnemonic_width" entries with
  | none => exact ⟨9, .inl rfl, by decide, by decide⟩
  | some v => exact Schema.holds_integer.1 (sound v given)

theorem isWidth_of_accepted (sound : host.check.IsSound)
    (accepted : ofDocument host d source = .ok s) : IsWidth s.display.mnemonicWidth.value := by
  obtain ⟨holds, found, -⟩ := (ofDocument_eq_ok_iff sound).1 accepted
  obtain ⟨entries, root, -, properties, -⟩ := Schema.holds_object.1 holds
  obtain ⟨_, same, -, display, -⟩ := read?_eq_some_iff.1 found
  cases root.symm.trans same
  unfold displayUnder part? at display
  cases under : Value.find? "display" entries with
  | none =>
    rw [under] at display
    rw [← Option.some.inj display]
    exact ⟨9, .inl rfl, by decide, by decide⟩
  | some u =>
    obtain ⟨inner, held, -, keys, -⟩ := Schema.holds_object.1
      (properties ("display", displaySchema) (by simp) u under)
    simp only [under, held, Option.bind_some] at display
    exact isWidth_of_display (keys _ List.mem_cons_self) display

theorem error?_of_accepted (sound : host.check.IsSound)
    (accepted : ofDocument host d source = .ok s) :
    s.display.mnemonicWidth.error? = none ↔ ∃ n, s.display.mnemonicWidth = .columns n := by
  obtain ⟨m, number, least, greatest⟩ := isWidth_of_accepted sound accepted
  cases width : s.display.mnemonicWidth with
  | columns n =>
    rw [width] at number
    obtain integer | ⟨x, real, -⟩ := number
    case inr => cases real
    have same : n = m := Value.int.inj integer
    have fits : FitsColumn n := by
      unfold FitsColumn
      omega
    simp [ColumnWidth.error?, columnError?_eq_none_iff.2 fits]
  | real x => simp [ColumnWidth.error?]

/-- Accepted settings decode every word exactly if the width of their column is written as an
integer; with a real number they decode the words without operands only. -/
theorem exists_decode_iff_columns (sound : host.check.IsSound)
    (accepted : ofDocument host d source = .ok s) (w : Int) :
    ((∃ text, s.display.decode w = .ok text) ↔
        (∃ n, s.display.mnemonicWidth = .columns n) ∨ Bare w) ∧
      ((∃ x, s.display.mnemonicWidth = .real x) → ¬Bare w →
        s.display.decode w = .error .columnWidth) := by
  refine ⟨by rw [Display.exists_decode_iff_error, error?_of_accepted sound accepted], ?_⟩
  rintro ⟨x, real⟩ operate
  exact Display.decode_of_error_of_operands (by rw [real]; rfl) operate

theorem exists_decode_iff_columns_usual :
    let s : Settings := { name := "x", display := { invalidFormat := "?? \x7bword:08x\x7d" } }
    Host.usual.check.IsSound ∧
      ofDocument Host.usual (.ofValue (withMessage "?? \x7bword:08x\x7d")) "<dict>" = .ok s ∧
      ∃ text, s.display.decode 0x00000013 = .ok text := by
  have accepted := ofValue_hexadecimal
  exact ⟨Schema.isSound_check, accepted,
    (exists_decode_iff_columns Schema.isSound_check accepted 0x00000013).1.2 (.inl ⟨9, rfl⟩)⟩

/-- A width that is written as a real number leaves no column for an instruction with operands. -/
theorem not_exists_decode_real :
    let width : Binary64 := .ofNat 9
    let v : Value := withDisplay "mnemonic_width" (.real width)
    let s : Settings := { name := "x", display := { mnemonicWidth := .real width } }
    v.IsJson ∧ ofValue Host.usual v "<dict>" = .ok s ∧
      ¬∃ text, s.display.decode 0x00000013 = .ok text := by
  intro width v s
  have nine : IsWidth (.real width) := ⟨9, .inr ⟨width, rfl, by decide⟩, by decide, by decide⟩
  have described : Describes v s :=
    describes_withDisplay ⟨by simp [Known], .inl ⟨_, by simp, nine, rfl⟩, .inr ⟨by simp, rfl⟩,
      .inr ⟨by simp, rfl⟩⟩
  have fillable : Fillable Host.usual s := ⟨"invalid instruction 0x00000000", by decide +kernel⟩
  have json : v.IsJson := isJson_withDisplay (.real width)
  have failed : s.display.decode 0x00000013 = .error .columnWidth := by decide +kernel
  refine ⟨json, ofValue_of_describes Schema.isSound_check json described fillable "<dict>", ?_⟩
  rintro ⟨text, decoded⟩
  cases failed.symm.trans decoded

end Disasm32.Settings
