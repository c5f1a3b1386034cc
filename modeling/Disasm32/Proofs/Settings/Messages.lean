import Disasm32.Proofs.Cache.Runs
import Disasm32.Proofs.Settings.Documented
import Disasm32.Proofs.Template.Dependence

/-! The messages for words that are no instructions. Settings are accepted if their message can be
filled in for the word zero; whether it can be for another word, and whether it tells one word from
another, is a matter of its placeholders. -/
namespace Disasm32

open Template

variable {m : Members} {w : Int}

/-- There is a message for the word, also as the text of its decoding if it is no instruction. -/
structure Display.Reports (d : Display) (m : Members) (w : Int) : Prop where
  message : Succeeds (d.invalidText m w)
  shown : ∀ r, d.decodeWord w = .ok r → r.valid = false → Succeeds (r.show? m)

theorem Display.reports_iff {d : Display} (lower : 0 ≤ w) (upper : w < 2 ^ 32) :
    d.Reports m w ↔ Succeeds (d.invalidText m w) := by
  refine ⟨Reports.message, fun message => ⟨message, fun r decoded unknown => ?_⟩⟩
  have low : ((Word.low w : Nat) : Int) = w := by
    unfold Word.low
    omega
  obtain ⟨text, -, rfl⟩ := decodeWord_eq_ok decoded
  cases text with
  | some => cases unknown
  | none =>
    rw [Decoded.show?, low]
    exact message

namespace Settings

variable {host : Host} {d : Document} {source : String} {s : Settings}

/-- Accepted settings report a word exactly if it makes a format for each placeholder with others in
its format, and is a character where the message shows it as one. -/
theorem reports_iff_placeholders (sound : host.check.IsSound) (law : host.members.IsUniform)
    (accepted : ofDocument host d source = .ok s) (lower : 0 ≤ w) (upper : w < 2 ^ 32) :
    s.display.Reports host.members w ↔ ∀ p ∈ placeholders s.display.invalidFormat.toList,
      (p.IsNested → p.TakesFormat host.members 1 w) ∧
        (¬p.IsNested → p.IsCharacter host.members → w ≤ 0x10ffff) := by
  obtain ⟨-, -, filled⟩ := (ofDocument_eq_ok_iff sound).1 accepted
  obtain ⟨zero, whole⟩ := succeeds_fill_iff.1 (succeeds_map.1 filled)
  rw [Display.reports_iff lower upper, Display.invalidText, render, succeeds_map, succeeds_fill_iff,
    and_iff_left whole]
  refine forall₂_congr fun p member => ?_
  by_cases nested : p.IsNested
  · simp [nested, p.succeeds_text_iff_takesFormat nested]
  · simp [nested, p.succeeds_text_iff law nested (zero p member) lower upper]

theorem reports_hexadecimal :
    let s : Settings := { name := "x", display := { invalidFormat := "?? \x7bword:08x\x7d" } }
    Host.usual.check.IsSound ∧ Host.usual.members.IsUniform ∧
      ofDocument Host.usual (.ofValue (withMessage "?? \x7bword:08x\x7d")) "<dict>" = .ok s ∧
      (0 : Int) ≤ 0xdeadbeef ∧ (0xdeadbeef : Int) < 2 ^ 32 ∧
      s.display.Reports Host.usual.members 0xdeadbeef := by
  have accepted := ofValue_hexadecimal
  have single : placeholders "?? \x7bword:08x\x7d".toList =
      [⟨"word".toList, none, "08x".toList⟩] := by
    decide +kernel
  refine ⟨Schema.isSound_check, usual_isUniform, accepted, by decide, by decide,
    (reports_iff_placeholders Schema.isSound_check usual_isUniform accepted (by decide)
      (by decide)).2 ?_⟩
  rw [single, List.forall_mem_singleton]
  refine ⟨fun nested => absurd nested (by unfold Placeholder.IsNested; decide), ?_⟩
  rintro - ⟨-, spec, parsed, character⟩
  have hexadecimal : ∃ s, Spec.parse .int "08x".toList = .ok s ∧ s.code = 'x' := ⟨_, rfl, rfl⟩
  obtain ⟨s, other, code⟩ := hexadecimal
  cases parsed.symm.trans other
  cases character.symm.trans code

theorem not_reports_character :
    let s : Settings := { name := "x", display := { invalidFormat := "\x7bword:c\x7d" } }
    ofValue Host.usual (withMessage "\x7bword:c\x7d") "<dict>" = .ok s ∧
      ¬s.display.Reports Host.usual.members 0xffffffff := by
  intro s
  have filled : render Host.usual.members "\x7bword:c\x7d" 0 = .ok "\x00" := by decide +kernel
  have failed : render Host.usual.members "\x7bword:c\x7d" 0xffffffff = .error .notACharacter := by
    decide +kernel
  have described := describes_withMessage "\x7bword:c\x7d" (Text.contains_iff_infix.1 rfl)
  have accepted := ofValue_of_describes Schema.isSound_check (isJson_withMessage _) described
    ⟨_, filled⟩ "<dict>"
  refine ⟨accepted, fun reports => ?_⟩
  obtain ⟨text, other⟩ := reports.message
  cases failed.symm.trans other

/-- The name of the word after a brace does not make a message vary with the word. That of accepted
settings does if one of its placeholders tells the word, provided that no two of them can differ in
length and so make up for one another. Without such a placeholder it does not. -/
theorem varies_invalidText (sound : host.check.IsSound)
    (accepted : ofDocument host d source = .ok s) :
    let ps := placeholders s.display.invalidFormat.toList
    (ps.Pairwise (fun p q => ¬(p.IsLoose host.members ∧ q.IsLoose host.members)) →
        (∃ p ∈ ps, p.Tells host.members) → Varies (s.display.invalidText host.members)) ∧
      (Varies (s.display.invalidText host.members) → ∃ p ∈ ps, p.Tells host.members) := by
  obtain ⟨-, -, filled⟩ := (ofDocument_eq_ok_iff sound).1 accepted
  obtain ⟨zero, whole⟩ := succeeds_fill_iff.1 (succeeds_map.1 filled)
  have message : Varies (s.display.invalidText host.members) ↔
      Varies fun w => fill host.members 2 w s.display.invalidFormat.toList :=
    varies_map fun cs ds same => String.ofList_injective same
  rw [message]
  constructor
  · rintro lone ⟨p, member, tells⟩
    by_contra steady
    exact not_varies_text_of_fill steady lone p member ((p.tells_iff (zero p member)).1 tells)
  · intro varies
    by_contra silent
    exact not_varies_fill whole
      (fun p member varies => silent ⟨p, member, (p.tells_iff (zero p member)).2 varies⟩) varies

/-- A placeholder that holds another, and one that tells the word by itself. -/
theorem varies_invalidText_nested :
    let s : Settings :=
      { name := "x", display := { invalidFormat := "\x7bword!s:\x7bword\x7d\x7d\x7bword\x7d" } }
    let ps := placeholders s.display.invalidFormat.toList
    let m := Host.usual.members
    Host.usual.check.IsSound ∧
      ofDocument Host.usual
        (.ofValue (withMessage "\x7bword!s:\x7bword\x7d\x7d\x7bword\x7d")) "<dict>" = .ok s ∧
      ps.Pairwise (fun p q => ¬(p.IsLoose m ∧ q.IsLoose m)) ∧ (∃ p ∈ ps, p.Tells m) ∧
        Varies (s.display.invalidText m) := by
  intro s ps m
  have filled : render m "\x7bword!s:\x7bword\x7d\x7d\x7bword\x7d" 0 = .ok "00" := by
    decide +kernel
  have parts : ps =
      [⟨"word".toList, some 's', "\x7bword\x7d".toList⟩, ⟨"word".toList, none, []⟩] := by
    decide +kernel
  have described := describes_withMessage "\x7bword!s:\x7bword\x7d\x7d\x7bword\x7d"
    (Text.contains_iff_infix.1 rfl)
  have accepted := ofValue_of_describes Schema.isSound_check (isJson_withMessage _) described
    ⟨_, filled⟩ "<dict>"
  have word : Placeholder.IsWord m ⟨"word".toList, none, []⟩ := fun w => rfl
  have tight : ¬Placeholder.IsLoose m ⟨"word".toList, none, []⟩ := by
    rintro (nested | other)
    · cases nested
    · exact other (.inl word)
  have lone : ps.Pairwise (fun p q => ¬(p.IsLoose m ∧ q.IsLoose m)) := by
    rw [parts, List.pairwise_pair]
    exact fun both => tight both.2
  have tells : ∃ p ∈ ps, p.Tells m := by
    rw [parts]
    exact ⟨_, List.mem_of_getLast? rfl, fun _ => .inl word, fun loose => absurd loose tight⟩
  exact ⟨Schema.isSound_check, accepted, lone, tells,
    (varies_invalidText Schema.isSound_check accepted).1 lone tells⟩

/-- A brace that is doubled opens no placeholder. -/
theorem not_varies_doubled :
    let s : Settings := { name := "x", display := { invalidFormat := "\x7b\x7bword\x7d\x7d" } }
    ofValue Host.usual (withMessage "\x7b\x7bword\x7d\x7d") "<dict>" = .ok s ∧
      ¬Varies (s.display.invalidText Host.usual.members) := by
  have filled (w : Int) : render Host.usual.members "\x7b\x7bword\x7d\x7d" w =
      .ok "\x7bword\x7d" := by
    have parts : pieces "\x7b\x7bword\x7d\x7d".toList =
        ([.text ['\x7b'], .text "word\x7d".toList, .text []], none) := by
      decide +kernel
    rw [render, fill_succ, parts]
    rfl
  have described := describes_withMessage "\x7b\x7bword\x7d\x7d" (Text.contains_iff_infix.1 rfl)
  exact ⟨ofValue_of_describes Schema.isSound_check (isJson_withMessage _) described
    ⟨_, filled 0⟩ "<dict>", not_varies_iff.2 ⟨_, fun w _ => filled w⟩⟩

end Settings

end Disasm32
