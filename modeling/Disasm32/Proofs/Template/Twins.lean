import Disasm32.Proofs.Template.Formats

/-! The texts of the numbers two and three in one format. They have the same length and differ: the
digits do in every presentation, and layout, grouping and padding keep both. -/
namespace Disasm32.Template

structure Twins (as bs : List Char) : Prop where
  length : as.length = bs.length
  differ : as ≠ bs

variable {as bs cs ds : List Char}

theorem Twins.append_left (twins : Twins as bs) (cs : List Char) : Twins (cs ++ as) (cs ++ bs) :=
  ⟨by simp [twins.length], fun same => twins.differ (List.append_cancel_left same)⟩

theorem Twins.append_right (twins : Twins as bs) (cs : List Char) : Twins (as ++ cs) (bs ++ cs) :=
  ⟨by simp [twins.length], fun same => twins.differ (List.append_cancel_right same)⟩

theorem Twins.ne_nil (twins : Twins as bs) : as ≠ [] ∧ bs ≠ [] := by
  have length := twins.length
  constructor
  · rintro rfl
    exact twins.differ (List.length_eq_zero_iff.1 length.symm).symm
  · rintro rfl
    exact twins.differ (List.length_eq_zero_iff.1 length)

theorem padRight_inj {fill : Char} {width : Nat} (lengths : as.length = bs.length)
    (same : Digits.padRight fill width as = Digits.padRight fill width bs) : as = bs :=
  List.append_inj_left same lengths

theorem isEmpty_congr (lengths : as.length = bs.length) : as.isEmpty = bs.isEmpty := by
  rw [Bool.eq_iff_iff, List.isEmpty_iff_length_eq_zero, List.isEmpty_iff_length_eq_zero, lengths]

/-- Groups of digits are formed by their number alone. -/
theorem groups_inj {size width : Nat} {separator : Char} (lengths : as.length = bs.length) :
    (Spec.groups size separator as width).length = (Spec.groups size separator bs width).length ∧
      (Spec.groups size separator as width = Spec.groups size separator bs width → as = bs) := by
  induction total : as.length + width using Nat.strongRecOn generalizing as bs width with
  | _ total ih =>
    subst total
    obtain ⟨n, cut⟩ : ∃ n, n = max 1 (min size (max as.length width)) := ⟨_, rfl⟩
    have fronts : (as.take n).length = (bs.take n).length := by simp [lengths]
    have others : (as.drop n).length = (bs.drop n).length := by simp [lengths]
    have front : (Digits.padRight '0' n (as.take n)).length =
        (Digits.padRight '0' n (bs.take n)).length := by
      simp only [Digits.padRight, List.length_append, fronts]
    have join (firsts : as.take n = bs.take n) (lasts : as.drop n = bs.drop n) : as = bs := by
      rw [← List.take_append_drop n as, firsts, lasts, List.take_append_drop]
    rw [Spec.groups.eq_def size separator as width, Spec.groups.eq_def size separator bs width]
    simp only [← lengths, ← cut, ← isEmpty_congr others]
    split
    · rename_i done
      have empty : as.drop n = [] := by simp_all
      refine ⟨front, fun same => join (padRight_inj fronts same) ?_⟩
      rw [empty, List.length_nil] at others
      rw [empty, List.length_eq_zero_iff.1 others.symm]
    · rename_i more
      have smaller : (as.drop n).length + (width - n - 1) < as.length + width := by
        simp only [Bool.and_eq_true, List.isEmpty_iff, beq_iff_eq, List.drop_eq_nil_iff,
          not_and] at more
        rw [List.length_drop]
        omega
      obtain ⟨lengths, inner⟩ := ih _ smaller others rfl
      refine ⟨by simp only [List.length_append, List.length_cons, front, lengths], fun same => ?_⟩
      obtain ⟨firsts, lasts⟩ := List.append_inj same front
      exact join (padRight_inj fronts firsts) (inner (List.cons.inj lasts).2)

theorem Twins.group (twins : Twins as bs) (s : Spec) (width : Nat) :
    Twins (s.group as width) (s.group bs width) := by
  unfold Spec.group
  cases s.separator with
  | none =>
    simp only [Digits.padLeft, twins.length]
    exact twins.append_left _
  | some separator =>
    have reversed : as.reverse.length = bs.reverse.length := by simp [twins.length]
    obtain ⟨lengths, inner⟩ := groups_inj reversed
    refine ⟨by simp only [List.length_reverse]; exact lengths, fun same => twins.differ ?_⟩
    exact List.reverse_injective (inner (List.reverse_injective same))

/-- The place of digits in a number does not depend on what they are. -/
theorem Twins.place_digits (twins : Twins as bs) (s : Spec) (negative : Bool)
    (marker rest : List Char) :
    Twins (s.place negative marker as rest) (s.place negative marker bs rest) := by
  obtain ⟨left, right⟩ := twins.ne_nil
  unfold Spec.place
  simp only [List.isEmpty_iff, left, right, if_false]
  generalize (if s.fill = '0' ∧ s.align = .inner then _ else _) = zeros
  have grouped := twins.group s zeros
  rw [grouped.length]
  cases s.align with
  | left => exact (((grouped.append_left _).append_right _).append_left _).append_right _
  | right => exact ((grouped.append_left _).append_right _).append_left _
  | center => exact (((grouped.append_left _).append_right _).append_left _).append_right _
  | inner => exact (grouped.append_left _).append_right _

theorem Twins.place_rest (twins : Twins as bs) (s : Spec) (negative : Bool)
    (marker digits : List Char) :
    Twins (s.place negative marker digits as) (s.place negative marker digits bs) := by
  unfold Spec.place
  simp only [twins.length]
  cases s.align with
  | left => exact ((twins.append_left _).append_left _).append_right _
  | right => exact (twins.append_left _).append_left _
  | center => exact ((twins.append_left _).append_left _).append_right _
  | inner => exact twins.append_left _

variable {s : Spec}

theorem twins_ofNat {base : Nat} (listed : base ∈ [2, 8, 10, 16]) :
    Twins (Digits.ofNat base 2) (Digits.ofNat base 3) := by
  have lengths : ∀ base ∈ [2, 8, 10, 16],
      (Digits.ofNat base 2).length = (Digits.ofNat base 3).length := by
    decide +kernel
  have differ : ∀ base ∈ [2, 8, 10, 16], Digits.ofNat base 2 ≠ Digits.ofNat base 3 := by
    decide +kernel
  exact ⟨lengths base listed, differ base listed⟩

theorem baseOf_mem (code : Char) : (baseOf code).1 ∈ [2, 8, 10, 16] := by
  unfold baseOf
  repeat' split
  all_goals decide

theorem twins_numeral (code : Char) :
    Twins (if code = 'X' then upper (Digits.ofNat (baseOf code).1 2)
        else Digits.ofNat (baseOf code).1 2)
      (if code = 'X' then upper (Digits.ofNat (baseOf code).1 3)
        else Digits.ofNat (baseOf code).1 3) := by
  by_cases capital : code = 'X'
  · subst capital
    exact ⟨by decide +kernel, by decide +kernel⟩
  · simp only [if_neg capital]
    exact twins_ofNat (baseOf_mem code)

theorem twins_integerText (two : integerText s 2 = .ok as) (three : integerText s 3 = .ok bs) :
    Twins as bs := by
  unfold integerText at two three
  simp only [guard_eq_ok] at two three
  obtain ⟨-, -, two⟩ := two
  obtain ⟨-, -, three⟩ := three
  by_cases character : s.code = 'c'
  · simp only [character, if_true, guard_eq_ok] at two three
    obtain ⟨-, -, -, -, ⟨⟩⟩ := two
    obtain ⟨-, -, -, -, ⟨⟩⟩ := three
    have characters : Twins [Char.ofNat 2] [Char.ofNat 3] := ⟨rfl, by decide⟩
    exact characters.place_rest s false [] []
  · have numeral := twins_numeral s.code
    simp only [character, if_false, show Int.natAbs 2 = 2 from rfl,
      show Int.natAbs 3 = 3 from rfl] at two three
    by_cases ten : (baseOf s.code).1 = 10
    · rw [ten] at numeral
      simp only [ten, if_true, decimalDigits_of_lt (show 2 < 2 ^ 32 by decide),
        decimalDigits_of_lt (show 3 < 2 ^ 32 by decide), ok_bind] at two three
      cases two
      cases three
      exact numeral.place_digits ..
    · simp only [ten, if_false, ok_bind] at two three
      cases two
      cases three
      exact numeral.place_digits ..

/-- The digits of a number of one digit, in which zeros follow it. -/
theorem significant_single {n : Nat} {d : Char} (single : Digits.ofNat 10 n = [d]) (positive : n ≠ 0)
    (count : Nat) : significant n (count + 1) = (d :: List.replicate count '0', 0) := by
  unfold significant
  simp [positive, single, Digits.padRight]

theorem exists_generalParts (count : Nat) (alternate : Bool) : ∃ rest, ∀ n d,
    Digits.ofNat 10 n = [d] → n ≠ 0 → generalParts n count alternate = ([d], rest) := by
  obtain ⟨least, cut⟩ : ∃ least, max 1 count = least + 1 := ⟨max 1 count - 1, by omega⟩
  obtain ⟨places, given⟩ : ∃ places, (if alternate then least + 1 else min (least + 1) 1) =
      places + 1 := by
    cases alternate <;> simp
  refine ⟨fraction alternate (if alternate then List.replicate places '0'
    else Binary64.trimZeros (List.replicate places '0')), fun n d single positive => ?_⟩
  have below : (0 : Int) < (least + 1 : Nat) := by omega
  simp only [generalParts, cut, single, List.length_singleton, given,
    significant_single single positive, if_pos below]
  rfl

theorem twins_realParts (s : Spec) (precision : Nat) :
    Twins (realParts s (.ofNat 2) precision).1 (realParts s (.ofNat 3) precision).1 ∧
      (realParts s (.ofNat 2) precision).2 = (realParts s (.ofNat 3) precision).2 := by
  have two : Digits.ofNat 10 2 = ['2'] := by decide +kernel
  have three : Digits.ofNat 10 3 = ['3'] := by decide +kernel
  have digits : Twins ['2'] ['3'] := ⟨rfl, by decide⟩
  by_cases percent : s.code = '%'
  · have large : magnitude? ((Binary64.ofNat 2).mul (.ofNat 100)) = some 200 := by decide +kernel
    have larger : magnitude? ((Binary64.ofNat 3).mul (.ofNat 100)) = some 300 := by decide +kernel
    have hundreds : Twins (Digits.ofNat 10 200) (Digits.ofNat 10 300) :=
      ⟨by decide +kernel, by decide +kernel⟩
    simp [realParts, percent, large, larger, fixedParts, hundreds]
  · have small : magnitude? (Binary64.ofNat 2) = some 2 := by decide +kernel
    have next : magnitude? (Binary64.ofNat 3) = some 3 := by decide +kernel
    simp only [realParts, percent, if_false, small, next]
    split
    · simp only [significant_single two (by decide), significant_single three (by decide),
        exponentParts, List.take_succ_cons, List.take_zero, List.drop_succ_cons, List.drop_zero]
      exact ⟨digits, trivial⟩
    split
    · obtain ⟨rest, parts⟩ := exists_generalParts precision s.alternate
      rw [parts 2 '2' two (by decide), parts 3 '3' three (by decide)]
      exact ⟨digits, rfl⟩
    · simp only [fixedParts, two, three]
      exact ⟨digits, trivial⟩

theorem twins_realText (two : realText s 2 = .ok as) (three : realText s 3 = .ok bs) :
    Twins as bs := by
  unfold realText at two three
  simp only [guard_eq_ok, bind_eq_ok] at two three
  obtain ⟨-, precision, found, ⟨⟩⟩ := two
  obtain ⟨-, other, same, ⟨⟩⟩ := three
  cases found.symm.trans same
  obtain ⟨digits, rest⟩ := twins_realParts s precision
  rw [show Int.natAbs 2 = 2 from rfl, show Int.natAbs 3 = 3 from rfl, rest]
  exact digits.place_digits ..

/-- Two and three have texts of the same length in every format that takes zero, and these
differ. -/
theorem exists_formatInteger {spec : List Char} (zero : Succeeds (formatInteger spec 0)) :
    ∃ as bs, formatInteger spec 2 = .ok as ∧ formatInteger spec 3 = .ok bs ∧ Twins as bs := by
  obtain ⟨as, two⟩ := (succeeds_formatInteger (n := 2) (by decide) (by decide) zero).2
    fun _ _ _ => by decide
  obtain ⟨bs, three⟩ := (succeeds_formatInteger (n := 3) (by decide) (by decide) zero).2
    fun _ _ _ => by decide
  refine ⟨as, bs, two, three, ?_⟩
  unfold formatInteger at two three
  split at two
  · rename_i blank
    rw [if_pos blank] at three
    rw [decimalText_of_lt (by decide) (by decide)] at two three
    cases two
    cases three
    exact ⟨by decide +kernel, by decide +kernel⟩
  · rename_i written
    rw [if_neg written] at three
    obtain ⟨s, parsed, two⟩ := bind_eq_ok.1 two
    rw [parsed, ok_bind] at three
    split at two
    · rename_i integer
      rw [if_pos integer] at three
      exact twins_integerText two three
    · rename_i other
      rw [if_neg other] at three
      split at two
      · rename_i real
        rw [if_pos real] at three
        exact twins_realText two three
      · cases two

/-- A format that cuts texts to nothing does not tell them apart. -/
theorem formatText_of_cut {spec : List Char} (parsed : Spec.parse .str spec = .ok s)
    (cut : s.precision = some 0) (cs ds : List Char) : formatText spec cs = formatText spec ds := by
  have written : spec.isEmpty = false := by
    cases spec with
    | nil => cases parsed; cases cut
    | cons => rfl
  unfold formatText
  simp only [written, Bool.false_eq_true, if_false, parsed, ok_bind, cut, List.take_zero]

/-- Two characters have texts of the same length in every other format, and these differ. -/
theorem exists_formatText {spec : List Char} {c d : Char} (differ : c ≠ d)
    (kept : ∀ s, Spec.parse .str spec = .ok s → s.precision ≠ some 0)
    (taken : Succeeds (formatText spec cs)) :
    ∃ as bs, formatText spec [c] = .ok as ∧ formatText spec [d] = .ok bs ∧ Twins as bs := by
  have characters : Twins [c] [d] := ⟨rfl, fun same => differ (List.head_eq_of_cons_eq same)⟩
  obtain ⟨as, first⟩ := (succeeds_formatText cs [c]).1 taken
  obtain ⟨bs, second⟩ := (succeeds_formatText cs [d]).1 taken
  refine ⟨as, bs, first, second, ?_⟩
  unfold formatText at first second
  split at first
  · rename_i blank
    rw [if_pos blank] at second
    cases first
    cases second
    exact characters
  rename_i written
  rw [if_neg written] at second
  obtain ⟨s, parsed, first⟩ := bind_eq_ok.1 first
  rw [parsed, ok_bind] at second
  simp only [guard_eq_ok] at first second
  obtain ⟨-, -, -, -, -, -, ⟨⟩⟩ := first
  obtain ⟨-, -, -, -, -, -, ⟨⟩⟩ := second
  refine Twins.place_rest ?_ ..
  cases found : s.precision with
  | none => exact characters
  | some precision =>
    cases precision with
    | zero => exact absurd found (kept s parsed)
    | succ => simpa using characters

end Disasm32.Template
