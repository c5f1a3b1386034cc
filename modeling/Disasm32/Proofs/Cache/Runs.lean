import Disasm32.Cache
import Disasm32.Proofs.Encoding.Agreement
import Mathlib.Data.List.Induction

/-! Runs of the decode cache. As long as every word can be written, the state depends on the last
operation only: after a word the cache holds it with its outcome, otherwise it holds nothing.
A word that cannot be written breaks this, since it is stored beside the outcome of another. -/
namespace Disasm32

open Word

namespace Display

variable {d : Display} {width : Int} {v w : Int}

theorem decodeWord_congr (same : low v = low w) : d.decodeWord v = d.decodeWord w := by
  rw [decodeWord, decodeWord, d.decode_congr (Instruction.ofWord?_congr same), same]

theorem decodeWord_low (w : Int) : d.decodeWord (low w) = d.decodeWord w :=
  decodeWord_congr (low_low w)

theorem decodeWord_eq_ok {r : Decoded} (decoded : d.decodeWord w = .ok r) :
    ∃ text, d.decode w = .ok text ∧ r = ⟨low w, text, d⟩ := by
  unfold decodeWord at decoded
  cases printed : d.decode w with
  | ok text =>
    rw [printed] at decoded
    exact ⟨text, rfl, (Except.ok.inj decoded).symm⟩
  | error err =>
    rw [printed] at decoded
    cases decoded

theorem word_of_decodeWord {r : Decoded} (decoded : d.decodeWord w = .ok r) : r.word = low w := by
  obtain ⟨text, -, rfl⟩ := decodeWord_eq_ok decoded
  rfl

theorem decodeWord_error (columns : d.mnemonicWidth = .columns width) (bad : ¬FitsColumn width)
    (operate : ¬Bare w) : d.decodeWord w = .error .columnBeyondIndex := by
  rw [decodeWord, decode_error_of_operands columns bad operate]
  rfl

theorem exists_decodeWord_iff (columns : d.mnemonicWidth = .columns width) :
    (∃ r, d.decodeWord w = .ok r) ↔ FitsColumn width ∨ Bare w := by
  rw [← exists_decode_iff columns]
  constructor
  · rintro ⟨r, decoded⟩
    obtain ⟨text, printed, -⟩ := decodeWord_eq_ok decoded
    exact ⟨text, printed⟩
  · rintro ⟨text, printed⟩
    refine ⟨⟨low w, text, d⟩, ?_⟩
    rw [decodeWord, printed]
    rfl

end Display

namespace Cache

inductive Op where
  | update (w : Int)
  | clear
  deriving DecidableEq, Repr

def Op.word? : Op → Option Int
  | .update w => some w
  | .clear => none

def Op.apply (c : Cache) : Op → Cache
  | .update w => (c.update w).2
  | .clear => c.clear

def after (d : Display) (ops : List Op) : Cache := ops.foldl Op.apply { display := d }

/-- The last word, if there was one since the start and the last `clear`. -/
def last? (ops : List Op) : Option Int := ops.getLast?.bind Op.word?

/-- The cache that holds a word with its outcome, or nothing. -/
def holding (d : Display) : Option Int → Cache
  | some w => { display := d, word := some (low w), result := (d.decodeWord w).toOption }
  | none => { display := d }

variable {d : Display} {last : Option Int} {ops : List Op} {w : Int}

@[simp] theorem clear_holding (d : Display) (last : Option Int) :
    (holding d last).clear = holding d none := by
  cases last <;> rfl

theorem holding_congr {v : Int} (same : low v = low w) :
    holding d (some v) = holding d (some w) := by
  rw [holding, holding, Display.decodeWord_congr same, same]

/-- Without the word's own outcome, the cache decodes. -/
theorem update_of_differs (differs : ∀ v ∈ last, low v ≠ low w) :
    (holding d last).update w = update.decodeInto w (holding d last) := by
  cases last with
  | none => rfl
  | some v =>
    have new : ¬(some (low v) = some (low w)) := fun same => differs v rfl (Option.some.inj same)
    simp only [holding, update]
    cases (d.decodeWord v).toOption with
    | none => rfl
    | some result => exact if_neg new

theorem update_holding (decodes : ∀ v ∈ last, ∃ r, d.decodeWord v = .ok r) {r : Decoded}
    (decoded : d.decodeWord w = .ok r) :
    (holding d last).update w =
      (.ok ⟨r, decide (∃ v ∈ last, low v = low w)⟩, holding d (some w)) := by
  by_cases known : ∃ v ∈ last, low v = low w
  · obtain ⟨v, rfl, same⟩ := known
    rw [holding_congr same]
    simp [update, holding, decoded, Except.toOption, same]
  · have differs : ∀ v ∈ last, low v ≠ low w := fun v held same => known ⟨v, held, same⟩
    rw [update_of_differs differs, decide_eq_false known]
    have fresh : (holding d last).display = d := by cases last <;> rfl
    simp only [update.decodeInto, fresh, Display.decodeWord_low, decoded]
    cases last <;> simp [holding, decoded, Except.toOption]

/-- A word without a text is stored, beside the outcome of the word before it. -/
theorem update_holding_error (decodes : ∀ v ∈ last, ∃ r, d.decodeWord v = .ok r) {err : TextError}
    (failed : d.decodeWord w = .error err) :
    (holding d last).update w = (.error err, { holding d last with word := some (low w) }) := by
  have differs : ∀ v ∈ last, low v ≠ low w := by
    intro v held same
    obtain ⟨r, decoded⟩ := decodes v held
    rw [Display.decodeWord_congr same, failed] at decoded
    cases decoded
  rw [update_of_differs differs]
  have fresh : (holding d last).display = d := by cases last <;> rfl
  simp only [update.decodeInto, fresh, Display.decodeWord_low, failed]

/-- A word that is not new is answered from the cache, which stays as it is; any other is
decoded. -/
theorem update_cases (c : Cache) (w : Int) :
    (c.isNew w = false ∧ ∃ r, c.result = some r ∧ c.update w = (.ok ⟨r, true⟩, c)) ∨
      c.isNew w = true ∧ c.update w = update.decodeInto w c := by
  cases held : c.result with
  | none => exact .inr ⟨by simp [isNew, held], by simp [update, held]⟩
  | some r =>
    by_cases same : c.word = some (low w)
    · exact .inl ⟨by simp [isNew, held, same], r, rfl, by simp [update, held, same]⟩
    · exact .inr ⟨by simp [isNew, same], by simp [update, held, same]⟩

@[simp] theorem display_update (c : Cache) (w : Int) : (c.update w).2.display = c.display := by
  obtain ⟨-, r, -, kept⟩ | ⟨-, fresh⟩ := update_cases c w
  · rw [kept]
  · rw [fresh, update.decodeInto]
    split <;> rfl

/-- If the column can be laid out, every word is answered, whatever the cache holds. -/
theorem exists_update {c : Cache} {width : Int} (columns : c.display.mnemonicWidth = .columns width)
    (fits : FitsColumn width) (w : Int) : ∃ reply, (c.update w).1 = .ok reply := by
  obtain ⟨-, r, -, kept⟩ | ⟨-, fresh⟩ := update_cases c w
  · exact ⟨_, by rw [kept]⟩
  · obtain ⟨r, decoded⟩ := (Display.exists_decodeWord_iff columns).2 (.inl fits)
    exact ⟨⟨r, false⟩, by rw [fresh, update.decodeInto, Display.decodeWord_low, decoded]⟩

theorem after_append_singleton (d : Display) (ops : List Op) (op : Op) :
    after d (ops ++ [op]) = op.apply (after d ops) := by
  simp [after]

@[simp] theorem display_after (d : Display) (ops : List Op) : (after d ops).display = d := by
  induction ops using List.reverseRecOn with
  | nil => rfl
  | append_singleton ops op ih =>
    rw [after_append_singleton]
    cases op with
    | update w => exact (display_update _ w).trans ih
    | clear => exact ih

theorem last?_append_singleton (ops : List Op) (op : Op) : last? (ops ++ [op]) = op.word? := by
  simp [last?]

theorem update_mem_of_last? (held : w ∈ last? ops) : Op.update w ∈ ops := by
  obtain ⟨op, final, word⟩ := Option.bind_eq_some_iff.1 held
  cases op with
  | update v =>
    cases word
    exact List.mem_of_mem_getLast? final
  | clear => cases word

/-- The invariant of every run in which each word has a text. -/
theorem after_eq_holding (decodes : ∀ w, .update w ∈ ops → ∃ r, d.decodeWord w = .ok r) :
    after d ops = holding d (last? ops) := by
  induction ops using List.reverseRecOn with
  | nil => rfl
  | append_singleton ops op ih =>
    have before : ∀ w, .update w ∈ ops → ∃ r, d.decodeWord w = .ok r :=
      fun w member => decodes w (List.mem_append_left _ member)
    rw [after_append_singleton, last?_append_singleton, ih before]
    cases op with
    | clear => exact clear_holding d _
    | update w =>
      obtain ⟨r, decoded⟩ := decodes w (List.mem_append_right _ List.mem_cons_self)
      rw [Op.apply, update_holding (fun v held => before v (update_mem_of_last? held)) decoded]
      rfl

/-- Nothing tells the cache from decoding every word afresh, at any point of a run. -/
structure Transparent (d : Display) (ops : List Op) : Prop where
  settled : ∀ done, done <+: ops →
    (last? done = none ∧ (after d done).word = none ∧ (after d done).result = none) ∨
      ∃ n < 0x100000000, ∃ r, (after d done).word = some n ∧ (after d done).result = some r ∧
        d.decodeWord n = .ok r ∧ r.word = n
  answered : ∀ done w, done ++ [.update w] <+: ops → ∃ reply r,
    ((after d done).update w).1 = .ok reply ∧ d.decodeWord w = .ok r ∧
      reply.result.word = r.word ∧ reply.result.text = r.text ∧
        ∀ m, reply.result.show? m = r.show? m
  reused : ∀ done w reply, done ++ [.update w] <+: ops →
    ((after d done).update w).1 = .ok reply →
      (reply.reused = true ↔ ∃ v, done.getLast? = some (.update v) ∧
        v % 0x100000000 = w % 0x100000000)
  stored : ∀ done w reply, done ++ [.update w] <+: ops →
    ((after d done).update w).1 = .ok reply → reply.reused = true →
      (after d done).result = some reply.result

theorem settled_holding (decodes : ∀ v ∈ last, ∃ r, d.decodeWord v = .ok r) :
    (last = none ∧ (holding d last).word = none ∧ (holding d last).result = none) ∨
      ∃ n < 0x100000000, ∃ r, (holding d last).word = some n ∧ (holding d last).result = some r ∧
        d.decodeWord n = .ok r ∧ r.word = n := by
  cases last with
  | none => exact .inl ⟨rfl, rfl, rfl⟩
  | some v =>
    obtain ⟨r, decoded⟩ := decodes v rfl
    refine .inr ⟨low v, low_lt v, r, rfl, ?_, ?_, Display.word_of_decodeWord decoded⟩
    · rw [holding, decoded]
      rfl
    · rw [Display.decodeWord_low, decoded]

theorem exists_last?_iff : (∃ v ∈ last? ops, low v = low w) ↔
    ∃ v, ops.getLast? = some (.update v) ∧ v % 0x100000000 = w % 0x100000000 := by
  simp only [low_eq_low_iff]
  constructor
  · rintro ⟨v, held, same⟩
    obtain ⟨op, final, word⟩ := Option.bind_eq_some_iff.1 held
    cases op with
    | update u =>
      cases word
      exact ⟨v, final, same⟩
    | clear => cases word
  · rintro ⟨v, final, same⟩
    exact ⟨v, by simp [last?, final, Op.word?], same⟩

theorem transparent_of_decodes (decodes : ∀ w, .update w ∈ ops → ∃ r, d.decodeWord w = .ok r) :
    Transparent d ops := by
  have within (done : List Op) (earlier : done <+: ops) :
      ∀ w, .update w ∈ done → ∃ r, d.decodeWord w = .ok r :=
    fun w member => decodes w (earlier.subset member)
  have held (done : List Op) (earlier : done <+: ops) :
      ∀ v ∈ last? done, ∃ r, d.decodeWord v = .ok r :=
    fun v last => within done earlier v (update_mem_of_last? last)
  -- the state before an update is the one that the operations before it leave
  have answer (done : List Op) (w : Int) (earlier : done ++ [.update w] <+: ops) :
      ∃ r, d.decodeWord w = .ok r ∧ ((after d done).update w).1 =
        .ok ⟨r, decide (∃ v ∈ last? done, low v = low w)⟩ := by
    have before := (List.prefix_append done [.update w]).trans earlier
    obtain ⟨r, decoded⟩ := within _ earlier w (List.mem_append_right _ List.mem_cons_self)
    refine ⟨r, decoded, ?_⟩
    rw [after_eq_holding (within done before), update_holding (held done before) decoded]
  constructor
  · intro done earlier
    rw [after_eq_holding (within done earlier)]
    exact settled_holding (held done earlier)
  · intro done w earlier
    obtain ⟨r, decoded, replied⟩ := answer done w earlier
    exact ⟨_, r, replied, decoded, rfl, rfl, fun _ => rfl⟩
  · intro done w reply earlier replied
    obtain ⟨r, -, expected⟩ := answer done w earlier
    rw [expected] at replied
    cases replied
    rw [decide_eq_true_iff, exists_last?_iff]
  · intro done w reply earlier replied reused
    obtain ⟨r, decoded, expected⟩ := answer done w earlier
    rw [expected] at replied
    cases replied
    obtain ⟨v, last, same⟩ := of_decide_eq_true reused
    have before := (List.prefix_append done [.update w]).trans earlier
    rw [after_eq_holding (within done before), show last? done = some v from last,
      holding_congr same, holding, decoded]
    rfl

theorem decodes_of_transparent (transparent : Transparent d ops) {w : Int}
    (member : .update w ∈ ops) : ∃ r, d.decodeWord w = .ok r := by
  obtain ⟨done, rest, rfl⟩ := List.append_of_mem member
  obtain ⟨-, r, -, decoded, -⟩ := transparent.answered done w ⟨rest, by simp⟩
  exact ⟨r, decoded⟩

/-- The cache is transparent in a run exactly if the column can be laid out or no word needs it.
The first word that needs a faulty column is stored, but the outcome of the word before it
stays. -/
theorem transparent_iff {width : Int} (columns : d.mnemonicWidth = .columns width)
    (ops : List Op) :
    (Transparent d ops ↔ FitsColumn width ∨ ∀ w, .update w ∈ ops → Bare w) ∧
      ∀ done w, ¬FitsColumn width → (∀ v, .update v ∈ done → Bare v) → ¬Bare w →
        (after d done).update w =
          (.error .columnBeyondIndex, { after d done with word := some (low w) }) := by
  refine ⟨⟨fun transparent => ?_, fun fits => ?_⟩, ?_⟩
  · refine or_iff_not_imp_left.2 fun bad w member => ?_
    have decodes := decodes_of_transparent transparent member
    exact ((Display.exists_decodeWord_iff columns).1 decodes).resolve_left bad
  · refine transparent_of_decodes fun w member => ?_
    exact (Display.exists_decodeWord_iff columns).2 (fits.imp_right fun bare => bare w member)
  · intro done w bad bare operate
    have decodes : ∀ v, .update v ∈ done → ∃ r, d.decodeWord v = .ok r :=
      fun v member => (Display.exists_decodeWord_iff columns).2 (.inr (bare v member))
    rw [after_eq_holding decodes]
    exact update_holding_error (fun v last => decodes v (update_mem_of_last? last))
      (Display.decodeWord_error columns bad operate)

/-- A run with a wide word, a repetition and a `clear`. -/
theorem transparent_repeated :
    let d : Display := {}
    let ops : List Op := [.update 0x100008067, .update 0x8067, .clear, .update (-1)]
    d.mnemonicWidth = .columns 9 ∧ Transparent d ops :=
  ⟨rfl, (transparent_iff rfl _).1.2 (.inl (by decide))⟩

/-- In a column that begins too far to the left, an addition gets the text of the call before
it as soon as it is repeated. -/
theorem not_transparent_leftmost :
    let d : Display := { mnemonicWidth := .columns (-0x8000000000000000) }
    ¬Transparent d [.update 0x73, .update 0x13, .update 0x13] ∧
      ((after d [.update 0x73, .update 0x13]).update 0x13).1 =
        .ok ⟨⟨0x73, some "ecall", d⟩, true⟩ := by
  intro d
  refine ⟨fun transparent => ?_, by decide +kernel⟩
  obtain ⟨r, decoded⟩ := decodes_of_transparent transparent (w := 0x13) (by decide)
  rw [show d.decodeWord 0x13 = .error .columnBeyondIndex by decide +kernel] at decoded
  cases decoded

end Cache

end Disasm32
