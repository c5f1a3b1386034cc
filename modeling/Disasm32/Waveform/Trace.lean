import Disasm32.Cache
import Disasm32.Number.Literal

/-! The value changes of one signal after the header of a dump, decoded. A change to the word that
the cache already holds adds nothing, and a change with undefined bits is only counted. -/
namespace Disasm32.Waveform

structure Entry where
  time : Int
  word : Nat
  result : Decoded
  deriving DecidableEq, Repr

def Entry.show? (e : Entry) (m : Template.Members) : Except TemplateError String :=
  (e.result.show? m).map fun text =>
    String.ofList (Digits.padLeft ' ' 10 (Digits.decimal e.time)) ++ "  " ++
      String.ofList (Digits.hex 8 e.word) ++ "  " ++ text

inductive Event where
  | time (t : Int)
  /-- The signal changes; the value is written in binary digits or has undefined bits. -/
  | change (value : List Char)
  | other
  deriving DecidableEq, Repr

/-- The event that a line without blanks around it tells about a signal. Vectors are written as
`b`, the value, a blank and the identifier, single bits as the value and the identifier. -/
def Event.ofLine (identifier : List Char) : List Char → Event
  | [] => .other
  | '$' :: _ => .other
  | '#' :: number => match Literal.read 10 number with
    | .ok t => .time t
    | .error _ => .other
  | c :: cs =>
    if c = 'b' ∨ c = 'B' then
      match Text.words (c :: cs) with
      | value :: name :: _ => if name = identifier then .change (value.drop 1) else .other
      | _ => .other
    else if c = 'r' ∨ c = 'R' then .other
    else if cs ≠ [] ∧ cs = identifier then .change [c]
    else .other

def binary? (value : List Char) : Option Nat :=
  if value.isEmpty || value.any (fun c => c != '0' && c != '1') then none
  else some (Digits.value 2 (value.map fun c => if c = '1' then 1 else 0))

/-- The entries and the number of undefined changes in the events of a signal, and the cache
afterwards. -/
def follow : Int → Cache → List Event → Except TextError (List Entry × Nat) × Cache
  | _, cache, [] => (.ok ([], 0), cache)
  | _, cache, .time t :: events => follow t cache events
  | time, cache, .other :: events => follow time cache events
  | time, cache, .change value :: events =>
    match binary? value with
    | none =>
      let (found, cache) := follow time cache events
      (found.map fun (entries, skipped) => (entries, skipped + 1), cache)
    | some word =>
      match cache.update word with
      | (.error e, cache) => (.error e, cache)
      | (.ok reply, next) =>
        let (found, last) := follow time next events
        if cache.isNew word then
          (found.map fun (entries, skipped) =>
            (⟨time, Word.low word, reply.result⟩ :: entries, skipped), last)
        else (found, last)

def traceLines (lines : List String) (identifier : String) (cache : Cache) :
    Except TextError (List Entry × Nat) × Cache :=
  follow 0 cache (lines.map fun line => Event.ofLine identifier.toList (Text.strip line.toList))

/-- The lines from a position on. A negative position counts from the end, and then every line
follows once more from the first. -/
def linesFrom (lines : List String) (start : Int) : Except Index.Error (List String) :=
  if 0 ≤ start then .ok (lines.drop start.toNat)
  else (Index.get lines start).map fun _ => lines.drop (lines.length - start.natAbs) ++ lines

end Disasm32.Waveform
