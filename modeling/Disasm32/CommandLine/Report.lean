import Disasm32.Instruction.Text
import Disasm32.Settings.Load
import Disasm32.Waveform.Header

/-! What a command prints and how it ends. Reports are joined one after the other: a failure ends
the whole, and else the greatest exit code counts. -/
namespace Disasm32.CommandLine

/-- What the commands work with: what the program takes from outside, the files, and the text on
standard input. -/
structure Environment where
  host : Host
  read : FileReader
  input : List Char := []

/-- An error that a command does not report but ends with. -/
inductive Failure where
  | file (cause : FileError)
  | load (cause : LoadError)
  | text (cause : TextError)
  | template (cause : TemplateError)
  | header (cause : Waveform.HeaderError)
  /-- The address of the first word is asked for without a value. -/
  | noBase

def Failure.message : Failure → String
  | file cause => cause.message
  | load cause => cause.message
  | text cause => cause.message
  | template cause => cause.message
  | header cause => cause.message
  | noBase => "'list' object has no attribute 'strip'"

def count (n : Nat) : String := String.ofList (Digits.ofNat 10 n)

/-- What a command prints, and its exit code unless it fails. -/
structure Report where
  output : String := ""
  complaints : String := ""
  ending : Except Failure Nat := .ok 0

namespace Report

def append (a b : Report) : Report :=
  match a.ending with
  | .error _ => a
  | .ok code =>
    { output := a.output ++ b.output
      complaints := a.complaints ++ b.complaints
      ending := b.ending.map (max code) }

instance : Append Report := ⟨append⟩

def concat (reports : List Report) : Report := reports.foldr append {}

def line (text : String) : Report := { output := text ++ "\n" }

def lines (texts : List String) : Report := concat (texts.map line)

/-- A line among the complaints that leaves the exit code alone. -/
def warning (text : String) : Report := { complaints := "Warning: " ++ text ++ "\n" }

/-- A complaint with which a command has not succeeded. -/
def error (text : String) : Report := { complaints := "Error: " ++ text ++ "\n", ending := .ok 1 }

def fail (cause : Failure) : Report := { ending := .error cause }

theorem append_empty (a : Report) : a ++ ({} : Report) = a := by
  show append a {} = a
  obtain ⟨output, complaints, ending⟩ := a
  cases ending <;> simp [append, Except.map]

theorem empty_append (a : Report) : ({} : Report) ++ a = a := by
  show append {} a = a
  obtain ⟨output, complaints, ending⟩ := a
  cases ending <;> simp [append, Except.map]

theorem append_of_ok (output complaints : String) (r : Report) :
    ({ output, complaints } : Report) ++ r =
      { output := output ++ r.output, complaints := complaints ++ r.complaints,
        ending := r.ending } := by
  show append _ r = _
  obtain ⟨_, _, ending⟩ := r
  cases ending <;> simp [append, Except.map]

theorem append_assoc (a b c : Report) : a ++ b ++ c = a ++ (b ++ c) := by
  show append (append a b) c = append a (append b c)
  obtain ⟨_, _, m⟩ := a
  obtain ⟨_, _, n⟩ := b
  obtain ⟨_, _, k⟩ := c
  cases m <;> cases n <;> cases k <;>
    simp [append, Except.map, String.append_assoc, Nat.max_assoc]

theorem concat_append (xs ys : List Report) : concat (xs ++ ys) = concat xs ++ concat ys := by
  induction xs with
  | nil => exact (empty_append _).symm
  | cons x xs ih =>
    show append x (concat (xs ++ ys)) = append (append x (concat xs)) (concat ys)
    rw [ih]
    exact (append_assoc _ _ _).symm

end Report

/-- Whether a command reports that there are no settings. It fails if a file is there but is none
to read, and with the errors that are not expected of a bad document. -/
def isReported : LoadError → Bool
  | .file cause => match cause with
    | .isDirectory _ | .notDirectory _ | .nameTooLong _ => false
    | .notFound _ | .nullCharacter | .notText _ => true
  | .markup cause => match cause with
    | .malformed _ | .value .. => true
    | .other .. => false
  | .settings cause => match cause with
    | .rejected .. | .unwritable _ | .badTemplate .. => true
    | .untyped | .escaped _ => false
  | .unknownTarget _ => true

/-- The report of a command that needs settings, or the one that there are none. -/
def withSettings (env : Environment) (path? target? : Option String)
    (run : Settings → Report) : Report :=
  match Settings.load env.host env.read (path?.map Path.normal) target? with
  | .ok settings => run settings
  | .error e => if isReported e then .error e.message else .fail (.load e)

end Disasm32.CommandLine
