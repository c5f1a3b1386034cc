import Disasm32.Proofs.CommandLine.Dumps
import Disasm32.Proofs.Files.Paths

/-! The trace command and the tracing tool. The command reads its arguments and hands them on with
each value behind its switch, where the tool reads them once more. A value that does not look like
an operand is lost on the way. -/
namespace Disasm32.CommandLine

variable {env : Environment} {r : TraceRequest}

/-- Whether or not the text of an empty list is cut off the names of signals, none is found or those
that are found are reported on alike. -/
def Indifferent (env : Environment) (r : TraceRequest) : Prop :=
  ∀ settings lines signals start,
    Settings.load env.host env.read (r.meant.settings?.map Path.normal) r.meant.target? =
        .ok settings →
      env.read.lines r.dump = .ok lines → Waveform.readHeader lines = .ok (signals, start) →
        let name := r.meant.signalName settings
        let report signal :=
          signalReport env.host.members settings.display r.verbose signal (lines.drop start)
        (Waveform.find? (Waveform.relativeTo "[]" signals) name).map report =
          (Waveform.find? signals name).map report

/-- It makes no difference if no name begins with the text of an empty list as a scope. -/
theorem indifferent_of_forall (env : Environment) (r : TraceRequest)
    (apart : ∀ lines signals start, env.read.lines r.dump = .ok lines →
      Waveform.readHeader lines = .ok (signals, start) →
        ∀ s ∈ signals, ¬"[].".toList <+: s.name.toList) :
    Indifferent env r := by
  intro settings lines signals start _ held header
  rw [Waveform.relativeTo_eq_self (apart lines signals start held header)]

end Disasm32.CommandLine
