import Disasm32.Host
import Disasm32.Markup.Read
import Disasm32.Settings.Check
import Disasm32.Template.Builtin

/-! What the program takes from outside when it runs. -/
namespace Disasm32

def Markup.Error.asFault (source : String) (e : Markup.Error) : MarkupFault :=
  let message := e.message source
  match e with
  | .fault .. | .unprintable .. => .malformed message
  | .notText _ => .value "UnicodeDecodeError" message
  | .notInteger .. | .notReal _ | .badDate _ | .noCharacter | .longVersion _ =>
    .value "ValueError" message
  | .notBool _ => .other "KeyError" message
  | .emptyNumber => .other "IndexError" message
  | .notMoment => .other "AttributeError" message
  | .momentInMapping => .other "TypeError" message
  | .noCharacterNumber | .tooManyParts => .other "OverflowError" message
  | .endless => .other "RecursionError" message

def Host.usual : Host where
  load source bytes := (Markup.read (.ofBytes bytes)).mapError (·.asFault source)
  check := Schema.check
  members := Template.Members.usual

end Disasm32
