import Disasm32.CommandLine.Report
import Disasm32.Csr
import Disasm32.Word.Literal

/-! The command that names control and status registers by their addresses. -/
namespace Disasm32.CommandLine

def addressReport (text : String) : Report :=
  match Word.read text 16 with
  | .error e => .error e.message
  | .ok address =>
    if 0xfff < address then .error ("CSR address '" ++ text ++ "' is wider than 12 bits")
    else .line ("0x" ++ String.ofList (Digits.signedHex 3 address) ++ "  " ++ Csr.name address)

def nameRegisters (texts : List String) : Report :=
  .concat (texts.map addressReport)

end Disasm32.CommandLine
