import Disasm32.Text.Digits
import Disasm32.Word.Basic

/-! The names of the control and status registers by address: a fixed list, and five families of
performance monitor registers numbered 3 to 31. An address without a name is written in hexadecimal
after `$`. -/
namespace Disasm32.Csr

def named : List (Nat × String) :=
  [(0x000, "ustatus"), (0x004, "uie"), (0x005, "utvec"), (0x040, "uscratch"), (0x041, "uepc"),
   (0x042, "ucause"), (0x043, "ubadaddr"), (0x044, "uip"),
   (0x001, "fflags"), (0x002, "frm"), (0x003, "fcsr"),
   (0xc00, "cycle"), (0xc01, "time"), (0xc02, "instret"), (0xc80, "cycleh"), (0xc81, "timeh"),
   (0xc82, "instreth"),
   (0x100, "sstatus"), (0x102, "sedeleg"), (0x103, "sideleg"), (0x104, "sie"), (0x105, "stvec"),
   (0x140, "sscratch"), (0x141, "sepc"), (0x142, "scause"), (0x143, "sbadaddr"), (0x144, "sip"),
   (0x180, "sptbr"),
   (0x200, "hstatus"), (0x202, "hedeleg"), (0x203, "hideleg"), (0x204, "hie"), (0x205, "htvec"),
   (0x240, "hscratch"), (0x241, "hepc"), (0x242, "hcause"), (0x243, "hbadaddr"), (0x244, "hip"),
   (0xf11, "mvendorid"), (0xf12, "marchid"), (0xf13, "mimpid"), (0xf14, "mhartid"),
   (0x300, "mstatus"), (0x301, "misa"), (0x302, "medeleg"), (0x303, "mideleg"), (0x304, "mie"),
   (0x305, "mtvec"), (0x340, "mscratch"), (0x341, "mepc"), (0x342, "mcause"),
   (0x343, "mbadaddr"), (0x344, "mip"),
   (0x380, "mbase"), (0x381, "mbound"), (0x382, "mibase"), (0x383, "mibound"), (0x384, "mdbase"),
   (0x385, "mdbound"),
   (0xb00, "mcycle"), (0xb02, "minstret"), (0xb80, "mcycleh"), (0xb82, "minstreth"),
   (0x320, "mucounteren"), (0x321, "mscounteren"), (0x322, "mhcounteren"),
   (0x7a0, "tselect"), (0x7a1, "tdata1"), (0x7a2, "tdata2"), (0x7a3, "tdata3"),
   (0x7b0, "dcsr"), (0x7b1, "dpc"), (0x7b2, "dscratch")]

/-- A run of registers whose names hold their number. -/
structure Family where
  base : Nat
  stem : String
  ending : String

def families : List Family :=
  [⟨0x320, "mhpmevent", ""⟩, ⟨0xb00, "mhpmcounter", ""⟩, ⟨0xb80, "mhpmcounter", "h"⟩,
   ⟨0xc00, "hpmcounter", ""⟩, ⟨0xc80, "hpmcounter", "h"⟩]

def Family.members (f : Family) : List (Nat × String) :=
  (List.range' 3 29).map fun i =>
    (f.base + i, f.stem ++ String.ofList (Digits.ofNat 10 i) ++ f.ending)

def table : List (Nat × String) :=
  named ++ families.flatMap Family.members

def listed? (address : Int) : Option String :=
  (table.find? fun entry => (entry.1 : Int) = address).map (·.2)

/-- The text for an address: its name, or `$0x` and the address as a 32-bit number. -/
def name (address : Int) : String :=
  (listed? address).getD ("$0x" ++ String.ofList (Digits.hex 3 (Word.low address)))

end Disasm32.Csr
