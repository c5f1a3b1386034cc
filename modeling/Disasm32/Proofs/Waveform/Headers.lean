import Disasm32.Proofs.Number.Reading
import Disasm32.Proofs.Waveform.Declarations
import Disasm32.Waveform.Header

/-! Reading a header undoes writing it. A header is written from a forest of scopes with variables
in them; after the lines of a scope the open scopes are those before it, so reading collects the
declarations of the forest under their paths. -/
namespace Disasm32.Waveform

open Text

structure Variable where
  kind : Token
  width : Token
  identifier : Token
  name : Token
  range : Option Token
  bracketed : ∀ r ∈ range, r.chars.head? = some '['

/-- Variables and scopes side by side, with further ones inside the scopes. -/
inductive Forest where
  | empty
  | leaf (v : Variable) (rest : Forest)
  | scope (kind name : Token) (body rest : Forest)

/-- A variable with the names of the scopes around it, the outermost first. -/
structure Declaration where
  scopes : List Token
  var : Variable

def Forest.declarations (scopes : List Token) : Forest → List Declaration
  | empty => []
  | leaf v rest => ⟨scopes, v⟩ :: rest.declarations scopes
  | scope _ name body rest => body.declarations (scopes ++ [name]) ++ rest.declarations scopes

namespace Declaration

def identifier (d : Declaration) : String := String.ofList d.var.identifier.chars

def path (d : Declaration) : List Char :=
  ['.'].intercalate ((d.scopes ++ [d.var.name]).map (·.chars))

def name (d : Declaration) : List Char :=
  match d.var.range with
  | some range => d.path ++ ' ' :: range.chars
  | none => d.path

def signal (size : Variable → Int) (d : Declaration) : Signal :=
  ⟨d.identifier, String.ofList d.name, size d.var⟩

end Declaration

namespace Keyword

def scope : Token := .literal "$scope"
def upscope : Token := .literal "$upscope"
def var : Token := .literal "$var"
def close : Token := .literal "$end"

end Keyword

def Variable.tokens (v : Variable) : List Token :=
  [Keyword.var, v.kind, v.width, v.identifier, v.name] ++ v.range.toList ++ [Keyword.close]

def Aside (line : String) : Prop :=
  ∀ keyword ∈ ["$scope", "$upscope", "$var", "$enddefinitions"],
    ¬keyword.toList <+: stripped line

instance (line : String) : Decidable (Aside line) :=
  inferInstanceAs (Decidable (∀ keyword ∈ _, ¬_))

/-- The lines that write a forest, with other lines anywhere between them. -/
inductive Written : Forest → List String → Prop where
  | empty : Written .empty []
  | aside {forest line lines} : Aside line → Written forest lines → Written forest (line :: lines)
  | leaf {v rest line lines} : Spells v.tokens line.toList → Written rest lines →
      Written (.leaf v rest) (line :: lines)
  | scope {kind name body rest opening inner closing lines} :
      Spells [Keyword.scope, kind, name, Keyword.close] opening.toList → Written body inner →
      Spells [Keyword.upscope, Keyword.close] closing.toList → Written rest lines →
      Written (.scope kind name body rest) (opening :: (inner ++ closing :: lines))

/-- The lines of a dump with the header of a forest, and the number of lines before its data.
Without a line that ends the definitions there are no data. -/
inductive Dump (forest : Forest) : List String → Nat → Prop where
  | ended {header ending data} : Written forest header →
      "$enddefinitions".toList <+: stripped ending →
      Dump forest (header ++ ending :: data) (header.length + 1)
  | endless {header} : Written forest header → Dump forest header header.length

variable {t : Token} {ts : List Token} {line : String}

theorem begins_of_spells (spells : Spells (t :: ts) line.toList) {keyword : String} {b : Bool}
    (first : ∀ rest, keyword.toList.isPrefixOf (t.chars ++ rest) = b) :
    begins keyword (stripped line) = b := by
  obtain ⟨rest, front⟩ := exists_strip_eq_append spells
  rw [begins, stripped, front, first]

theorem words_stripped (spells : Spells ts line.toList) :
    words (stripped line) = ts.map (·.chars) := by
  rw [stripped, words_strip, words_of_spells spells]

theorem pathName_eq (scopes : List Token) (v : Variable) :
    pathName (scopes.map (·.chars)) v.name.chars = (⟨scopes, v⟩ : Declaration).path := by
  simp [pathName, join, Declaration.path]

def Declaration.addTo (signals : List Signal) (d : Declaration) :
    Except HeaderError (List Signal) :=
  match Literal.read 10 d.var.width.chars with
  | .ok n => .ok (declare (d.signal fun _ => n) signals)
  | .error cause => .error ⟨String.ofList d.var.width.chars, cause⟩

theorem declaration?_of_spells {v : Variable} (spells : Spells v.tokens line.toList)
    (scopes : List Token) : declaration? (scopes.map (·.chars)) (words (stripped line)) =
      match Literal.read 10 v.width.chars with
      | .ok n => .ok (some ((⟨scopes, v⟩ : Declaration).signal fun _ => n))
      | .error cause => .error ⟨String.ofList v.width.chars, cause⟩ := by
  have path := pathName_eq scopes v
  rw [words_stripped spells]
  cases ranged : v.range with
  | none =>
    have closed : Keyword.close.chars = '$' :: "end".toList := rfl
    simp only [Variable.tokens, ranged, Option.toList_none, List.append_nil, List.map_cons,
      List.map_nil, List.cons_append, List.nil_append, declaration?, path, closed,
      Declaration.signal, Declaration.identifier, Declaration.name]
    cases Literal.read 10 v.width.chars with
    | ok n => simp
    | error cause => rfl
  | some range =>
    obtain ⟨bits, opened⟩ := List.head?_eq_some_iff.1 (v.bracketed range ranged)
    simp only [Variable.tokens, ranged, Option.toList_some, List.map_cons, List.map_nil,
      List.cons_append, List.nil_append, declaration?, path, opened, Declaration.signal,
      Declaration.identifier, Declaration.name]
    cases Literal.read 10 v.width.chars <;> rfl

theorem readHeaderFrom_opening {kind name : Token} {opening : String}
    (spells : Spells [Keyword.scope, kind, name, Keyword.close] opening.toList) (index : Nat)
    (scopes : List Token) (signals : List Signal) (rest : List (List Char)) :
    readHeaderFrom index (scopes.map (·.chars)) signals (stripped opening :: rest) =
      readHeaderFrom (index + 1) ((scopes ++ [name]).map (·.chars)) signals rest := by
  have noEnd : begins "$enddefinitions" (stripped opening) = false :=
    begins_of_spells spells fun _ => rfl
  have noVar : begins "$var" (stripped opening) = false := begins_of_spells spells fun _ => rfl
  have scope : begins "$scope" (stripped opening) = true :=
    begins_of_spells spells fun _ => rfl
  rw [readHeaderFrom, noEnd, noVar, scopesAfter, scope, words_stripped spells, List.map_append]
  rfl

theorem readHeaderFrom_closing {closing : String}
    (spells : Spells [Keyword.upscope, Keyword.close] closing.toList) (index : Nat)
    (scopes : List Token) (name : Token) (signals : List Signal) (rest : List (List Char)) :
    readHeaderFrom index ((scopes ++ [name]).map (·.chars)) signals (stripped closing :: rest) =
      readHeaderFrom (index + 1) (scopes.map (·.chars)) signals rest := by
  have noEnd : begins "$enddefinitions" (stripped closing) = false :=
    begins_of_spells spells fun _ => rfl
  have noVar : begins "$var" (stripped closing) = false := begins_of_spells spells fun _ => rfl
  have noScope : begins "$scope" (stripped closing) = false :=
    begins_of_spells spells fun _ => rfl
  have upscope : begins "$upscope" (stripped closing) = true :=
    begins_of_spells spells fun _ => rfl
  have left : ((scopes ++ [name]).map (·.chars)).dropLast = scopes.map (·.chars) := by simp
  rw [readHeaderFrom, noEnd, noVar, scopesAfter, noScope, upscope, ← left]
  rfl

theorem readHeaderFrom_aside (aside : Aside line) (index : Nat)
    (scopes : List (List Char)) (signals : List Signal) (rest : List (List Char)) :
    readHeaderFrom index scopes signals (stripped line :: rest) =
      readHeaderFrom (index + 1) scopes signals rest := by
  have absent (keyword : String)
      (listed : keyword ∈ ["$scope", "$upscope", "$var", "$enddefinitions"]) :
      begins keyword (stripped line) = false := by
    rw [begins, ← Bool.not_eq_true, List.isPrefixOf_iff_prefix]
    exact aside keyword listed
  simp only [readHeaderFrom, scopesAfter, absent "$scope" (by simp), absent "$upscope" (by simp),
    absent "$var" (by simp), absent "$enddefinitions" (by simp), Bool.false_eq_true, if_false]

theorem readHeaderFrom_leaf {v : Variable} (spells : Spells v.tokens line.toList)
    (index : Nat) (scopes : List Token) (signals : List Signal) (rest : List (List Char)) :
    readHeaderFrom index (scopes.map (·.chars)) signals (stripped line :: rest) =
      (Declaration.addTo signals ⟨scopes, v⟩).bind fun kept =>
        readHeaderFrom (index + 1) (scopes.map (·.chars)) kept rest := by
  have noEnd : begins "$enddefinitions" (stripped line) = false :=
    begins_of_spells spells fun _ => rfl
  have var : begins "$var" (stripped line) = true := begins_of_spells spells fun _ => rfl
  rw [readHeaderFrom, noEnd, var, declaration?_of_spells spells, Declaration.addTo]
  cases Literal.read 10 v.width.chars <;> rfl

def addAll (signals : List Signal) (ds : List Declaration) : Except HeaderError (List Signal) :=
  ds.foldlM Declaration.addTo signals

theorem addAll_append (signals : List Signal) (ds es : List Declaration) :
    addAll signals (ds ++ es) = (addAll signals ds).bind fun kept => addAll kept es :=
  List.foldlM_append

variable {forest : Forest} {lines : List String} {start : Nat}

/-- After the lines of a forest the same scopes are open and its variables are declared. -/
theorem readHeaderFrom_written (written : Written forest lines) (scopes : List Token)
    (index : Nat) (signals : List Signal) (rest : List (List Char)) :
    readHeaderFrom index (scopes.map (·.chars)) signals (lines.map stripped ++ rest) =
      (addAll signals (forest.declarations scopes)).bind fun kept =>
        readHeaderFrom (index + lines.length) (scopes.map (·.chars)) kept rest := by
  induction written generalizing scopes index signals rest with
  | empty => rfl
  | aside apart _ ih =>
    rw [List.map_cons, List.cons_append, readHeaderFrom_aside apart, ih, List.length_cons,
      Nat.add_assoc, Nat.add_comm 1]
  | @leaf v _ _ _ spells _ ih =>
    rw [List.map_cons, List.cons_append, readHeaderFrom_leaf spells, Forest.declarations, addAll,
      List.foldlM_cons]
    simp only [ih, List.length_cons, Nat.add_assoc, Nat.add_comm 1]
    cases Declaration.addTo signals ⟨scopes, v⟩ <;> rfl
  | @scope kind name body rest opening inner closing lines opens _ closes _ ihBody ihRest =>
    -- The body is read with one more scope open, and its closing line takes that scope away.
    have count (n : Nat) :
        index + 1 + inner.length + 1 + n = index + (inner.length + (n + 1) + 1) := by omega
    rw [List.map_cons, List.map_append, List.map_cons, List.cons_append, List.append_assoc,
      List.cons_append, readHeaderFrom_opening opens, ihBody, Forest.declarations, addAll_append]
    simp only [readHeaderFrom_closing closes, ihRest, List.length_cons, List.length_append, count]
    cases addAll signals (body.declarations (scopes ++ [name])) <;> rfl

theorem addAll_ok {ds : List Declaration} {size : Variable → Int}
    (reads : ∀ d ∈ ds, Literal.read 10 d.var.width.chars = .ok (size d.var)) :
    addAll [] ds = .ok (latest Signal.identifier (ds.map (·.signal size))) := by
  have every (signals : List Signal) : addAll signals ds =
      .ok ((ds.map (·.signal size)).foldl (fun kept s => declare s kept) signals) := by
    induction ds generalizing signals with
    | nil => rfl
    | cons d ds ih =>
      obtain ⟨read, reads⟩ := List.forall_mem_cons.1 reads
      rw [addAll, List.foldlM_cons, Declaration.addTo, read]
      exact ih reads _
  rw [every, foldl_declare]

theorem addAll_error {ds : List Declaration}
    (bad : ¬∀ d ∈ ds, ∃ n, Literal.read 10 d.var.width.chars = .ok n) (signals : List Signal) :
    ∃ e, addAll signals ds = .error e := by
  induction ds generalizing signals with
  | nil => exact absurd (fun d member => by cases member) bad
  | cons d ds ih =>
    rw [addAll, List.foldlM_cons, Declaration.addTo]
    cases read : Literal.read 10 d.var.width.chars with
    | error cause => exact ⟨_, rfl⟩
    | ok n => exact ih (fun reads => bad (List.forall_mem_cons.2 ⟨⟨n, read⟩, reads⟩)) _

def Variable.readSize (v : Variable) : Int := ((Literal.read 10 v.width.chars).toOption).getD 0

theorem read_readSize {v : Variable} (reads : ∃ n, Literal.read 10 v.width.chars = .ok n) :
    Literal.read 10 v.width.chars = .ok v.readSize := by
  obtain ⟨n, read⟩ := reads
  rw [Variable.readSize, read]
  rfl

/-- The width of a variable is written in at most 4300 decimal digits. -/
def Variable.Decimal (v : Variable) : Prop :=
  v.width.chars.all Char.isDigit = true ∧ v.width.chars.length ≤ 4300

instance (v : Variable) : Decidable v.Decimal := inferInstanceAs (Decidable (_ ∧ _))

def Variable.decimalSize (v : Variable) : Int :=
  Digits.value 10 (v.width.chars.map fun c => c.toNat - '0'.toNat)

theorem read_of_decimal {v : Variable} (decimal : v.Decimal) :
    Literal.read 10 v.width.chars = .ok v.decimalSize :=
  Literal.read_decimal v.width.filled decimal.1 decimal.2

theorem readHeader_of_dump (dump : Dump forest lines start) :
    readHeader lines =
      (addAll [] (forest.declarations [])).map fun signals => (signals, start) := by
  cases dump with
  | @ended header ending data written ends =>
    have finish : begins "$enddefinitions" (stripped ending) = true :=
      List.isPrefixOf_iff_prefix.2 ends
    have read := readHeaderFrom_written written [] 0 [] ((ending :: data).map stripped)
    rw [← List.map_append] at read
    refine read.trans ?_
    simp only [List.map_cons, readHeaderFrom, finish, if_true, Nat.zero_add]
    cases addAll [] (forest.declarations []) <;> rfl
  | endless written =>
    have read := readHeaderFrom_written written [] 0 [] []
    rw [List.append_nil] at read
    refine read.trans ?_
    simp only [readHeaderFrom, Nat.zero_add]
    cases addAll [] (forest.declarations []) <;> rfl

/-- Reading a dump gives back what its header declares: of each identifier the last variable,
with its path and its width, and the place of the data. -/
theorem readHeader_eq_latest (dump : Dump forest lines start)
    (decimal : ∀ d ∈ forest.declarations [], d.var.Decimal) :
    readHeader lines = .ok (latest Signal.identifier
      ((forest.declarations []).map (·.signal Variable.decimalSize)), start) := by
  rw [readHeader_of_dump dump, addAll_ok fun d member => read_of_decimal (decimal d member)]
  rfl

namespace Sample

def clock : Variable where
  kind := .literal "wire"
  width := .literal "1"
  identifier := .literal "!"
  name := .literal "clk"
  range := none
  bracketed := by decide

def instruction : Variable where
  kind := .literal "wire"
  width := .literal "032"
  identifier := .literal "%"
  name := .literal "insn"
  range := some (.literal "[31:0]")
  bracketed := by decide

def header : Forest :=
  .scope (.literal "module") (.literal "tb") (.leaf clock (.scope (.literal "module")
    (.literal "dut") (.leaf instruction (.leaf clock .empty)) .empty)) .empty

def text : List String :=
  ["$scope module tb $end\n", "  $var wire 1 ! clk $end", "", "  $scope module dut $end",
    "\t$var wire 032 % insn [31:0] $end", "\t$var wire 1 ! clk $end", "  $upscope $end",
    "$upscope $end", "$comment top $end", "$enddefinitions $end", "#0", "1!"]

theorem dump : Dump header text 10 := by
  have inner : Written (.leaf instruction (.leaf clock .empty))
      ["\t$var wire 032 % insn [31:0] $end", "\t$var wire 1 ! clk $end"] :=
    .leaf (spells_join ['\t'] []) (.leaf (spells_join ['\t'] []) .empty)
  have middle : Written (.leaf clock (.scope (.literal "module") (.literal "dut")
      (.leaf instruction (.leaf clock .empty)) .empty))
      ["  $var wire 1 ! clk $end", "", "  $scope module dut $end",
        "\t$var wire 032 % insn [31:0] $end", "\t$var wire 1 ! clk $end", "  $upscope $end"] :=
    .leaf (spells_join [' ', ' '] []) (.aside (by decide)
      (.scope (spells_join [' ', ' '] []) inner (spells_join [' ', ' '] []) .empty))
  have outer : Written header (text.take 9) :=
    .scope (spells_join [] ['\n']) middle (spells_join [] []) (.aside (by decide) .empty)
  exact .ended outer (by decide)

theorem decimal : ∀ d ∈ header.declarations [], d.var.Decimal := by decide

end Sample

/-- The clock stays where it first appears, with the path that was declared last. -/
theorem readHeader_eq_latest_nested :
    Dump Sample.header Sample.text 10 ∧
      (∀ d ∈ Sample.header.declarations [], d.var.Decimal) ∧
      readHeader Sample.text = .ok (latest Signal.identifier
        ((Sample.header.declarations []).map (·.signal Variable.decimalSize)), 10) ∧
      latest Signal.identifier
          ((Sample.header.declarations []).map (·.signal Variable.decimalSize)) =
        [⟨"!", "tb.dut.clk", 1⟩, ⟨"%", "tb.dut.insn [31:0]", 32⟩] :=
  ⟨Sample.dump, Sample.decimal, readHeader_eq_latest Sample.dump Sample.decimal, by decide⟩

end Disasm32.Waveform
