import Disasm32.Host.Usual
import Disasm32.Main
import Disasm32.Proofs.Word.Fields
import Disasm32.Proofs.Word.Formats
import Disasm32.Proofs.Encoding.Form
import Disasm32.Proofs.Encoding.Selection
import Disasm32.Proofs.Encoding.Agreement
import Disasm32.Proofs.Text.Numerals
import Disasm32.Proofs.Csr.Names
import Disasm32.Proofs.Csr.Addresses
import Disasm32.Proofs.Encoding.Tiling
import Disasm32.Proofs.Instruction.Rendering
import Disasm32.Proofs.Instruction.Recovery
import Disasm32.Proofs.Cache.Runs
import Disasm32.Proofs.Number.Reading
import Disasm32.Proofs.Waveform.Declarations
import Disasm32.Proofs.Waveform.Headers
import Disasm32.Proofs.Waveform.Lookup
import Disasm32.Proofs.Waveform.Steps
import Disasm32.Proofs.Waveform.Scopes
import Disasm32.Proofs.Waveform.Changes
import Disasm32.Proofs.Waveform.Traces
import Disasm32.Proofs.Word.Literals
import Disasm32.Proofs.Listing.Words
import Disasm32.Proofs.Document.Values
import Disasm32.Proofs.Settings.Schema
import Disasm32.Proofs.Settings.Form
import Disasm32.Proofs.Template.Formats
import Disasm32.Proofs.Template.Twins
import Disasm32.Proofs.Template.Steps
import Disasm32.Proofs.Template.Builtin
import Disasm32.Proofs.Template.Placeholders
import Disasm32.Proofs.Template.Dependence
import Disasm32.Proofs.Settings.Documented
import Disasm32.Proofs.Settings.Messages
import Disasm32.Proofs.Settings.Columns
import Disasm32.Proofs.Encoding.Apart
import Disasm32.Proofs.Waveform.Pieces
import Disasm32.Proofs.Word.Congruence
import Disasm32.Proofs.Waveform.Novelty
import Disasm32.Proofs.Word.Signs
import Disasm32.Proofs.Word.Spellings
import Disasm32.Proofs.Instruction.Lines
import Disasm32.Proofs.Instruction.Renaming
import Disasm32.Proofs.Listing.Steps
import Disasm32.Proofs.Listing.Bounds
import Disasm32.Proofs.Listing.Indices
import Disasm32.Proofs.Listing.Comments
import Disasm32.Proofs.Listing.Faults
import Disasm32.Proofs.CommandLine.Arguments
import Disasm32.Proofs.CommandLine.Shown
import Disasm32.Proofs.CommandLine.Listings
import Disasm32.Proofs.CommandLine.Words
import Disasm32.Proofs.CommandLine.Forms
import Disasm32.Proofs.CommandLine.Requests
import Disasm32.Proofs.CommandLine.Dumps
import Disasm32.Proofs.Files.Paths
import Disasm32.Proofs.CommandLine.Handover
