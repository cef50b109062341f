import AsmXml.Main
import AsmXml.Session
import AsmXml.Text.Utf8.Lemmas
import AsmXml.Proofs.Text.Blank
import AsmXml.Proofs.InstructionSet
import AsmXml.Proofs.Lexeme
import AsmXml.Proofs.Grammar
import AsmXml.Proofs.LineCheck
import AsmXml.Proofs.Reading
import AsmXml.Proofs.FirstFault
import AsmXml.Proofs.Document.Generation
import AsmXml.Proofs.Source
import AsmXml.Proofs.Acceptance
import AsmXml.Proofs.Document.Elements
import AsmXml.Proofs.Document.ReadBack
import AsmXml.Proofs.Document.RoundTrip
import AsmXml.Proofs.Document.Tokens
import AsmXml.Proofs.Decompilation
import AsmXml.Proofs.Endings
import AsmXml.Proofs.Rereading
import AsmXml.Proofs.WellTyped
import AsmXml.Proofs.Rows
import AsmXml.Proofs.Text.AsciiCase
import AsmXml.Proofs.Layout
import AsmXml.Proofs.CommandLine.Arguments
import AsmXml.Proofs.CommandLine.Outcomes
import AsmXml.Proofs.Recognition
import AsmXml.Proofs.Rejections
import AsmXml.Proofs.Decoration
import AsmXml.Proofs.Sessions
import AsmXml.Proofs.Concatenation
import AsmXml.Proofs.Preparation
import AsmXml.Proofs.SingleOpcode
import AsmXml.Proofs.OpcodeSpelling
import AsmXml.Proofs.Document.Untyped
import AsmXml.Proofs.Document.Legality
import AsmXml.Proofs.Reports
import AsmXml.Proofs.Highlighting
import AsmXml.Proofs.Text.Quotation
import AsmXml.Proofs.ExitCodes
import AsmXml.Proofs.Display
