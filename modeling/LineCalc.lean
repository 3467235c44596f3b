import LineCalc.Expression
import LineCalc.Main
import LineCalc.Transcript.File
import LineCalc.Proofs.Balance
import LineCalc.Proofs.Conservation
import LineCalc.Proofs.Conversion
import LineCalc.Proofs.Infix
import LineCalc.Proofs.Layers
import LineCalc.Proofs.Evaluation
import LineCalc.Proofs.Legality
import LineCalc.Proofs.Ruling
import LineCalc.Proofs.Assignment
import LineCalc.Proofs.Scanning
import LineCalc.Proofs.Splitting
import LineCalc.Proofs.Alphabet
import LineCalc.Proofs.PostfixText
import LineCalc.Proofs.Grouping
import LineCalc.Proofs.Forests
import LineCalc.Proofs.Naming
import LineCalc.Proofs.Verdicts
import LineCalc.Proofs.Halting
import LineCalc.Proofs.Division
import LineCalc.Proofs.Batches
import LineCalc.Proofs.Replaying
import LineCalc.Proofs.Decoding
import LineCalc.Proofs.Dependence
import LineCalc.Proofs.Erasure
import LineCalc.Proofs.StandardInput
import LineCalc.Proofs.Commuting
import LineCalc.Proofs.Lenience
import LineCalc.Proofs.Renaming
import LineCalc.Proofs.Rounding
import LineCalc.Proofs.Numerals
import LineCalc.Proofs.Rereading
import LineCalc.Proofs.Spacing
import LineCalc.Proofs.Accounting
import LineCalc.Proofs.Checking
import LineCalc.Proofs.Framing
import LineCalc.Proofs.Interruption
import LineCalc.Proofs.Reading
import LineCalc.Proofs.Rendering
import LineCalc.Proofs.NumeralGrammar
import LineCalc.Proofs.Storage
import LineCalc.Proofs.Validation
