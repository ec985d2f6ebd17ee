import Propositional.Catalogue
import Propositional.Formula.Parse.Lemmas
import Propositional.Main
import Propositional.Session
import Propositional.Table.Survey
import Propositional.Proofs.Grammar
import Propositional.Proofs.Scan
import Propositional.Proofs.Iteration
import Propositional.Proofs.Numbering
import Propositional.Proofs.Rows
import Propositional.Proofs.Verdicts
import Propositional.Proofs.Faults
import Propositional.Proofs.Substitution
import Propositional.Proofs.Rereading
import Propositional.Proofs.WideTables
import Propositional.Proofs.Marks
import Propositional.Proofs.Listing
import Propositional.Proofs.Cofactors
import Propositional.Proofs.Lines
import Propositional.Proofs.Naming
import Propositional.Proofs.Printing
import Propositional.Proofs.Output
import Propositional.Proofs.Dependence
import Propositional.Proofs.Relations
import Propositional.Proofs.Encoding
import Propositional.Proofs.Repetitions
import Propositional.Proofs.Roots
import Propositional.Proofs.Decoding
import Propositional.Proofs.Renaming
import Propositional.Proofs.Equivalences
import Propositional.Proofs.Duality
import Propositional.Proofs.Spelling
import Propositional.Proofs.Spacing
import Propositional.Proofs.Glued
import Propositional.Proofs.Sources
import Propositional.Proofs.Quotation
import Propositional.Proofs.Records
import Propositional.Proofs.Calls
import Propositional.Proofs.Locality
