import SchemaDdl.Decode.Yaml
import SchemaDdl.Document.Json
import SchemaDdl.Document.JsonText
import SchemaDdl.Main
import SchemaDdl.Proofs.Names
import SchemaDdl.Proofs.Annotation.Reading
import SchemaDdl.Proofs.Annotation.Difference
import SchemaDdl.Proofs.StoreType.Grammar
import SchemaDdl.Proofs.StoreType.LogicalDepth
import SchemaDdl.Proofs.StoreType.Transparency
import SchemaDdl.Proofs.StoreType.Shape
import SchemaDdl.Proofs.StoreType.Sizing
import SchemaDdl.Proofs.Script.Sentence
import SchemaDdl.Proofs.Script.Success
import SchemaDdl.Proofs.Statement.Batch
import SchemaDdl.Proofs.Statement.SequenceName
import SchemaDdl.Proofs.Statement.Success
import SchemaDdl.Proofs.Quoting.Lexer
import SchemaDdl.Proofs.Quoting.Names
import SchemaDdl.Proofs.Quoting.Statements
import SchemaDdl.Proofs.Atomicity
import SchemaDdl.Proofs.Composition
import SchemaDdl.Proofs.SuccessCondition
import SchemaDdl.Proofs.Injection
import SchemaDdl.Proofs.Reversal
import SchemaDdl.Proofs.Alteration
import SchemaDdl.Proofs.Creation
import SchemaDdl.Proofs.Boundaries
import SchemaDdl.Proofs.SystemColumns
import SchemaDdl.Proofs.Dialects
import SchemaDdl.Proofs.TableAlteration
import SchemaDdl.Proofs.Statement.Definition
import SchemaDdl.Proofs.Defaults
import SchemaDdl.Proofs.StoreType.Integers
import SchemaDdl.Proofs.Serial
import SchemaDdl.Proofs.StoreType.Canonical
import SchemaDdl.Proofs.ColumnTypes
import SchemaDdl.Proofs.Computed
import SchemaDdl.Proofs.Text.Clip
import SchemaDdl.Proofs.Quoting.Reading
import SchemaDdl.Proofs.Relocation
import SchemaDdl.Proofs.BackingSequence
import SchemaDdl.Proofs.PlainColumns
import SchemaDdl.Proofs.LogicalGrammar
import SchemaDdl.Proofs.EarlyFailure
import SchemaDdl.Proofs.Literal.Reading
import SchemaDdl.Proofs.Literal.Containment
import SchemaDdl.Proofs.Annotation.Meaning
import SchemaDdl.Proofs.StoreType.Contents
import SchemaDdl.Proofs.Script.Layout
import SchemaDdl.Proofs.Annotation.Parts
