import TableFlow.Error
import TableFlow.Pipeline.Run
import TableFlow.Table.Sql
import TableFlow.Proofs.Table.Backends
import TableFlow.Proofs.Table.Reachable
import TableFlow.Proofs.Transform.Backends
import TableFlow.Proofs.Blocks.TableInterpreter
import TableFlow.Proofs.Blocks.TableTransformer
import TableFlow.Proofs.Pipeline.Run
import TableFlow.Proofs.Expression.Reports
import TableFlow.Proofs.Expression.Strategies
import TableFlow.Proofs.ValueType.Conversion
import TableFlow.Proofs.TypeRegistry.InPlace
import TableFlow.Proofs.TypeRegistry.Walk
import TableFlow.Proofs.TypeRegistry.Resolution
import TableFlow.Proofs.TypeRegistry.Interning
import TableFlow.Proofs.Pipeline.Worklist
import TableFlow.Proofs.Pipeline.Acyclic
import TableFlow.Proofs.Expression.Scalars
import TableFlow.Proofs.Expression.Finite
import TableFlow.Proofs.Transform.Integers
import TableFlow.Proofs.Formula.Rows
import TableFlow.Proofs.Transform.Rows
import TableFlow.Proofs.Blocks.InputChecks
import TableFlow.Proofs.Blocks.InterpreterBackends
import TableFlow.Proofs.Decimal.Notation
import TableFlow.Proofs.Expression.Muted
import TableFlow.Proofs.Sql.Lexer
import TableFlow.Proofs.Sql.Statements
import TableFlow.Proofs.ValueType.Order
import TableFlow.Proofs.Pipeline.Check
import TableFlow.Proofs.Formula.Constants
import TableFlow.Proofs.Sql.Lossless
import TableFlow.Proofs.Execution.Validity
import TableFlow.Proofs.Formula.Nulls
import TableFlow.Proofs.Expression.Comparison
import TableFlow.Proofs.Expression.NumberOrder
import TableFlow.Proofs.Table.Remaining
import TableFlow.Proofs.Transform.WholeNumbers
import TableFlow.Proofs.CellRange.RoundTrip
import TableFlow.Proofs.CellRange.Overflow
import TableFlow.Proofs.ValueType.Reading
import TableFlow.Proofs.Series.Reading
import TableFlow.Proofs.Pipeline.Siblings
import TableFlow.Proofs.Artifact.Selection
