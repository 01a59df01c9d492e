import SubsetC.CommandLine
import SubsetC.Diagnostic.Basic
import SubsetC.Diagnostic.Fault
import SubsetC.Diagnostic.Journal
import SubsetC.Diagnostic.Misuse
import SubsetC.Expr.Basic
import SubsetC.Expr.Constant
import SubsetC.Expr.Render
import SubsetC.Main
import SubsetC.Operator
import SubsetC.Parse.Basic
import SubsetC.Parse.Cursor
import SubsetC.Parse.Declaration
import SubsetC.Parse.Expr
import SubsetC.Parse.Factor
import SubsetC.Parse.Program
import SubsetC.Parse.State
import SubsetC.Parse.Stmt
import SubsetC.Program
import SubsetC.Proofs.AbsentExpr
import SubsetC.Proofs.Acceptance
import SubsetC.Proofs.Adds
import SubsetC.Proofs.Arrives
import SubsetC.Proofs.ArrivesExpr
import SubsetC.Proofs.ArrivesProgram
import SubsetC.Proofs.ArrivesStmt
import SubsetC.Proofs.BlockRecovery
import SubsetC.Proofs.Brackets
import SubsetC.Proofs.Budgets
import SubsetC.Proofs.BudgetsProgram
import SubsetC.Proofs.CallChecks
import SubsetC.Proofs.Carets
import SubsetC.Proofs.Checked
import SubsetC.Proofs.CheckedExpr
import SubsetC.Proofs.CheckedProgram
import SubsetC.Proofs.CheckedStmt
import SubsetC.Proofs.CompleteExpr
import SubsetC.Proofs.CompleteStmt
import SubsetC.Proofs.Composed
import SubsetC.Proofs.Conversions
import SubsetC.Proofs.ConvertedTrees
import SubsetC.Proofs.Enclosure
import SubsetC.Proofs.EndOfInput
import SubsetC.Proofs.EndOfInputProgram
import SubsetC.Proofs.FlatStmt
import SubsetC.Proofs.Footprint
import SubsetC.Proofs.Gives
import SubsetC.Proofs.Grammar
import SubsetC.Proofs.Handoffs
import SubsetC.Proofs.Interning
import SubsetC.Proofs.Layout
import SubsetC.Proofs.LayoutExpr
import SubsetC.Proofs.LayoutProgram
import SubsetC.Proofs.LeadingValue
import SubsetC.Proofs.LeftScopes
import SubsetC.Proofs.LineLookup
import SubsetC.Proofs.Literals
import SubsetC.Proofs.NearestIf
import SubsetC.Proofs.Oblivious
import SubsetC.Proofs.OperatorMisuses
import SubsetC.Proofs.Outline
import SubsetC.Proofs.Partition
import SubsetC.Proofs.Placeless
import SubsetC.Proofs.Positions
import SubsetC.Proofs.PrintfFlag
import SubsetC.Proofs.PrintfFlagExpr
import SubsetC.Proofs.PrintfFlagProgram
import SubsetC.Proofs.Printing
import SubsetC.Proofs.Progress
import SubsetC.Proofs.Quiet
import SubsetC.Proofs.QuietExpr
import SubsetC.Proofs.QuietProgram
import SubsetC.Proofs.QuietStmt
import SubsetC.Proofs.QuotedReading
import SubsetC.Proofs.RecoveryCosts
import SubsetC.Proofs.Redeclarations
import SubsetC.Proofs.Relaxed
import SubsetC.Proofs.ReportPlaces
import SubsetC.Proofs.Respacing
import SubsetC.Proofs.Respects
import SubsetC.Proofs.Run
import SubsetC.Proofs.Scanned
import SubsetC.Proofs.ScopeBalance
import SubsetC.Proofs.Scoping
import SubsetC.Proofs.Shadows
import SubsetC.Proofs.ShadowsExpr
import SubsetC.Proofs.ShadowsProgram
import SubsetC.Proofs.SoundExpr
import SubsetC.Proofs.SoundProgram
import SubsetC.Proofs.SpanNesting
import SubsetC.Proofs.SparedFault
import SubsetC.Proofs.StringIds
import SubsetC.Proofs.SubscriptRecovery
import SubsetC.Proofs.TableHistory
import SubsetC.Proofs.TableScopes
import SubsetC.Proofs.Termination
import SubsetC.Proofs.Traced
import SubsetC.Proofs.TracedExpr
import SubsetC.Proofs.TracedStmt
import SubsetC.Proofs.TreeInvariant
import SubsetC.Proofs.TreeInvariantExpr
import SubsetC.Proofs.TreeInvariantProgram
import SubsetC.Proofs.Typing
import SubsetC.Proofs.UndeclaredNames
import SubsetC.Proofs.UniqueReading
import SubsetC.Proofs.Unrecognised
import SubsetC.Source.Line
import SubsetC.Source.Position
import SubsetC.Source.Report
import SubsetC.Stmt.Basic
import SubsetC.Stmt.Render
import SubsetC.StringTable
import SubsetC.Symbol.Basic
import SubsetC.Symbol.Table
import SubsetC.Text.Blank
import SubsetC.Text.Bytes
import SubsetC.Text.Decimal
import SubsetC.Text.Escape
import SubsetC.Text.Quoted
import SubsetC.Text.Unprintable
import SubsetC.Token.Basic
import SubsetC.Token.Kind
import SubsetC.Token.Lexeme
import SubsetC.Token.Scanner
import SubsetC.Ty.Basic
import SubsetC.Ty.Rules
