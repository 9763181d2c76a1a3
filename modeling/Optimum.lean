import Optimum.Scalar
import Optimum.Decimal.Rounding
import Optimum.Decimal.Binary
import Optimum.Decimal.Shortest
import Optimum.Decimal.Style
import Optimum.Decimal.Reader
import Optimum.NumberText
import Optimum.Plane.Double
import Optimum.Plane.Rational
import Optimum.Text.Classes
import Optimum.Text.Plain
import Optimum.Text.Quoted
import Optimum.SolveError
import Optimum.Linear.Relation
import Optimum.Linear.Problem
import Optimum.Tableau.Basic
import Optimum.Tableau.Run
import Optimum.Linear.Solution
import Optimum.Linear.Simplex
import Optimum.Linear.BigM
import Optimum.Linear.Dual
import Optimum.Linear.Graphical
import Optimum.Linear.Binary
import Optimum.Assignment.CostMatrix
import Optimum.Assignment.CellSet
import Optimum.Assignment.Tally
import Optimum.Assignment.Matching
import Optimum.Assignment.Cover
import Optimum.Assignment.Hungarian
import Optimum.Transport.Table
import Optimum.Transport.Northwest
import Optimum.Language.Token
import Optimum.Language.Lexer
import Optimum.Language.Expression
import Optimum.Language.Program
import Optimum.Language.ParseError
import Optimum.Language.Cursor
import Optimum.Language.Reading.Expression
import Optimum.Language.Reading.Lists
import Optimum.Language.Reading.Models
import Optimum.Files
import Optimum.Model.Method
import Optimum.Model.CompileError
import Optimum.Model.LinearForm
import Optimum.Model.Compile
import Optimum.Model.Registry
import Optimum.Model.Outcome
import Optimum.Document
import Optimum.Answer.Program
import Optimum.Answer.Linear
import Optimum.Answer.Tables
import Optimum.Answer.Outcome
import Optimum.Outline
import Optimum.Editor
import Optimum.CommandLine.Arguments
import Optimum.CommandLine.Report
import Optimum.CommandLine.Run
import Optimum.Main
import Optimum.Proofs.FirstBest
import Optimum.Proofs.Rational
import Optimum.Proofs.Double
import Optimum.Proofs.Tableau.Pivot
import Optimum.Proofs.Tableau.RowSpace
import Optimum.Proofs.Tableau.Basis
import Optimum.Proofs.Tableau.Choice
import Optimum.Proofs.Tableau.Run
import Optimum.Proofs.Linear.System
import Optimum.Proofs.Linear.SlackBasis
import Optimum.Proofs.Checks
import Optimum.Proofs.Linear.Feasibility
import Optimum.Proofs.Linear.Bounds
import Optimum.Proofs.Linear.SlackStart
import Optimum.Proofs.Linear.DualPair
import Optimum.Proofs.Linear.DualAnswer
import Optimum.Proofs.Linear.SimplexAnswer
import Optimum.Proofs.Linear.Certificates
import Optimum.Proofs.Linear.Agreement
import Optimum.Proofs.Assignment.Cells
import Optimum.Proofs.Assignment.Matching
import Optimum.Proofs.Assignment.Balance
import Optimum.Proofs.Assignment.Reduction
import Optimum.Proofs.Assignment.Pairing
import Optimum.Proofs.Assignment.Placement
import Optimum.Proofs.Assignment.HungarianAnswer
import Optimum.Proofs.Model.FormMeaning
import Optimum.Proofs.Model.CompileMeaning
import Optimum.Proofs.Tableau.History
import Optimum.Proofs.Tableau.ObjectiveReduction
import Optimum.Proofs.Linear.PenaltyColumns
import Optimum.Proofs.Linear.PenaltyTableau
import Optimum.Proofs.Linear.PenaltyStart
import Optimum.Proofs.Linear.PenaltyReading
import Optimum.Proofs.Tableau.Tolerance
import Optimum.Proofs.Linear.PenaltyAnswer
import Optimum.Proofs.Tableau.Edges
import Optimum.Proofs.Linear.PenaltyRates
import Optimum.Proofs.Linear.PenaltyVerdicts
import Optimum.Proofs.Linear.Histories
import Optimum.Proofs.Language.Lexing
import Optimum.Proofs.Language.Scanner
import Optimum.Proofs.Language.Scanning
import Optimum.Proofs.Language.Answers
import Optimum.Proofs.Language.Grammar
import Optimum.Proofs.Language.Derivations
import Optimum.Proofs.Language.Readings
import Optimum.Proofs.Language.ModelAnswers
import Optimum.Proofs.Language.Comments
import Optimum.Proofs.Language.CommentsInParts
import Optimum.Proofs.Language.CommentsInPrograms
import Optimum.Proofs.Language.Passages
import Optimum.Proofs.Language.Statements
import Optimum.Proofs.Language.Faults
import Optimum.Proofs.Language.Written
import Optimum.Proofs.Language.Breaks
import Optimum.Proofs.Decimal.Nearest
import Optimum.Proofs.Decimal.Shortest
import Optimum.Proofs.Decimal.PlainText
import Optimum.Proofs.Decimal.Doubles
import Optimum.Proofs.Language.NormalForms
import Optimum.Proofs.Language.ShownTokens
import Optimum.Proofs.Language.RoundTrip
import Optimum.Proofs.Transport.Tables
import Optimum.Proofs.Transport.Accounts
import Optimum.Proofs.Transport.Acceptance
import Optimum.Proofs.Transport.Conservation
import Optimum.Proofs.Plane.Real
import Optimum.Proofs.Plane.HalfPlanes
import Optimum.Proofs.Linear.PlaneRegion
import Optimum.Proofs.Linear.PlaneVertices
import Optimum.Proofs.Linear.PlaneAnswer
import Optimum.Proofs.Linear.PenaltyFree
import Optimum.Proofs.Tableau.Limits
import Optimum.Proofs.Linear.HigherLimits
import Optimum.Proofs.Model.Registration
import Optimum.Proofs.Diagnostics
import Optimum.Proofs.Tableau.Lookups
import Optimum.Proofs.Linear.Refusals
import Optimum.Proofs.Model.Compiled
import Optimum.Proofs.Model.Methods
import Optimum.Proofs.Transport.Repair
import Optimum.Proofs.Model.Balancing
import Optimum.Proofs.Assignment.Covering
import Optimum.Proofs.Assignment.Augmentation
import Optimum.Proofs.Assignment.MaximumMatching
import Optimum.Proofs.Assignment.MinimumCover
import Optimum.Proofs.Assignment.GreedyCover
import Optimum.Proofs.Assignment.Adjustment
import Optimum.Proofs.Assignment.Trace
import Optimum.Proofs.Assignment.Convergence
import Optimum.Proofs.Assignment.IntegerCosts
import Optimum.Proofs.Tableau.Improvement
import Optimum.Proofs.Linear.PureDual
import Optimum.Proofs.Linear.Nondegenerate
import Optimum.Proofs.Linear.PenaltyObjective
import Optimum.Proofs.Linear.Enumeration
import Optimum.Proofs.Linear.PlaneSummary
import Optimum.Proofs.Transport.Staircase
import Optimum.Proofs.Linear.Negation
import Optimum.Proofs.Linear.OppositeSense
import Optimum.Proofs.Model.Linearity
import Optimum.Proofs.Language.Literals
import Optimum.Proofs.Language.NumberTokens
import Optimum.Proofs.Language.Spacing
import Optimum.Proofs.Tableau.Labels
import Optimum.Proofs.Tableau.PrimalFeasible
import Optimum.Proofs.Model.ColumnNames
import Optimum.Proofs.Language.Places
import Optimum.Proofs.Language.Outlines
import Optimum.Proofs.Spans
import Optimum.Proofs.Decimal.Signs
import Optimum.Proofs.Language.DataTexts
import Optimum.Proofs.Language.DataTokens
import Optimum.Proofs.Language.DataLists
import Optimum.Proofs.Language.DataSections
import Optimum.Proofs.Language.DataWriting
import Optimum.Proofs.Language.DataRoundTrip
