import LearningReports.Api.Answers
import LearningReports.Api.Requests
import LearningReports.Api.Routes
import LearningReports.Api.Service
import LearningReports.Catalog.CustomField
import LearningReports.Catalog.Field
import LearningReports.Catalog.ReportType
import LearningReports.Catalog.Wording
import LearningReports.CustomFields.Inspector
import LearningReports.CustomFields.Labels
import LearningReports.CustomFields.Materialized
import LearningReports.CustomFields.Remembered
import LearningReports.CustomFields.Resolve
import LearningReports.Definition.Basic
import LearningReports.Definition.Decode
import LearningReports.Definition.Default
import LearningReports.Definition.Encode
import LearningReports.Definition.Named
import LearningReports.Directory.Basic
import LearningReports.Directory.Client
import LearningReports.Directory.Details
import LearningReports.Directory.Exchange
import LearningReports.Directory.Records
import LearningReports.Failure
import LearningReports.Json.Loose
import LearningReports.Json.Reader
import LearningReports.Json.Shown
import LearningReports.Json.Value
import LearningReports.Json.Writer
import LearningReports.Legacy.Dates
import LearningReports.Legacy.FieldMap
import LearningReports.Legacy.Import
import LearningReports.Legacy.Report
import LearningReports.Number.Binary64
import LearningReports.Number.Integer
import LearningReports.Number.Shortest
import LearningReports.Proofs.Accounting
import LearningReports.Proofs.ActiveEnrollments
import LearningReports.Proofs.Admission
import LearningReports.Proofs.AlikeTexts
import LearningReports.Proofs.ArchivedConditions
import LearningReports.Proofs.BaseOutlines
import LearningReports.Proofs.BaseScopes
import LearningReports.Proofs.Batches
import LearningReports.Proofs.BranchRequests
import LearningReports.Proofs.BranchText
import LearningReports.Proofs.BranchWalk
import LearningReports.Proofs.CallerRestrictions
import LearningReports.Proofs.ColumnOutlines
import LearningReports.Proofs.ColumnParts
import LearningReports.Proofs.ColumnRequests
import LearningReports.Proofs.ColumnScopes
import LearningReports.Proofs.ConditionOutlines
import LearningReports.Proofs.ContextViews
import LearningReports.Proofs.DateOptions
import LearningReports.Proofs.DateTexts
import LearningReports.Proofs.DefinitionRoundTrip
import LearningReports.Proofs.DistinctLabels
import LearningReports.Proofs.EngineParity
import LearningReports.Proofs.EnrollmentStatuses
import LearningReports.Proofs.ExactKeys
import LearningReports.Proofs.FailClosed
import LearningReports.Proofs.Fates
import LearningReports.Proofs.FieldKeys
import LearningReports.Proofs.FieldTexts
import LearningReports.Proofs.FilterPlaces
import LearningReports.Proofs.FirstOccurrences
import LearningReports.Proofs.FragmentRuns
import LearningReports.Proofs.Fragments
import LearningReports.Proofs.Gathered
import LearningReports.Proofs.Grouping
import LearningReports.Proofs.IdSets
import LearningReports.Proofs.ImportFailures
import LearningReports.Proofs.ImportedDays
import LearningReports.Proofs.ImportedDefinitions
import LearningReports.Proofs.ImportedFields
import LearningReports.Proofs.ImportedOrder
import LearningReports.Proofs.ImportedSelections
import LearningReports.Proofs.ImportedStatuses
import LearningReports.Proofs.ImportedVisibility
import LearningReports.Proofs.IndependentColumns
import LearningReports.Proofs.JoinedDates
import LearningReports.Proofs.JoinedRows
import LearningReports.Proofs.Lockstep
import LearningReports.Proofs.MissingTables
import LearningReports.Proofs.NamedQueries
import LearningReports.Proofs.NarrowedContexts
import LearningReports.Proofs.NarrowedResolution
import LearningReports.Proofs.Outlines
import LearningReports.Proofs.QuotedTexts
import LearningReports.Proofs.ReadConditions
import LearningReports.Proofs.RememberedFields
import LearningReports.Proofs.ReorderedLabels
import LearningReports.Proofs.RequestTexts
import LearningReports.Proofs.Resolution
import LearningReports.Proofs.Resolvable
import LearningReports.Proofs.Returns
import LearningReports.Proofs.Rows
import LearningReports.Proofs.ScopedQueries
import LearningReports.Proofs.Scopes
import LearningReports.Proofs.SharedRequests
import LearningReports.Proofs.ShortIntegers
import LearningReports.Proofs.SkippedTexts
import LearningReports.Proofs.SortedColumns
import LearningReports.Proofs.StatusTexts
import LearningReports.Proofs.Tokens
import LearningReports.Proofs.TranslatedTexts
import LearningReports.Proofs.UnassignedUsers
import LearningReports.Proofs.UnitedBranches
import LearningReports.Proofs.UserPages
import LearningReports.Proofs.ValidatedDefinitions
import LearningReports.Proofs.Valuations
import LearningReports.Report.AssetStatistics
import LearningReports.Report.BranchChoice
import LearningReports.Report.ClassroomSessions
import LearningReports.Report.Columns.Course
import LearningReports.Report.Columns.Custom
import LearningReports.Report.Columns.Enrollment
import LearningReports.Report.Columns.Usage
import LearningReports.Report.Columns.User
import LearningReports.Report.Compile
import LearningReports.Report.Context
import LearningReports.Report.DateFilter
import LearningReports.Report.EnrollmentTime
import LearningReports.Report.Gather
import LearningReports.Report.Kinds
import LearningReports.Report.Layout
import LearningReports.Report.PlanStatistics
import LearningReports.Report.Query
import LearningReports.Report.Restrictions
import LearningReports.Report.SurveyAnswers
import LearningReports.Report.Traits
import LearningReports.Report.UsersCourses
import LearningReports.Selection.Branches
import LearningReports.Selection.Filters
import LearningReports.Selection.IdFilter
import LearningReports.Selection.Named
import LearningReports.Session
import LearningReports.Sql.Branch
import LearningReports.Sql.Dialect
import LearningReports.Sql.Expr
import LearningReports.Sql.Select
import LearningReports.Text.Blank
import LearningReports.Text.CaseIgnorable
import LearningReports.Text.Cased
import LearningReports.Text.DecimalDigit
import LearningReports.Text.LowerCase
import LearningReports.Text.Occurrence
import LearningReports.Text.Printable
import LearningReports.Text.Quoted
import LearningReports.Text.Shown
import LearningReports.Validation.Decoder
import LearningReports.Validation.Issue
import LearningReports.Warehouse.Columns
import LearningReports.Warehouse.Table
