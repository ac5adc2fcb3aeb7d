import LearningReports.Report.AssetStatistics
import LearningReports.Report.ClassroomSessions
import LearningReports.Report.EnrollmentTime
import LearningReports.Report.PlanStatistics
import LearningReports.Report.SurveyAnswers
import LearningReports.Report.UsersCourses

/-! # The kinds of reports

Each type of report with its columns and its base. -/
namespace LearningReports.ReportType

/-- The column of a standard field, if the type has one for it. -/
def column? : ReportType → Field → Option Builder
  | .usersCourses => UsersCourses.column?
  | .classroomSessions => ClassroomSessions.column?
  | .surveyAnswers => SurveyAnswers.column?
  | .assetStatistics => AssetStatistics.column?
  | .planStatistics => PlanStatistics.column?
  | .enrollmentTime => EnrollmentTime.column?

def customColumn : ReportType → Context → ResolvedField → Column
  | .usersCourses => UsersCourses.customColumn
  | .classroomSessions => ClassroomSessions.customColumn
  | .surveyAnswers => SurveyAnswers.customColumn
  | .assetStatistics => AssetStatistics.customColumn
  | .planStatistics => PlanStatistics.customColumn
  | .enrollmentTime => EnrollmentTime.customColumn

def base : ReportType → Context → Base
  | .usersCourses => UsersCourses.base
  | .classroomSessions => ClassroomSessions.base
  | .surveyAnswers => SurveyAnswers.base
  | .assetStatistics => AssetStatistics.base
  | .planStatistics => PlanStatistics.base
  | .enrollmentTime => EnrollmentTime.base

def columnFields (t : ReportType) : List Field := Field.all.filter fun f => (t.column? f).isSome

/-- The builders of the standard fields that the type has a column for. -/
def builders (t : ReportType) : List Builder := Field.all.filterMap t.column?

variable {t : ReportType} {f : Field} {build : Builder}

theorem mem_builders (h : t.column? f = some build) : build ∈ t.builders :=
  List.mem_filterMap.mpr ⟨f, Field.mem_all f, h⟩

/-- Two views of a builder agree at the builder of a field when they agree along the whole list. The
list unfolds once for a type, where a split over the fields asks for each field of the catalog. -/
theorem eq_of_map_builders {α : Type} {v w : Builder → α} (h : t.column? f = some build)
    (hviews : t.builders.map v = t.builders.map w) : v build = w build :=
  List.map_inj_left.mp hviews build (mem_builders h)

end LearningReports.ReportType
