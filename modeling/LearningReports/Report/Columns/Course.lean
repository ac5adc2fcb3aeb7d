import LearningReports.Report.Context

/-! # Columns of courses

The archive keeps a record of the course beside each enrollment. -/
namespace LearningReports.CourseColumns

open Sql (Expr)

/-- A value of the archived record of the course. -/
def archived (key : String) : Expr := archivedField "course_info" key

def courseCol (ctx : Context) (column : String) : Expr := ctx.col .course column

def typeName (ctx : Context) (type : Expr) : Expr :=
  .caseOf [
    (.eq type (.str "elearning"), ctx.wording .courseTypeElearning),
    (.eq type (.str "classroom"), ctx.wording .courseTypeClassroom)]
    (ctx.wording .courseTypeWebinar)

def statusName (ctx : Context) (status : Expr) : Expr :=
  .caseOf [(.eq status (.int 0), ctx.wording .courseStatusPreparation)]
    (ctx.wording .courseStatusEffective)

/-- Whether a course has ended before today, in words. -/
def isOver (ctx : Context) (finish : Expr) : Expr := ctx.yesNo (.lt finish (.moment .today))

def archivedEnd : Expr := .apply .readDay (archived "end_at")

/-- A column of the course that the archived record keeps under a key of its own. -/
def shared (column key : String) : Builder := fun ctx =>
  { live := courseCol ctx column, archived := archived key }

def id : Builder := fun ctx =>
  { live := courseCol ctx "idCourse", archived := .cast (archived "id") "INT" }

/-- A column of the category in the language of the caller. -/
def category (column : String) : Builder := fun ctx =>
  { live := ctx.col .category column
    archived := .empty
    liveParts := [Table.category.leftJoin (.and
      (.eq (Table.category.col "idCategory") (Table.course.col "idCategory"))
      (.eq (Table.category.col "lang_code") ctx.language))] }

def status : Builder := fun ctx =>
  { live := statusName ctx (courseCol ctx "status")
    archived := statusName ctx (.cast (archived "status") "int") }

def credits : Builder := fun ctx =>
  { live := courseCol ctx "credits"
    archived := .call2 "ROUND" (.cast (archived "credits") "DOUBLE") (.int 2) }

def duration : Builder := fun ctx =>
  { live := courseCol ctx "mediumTime", archived := .cast (archived "duration") "INT" }

def type : Builder := fun ctx =>
  { live := typeName ctx (courseCol ctx "course_type"), archived := typeName ctx (archived "type") }

def begins : Builder := fun ctx =>
  { live := courseCol ctx "date_begin", archived := .apply .readDay (archived "start_at") }

def ends : Builder := fun ctx => { live := courseCol ctx "date_end", archived := archivedEnd }

def expired : Builder := fun ctx =>
  { live := isOver ctx (courseCol ctx "date_end"), archived := isOver ctx archivedEnd }

def created : Builder := fun ctx =>
  { live := ctx.time (courseCol ctx "create_date")
    archived := ctx.time (.apply .readTime (archived "created_at")) }

def hasSignature : Builder := fun ctx =>
  { live := ctx.yesNo (.eq (courseCol ctx "has_esignature_enabled") (.int 1)), archived := .empty }

def language : Builder := fun ctx =>
  { live := ctx.col .language "lang_description"
    archived := archived "language"
    liveParts := [Table.language.leftJoin
      (.eq (Table.course.col "lang_code") (Table.language.col "lang_code"))] }

def skillsQuery (ctx : Context) : Sql.Subselect :=
  let object := Table.skillObject.col "idObject"
  { items := [
      ⟨object, some (.name "idCourse")⟩,
      ⟨.joinDistinct (Table.skill.col "title"), some (.name "skillsInCourse")⟩]
    table := Table.skillObject.name
    handle := some Table.skillObject.handle
    joins := [⟨.left, Table.skill.name, Table.skill.handle,
      .eq (Table.skill.col "id") (Table.skillObject.col "idSkill")⟩]
    conditions := .eq (Table.skillObject.col "objectType") (.int 1)
      :: ctx.filters.courses.conditions object
    groupBy := [object] }

def skillParts (ctx : Context) (course : Expr) : List Sql.Fragment := [
  .define Table.courseSkills.name (.union [skillsQuery ctx]),
  Table.courseSkills.leftJoin (.eq (Table.courseSkills.col "idCourse") course)]

def skills : Builder := fun ctx =>
  { live := ctx.col .courseSkills "skillsInCourse"
    archived := Table.courseSkills.col "skillsInCourse"
    liveParts := skillParts ctx (Table.course.col "idCourse")
    archiveParts := skillParts ctx (archivedCol "course_id") }

def column? : Field → Option Builder
  | .courseId => some id
  | .courseUniqueId => some (shared "uidCourse" "uid")
  | .courseCode => some (shared "code" "code")
  | .courseName => some (shared "name" "name")
  | .courseCategoryCode => some (category "code")
  | .courseCategoryName => some (category "translation")
  | .courseStatus => some status
  | .courseCredits => some credits
  | .courseDuration => some duration
  | .courseType => some type
  | .courseDateBegin => some begins
  | .courseDateEnd => some ends
  | .courseExpired => some expired
  | .courseCreationDate => some created
  | .courseESignature => some hasSignature
  | .courseLanguage => some language
  | .courseSkills => some skills
  | _ => none

end LearningReports.CourseColumns
