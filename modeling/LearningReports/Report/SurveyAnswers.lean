import LearningReports.Report.Columns.Custom
import LearningReports.Report.Columns.User
import LearningReports.Report.Restrictions

/-! # Answers to surveys

One row for each user, course and question of a survey. A question with a scale has one row for
each of its statements. -/
namespace LearningReports.SurveyAnswers

open Restrictions
open Sql (Expr)

/-- The types of questions. -/
inductive QuestionType where
  | title
  | breakPage
  | choice
  | choiceMultiple
  | inlineChoice
  | extendedText
  | likertScale
  deriving Repr, DecidableEq

def QuestionType.name : QuestionType → String
  | .title => "title"
  | .breakPage => "break_page"
  | .choice => "choice"
  | .choiceMultiple => "choice_multiple"
  | .inlineChoice => "inline_choice"
  | .extendedText => "extended_text"
  | .likertScale => "likert_scale"

/-- The name of a type of question in an expression. -/
def QuestionType.expr (t : QuestionType) : Expr := .str t.name

/-- The type of course items that are surveys. -/
def surveyItem : Expr := .str "poll"

/-! ## Columns -/

/-- The name of the branch with its code, or the name of the group. -/
def groupOrBranch : Builder := fun ctx =>
  let code := ctx.col .branchTree "code"
  let codeText := Expr.caseOf
    [(.ne code .empty, .concat3 (.str "(") code (.str ") "))] .empty
  { live := .caseOf
      [(.notNull (ctx.col .branchTree "idOrg"),
        .concat2 codeText (ctx.col .branch "translation"))]
      (.dropFirst (ctx.col .group "groupid"))
    liveParts := [
      Table.branchTree.leftJoin (.eq (Table.group.col "idst") (Table.branchTree.col "idst_oc")),
      Table.branch.leftJoin (.and
        (.eq (Table.branchTree.col "idOrg") (Table.branch.col "id_dir"))
        (.eq (Table.branch.col "lang_code") ctx.language)),
      .groupBy [Table.group.col "idst"]] }

def detail (t : Table) (column : String) : Builder := fun ctx => { live := ctx.col t column }

def completionId : Builder := fun ctx =>
  { live := ctx.col .surveyTrack "id_track"
    liveParts := [.groupBy [Table.surveyTrack.col "id_track"]] }

def completionDate : Builder := fun ctx =>
  { live := ctx.time (ctx.col .itemTrack "last_complete")
    liveParts := [.groupBy [Table.surveyTrack.col "id_track"]] }

def trackingType : Builder := fun ctx =>
  { live := .caseOf
      [(.gt (ctx.col .sharedItem "shared_tracking") (.int 0), ctx.wording .sharedTracking)]
      (ctx.wording .localTracking)
    liveParts := [Table.sharedItem.leftJoin
      (.eq (Table.sharedItem.col "id_object") (Table.courseItem.col "id_object"))] }

/-- The type of the question of a row. -/
def typeOf (ctx : Context) : Expr := ctx.col .question "type_quest"

def isOfType (ctx : Context) (t : QuestionType) : Expr := .eq (typeOf ctx) t.expr

def questionType : Builder := fun ctx =>
  { live := .caseOf [
      (isOfType ctx .choice, ctx.wording .choice),
      (isOfType ctx .choiceMultiple, ctx.wording .choiceMultiple),
      (isOfType ctx .inlineChoice, ctx.wording .inlineChoice),
      (isOfType ctx .extendedText, ctx.wording .extendedText),
      (isOfType ctx .likertScale, ctx.wording .likertScale)]
      (typeOf ctx) }

def isMandatory : Builder := fun ctx =>
  { live := ctx.yesNo (.gt (.cast (ctx.col .question "mandatory") "INTEGER") (.int 0)) }

/-- The answer of the user, by the type of the question. -/
def answer : Builder := fun ctx =>
  let chosen := Table.questionAnswer.col "answer"
  let written := Table.surveyAnswer.col "more_info"
  { live := .caseOf [
      (isOfType ctx .choice, .aggregate .max chosen),
      (isOfType ctx .choiceMultiple, .joinDistinct chosen),
      (isOfType ctx .inlineChoice, .aggregate .max chosen),
      (isOfType ctx .extendedText, .aggregate .max written),
      (isOfType ctx .likertScale, .aggregate .max (Table.scale.col "title"))]
      .null
    liveParts := [
      Table.questionAnswer.leftJoin (.and
        (.eq (Table.questionAnswer.col "id_answer") (Table.surveyAnswer.col "id_answer"))
        (.oneOf (Table.question.col "type_quest") QuestionType.choice.expr
          [QuestionType.choiceMultiple.expr, QuestionType.inlineChoice.expr,
            QuestionType.likertScale.expr])),
      Table.scale.leftJoin (.joined .and
        (.eq (Table.scale.col "id_poll") (Table.surveyTrack.col "id_poll")) [
        .eq (Table.question.col "type_quest") QuestionType.likertScale.expr,
        .eq (Table.surveyAnswer.col "id_answer") (Table.question.col "id_answer"),
        .eq (Table.scale.col "id") (.tryCast written "INTEGER")])] }

def surveyColumn? : Field → Option Builder
  | .groupGroupOrBranchName => some groupOrBranch
  | .surveyId => some (detail .survey "id_poll")
  | .surveyTitle => some (detail .survey "title")
  | .surveyDescription => some (detail .survey "description")
  | .surveyTrackingType => some trackingType
  | .surveyCompletionId => some completionId
  | .surveyCompletionDate => some completionDate
  | .questionId => some (detail .question "id_quest")
  | .question => some (detail .question "title_quest")
  | .questionType => some questionType
  | .questionMandatory => some isMandatory
  | .answerUser => some answer
  | _ => none

/-- The column of a field of the user and course categories; the report has only some of them. -/
def sharedColumn? : Field → Option Builder
  | .userUserid => UserColumns.column? .userUserid
  | .userFirstname => UserColumns.column? .userFirstname
  | .userLastname => UserColumns.column? .userLastname
  | .userFullname => UserColumns.column? .userFullname
  | .userEmail => UserColumns.column? .userEmail
  | .courseId => CourseColumns.column? .courseId
  | .courseCode => CourseColumns.column? .courseCode
  | .courseName => CourseColumns.column? .courseName
  | .courseType => CourseColumns.column? .courseType
  | _ => none

def column? (f : Field) : Option Builder := sharedColumn? f <|> surveyColumn? f

def customColumn (ctx : Context) (f : ResolvedField) : Column :=
  match f.field.entity with
  | .course => CustomColumns.course (Table.enrollment.col "idCourse") ctx f
  | .user | .enrollment | .session | .plan => { live := .empty }

/-! ## Base -/

def questionColumns : List String × List String :=
  (["id_quest", "id_poll", "id_category", "type_quest"], ["sequence", "page", "mandatory"])

/-- The questions without a scale, under the names of their columns. -/
def plainQuestions : Sql.Subselect :=
  let column (c : String) : Sql.Item := ⟨.name c, none⟩
  { items := questionColumns.1.map column ++ [column "title_quest"] ++ questionColumns.2.map column
      ++ [⟨.null, some (.name "id_answer")⟩]
    table := Table.question.name
    conditions := [.ne (.name "type_quest") QuestionType.likertScale.expr] }

/-- The statements of the questions with a scale, each behind the title of its question. -/
def scaleStatements : Sql.Subselect :=
  let column (c : String) : Sql.Item := ⟨Table.question.col c, none⟩
  { items := questionColumns.1.map column
      ++ [⟨.concat3 (Table.question.col "title_quest") (.str " - ")
          (Table.questionAnswer.col "answer"), some (.name "title_quest")⟩]
      ++ questionColumns.2.map column ++ [⟨Table.questionAnswer.col "id_answer", none⟩]
    table := Table.question.name
    handle := some Table.question.handle
    joins := [⟨.inner, Table.questionAnswer.name, Table.questionAnswer.handle, .and
      (.eq (Table.questionAnswer.col "id_quest") (Table.question.col "id_quest"))
      (.eq (Table.question.col "type_quest") QuestionType.likertScale.expr)⟩] }

/-- The groups of the report: the visible ones and those that stand for branches. -/
def groupConditions (ctx : Context) : List Expr :=
  (Selection.groups ctx.definition).conditions (.name "idst")
  ++ [.paren (.or (.eq (.name "hidden") (.str "false"))
    (.op .escape (.op .like (.name "groupid") (.str "/oc|_%")) (.str "|")))]

def enrollmentConditions (ctx : Context) : List Expr :=
  ctx.filters.users.conditions (.name "idUser")
  ++ ctx.userFieldConditions (.name "idUser")
  ++ ctx.filters.courses.conditions (.name "idCourse")
  ++ learners ctx (.name "level")
  ++ enrollmentDates ctx

/-- All columns of the rows that keep one condition. -/
def rowsWith (t : Table) (condition : Expr) : Sql.Subselect :=
  { items := [⟨.word "*", none⟩], table := t.name, conditions := [condition] }

/-- The conditions under which a survey track belongs to an item track. -/
def trackConditions (ctx : Context) : Expr :=
  .joined .and (.eq (Table.surveyTrack.col "id_track") (Table.itemTrack.col "idTrack")) ([
    .eq (Table.itemTrack.col "objectType") surveyItem,
    .eq (Table.surveyTrack.col "id_user") (Table.user.col "idst")]
    ++ (DateFilter.condition? (Table.itemTrack.col "last_complete")
      ctx.definition.surveyCompletionDate).toList)

def base (ctx : Context) : Base :=
  { live := [
      .define Table.statedQuestion.name (.union [plainQuestions, scaleStatements]),
      Table.group.rows (groupConditions ctx),
      Table.groupMember.joinRows ((Selection.groups ctx.definition).conditions (.name "idst"))
        (.eq (Table.groupMember.col "idst") (Table.group.col "idst")),
      Table.user.joinQuery (rowsWith .user (.eq (.name "valid") (.int 1)))
        (.eq (Table.user.col "idst") (Table.groupMember.col "idstMember")),
      Table.enrollment.joinRows (enrollmentConditions ctx)
        (.eq (Table.enrollment.col "idUser") (Table.groupMember.col "idstMember")),
      Table.course.joinRows (courses ctx)
        (.eq (Table.course.col "idCourse") (Table.enrollment.col "idCourse")),
      Table.courseItem.join (.and
        (.eq (Table.enrollment.col "idCourse") (Table.courseItem.col "idCourse"))
        (.eq (Table.courseItem.col "objectType") surveyItem)),
      Table.itemTrack.join (.and
        (.eq (Table.itemTrack.col "idReference") (Table.courseItem.col "idOrg"))
        (.eq (Table.itemTrack.col "idUser") (Table.user.col "idst"))),
      Table.surveyTrack.joinQuery (rowsWith .surveyTrack (.eq (.name "status") (.str "valid")))
        (trackConditions ctx),
      Table.survey.joinRows (ctx.filters.surveys.conditions (.name "id_poll"))
        (.eq (Table.survey.col "id_poll") (Table.surveyTrack.col "id_poll")),
      .source (.leftJoin Table.surveyAnswer.name Table.surveyAnswer.handle
        (.eq (Table.surveyAnswer.col "id_track") (Table.surveyTrack.col "id_track"))),
      Table.statedQuestion.join (.and
        (.eq (Table.question.col "id_quest") (Table.surveyAnswer.col "id_quest"))
        (.op .notAmong (Table.question.col "type_quest")
          (.paren (.pair QuestionType.title.expr QuestionType.breakPage.expr)))),
      .groupBy [Table.user.col "idst", Table.enrollment.col "idCourse",
        Table.question.col "id_quest", Table.question.col "title_quest"]] }

end LearningReports.SurveyAnswers
