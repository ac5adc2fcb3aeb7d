import LearningReports.Sql.Branch

/-! # Tables of the warehouse

Every table has one short name under which queries refer to it. -/
namespace LearningReports

structure Table where
  name : String
  handle : String
  deriving Repr, DecidableEq

namespace Table

def col (t : Table) (column : String) : Sql.Expr := .col t.handle column

/-- The table joined so that rows without a partner stay; requested once per short name. -/
def leftJoin (t : Table) (condition : Sql.Expr) : Sql.Fragment :=
  .join t.handle [.leftJoin t.name t.handle condition]

/-- The table joined under a short name of its own, so that rows without a partner stay. -/
def leftJoinAs (t : Table) (handle : String) (condition : Sql.Expr) : Sql.Fragment :=
  .join handle [.leftJoin t.name handle condition]

/-- The table joined so that only rows with a partner stay. -/
def join (t : Table) (condition : Sql.Expr) : Sql.Fragment :=
  .source (.joinTable t.name t.handle condition)

/-- All columns of the rows that keep some conditions, under the short name. -/
def rows (t : Table) (conditions : List Sql.Expr) : Sql.Fragment :=
  .source (.first (.inner (.rows t.name conditions)) t.handle)

/-- The rows of an inner query over the table, joined so that only rows with a partner stay. -/
def joinQuery (t : Table) (query : Sql.Subselect) (condition : Sql.Expr) : Sql.Fragment :=
  .source (.joinRows query t.handle condition)

/-- The rows that keep some conditions, joined so that only rows with a partner stay. -/
def joinRows (t : Table) (conditions : List Sql.Expr) (condition : Sql.Expr) : Sql.Fragment :=
  t.joinQuery (.rows t.name conditions) condition

/-! ## Users -/

def user : Table := ⟨"core_user", "cu"⟩

def userLevel : Table := ⟨"core_user_levels", "cul"⟩

def userBranches : Table := ⟨"core_user_branches", "cub"⟩

def userBranchNames : Table := ⟨"core_user_branches_names", "cubn"⟩

def userFieldValue : Table := ⟨"core_user_field_value", "cufv"⟩

def userFieldOption : Table := ⟨"core_user_field_dropdown_translations", "cufdt"⟩

def country : Table := ⟨"core_country", "cc"⟩

def language : Table := ⟨"core_lang_language", "cll"⟩

def supervisor : Table := ⟨"skill_managers", "sm"⟩

/-- Users once more, as the managers of other users. -/
def manager : Table := ⟨"core_user", "cus"⟩

def group : Table := ⟨"core_group", "cg"⟩

def groupMember : Table := ⟨"core_group_members", "cgm"⟩

def branchTree : Table := ⟨"core_org_chart_tree", "coct"⟩

def branch : Table := ⟨"core_org_chart", "coc"⟩

def role : Table := ⟨"rbac_assignment", "ra"⟩

/-! ## Courses and enrollments -/

def course : Table := ⟨"learning_course", "lc"⟩

def category : Table := ⟨"learning_category", "lca"⟩

def courseFieldValue : Table := ⟨"learning_course_field_value", "lcfv"⟩

def courseFieldOption : Table := ⟨"learning_course_field_dropdown_translations", "lcfdt"⟩

def skill : Table := ⟨"skill_skills", "ss"⟩

def skillObject : Table := ⟨"skill_skills_objects", "sso"⟩

/-- The named query of the skills of each course. -/
def courseSkills : Table := ⟨"skills_with", "ssw"⟩

def enrollment : Table := ⟨"learning_courseuser_aggregate", "lcu_a"⟩

/-- Enrollments as they are written, without their totals. -/
def plainEnrollment : Table := ⟨"learning_courseuser", "lcu"⟩

def signature : Table := ⟨"learning_courseuser_sign", "lcus"⟩

def enrollmentFieldOption : Table := ⟨"learning_enrollment_fields_dropdown", "lefd"⟩

def tracking : Table := ⟨"learning_tracksession_aggregate", "lta"⟩

def courseItemCount : Table := ⟨"learning_organization_count", "loc"⟩

def completedItems : Table := ⟨"learning_commontrack_completed", "lcoc"⟩

def courseTime : Table := ⟨"course_session_time_aggregate", "csta"⟩

def archivedEnrollment : Table := ⟨"archived_enrollment_course", "aec"⟩

def archivedSession : Table := ⟨"archived_enrollment_session", "aes"⟩

/-! ## Classroom sessions -/

def sessionEnrollment : Table := ⟨"lt_courseuser_session_details", "ltcusd"⟩

def sessionInstructor : Table := ⟨"lt_course_session_instructor", "ltcsi"⟩

def sessionInstructors : Table := ⟨"lt_course_session_instructor_aggregate", "ltcsia"⟩

def sessionAttendance : Table := ⟨"lt_course_session_date_attendance_aggregate", "ltcsdaa"⟩

def sessionFieldValue : Table := ⟨"lt_course_session_field_value", "ltcsfv"⟩

/-! ## Surveys -/

def courseItem : Table := ⟨"learning_organization", "lo"⟩

def itemTrack : Table := ⟨"learning_commontrack", "lco"⟩

def sharedItem : Table := ⟨"learning_repository_object", "lro"⟩

def survey : Table := ⟨"learning_poll", "lp"⟩

def surveyTrack : Table := ⟨"learning_polltrack", "lpt"⟩

def surveyAnswer : Table := ⟨"learning_polltrack_answer", "lpta"⟩

def question : Table := ⟨"learning_pollquest", "lpq"⟩

def questionAnswer : Table := ⟨"learning_pollquestanswer", "lpqa"⟩

/-- The named query of the questions with one row for each statement of a scale. -/
def statedQuestion : Table := ⟨"learning_pollquest_with", "lpq"⟩

def scale : Table := ⟨"learning_poll_likert_scale", "lpls"⟩

/-! ## Assets -/

def asset : Table := ⟨"app7020_content", "c"⟩

def assetPublication : Table := ⟨"app7020_content_published", "cop"⟩

def assetChannel : Table := ⟨"app7020_channel_assets", "cha"⟩

def channelName : Table := ⟨"app7020_channel_translation", "cht"⟩

def assetRating : Table := ⟨"app7020_content_rating", "cr"⟩

def assetQuestion : Table := ⟨"app7020_question", "q"⟩

def assetAnswers : Table := ⟨"app7020_answer_aggregate", "aa"⟩

def assetLikes : Table := ⟨"app7020_answer_like_aggregate", "ala"⟩

def assetDislikes : Table := ⟨"app7020_answer_dislike_aggregate", "ada"⟩

def assetBestAnswer : Table := ⟨"app7020_best_answer_aggregate", "baa"⟩

def assetInvitations : Table := ⟨"app7020_invitations_aggregate", "ia"⟩

def assetReactionTime : Table := ⟨"app7020_invitations_average_time", "iat"⟩

def assetViews : Table := ⟨"app7020_content_history_aggregate", "coha"⟩

def assetTotalViews : Table := ⟨"app7020_content_history_total_views_aggregate", "cohtva"⟩

def assetHistory : Table := ⟨"app7020_content_history", "ch"⟩

/-! ## Learning plans -/

def plan : Table := ⟨"learning_coursepath", "lcp"⟩

def planUser : Table := ⟨"learning_coursepath_user", "lcpu"⟩

def planCourse : Table := ⟨"learning_coursepath_courses", "lcpc"⟩

def planCourseCount : Table := ⟨"learning_coursepath_courses_count", "lcpcc"⟩

def planCompletedCourses : Table := ⟨"learning_coursepath_user_completed_courses", "lcpucc"⟩

def planFieldValue : Table := ⟨"learning_coursepath_field_value", "lcpfv"⟩

/-- The named query of the users who have completed every mandatory course of a plan. -/
def planCompletion : Table :=
  ⟨"learning_coursepath_coursesuser_mandatory_complete_with", "lcpcumcw"⟩

end Table
end LearningReports
