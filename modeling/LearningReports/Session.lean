import LearningReports.Catalog.ReportType
import LearningReports.Json.Loose

/-! # Sessions

Who asks for a report and what the platform has switched on. The texts of a session come from the
directory unchecked, so they are kept as they were given. -/
namespace LearningReports

/-- The permission level of the caller. -/
inductive Level where
  | user
  | powerUser
  | administrator
  deriving Repr, DecidableEq

def Level.named : List (String × Level) :=
  [("user", .user), ("power_user", .powerUser), ("godadmin", .administrator)]

/-- The level with a given name, or the failure that shows the value given for it. -/
def Level.ofName (v : Json) : Outcome Level :=
  match v.text?.bind (lookup? · named) with
  | some l => .ok l
  | none => .error (.notMember v.shown "UserLevel")

/-- The most rows of each kind of export. -/
structure ExportLimits where
  csv : Int := 2000000
  xlsx : Int := 1000000
  preview : Int := 100
  deriving Repr, DecidableEq

structure Platform where
  baseUrl : Json := .str ""
  defaultLanguage : Json := .str "english"
  defaultLanguageCode : Json := .str "en"
  plugins : List String := ["classroom", "esignature", "flow", "flowMsTeams"]
  toggles : List String := ["datalakeV3"]
  firstNameFirst : Bool := true
  hasAssignmentTypes : Bool := false
  limits : ExportLimits := {}
  deriving Repr

structure Session where
  idUser : Int
  level : Level := .administrator
  lang : Json := .str "english"
  langCode : Json := .str "en"
  timezone : Json := .str "UTC"
  platform : Platform := {}
  deriving Repr

structure ExportUse where
  isPreview : Bool := false
  fromSchedule : Bool := false
  deriving Repr, DecidableEq

namespace Platform

/-- A plugin, a toggle or a setting of the given name is on. -/
def isEnabled (p : Platform) (name : String) : Bool :=
  if name = Feature.assignmentTypes.name then p.hasAssignmentTypes
  else p.plugins.contains name || p.toggles.contains name

def hasFeature (p : Platform) (f : Feature) : Bool := p.isEnabled f.name

/-- Enrollments are archived when a course is taken again. -/
def hasArchive (p : Platform) : Bool := p.toggles.contains Feature.archivedEnrollments.name

/-- The most rows that an export may have. -/
def exportCap (p : Platform) (use : ExportUse) : Int :=
  if use.isPreview then p.limits.preview
  else if use.fromSchedule then p.limits.csv
  else p.limits.xlsx

/-- The rows to fetch: a positive limit within the cap, or the cap. -/
def rowLimit (p : Platform) (limit : Int) (use : ExportUse) : Int :=
  if 0 < limit then min limit (p.exportCap use) else p.exportCap use

end Platform

namespace Session

/-- The caller sees only what was assigned to them. -/
def isPowerUser (s : Session) : Bool := s.level == .powerUser

/-- The caller sees everything. -/
def isAdministrator (s : Session) : Bool := s.level == .administrator

/-- The code of the language of the caller, or of the platform when the caller has none. -/
def languageCode (s : Session) : Json := s.langCode.orDefault s.platform.defaultLanguageCode

/-- The session of a caller without a token. -/
def anonymous (limits : ExportLimits) : Session := { idUser := 0, platform := { limits := limits } }

def enabledNames (flags : Json) : Outcome (List String) := do
  let ms ← (flags.orDefault Json.noMembers).members
  return (ms.filter (·.2.isPresent)).map (·.1)

def platformOfPayload (payload : Json) (limits : ExportLimits) : Outcome Platform := do
  let platform ← payload.memberOr "platform" Json.noMembers
  let configs ← platform.memberOr "configs" Json.noMembers
  return {
    baseUrl := ← platform.memberOr "platformBaseUrl" (.str "")
    defaultLanguage := ← platform.memberOr "defaultLanguage" (.str "english")
    defaultLanguageCode := ← platform.memberOr "defaultLanguageCode" (.str "en")
    plugins := ← enabledNames (← platform.memberOr "plugins" Json.noMembers)
    toggles := ← enabledNames (← platform.memberOr "toggles" Json.noMembers)
    firstNameFirst := (← configs.memberOr "showFirstNameFirst" (.bool true)).isPresent
    hasAssignmentTypes :=
      (← configs.memberOr "isCoursesAssignmentTypeActive" (.bool false)).isPresent
    limits := limits }

/-- The session that a payload of the directory describes. -/
def ofPayload (payload : Json) (limits : ExportLimits) : Outcome Session := do
  let user ← payload.memberOr "user" Json.noMembers
  let platform ← platformOfPayload payload limits
  return {
    idUser := ← (← user.memberOr "idUser" (.int 0)).toInteger
    level := ← Level.ofName (← user.memberOr "level" (.str "godadmin"))
    lang := ← user.memberOr "lang" platform.defaultLanguage
    langCode := ← user.memberOr "langCode" platform.defaultLanguageCode
    timezone := (← user.memberOrNull "timezone").orDefault (.str "UTC")
    platform := platform }

end Session
end LearningReports
