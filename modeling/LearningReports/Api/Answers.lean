import LearningReports.Api.Service

/-! # Written answers -/
namespace LearningReports.Api.Encode

/-- A field of the catalog. -/
def catalogEntry (e : CatalogEntry) : Json := .obj [
  ("field", .str e.field), ("translation_key", .str e.labelKey), ("mandatory", .bool e.mandatory),
  ("is_additional_field", .bool e.custom), ("category", .str e.category),
  ("feature", .ofOption (fun f => .str f.name) e.feature)]

/-- The names of engines. -/
def engines (es : List Sql.Dialect) : Json := .texts (es.map Sql.Dialect.name)

def reportType (t : ReportType) : Json := .obj [
  ("type", .str t.name), ("dialects", engines t.engines),
  ("mandatory_fields", .texts t.mandatoryIds), ("default_sort", .str t.defaultSort.id),
  ("extra_field_entities", .texts (t.entities.map Entity.name)),
  ("fields", .ofList catalogEntry t.entries)]

def reportTypes : Json := .ofList reportType ReportType.all

def compileAnswer (a : CompileAnswer) : Json := .obj [
  ("sql", .str a.sql), ("dialect", .str a.engine.name), ("columns", .texts a.columns),
  ("unmapped_fields", .texts a.unmapped)]

/-- One step into a value. -/
def step : Step → Json
  | .key name => .str name
  | .index i => .int i

/-- An issue and its place. -/
def issue (i : Issue) : Json := .obj [
  ("type", .str i.kind.code), ("loc", .ofList step i.path), ("msg", .str i.kind.message)]

end LearningReports.Api.Encode
