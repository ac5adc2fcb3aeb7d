import LearningReports.Directory.Basic

/-! # Remembered custom fields

A directory that remembers the custom fields of every entity that it has told of. A failed answer is
not remembered, so it is asked for again. -/
namespace LearningReports

/-- The custom fields told so far, by entity. -/
abbrev FieldMemory := List (Entity × List FieldMetadata)

/-- Actions that may fail and keep what was remembered when they do. -/
abbrev Remembering := ExceptT Failure (StateM FieldMemory)

namespace FieldMemory

def known? (memory : FieldMemory) (e : Entity) : Option (List FieldMetadata) :=
  (memory.find? (·.1 == e)).map (·.2)

end FieldMemory

/-- An outcome that leaves the memory alone. -/
def Remembering.ofOutcome {α : Type} (a : Outcome α) : Remembering α := ExceptT.mk (pure a)

/-- The custom fields of an entity: as remembered, else as told now. -/
def Directory.rememberedFields (dir : Directory Outcome) (e : Entity) :
    Remembering (List FieldMetadata) := do
  match FieldMemory.known? (← get) e with
  | some fields => return fields
  | none =>
    let fields ← Remembering.ofOutcome (dir.customFields e)
    modify fun memory => memory ++ [(e, fields)]
    return fields

def Directory.remembering (dir : Directory Outcome) : Directory Remembering where
  session := .ofOutcome dir.session
  wordings keys lang := .ofOutcome (dir.wordings keys lang)
  groups ids := .ofOutcome (dir.groups ids)
  branches ids := .ofOutcome (dir.branches ids)
  branchBound := .ofOutcome dir.branchBound
  customFields e := dir.rememberedFields e
  subordinates id types := .ofOutcome (dir.subordinates id types)
  assignedUsers := .ofOutcome dir.assignedUsers
  assignedCourses := .ofOutcome dir.assignedCourses
  assignedPlans := .ofOutcome dir.assignedPlans

end LearningReports
