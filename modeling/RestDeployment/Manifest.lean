import RestDeployment.BuildUnit
import RestDeployment.ClassEntry.Codec
import RestDeployment.ClassTable
import RestDeployment.Config
import RestDeployment.Json.Reader
import RestDeployment.WebDescriptor.Codec

/-!
# Manifests

A manifest describes a deployment in one JSON text: its units with their classes,
the further classes that each can load, and the descriptors of its web
applications.  Building the units puts the classes into tables; the dispatcher and
boot classes of the configuration can be loaded everywhere.
-/

namespace RestDeployment

/-- The description of a unit. -/
structure UnitManifest where
  id : String
  parent : Option String := none
  dependencies : List String := []
  classes : List ClassEntry := []
  /-- The names that can be loaded besides the classes. -/
  visible : List String := []
  descriptor : Option WebDescriptor := none
deriving DecidableEq

/-- The description of a deployment. -/
structure Manifest where
  deployment : String
  units : List UnitManifest := []
deriving DecidableEq

namespace UnitManifest

/-- The class table of the unit. -/
def table (u : UnitManifest) : ClassTable := ClassTable.ofList u.classes

/-- Builds the unit. -/
def build (config : Config) (u : UnitManifest) : BuildUnit where
  id := u.id
  parent := u.parent
  index := u.table.toIndex
  loader := u.table.loader (u.visible ++ config.dispatcher.servletClass :: config.bootClasses)
  dependencies := u.dependencies
  descriptor := u.descriptor

/-- The JSON form of the description of a unit. -/
def toJson (u : UnitManifest) : Json :=
  .object ([("id", .string u.id)] ++ Json.member? "parent" .string u.parent ++
    [("dependencies", Json.ofStrings u.dependencies),
      ("classes", Json.ofList ClassEntry.toJson u.classes),
      ("visible", Json.ofStrings u.visible)] ++
    Json.member? "descriptor" WebDescriptor.toJson u.descriptor)

/-- Reads the description of a unit. -/
def ofJson? (j : Json) : Option UnitManifest := do
  let r ← Json.Record.of?
    ["id", "parent", "dependencies", "classes", "visible", "descriptor"] j
  return {
    id := ← r.required "id" Json.string?
    parent := ← r.optional "parent" Json.string?
    dependencies := ← r.listField "dependencies" Json.string?
    classes := ← r.listField "classes" ClassEntry.ofJson?
    visible := ← r.listField "visible" Json.string?
    descriptor := ← r.optional "descriptor" WebDescriptor.ofJson? }

end UnitManifest

namespace Manifest

/-- Builds the units of a deployment. -/
def build (config : Config) (m : Manifest) : List BuildUnit :=
  m.units.map (UnitManifest.build config)

/-- The JSON form of a manifest. -/
def toJson (m : Manifest) : Json :=
  .object [("deployment", .string m.deployment), ("units", Json.ofList UnitManifest.toJson m.units)]

/-- Reads a manifest. -/
def ofJson? (j : Json) : Option Manifest := do
  let r ← Json.Record.of? ["deployment", "units"] j
  return {
    deployment := ← r.required "deployment" Json.string?
    units := ← r.listField "units" UnitManifest.ofJson? }

/-- The manifest that a text holds. -/
def ofText? (text : String) : Option Manifest := do
  ofJson? (← Json.read? text)

end Manifest

end RestDeployment
