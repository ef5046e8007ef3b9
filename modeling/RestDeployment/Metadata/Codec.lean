import RestDeployment.Metadata
import RestDeployment.Json.Record

/-!
# The JSON form of metadata

Sets are written as increasing lists and read from lists in any order and with
any repetitions; applications are members under their keys, which need not be
their names.
-/

namespace RestDeployment

namespace NameSet

/-- The JSON form of a set of names. -/
def toJson (s : NameSet) : Json := Json.ofStrings s.toList

/-- Reads a set of names. -/
def ofJson? (j : Json) : Option NameSet := (j.list? Json.string?).map ofList

end NameSet

namespace NameMap

variable {α : Type}

/-- The JSON form of a map. -/
def toJson (value : α → Json) (m : NameMap α) : Json :=
  .object (m.entries.map fun entry => (entry.1, value entry.2))

/-- Reads a map; a later member of an object overrides an earlier one. -/
def ofJson? (value? : Json → Option α) : Json → Option (NameMap α)
  | .object members =>
    (members.mapM fun member => (value? member.2).map fun a => (member.1, a)).map ofList
  | _ => none

end NameMap

namespace ScanPolicy

/-- The JSON form of a policy. -/
def toJson (p : ScanPolicy) : Json :=
  .object [("scan_all", .bool p.scanAll), ("scan_providers", .bool p.scanProviders),
    ("scan_resources", .bool p.scanResources), ("has_boot_classes", .bool p.hasBootClasses)]

/-- Reads a policy. -/
def ofJson? (j : Json) : Option ScanPolicy := do
  let r ← Json.Record.of? ["scan_all", "scan_providers", "scan_resources", "has_boot_classes"] j
  return {
    scanAll := ← r.required "scan_all" Json.bool?
    scanProviders := ← r.required "scan_providers" Json.bool?
    scanResources := ← r.required "scan_resources" Json.bool?
    hasBootClasses := ← r.required "has_boot_classes" Json.bool? }

end ScanPolicy

namespace Application

/-- The JSON form of an application. -/
def toJson (a : Application) : Json :=
  .object (("name", .string a.name) :: Json.member? "application_path" .string a.path)

/-- Reads an application. -/
def ofJson? (j : Json) : Option Application := do
  let r ← Json.Record.of? ["name", "application_path"] j
  return {
    name := ← r.required "name" Json.string?
    path := ← r.optional "application_path" Json.string? }

end Application

namespace Metadata

/-- The fields of metadata, in order. -/
def fieldNames : List String :=
  ["policy", "application_classes", "provider_classes", "resource_classes",
    "jndi_component_resources", "has_boot_classes", "dispatcher_created",
    "ignore_application_path", "unwrapped_exceptions_set"]

/-- The JSON form of metadata. -/
def toJson (m : Metadata) : Json :=
  .object [("policy", m.policy.toJson),
    ("application_classes", m.applications.toJson Application.toJson),
    ("provider_classes", m.providers.toJson),
    ("resource_classes", m.resources.toJson),
    ("jndi_component_resources", m.jndiResources.toJson),
    ("has_boot_classes", .bool m.hasBootClasses),
    ("dispatcher_created", .bool m.dispatcherCreated),
    ("ignore_application_path", .bool m.ignoreApplicationPath),
    ("unwrapped_exceptions_set", .bool m.unwrappedExceptionsSet)]

/-- Reads metadata. -/
def ofJson? (j : Json) : Option Metadata := do
  let r ← Json.Record.of? fieldNames j
  return {
    policy := ← r.required "policy" ScanPolicy.ofJson?
    applications := ← r.required "application_classes" (NameMap.ofJson? Application.ofJson?)
    providers := ← r.required "provider_classes" NameSet.ofJson?
    resources := ← r.required "resource_classes" NameSet.ofJson?
    jndiResources := ← r.required "jndi_component_resources" NameSet.ofJson?
    hasBootClasses := ← r.required "has_boot_classes" Json.bool?
    dispatcherCreated := ← r.required "dispatcher_created" Json.bool?
    ignoreApplicationPath := ← r.required "ignore_application_path" Json.bool?
    unwrappedExceptionsSet := ← r.required "unwrapped_exceptions_set" Json.bool? }

end Metadata

end RestDeployment
