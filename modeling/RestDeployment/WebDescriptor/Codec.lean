import RestDeployment.WebDescriptor
import RestDeployment.Json.Record

/-!
# The JSON form of web descriptors
-/

namespace RestDeployment

namespace Param

/-- The JSON form of a parameter; an unset value is written as `null`. -/
def toJson (p : Param) : Json :=
  .object [("name", .string p.name), ("value", Json.ofOption .string p.value)]

/-- Reads a parameter. -/
def ofJson? (j : Json) : Option Param := do
  let r ← Json.Record.of? ["name", "value"] j
  return {
    name := ← r.required "name" Json.string?
    value := ← r.nullable "value" Json.string? }

end Param

namespace Servlet

/-- The JSON form of a servlet. -/
def toJson (s : Servlet) : Json :=
  .object ([("name", .string s.name)] ++
    Json.member? "servlet_class" .string s.servletClass ++
    [("init_params", Json.ofList Param.toJson s.initParams),
      ("async_supported", .bool s.asyncSupported)] ++
    Json.member? "load_on_startup" .string s.loadOnStartup)

/-- Reads a servlet. -/
def ofJson? (j : Json) : Option Servlet := do
  let r ← Json.Record.of?
    ["name", "servlet_class", "init_params", "async_supported", "load_on_startup"] j
  return {
    name := ← r.required "name" Json.string?
    servletClass := ← r.optional "servlet_class" Json.string?
    initParams := ← r.listField "init_params" Param.ofJson?
    asyncSupported := ← r.withDefault "async_supported" Json.bool? false
    loadOnStartup := ← r.optional "load_on_startup" Json.string? }

end Servlet

namespace Filter

/-- The JSON form of a filter. -/
def toJson (f : Filter) : Json :=
  .object ([("name", .string f.name)] ++
    Json.member? "filter_class" .string f.filterClass ++
    [("init_params", Json.ofList Param.toJson f.initParams)])

/-- Reads a filter. -/
def ofJson? (j : Json) : Option Filter := do
  let r ← Json.Record.of? ["name", "filter_class", "init_params"] j
  return {
    name := ← r.required "name" Json.string?
    filterClass := ← r.optional "filter_class" Json.string?
    initParams := ← r.listField "init_params" Param.ofJson? }

end Filter

namespace ServletMapping

/-- The JSON form of a mapping. -/
def toJson (m : ServletMapping) : Json :=
  .object [("servlet_name", .string m.servletName), ("url_patterns", Json.ofStrings m.urlPatterns)]

/-- Reads a mapping. -/
def ofJson? (j : Json) : Option ServletMapping := do
  let r ← Json.Record.of? ["servlet_name", "url_patterns"] j
  return {
    servletName := ← r.required "servlet_name" Json.string?
    urlPatterns := ← r.listField "url_patterns" Json.string? }

end ServletMapping

namespace SecurityConstraint

/-- The JSON form of a security constraint. -/
def toJson (c : SecurityConstraint) : Json :=
  .object [("resource_name", .string c.resourceName),
    ("url_patterns", Json.ofStrings c.urlPatterns), ("roles", Json.ofStrings c.roles)]

/-- Reads a security constraint. -/
def ofJson? (j : Json) : Option SecurityConstraint := do
  let r ← Json.Record.of? ["resource_name", "url_patterns", "roles"] j
  return {
    resourceName := ← r.required "resource_name" Json.string?
    urlPatterns := ← r.listField "url_patterns" Json.string?
    roles := ← r.listField "roles" Json.string? }

end SecurityConstraint

namespace WebDescriptor

/-- The JSON form of a web descriptor. -/
def toJson (web : WebDescriptor) : Json :=
  .object [("metadata_complete", .bool web.metadataComplete),
    ("servlets", Json.ofList Servlet.toJson web.servlets),
    ("filters", Json.ofList Filter.toJson web.filters),
    ("servlet_mappings", Json.ofList ServletMapping.toJson web.servletMappings),
    ("context_params", Json.ofList Param.toJson web.contextParams),
    ("security_constraints", Json.ofList SecurityConstraint.toJson web.securityConstraints)]

/-- Reads a web descriptor. -/
def ofJson? (j : Json) : Option WebDescriptor := do
  let r ← Json.Record.of? ["metadata_complete", "servlets", "filters", "servlet_mappings",
    "context_params", "security_constraints"] j
  return {
    metadataComplete := ← r.withDefault "metadata_complete" Json.bool? false
    servlets := ← r.listField "servlets" Servlet.ofJson?
    filters := ← r.listField "filters" Filter.ofJson?
    servletMappings := ← r.listField "servlet_mappings" ServletMapping.ofJson?
    contextParams := ← r.listField "context_params" Param.ofJson?
    securityConstraints := ← r.listField "security_constraints" SecurityConstraint.ofJson? }

end WebDescriptor

end RestDeployment
