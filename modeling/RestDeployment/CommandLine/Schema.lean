import RestDeployment.Json

/-!
# The schema of manifests

A JSON schema (draft 2020-12) of the texts that `Manifest.ofText?` reads.
-/

namespace RestDeployment.CommandLine.Schema

/-! ### Parts -/

/-- The schema of a string. -/
def text : Json := .object [("type", .string "string")]

/-- The schema of a string or `null`. -/
def optionalText : Json := .object [("type", .array [.string "string", .string "null"])]

/-- The schema of a Boolean that is false by default. -/
def flag : Json := .object [("default", .bool false), ("type", .string "boolean")]

/-- The place of a definition. -/
def place (name : String) : Json := .string ("#/$defs/" ++ name)

/-- A reference to a definition. -/
def reference (name : String) : Json := .object [("$ref", place name)]

/-- The members of the schema of a list that is empty by default. -/
def listMembers (item : Json) : List (String × Json) :=
  [("default", .array []), ("items", item), ("type", .string "array")]

/-- The schema of a list that is empty by default. -/
def listOf (item : Json) : Json := .object (listMembers item)

/-- A property with a description. -/
def described (description : String) (members : List (String × Json)) : Json :=
  .object (("description", .string description) :: members)

/-- The schema of one of several words. -/
def oneOf (words : List String) : Json :=
  .object [("enum", .array (words.map .string)), ("type", .string "string")]

/-- The members of the schema of a record. -/
def recordMembers (properties : List (String × Json)) (required : List String) :
    List (String × Json) :=
  [("properties", .object properties)] ++
    (if required.isEmpty then [] else [("required", .array (required.map .string))]) ++
    [("type", .string "object")]

/-- The schema of a record. -/
def record (properties : List (String × Json)) (required : List String) : Json :=
  .object (recordMembers properties required)

/-! ### Definitions -/

/-- The schema of an annotation. -/
def use : Json :=
  described "An annotation usage together with its `value` member, if any."
    (recordMembers [("name", text), ("value", optionalText)] ["name"])

/-- The schema of a class entry. -/
def classInfo : Json :=
  described ("Tagged class identity as recorded by an annotation index.\n\n" ++
      "Classification works purely on this data; turning a name into a loadable\n" ++
      "handle is left to a [`crate::ClassResolver`].")
    (recordMembers
      [("annotations", listOf (reference "Annotation")),
        ("fields", listOf (reference "MemberInfo")),
        ("interfaces", listOf text),
        ("kind", .object [("$ref", place "ClassKind"), ("default", .string "class")]),
        ("methods", listOf (reference "MemberInfo")),
        ("modifiers", listOf (reference "Modifier")),
        ("name", text),
        ("super_name", optionalText)]
      ["name"])

/-- The schema of a descriptor. -/
def webDescriptor : Json :=
  described ("One web application's deployment descriptor.\n\n" ++
      "Owned by the surrounding deployment; the pipeline only appends to it or\nqueries it.")
    (recordMembers
      [("context_params", listOf (reference "ParamValue")),
        ("filters", listOf (reference "FilterMetaData")),
        ("metadata_complete", flag),
        ("security_constraints", listOf (reference "SecurityConstraint")),
        ("servlet_mappings", listOf (reference "ServletMapping")),
        ("servlets", listOf (reference "ServletMetaData"))]
      [])

/-- The schema of the description of a unit. -/
def unit : Json :=
  record
    [("classes", described "Classes in this unit's annotation index."
        (listMembers (reference "ClassInfo"))),
      ("dependencies", listOf text),
      ("descriptor", .object
        [("anyOf", .array [reference "WebDescriptor", .object [("type", .string "null")]]),
          ("description", .string "Present for web units.")]),
      ("id", text),
      ("parent", optionalText),
      ("visible", described ("Additional class names loadable from this unit, e.g. from its\n" ++
          "dependencies or the container.") (listMembers text))]
    ["id"]

/-- The definitions, by name. -/
def definitions : List (String × Json) :=
  [("Annotation", use),
    ("ClassInfo", classInfo),
    ("ClassKind", oneOf ["class", "interface", "enum", "annotation"]),
    ("FilterMetaData", record
      [("filter_class", optionalText), ("init_params", listOf (reference "ParamValue")),
        ("name", text)] ["name"]),
    ("MemberInfo", record
      [("annotations", listOf (reference "Annotation")), ("name", text)] ["name"]),
    ("Modifier", oneOf ["public", "protected", "private", "abstract", "static", "final"]),
    ("ParamValue", record [("name", text), ("value", optionalText)] ["name"]),
    ("SecurityConstraint", record
      [("resource_name", text), ("roles", listOf text), ("url_patterns", listOf text)]
      ["resource_name"]),
    ("ServletMapping", record
      [("servlet_name", text), ("url_patterns", listOf text)] ["servlet_name"]),
    ("ServletMetaData", record
      [("async_supported", flag), ("init_params", listOf (reference "ParamValue")),
        ("load_on_startup", optionalText), ("name", text), ("servlet_class", optionalText)]
      ["name"]),
    ("UnitFixture", unit),
    ("WebDescriptor", webDescriptor)]

/-- The schema of a manifest. -/
def manifest : Json :=
  .object ([("$schema", .string "https://json-schema.org/draft/2020-12/schema"),
      ("title", .string "DeploymentFixture")] ++
    recordMembers
      [("deployment", described "Name of the top-level deployment." [("type", .string "string")]),
        ("units", listOf (reference "UnitFixture"))]
      ["deployment"] ++
    [("$defs", .object definitions)])

end RestDeployment.CommandLine.Schema
