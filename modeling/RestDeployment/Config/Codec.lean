import RestDeployment.Config
import RestDeployment.Json.Reader
import RestDeployment.Json.Record

/-!
# The JSON form of a configuration

Every field may be left out and has its default then.
-/

namespace RestDeployment

namespace Dispatcher

/-- The JSON form of a dispatcher. -/
def toJson (d : Dispatcher) : Json :=
  .object [("servlet_class", .string d.servletClass),
    ("servlet_mode_param", .string d.servletModeParam),
    ("delegate_param", .string d.delegateParam),
    ("delegate_class", .string d.delegateClass),
    ("recognized_names", Json.ofStrings d.recognizedNames),
    ("allowed_classes", Json.ofStrings d.allowedClasses)]

/-- Reads a dispatcher. -/
def ofJson? (j : Json) : Option Dispatcher := do
  let r ← Json.Record.of? ["servlet_class", "servlet_mode_param", "delegate_param",
    "delegate_class", "recognized_names", "allowed_classes"] j
  let d : Dispatcher := {}
  return {
    servletClass := ← r.withDefault "servlet_class" Json.string? d.servletClass
    servletModeParam := ← r.withDefault "servlet_mode_param" Json.string? d.servletModeParam
    delegateParam := ← r.withDefault "delegate_param" Json.string? d.delegateParam
    delegateClass := ← r.withDefault "delegate_class" Json.string? d.delegateClass
    recognizedNames :=
      ← r.withDefault "recognized_names" (Json.list? Json.string?) d.recognizedNames
    allowedClasses :=
      ← r.withDefault "allowed_classes" (Json.list? Json.string?) d.allowedClasses }

end Dispatcher

namespace Config

/-- The JSON form of a configuration. -/
def toJson (c : Config) : Json :=
  .object [("dispatcher", c.dispatcher.toJson),
    ("boot_classes", Json.ofStrings c.bootClasses),
    ("session_bean_markers", Json.ofStrings c.sessionBeanMarkers),
    ("parallel", .bool c.parallel)]

/-- Reads a configuration. -/
def ofJson? (j : Json) : Option Config := do
  let r ← Json.Record.of? ["dispatcher", "boot_classes", "session_bean_markers", "parallel"] j
  let c : Config := {}
  return {
    dispatcher := ← r.withDefault "dispatcher" Dispatcher.ofJson? c.dispatcher
    bootClasses := ← r.withDefault "boot_classes" (Json.list? Json.string?) c.bootClasses
    sessionBeanMarkers :=
      ← r.withDefault "session_bean_markers" (Json.list? Json.string?) c.sessionBeanMarkers
    parallel := ← r.withDefault "parallel" Json.bool? c.parallel }

/-- The configuration that a text holds. -/
def ofText? (text : String) : Option Config := do
  ofJson? (← Json.read? text)

end Config

end RestDeployment
