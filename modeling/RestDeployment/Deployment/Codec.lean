import RestDeployment.Deployment.Report
import RestDeployment.Metadata.Codec
import RestDeployment.WebDescriptor.Codec

/-!
# The JSON form of reports

Reports are only written.  What a unit does not have is left out.
-/

namespace RestDeployment

namespace Finding

/-- The JSON form of a finding. -/
def toJson (f : Finding) : Json :=
  .object [("kind", .string f.kind.name), ("subject", .string f.subject),
    ("message", .string f.message)]

end Finding

namespace MergeReport

/-- The JSON form of the report on a merge. -/
def toJson (r : MergeReport) : Json :=
  .object [("merged", Json.ofStrings r.merged), ("missing", Json.ofStrings r.missing),
    ("dropped", Json.ofStrings r.dropped)]

end MergeReport

namespace SkipReason

/-- The name of a reason. -/
def name : SkipReason → String
  | .dispatcherCreated => "dispatcher_created"
  | .bootClasses => "boot_classes"

end SkipReason

namespace Registration

/-- The JSON form of the outcome of a registration. -/
def toJson : Registration → Json
  | .skipped reason => .object [("outcome", .string "skipped"), ("reason", .string reason.name)]
  | .defaultServlet added =>
    .object [("outcome", .string "default_servlet"), ("added", .bool added)]
  | .applicationServlets servlets mappings =>
    .object [("outcome", .string "application_servlets"), ("servlets", Json.ofStrings servlets),
      ("mappings_added", Json.ofStrings mappings)]

end Registration

namespace Deployment

namespace UnitReport

/-- The JSON form of the report on a unit. -/
def toJson (u : UnitReport) : Json :=
  .object ([("id", .string u.id)] ++ Json.member? "parent" .string u.parent ++
    [("phase", .string u.phase.name), ("metadata", u.metadata.toJson)] ++
    Json.member? "merge" MergeReport.toJson u.merge ++
    Json.member? "synthesis" Registration.toJson u.registration ++
    Json.member? "descriptor" WebDescriptor.toJson u.descriptor ++
    [("diagnostics", Json.ofList Finding.toJson u.findings)])

end UnitReport

namespace Report

/-- The JSON form of a report. -/
def toJson (r : Report) : Json :=
  .object [("deployment", .string r.deployment), ("units", Json.ofList UnitReport.toJson r.units)]

end Report

end Deployment

end RestDeployment
