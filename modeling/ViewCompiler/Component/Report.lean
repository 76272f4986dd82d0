import ViewCompiler.Component.Registry
import ViewCompiler.Value.Data

/-!
# Registry reports

What a registry holds, as data.
-/

namespace ViewCompiler

/-- The data of a property. -/
def Schema.report (schema : Schema) : Json :=
  .object
    [("type", .text schema.label), ("required", .bool schema.required),
      ("default", schema.default.toJson)]

def Json.ofNames (names : List String) : Json :=
  .array (names.map .text)

/-- The data of a component. -/
def Validator.report (validator : Validator) : Json :=
  .object
    [("total_props", .number (.int validator.schemas.length)),
      ("required_props", .ofNames validator.requiredProps),
      ("optional_props", .ofNames validator.optionalProps),
      ("prop_types",
        .object (Entries.mapValues Schema.report validator.schemas))]

namespace Registry

def componentReports (registry : Registry) : Entries Json :=
  registry.validators.map fun validator =>
    (validator.component, validator.report)

def report (registry : Registry) : Json :=
  .object
    [("total_components", .number (.int registry.components.length)),
      ("components", .object registry.componentReports),
      ("global_rules", .ofNames registry.ruleNames)]

end Registry

end ViewCompiler
