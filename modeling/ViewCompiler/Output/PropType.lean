import ViewCompiler.Value.Basic

/-!
# Types of properties in the generated code

The TypeScript type that stands for a shape in a generated interface.
-/

namespace ViewCompiler

/-- The TypeScript type of a shape; shapes without a counterpart are `any`. -/
def Kind.typeScript : Kind → String
  | string => "string"
  | number => "number"
  | boolean => "boolean"
  | function => "(...args: any[]) => any"
  | array => "any[]"
  | object | enum | union | any => "any"

end ViewCompiler
