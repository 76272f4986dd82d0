import ViewCompiler.Component.Registry
import ViewCompiler.Schema.Preset

/-!
# Built-in components

The components that every program can use.
-/

namespace ViewCompiler.Builtin

def requiredText : Schema :=
  .string { required := true } {}

/-- An optional whole number between two bounds. -/
def wholeNumber (minimum maximum default : Int) : Schema :=
  (Schema.number {} ⟨some (.int minimum), some (.int maximum), true⟩).optional
    (.int default)

def button : Entries Schema :=
  [("text", requiredText), ("onClick", .function { required := true })] ++
    Preset.htmlAttributes.filter (·.1 != "onClick") ++
    [("disabled", Preset.flag),
      ("variant",
        (Preset.choice ["primary", "secondary", "danger", "link"]).optional
          (.text "primary"))]

def input : Entries Schema :=
  Preset.formInputAttributes ++
    [("type",
      (Preset.choice ["text", "email", "password", "number", "search", "tel",
        "url"]).optional
        (.text "text"))]

def card : Entries Schema :=
  [("title", requiredText), ("subtitle", Preset.string),
    ("elevation", wholeNumber 0 24 1), ("onClick", Preset.function),
    ("className", Preset.string)]

def text : Entries Schema :=
  [("text", .union { required := true } [Preset.string, .number {} {}]),
    ("className", Preset.string)]

def title : Entries Schema :=
  [("text", requiredText), ("level", wholeNumber 1 6 1),
    ("className", Preset.string)]

def row : Entries Schema :=
  [("gap", .number {} { minimum := some (.int 0) }),
    ("align", Preset.choice ["start", "center", "end", "stretch"]),
    ("className", Preset.string)]

def components : Entries (Entries Schema) :=
  [("Button", button), ("Input", input), ("Card", card), ("Text", text),
    ("Title", title), ("Row", row)]

/-- The registry of the built-in components, with no rules. -/
def registry : Registry :=
  { components }

end ViewCompiler.Builtin
