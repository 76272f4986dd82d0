import ViewCompiler.Schema.Basic

/-!
# Ready-made schemas

Texts of common formats, and the property sets that most elements and form
controls share.
-/

namespace ViewCompiler.Preset

def emailPattern : String :=
  "^[^\\s@]+@[^\\s@]+\\.[^\\s@]+$"

def urlPattern : String :=
  "^https?://(www\\.)?[-a-zA-Z0-9@:%._+~#=]\x7b1,256\x7d\\." ++
    "[a-zA-Z0-9()]\x7b1,6\x7d\\b" ++
    "([-a-zA-Z0-9()@:%_+.~#?&/=]*)$"

/-- The pattern of a hexadecimal colour of three or six digits. -/
def colorPattern : String :=
  "^#([A-Fa-f0-9]\x7b6\x7d|[A-Fa-f0-9]\x7b3\x7d)$"

/-- A text that matches a pattern. -/
def matching (source : String) : Schema :=
  .string {} { pattern := (Pattern.read source).toOption }

def email : Schema := matching emailPattern

def url : Schema := matching urlPattern

def color : Schema := matching colorPattern

def string : Schema := .string {} {}

def function : Schema := .function {}

/-- A flag that is off if it is not given. -/
def flag : Schema := (Schema.boolean {}).optional (.bool false)

/-- An optional choice from a list of texts. -/
def choice (values : List String) : Schema :=
  .enum {} (values.map .text)

/-- The attributes that most elements share. -/
def htmlAttributes : Entries Schema :=
  [("id", string), ("className", string), ("style", string),
    ("onClick", function), ("onSubmit", function), ("onFocus", function),
    ("onBlur", function)]

/-- The attributes that form controls share. -/
def formInputAttributes : Entries Schema :=
  htmlAttributes ++
    [("name", string), ("disabled", flag), ("required", flag),
      ("placeholder", string), ("value", string), ("onChange", function)]

end ViewCompiler.Preset
