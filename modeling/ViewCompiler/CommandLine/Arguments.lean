import ViewCompiler.Text.Word
import ViewCompiler.Value.Basic

/-!
# Arguments of the compile command

Arguments are first told apart one by one: an option by its name, by an
unambiguous start of a long name, or by a short name with its value attached;
everything after two dashes is positional.  Then they are taken in order.  An
option that is given twice has its last value.  Two dashes never are a value:
attached to an option they leave it with an empty list of values.
-/

namespace ViewCompiler

inductive OptionValue where
  | text (s : String)
  /-- Nothing is left of the value. -/
  | emptied
deriving DecidableEq, Repr

namespace OptionValue

def attached (text : String) : OptionValue :=
  if text = "--" then emptied else .text text

def toValue : OptionValue → Value
  | text s => .text s
  | emptied => .list []

end OptionValue

structure CompileArguments where
  source : String := ""
  outputDirectory : Option OptionValue := none
  strict : Bool := false
  typescript : Bool := false
  documentation : Bool := false
  componentName : Option OptionValue := none
  toStdout : Bool := false
  tree : Bool := false
deriving DecidableEq, Repr

inductive CompileOption where
  | help
  | outputDirectory
  | strict
  | typescript
  | documentation
  | componentName
  | toStdout
  | tree
deriving DecidableEq, Repr

namespace CompileOption

def names : List (String × CompileOption) :=
  [("-h", help), ("--help", help), ("--out-dir", outputDirectory),
    ("-o", outputDirectory), ("--strict", strict), ("--typescript", typescript),
    ("--ts", typescript), ("--docs", documentation),
    ("--component-name", componentName), ("-n", componentName),
    ("--stdout", toStdout), ("--tree", tree)]

def takesValue : CompileOption → Bool
  | outputDirectory => true
  | componentName => true
  | _ => false

def apply (option : CompileOption) (value : OptionValue)
    (arguments : CompileArguments) : CompileArguments :=
  match option with
  | help => arguments
  | outputDirectory => { arguments with outputDirectory := some value }
  | strict => { arguments with strict := true }
  | typescript => { arguments with typescript := true }
  | documentation => { arguments with documentation := true }
  | componentName => { arguments with componentName := some value }
  | toStdout => { arguments with toStdout := true }
  | tree => { arguments with tree := true }

end CompileOption

inductive Argument where
  | positional (text : String)
  /-- The two dashes after which all arguments are positional. -/
  | separator
  /-- An option, with the name that it was found under and the value that is
  attached to it. -/
  | option (name : String) (meaning : CompileOption) (attached : Option String)
  | unknown (text : String)
deriving DecidableEq, Repr

inductive ArgumentsOutcome where
  | helpAsked
  | refused
  | taken (arguments : CompileArguments)
deriving DecidableEq, Repr

namespace Argument

/-- The text before the first equality sign, and the text after it. -/
def splitAtEquals : List Char → List Char × Option (List Char)
  | [] => ([], none)
  | c :: rest =>
    if c = '=' then ([], some rest)
    else
      let (before, after) := splitAtEquals rest
      (c :: before, after)

/-- The characters are digits, at least one. -/
def areDigits (chars : List Char) : Bool :=
  !chars.isEmpty && chars.all Text.isDigit

def dropFinalLineFeed (chars : List Char) : List Char :=
  if chars.getLast? = some '\n' then chars.dropLast else chars

/-- The argument is a negative number, which is no option.  A line feed at the
end does not count. -/
def isNegativeNumber (chars : List Char) : Bool :=
  match dropFinalLineFeed chars with
  | '-' :: rest =>
    areDigits rest ||
      match rest.dropWhile Text.isDigit with
      | '.' :: decimals => areDigits decimals
      | _ => false
  | _ => false

/-- The options whose names start with a long name, or the one whose short name
the argument starts with. -/
def candidates (chars : List Char) : List Argument :=
  match chars with
  | '-' :: '-' :: _ =>
    let (start, attached) := splitAtEquals chars
    (CompileOption.names.filter fun entry =>
      start.isPrefixOf entry.1.toList).map fun entry =>
      .option entry.1 entry.2 (attached.map String.ofList)
  | _ =>
    CompileOption.names.filterMap fun (name, meaning) =>
      if name.toList = chars.take 2 then
        some (.option name meaning (some (String.ofList (chars.drop 2))))
      else if chars.isPrefixOf name.toList then some (.option name meaning none)
      else none

/-- The option that has exactly the name before the equality sign, if there is
one. -/
def exactWithValue (chars : List Char) : Option Argument :=
  match splitAtEquals chars with
  | (name, some value) =>
    (CompileOption.names.lookup (String.ofList name)).map fun meaning =>
      .option (String.ofList name) meaning (some (String.ofList value))
  | (_, none) => none

/-- Tell what an argument is; nothing if it is ambiguous. -/
def classify (text : String) : Option Argument :=
  let chars := text.toList
  if chars.head? != some '-' || chars.length = 1 then some (.positional text)
  else
    match CompileOption.names.lookup text with
    | some meaning => some (.option text meaning none)
    | none =>
      match exactWithValue chars with
      | some argument => some argument
      | none =>
        match candidates chars with
        | _ :: _ :: _ => none
        | [argument] => some argument
        | [] =>
          if isNegativeNumber chars || chars.contains ' ' then
            some (.positional text)
          else some (.unknown text)

def classifyAll : List String → Option (List Argument)
  | [] => some []
  | "--" :: rest => some (.separator :: rest.map .positional)
  | text :: rest => do
    let argument ← classify text
    let others ← classifyAll rest
    return argument :: others

end Argument

namespace CompileArguments

/-- The arguments so far, and whether one of them has no meaning. -/
structure Progress where
  arguments : CompileArguments := {}
  sourceGiven : Bool := false
  meaningless : Bool := false

namespace Progress

def withSource (progress : Progress) (text : String) : Progress :=
  { progress with
    arguments := { progress.arguments with source := text }
    sourceGiven := true }

def withOption (progress : Progress) (option : CompileOption)
    (value : OptionValue) : Progress :=
  { progress with arguments := option.apply value progress.arguments }

/-- Take an argument that has no meaning. -/
def withMeaningless (progress : Progress) : Progress :=
  { progress with meaningless := true }

def finish (progress : Progress) : ArgumentsOutcome :=
  if progress.sourceGiven && !progress.meaningless then
    .taken progress.arguments
  else .refused

end Progress

def startsWithValue : List Argument → Bool
  | .positional _ :: _ => true
  | _ => false

/-- What comes of letters attached to the short name of the help option, which
have to be short names themselves: help is asked for unless one is unknown or
the value of an option is missing. -/
def readAttached (rest : List Argument) : List Char → ArgumentsOutcome
  | [] => .helpAsked
  | c :: letters =>
    match CompileOption.names.lookup (String.ofList ['-', c]) with
    | none => .refused
    | some option =>
      if option.takesValue then
        if letters.isEmpty && !startsWithValue rest then .refused
        else .helpAsked
      else readAttached rest letters

/-- Take arguments in order. -/
def take : Progress → List Argument → ArgumentsOutcome
  | progress, [] => progress.finish
  | progress, .unknown _ :: rest => take progress.withMeaningless rest
  | progress, .separator :: .positional text :: rest =>
    if progress.sourceGiven then take progress.withMeaningless rest
    else take (progress.withSource text) rest
  | progress, .separator :: rest => take progress.withMeaningless rest
  | progress, .positional text :: .separator :: rest =>
    if progress.sourceGiven then take progress.withMeaningless rest
    else take (progress.withSource text) rest
  | progress, .positional text :: rest =>
    if progress.sourceGiven then take progress.withMeaningless rest
    else take (progress.withSource text) rest
  | progress, .option name option (some value) :: rest =>
    if option.takesValue then
      take (progress.withOption option (.attached value)) rest
    else if name = "-h" && !value.isEmpty then readAttached rest value.toList
    else .refused
  | progress, .option _ option none :: rest =>
    if option.takesValue then
      match rest with
      | .positional value :: rest =>
        take (progress.withOption option (.text value)) rest
      | _ => .refused
    else if option = .help then .helpAsked
    else take (progress.withOption option .emptied) rest

def read (arguments : List String) : ArgumentsOutcome :=
  match Argument.classifyAll arguments with
  | some arguments => take {} arguments
  | none => .refused

end CompileArguments

end ViewCompiler
