import QualityGate.Coverage.Counter
import QualityGate.Text.Numeral
import QualityGate.Text.Split
import QualityGate.Verdict.Format

/-!
The commands of the program and the options of each of them.

* `CommandName.options`: the options of a command, those of the whole program included.
* `ValueKind.error?`: what is wrong with the value of an option.
-/

namespace QualityGate

/-- What can be wrong with arguments. Asking for help or for the version ends the program as
well. -/
inductive UsageError where
  | help
  | version
  /-- No command and nothing else was given. -/
  | missingArguments
  | missingCommand
  | unknownCommand
  | unknownArgument
  /-- An option is given more than once. -/
  | repeatedOption
  /-- A value is missing, or not among the possible ones. -/
  | invalidValue
  /-- A value does not have the form that is asked for. -/
  | malformedValue
  /-- A value is given to a flag. -/
  | unneededValue
  deriving DecidableEq, Repr

namespace UsageError

/-- The name of an error. -/
def name : UsageError → String
  | help => "DisplayHelp"
  | version => "DisplayVersion"
  | missingArguments => "DisplayHelpOnMissingArgumentOrSubcommand"
  | missingCommand => "MissingSubcommand"
  | unknownCommand => "InvalidSubcommand"
  | unknownArgument => "UnknownArgument"
  | repeatedOption => "ArgumentConflict"
  | invalidValue => "InvalidValue"
  | malformedValue => "ValueValidation"
  | unneededValue => "TooManyValues"

/-- The exit code after an error. Answering a question is a success. -/
def exitCode : UsageError → Nat
  | help | version => 0
  | _ => 2

/-- The wording of an error, or the answer to a question. -/
def message : UsageError → String
  | help | missingArguments =>
    "Usage: code-gate [OPTIONS] <check [PATHS] | init | config validate | config show>"
  | version => "code-gate"
  | missingCommand => "error: a command is missing"
  | unknownCommand => "error: unrecognized command"
  | unknownArgument => "error: unexpected argument"
  | repeatedOption => "error: an option cannot be used multiple times"
  | invalidValue => "error: a value is missing or not possible"
  | malformedValue => "error: invalid value"
  | unneededValue => "error: unexpected value"

end UsageError

/-- When output is in colour. -/
inductive ColourChoice where
  /-- On a terminal. -/
  | auto
  | always
  | never
  deriving DecidableEq, Repr, Inhabited

namespace ColourChoice

/-- All choices. -/
def all : List ColourChoice := [auto, always, never]

/-- The word for a choice. -/
def name : ColourChoice → String
  | auto => "auto"
  | always => "always"
  | never => "never"

/-- The choice with the given name. -/
def ofName? (name : String) : Option ColourChoice := all.find? fun c => c.name == name

end ColourChoice

/-- The options of the program. -/
inductive OptionName where
  | help
  | version
  | verbose
  | quiet
  | colour
  | noConfig
  | config
  | coverage
  | extensions
  | exclude
  | methodLimit
  | docWindow
  | lineLimit
  | threshold (m : Metric)
  | strict
  | requireCoverage
  | noIgnoreFiles
  | format
  | output
  | force
  deriving DecidableEq, Repr

/-- The forms that values have. -/
inductive ValueKind where
  | text
  /-- A path, which is not empty. -/
  | path
  | colour
  | format
  | count
  /-- A signed number. Its minus sign is no sign of an option. -/
  | integer
  deriving DecidableEq, Repr

/-- What is wrong with a value. -/
def ValueKind.error? (kind : ValueKind) (value : String) : Option UsageError :=
  match kind with
  | text => none
  | path => if value.isEmpty then some .invalidValue else none
  | colour => if (ColourChoice.ofName? value).isNone then some .invalidValue else none
  | format => if (OutputFormat.ofName? value).isNone then some .malformedValue else none
  | count => if (Text.natural? maxCount value.toList).isNone then some .malformedValue else none
  | integer => if (Text.integer? value.toList).isNone then some .malformedValue else none

/-- What an option does. -/
inductive OptionRole where
  /-- It is there or not. -/
  | flag
  /-- It counts how often it is there. -/
  | counter
  /-- It has one value. -/
  | single (kind : ValueKind)
  /-- It has a value each time it is there; `isDelimited` when a value can be several with
  commas. -/
  | repeated (kind : ValueKind) (isDelimited : Bool)
  /-- It ends the program. -/
  | ends (e : UsageError)
  deriving DecidableEq, Repr

/-- An option as it is written. -/
structure CommandOption where
  name : OptionName
  long : String
  short? : Option Char
  role : OptionRole
  deriving DecidableEq, Repr

namespace CommandOption

/-- The option has a value. -/
def takesValue (o : CommandOption) : Bool :=
  match o.role with
  | .single _ | .repeated _ _ => true
  | _ => false

/-- The value of the option may start with a minus sign. -/
def takesNegative (o : CommandOption) : Bool := o.role == .single .integer

end CommandOption

/-- The commands of the program, itself included. -/
inductive CommandName where
  | program
  | check
  | init
  | config
  | configValidate
  | configShow
  | help
  deriving DecidableEq, Repr

/-- The options of all commands. -/
def globalOptions : List CommandOption :=
  [⟨.verbose, "verbose", 'v', .counter⟩, ⟨.quiet, "quiet", 'q', .flag⟩,
   ⟨.colour, "color", none, .single .colour⟩, ⟨.noConfig, "no-config", none, .flag⟩,
   ⟨.help, "help", 'h', .ends .help⟩]

/-- The option for the threshold of a metric. -/
def thresholdOption (m : Metric) : CommandOption :=
  ⟨.threshold m, m.name ++ "-threshold", none, .single .integer⟩

/-- The option for a configuration file. -/
def configOption : CommandOption := ⟨.config, "config", 'c', .single .path⟩

/-- The option for an output format. -/
def formatOption : CommandOption := ⟨.format, "format", 'f', .single .format⟩

/-- The option for an output file. -/
def outputOption : CommandOption := ⟨.output, "output", 'o', .single .path⟩

/-- The options of the check. -/
def checkOptions : List CommandOption :=
  [configOption, ⟨.coverage, "coverage", none, .single .path⟩,
   ⟨.extensions, "ext", none, .repeated .text true⟩,
   ⟨.exclude, "exclude", 'x', .repeated .text false⟩,
   ⟨.methodLimit, "max-method-lines", none, .single .count⟩,
   ⟨.docWindow, "doc-window", none, .single .count⟩,
   ⟨.lineLimit, "max-line-length", none, .single .count⟩] ++
  Metric.all.map thresholdOption ++
  [⟨.strict, "strict", none, .flag⟩, ⟨.requireCoverage, "require-coverage", none, .flag⟩,
   ⟨.noIgnoreFiles, "no-gitignore", none, .flag⟩, formatOption, outputOption]

namespace CommandName

/-- The options of a command. -/
def options : CommandName → List CommandOption
  | program => ⟨.version, "version", 'V', .ends .version⟩ :: globalOptions
  | check => checkOptions ++ globalOptions
  | init => outputOption :: ⟨.force, "force", none, .flag⟩ :: globalOptions
  | config | help => globalOptions
  | configValidate => configOption :: globalOptions
  | configShow => configOption :: formatOption :: globalOptions

/-- The commands inside a command. -/
def subcommands : CommandName → List (String × CommandName)
  | program => [("check", check), ("init", init), ("config", config), ("help", help)]
  | config => [("validate", configValidate), ("show", configShow), ("help", help)]
  | _ => []

/-- The command takes paths. -/
def takesPaths (c : CommandName) : Bool := c == check

/-- The command inside a command with the given name. -/
def subcommand? (c : CommandName) (name : String) : Option CommandName :=
  (c.subcommands.find? fun s => s.1 == name).map Prod.snd

/-- The option of a command with the given long name. -/
def long? (c : CommandName) (name : List Char) : Option CommandOption :=
  c.options.find? fun o => o.long.toList == name

/-- The option of a command with the given letter. -/
def short? (c : CommandName) (letter : Char) : Option CommandOption :=
  c.options.find? fun o => o.short? == some letter

end CommandName

end QualityGate
