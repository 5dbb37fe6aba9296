import QualityGate.Invocation.Option

/-!
Reading the arguments of a command. Arguments are read one by one. The values of an option, or a row
of paths, wait until the next option, the next row or the end, and are only then looked at; a value
that is attached to its option is looked at at once. After a double dash, everything is a path.

* `Reading.settle`: looking at what waits.
* `Reading.ofArguments`: the command that arguments lead to, with its options and paths and those of
  the commands around it.
-/

namespace QualityGate

/-- What values belong to. -/
inductive Target where
  | option (o : CommandOption)
  | paths
  deriving DecidableEq, Repr

/-- Values that nobody has looked at. -/
structure Waiting where
  target : Target
  values : List String
  deriving DecidableEq, Repr

/-- What has been read of the arguments of a command. -/
structure Reading where
  /-- The options with their values. A counter has one value for each time it was there. -/
  found : List (OptionName × List String)
  paths : List String
  waiting? : Option Waiting
  /-- A double dash has been read. -/
  onlyPaths : Bool
  deriving DecidableEq, Repr

namespace Reading

/-- Nothing has been read. -/
def start : Reading := ⟨[], [], none, false⟩

/-- An option has been found. -/
def has (r : Reading) (name : OptionName) : Bool := r.found.any fun f => f.1 == name

/-- The values of an option. -/
def values (r : Reading) (name : OptionName) : List String :=
  ((r.found.find? fun f => f.1 == name).map Prod.snd).getD []

/-- The found options with more values for one of them. -/
def addTo (name : OptionName) (values : List String) :
    List (OptionName × List String) → List (OptionName × List String)
  | [] => [(name, values)]
  | (n, old) :: rest =>
    if n = name then (n, old ++ values) :: rest else (n, old) :: addTo name values rest

/-- More values for an option. -/
def add (r : Reading) (name : OptionName) (values : List String) : Reading :=
  { r with found := addTo name values r.found }

/-! ### Looking at values -/

/-- The first thing that is wrong with values. -/
def valuesError? (kind : ValueKind) (values : List String) : Option UsageError :=
  values.findSome? kind.error?

/-- The values of an option that may be there once. -/
def acceptOnce (r : Reading) (o : CommandOption) (kind : ValueKind) (values : List String) :
    Except UsageError Reading :=
  if r.has o.name then .error .repeatedOption
  else match valuesError? kind values with
    | some e => .error e
    | none => .ok (r.add o.name values)

/-- The parts of values between commas. -/
def splitValues (values : List String) : List String :=
  values.flatMap fun v => (Text.splitAt ',' v.toList).map String.ofList

/-- The values of an option. -/
def acceptOption (r : Reading) (o : CommandOption) (values : List String) :
    Except UsageError Reading :=
  if values.isEmpty then .error .invalidValue
  else match o.role with
    | .single kind => r.acceptOnce o kind values
    | .repeated kind isDelimited =>
      let values := if isDelimited then splitValues values else values
      match valuesError? kind values with
      | some e => .error e
      | none => .ok (r.add o.name values)
    | _ => .ok r

/-- Values for a target. -/
def accept (r : Reading) (target : Target) (values : List String) : Except UsageError Reading :=
  match target with
  | .option o => r.acceptOption o values
  | .paths =>
    match valuesError? .path values with
    | some e => .error e
    | none => .ok { r with paths := r.paths ++ values }

/-- Looking at what waits. -/
def settle (r : Reading) : Except UsageError Reading :=
  match r.waiting? with
  | none => .ok r
  | some w => accept { r with waiting? := none } w.target w.values

/-- An option without a value. -/
def acceptFlag (r : Reading) (o : CommandOption) : Except UsageError Reading :=
  match r.settle with
  | .error e => .error e
  | .ok r =>
    match o.role with
    | .ends e => .error e
    | .flag => if r.has o.name then .error .repeatedOption else .ok (r.add o.name [])
    | _ => .ok (r.add o.name [""])

/-- An option with a value attached to it. -/
def acceptAttached (r : Reading) (o : CommandOption) (value : List Char) :
    Except UsageError Reading :=
  match r.settle with
  | .error e => .error e
  | .ok r => r.acceptOption o [String.ofList value]

/-- An option whose value comes next. -/
def expect (r : Reading) (o : CommandOption) : Except UsageError Reading :=
  match r.settle with
  | .error e => .error e
  | .ok r => .ok { r with waiting? := some ⟨.option o, []⟩ }

/-- The option whose value comes next. -/
def expected? (r : Reading) : Option CommandOption :=
  match r.waiting? with
  | some ⟨.option o, []⟩ => some o
  | _ => none

/-- The next value of the option that expects one. -/
def giveValue (r : Reading) (o : CommandOption) (value : String) : Reading :=
  { r with waiting? := some ⟨.option o, [value]⟩ }

/-- One more path. -/
def givePath (r : Reading) (path : String) : Except UsageError Reading :=
  match r.waiting? with
  | some ⟨.paths, values⟩ => .ok { r with waiting? := some ⟨.paths, values ++ [path]⟩ }
  | _ =>
    match r.settle with
    | .error e => .error e
    | .ok r => .ok { r with waiting? := some ⟨.paths, [path]⟩ }

/-! ### Reading arguments -/

/-- A number after a minus sign: digits, with at most one point before at most one exponent. -/
def isNumber (s : List Char) : Bool :=
  let rec go (isFirst hasPoint hasExponent : Bool) : List Char → Bool
    | [] => true
    | c :: rest =>
      if c.isDigit then go false hasPoint hasExponent rest
      else if c = '.' then !hasPoint && !hasExponent && !isFirst && go false true hasExponent rest
      else c == 'e' && !hasExponent && !isFirst && !rest.isEmpty && go false hasPoint true rest
  go true false false s

/-- A long option, with the value attached to it. -/
def readLong (c : CommandName) (r : Reading) (name : List Char) (value? : Option (List Char)) :
    Except UsageError Reading :=
  match c.long? name with
  | none => .error .unknownArgument
  | some o =>
    match value? with
    | some value => if o.takesValue then r.acceptAttached o value else .error .unneededValue
    | none => if o.takesValue then r.expect o else r.acceptFlag o

/-- Letters of options. A letter whose option has a value takes the rest as that value. -/
def readShorts (c : CommandName) (r : Reading) : List Char → Except UsageError Reading
  | [] => .ok r
  | letter :: rest =>
    match c.short? letter with
    | none => .error .unknownArgument
    | some o =>
      if o.takesValue then
        match rest with
        | [] => r.expect o
        | '=' :: value => r.acceptAttached o value
        | _ => r.acceptAttached o rest
      else
        match r.acceptFlag o with
        | .error e => .error e
        | .ok r => readShorts c r rest

/-- What is wrong with a word that a command cannot use. -/
def wordError (c : CommandName) (r : Reading) (word : String) : UsageError :=
  if r.onlyPaths && (c.subcommand? word).isSome then .unknownArgument
  else if c.subcommands.isEmpty then .unknownArgument
  else .unknownCommand

/-- A word that is no option. -/
def readWord (c : CommandName) (r : Reading) (word : String) : Except UsageError Reading :=
  match r.onlyPaths, r.expected? with
  | false, some o => .ok (r.giveValue o word)
  | _, _ => if c.takesPaths then r.givePath word else .error (wordError c r word)

/-- A long option as it is written, with the value attached to it. -/
def splitLong (s : List Char) : List Char × Option (List Char) :=
  match s.dropWhile (· != '=') with
  | [] => (s, none)
  | _ :: value => (s.takeWhile (· != '='), some value)

/-- One argument that is no command. -/
def readArgument (c : CommandName) (r : Reading) (argument : String) : Except UsageError Reading :=
  if r.onlyPaths then readWord c r argument
  else match argument.toList with
    | ['-', '-'] => .ok { r with onlyPaths := true }
    | '-' :: '-' :: long => readLong c r (splitLong long).1 (splitLong long).2
    | ['-'] => readWord c r argument
    | '-' :: shorts =>
      if r.expected?.any CommandOption.takesNegative && isNumber shorts then readWord c r argument
      else readShorts c r shorts
    | _ => readWord c r argument

/-- The command that an argument names. The value of an option is none. -/
def commandHere? (c : CommandName) (r : Reading) (argument : String) : Option CommandName :=
  if r.onlyPaths || r.expected?.isSome then none else c.subcommand? argument

/-- Help on the command that words lead to. -/
def helpOn (c : CommandName) : List String → UsageError
  | [] => .help
  | word :: words =>
    match c.subcommand? word with
    | some c => helpOn c words
    | none => .unknownCommand

/-- A command that needs a command inside it has none. -/
def missing (r : Reading) : UsageError :=
  if r.found.isEmpty && r.paths.isEmpty then .missingArguments else .missingCommand

/-- The end of the arguments of a command. -/
def finish (c : CommandName) (r : Reading) : Except UsageError (CommandName × List Reading) :=
  match r.settle with
  | .error e => .error e
  | .ok r => if c.subcommands.isEmpty then .ok (c, [r]) else .error r.missing

/-- What is read of a command after the command inside it. What waits is looked at last. -/
def enclose (r : Reading) (inner : Except UsageError (CommandName × List Reading)) :
    Except UsageError (CommandName × List Reading) :=
  match inner with
  | .error e => .error e
  | .ok (c, readings) =>
    match r.settle with
    | .error e => .error e
    | .ok r => .ok (c, readings ++ [r])

/-- The innermost command that arguments lead to, with what is read of each command from that one
out. Something of the outermost one has been read. -/
def readAll (c : CommandName) (r : Reading) :
    List String → Except UsageError (CommandName × List Reading)
  | [] => finish c r
  | argument :: rest =>
    match commandHere? c r argument with
    | some .help => .error (helpOn c rest)
    | some inner => r.enclose (readAll inner start rest)
    | none =>
      match readArgument c r argument with
      | .error e => .error e
      | .ok r => readAll c r rest

/-- The innermost command that the arguments of the program lead to, with what is read of each
command from that one out. -/
def ofArguments (arguments : List String) : Except UsageError (CommandName × List Reading) :=
  readAll .program start arguments

end Reading

end QualityGate
