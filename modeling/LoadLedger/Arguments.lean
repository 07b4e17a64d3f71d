import LoadLedger.FileTree.Path
import LoadLedger.Value

/-!
# Command-line arguments

One positional argument names the input; options may stand before and behind it. An option may be
shortened as long as it remains unambiguous, and its value may follow an equals sign. What looks
like a negative number is no option, and after a double dash nothing is.

Arguments are told apart all at once, before any of them is used, so that an ambiguous option is
reported before every other mistake.
-/

namespace LoadLedger

/-- The options. -/
inductive OptionName
  | help
  | config
  | interval
  | printEvery
  | rate
  deriving DecidableEq

namespace OptionName

/-- The spellings of the options, in the order in which messages list them. -/
def spellings : List (String × OptionName) :=
  [ ("-h", .help), ("--help", .help), ("--config", .config), ("--interval", .interval),
    ("--print-every", .printEvery), ("--rate", .rate) ]

/-- The name of an option in messages. -/
def shown : OptionName → String
  | .help => "-h/--help"
  | .config => "--config"
  | .interval => "--interval"
  | .printEvery => "--print-every"
  | .rate => "--rate"

end OptionName

/-- Why arguments are not accepted. -/
inductive ArgumentFault
  | ambiguous (argument : String) (matching : List String)
  | valueMissing (option : OptionName)
  /-- An option without a value is given one. -/
  | valueIgnored (option : OptionName) (value : String)
  | badDecimal (option : OptionName) (value : String)
  | inputMissing
  | unrecognized (arguments : List String)
  deriving DecidableEq

/-- The wording of a fault. -/
def ArgumentFault.message : ArgumentFault → String
  | .ambiguous argument matching =>
    "ambiguous option: " ++ argument ++ " could match " ++ ", ".intercalate matching
  | .valueMissing option => "argument " ++ option.shown ++ ": expected one argument"
  | .valueIgnored option value =>
    "argument " ++ option.shown ++ ": ignored explicit argument " ++ Text.quoted value
  | .badDecimal option value =>
    "argument " ++ option.shown ++ ": invalid float value: " ++ Text.quoted value
  | .inputMissing => "the following arguments are required: input"
  | .unrecognized arguments => "unrecognized arguments: " ++ " ".intercalate arguments

/-- What one argument is. -/
inductive ArgumentToken
  | plain (text : String)
  /-- The double dash, after which everything is plain. -/
  | separator
  /-- An option; `value` is what follows it in the same argument. -/
  | option (name : OptionName) (value : Option String)
  /-- What looks like an option and is none. -/
  | unknown (text : String)

/-- The parts before and behind the first equals sign, if there is one. -/
def splitEquals (s : List Char) : List Char × Option (List Char) :=
  match s.dropWhile (· != '=') with
  | [] => (s, none)
  | _ :: value => (s.takeWhile (· != '='), some value)

/-- Does the text look like a negative number? -/
def looksNegative (s : List Char) : Bool :=
  let body := if s.getLast? == some '\n' then s.dropLast else s
  match body with
  | '-' :: rest =>
    let isDigit := fun c => (Text.digit? c).isSome
    let whole := rest.takeWhile isDigit
    match rest.dropWhile isDigit with
    | [] => !whole.isEmpty
    | '.' :: fraction => !fraction.isEmpty && fraction.all isDigit
    | _ => false
  | _ => false

/-- The short option, which takes no value, and the letters behind it. A letter may stand for the
option once more; the first one that does not begins what is left as a value. -/
def shortOption (letters : List Char) : ArgumentToken :=
  match letters.dropWhile (· == 'h') with
  | [] => .option .help (if letters.isEmpty then some "" else none)
  | rest => .option .help (some (String.ofList rest))

/-- An option with the value that an equals sign sets apart. -/
def optionWith (name : OptionName) (spelling value : List Char) : ArgumentToken :=
  if spelling == ['-', 'h'] then shortOption value else .option name (some (String.ofList value))

/-- The options that an argument may stand for, with their spellings. -/
def candidates (s : List Char) : List (String × ArgumentToken) :=
  match s with
  | '-' :: '-' :: _ =>
    let (stem, value) := splitEquals s
    (OptionName.spellings.filter fun e => stem.isPrefixOf e.1.toList).map fun e =>
      (e.1, .option e.2 (value.map String.ofList))
  | '-' :: 'h' :: letters => [("-h", shortOption letters)]
  | _ => []

/-- What an argument is that is no double dash. -/
def classifyArgument (text : String) : Except ArgumentFault ArgumentToken :=
  let s := text.toList
  match s with
  | '-' :: _ :: _ =>
    match OptionName.spellings.lookup text with
    | some name => .ok (.option name none)
    | none =>
      let (stem, value) := splitEquals s
      match value, OptionName.spellings.lookup (String.ofList stem) with
      | some value, some name => .ok (optionWith name stem value)
      | _, _ =>
        match candidates s with
        | [] => .ok (if looksNegative s || s.contains ' ' then .plain text else .unknown text)
        | [(_, token)] => .ok token
        | several => .error (.ambiguous text (several.map (·.1)))
  | _ => .ok (.plain text)

/-- What the arguments are. -/
def classifyArguments : List String → Except ArgumentFault (List ArgumentToken)
  | [] => .ok []
  | text :: rest =>
    if text == "--" then .ok (.separator :: rest.map .plain)
    else do
      let token ← classifyArgument text
      let tokens ← classifyArguments rest
      return token :: tokens

/-- The arguments of a run. An option that is not given is null, and one that is set to nothing is
an empty list. -/
structure Arguments where
  input : FileTree.Path
  config : Value
  interval : Value
  printEvery : Value
  rate : Value

/-- The arguments as far as they are read. -/
structure ArgumentState where
  input : Option String
  config : Value
  interval : Value
  printEvery : Value
  rate : Value
  /-- What nothing could be made of. -/
  extras : List String

/-- What comes of arguments that do not lead to a run. -/
inductive ArgumentStop
  | help
  | fault (cause : ArgumentFault)
  deriving DecidableEq

namespace ArgumentState

/-- Nothing read yet. -/
def start (config : String) : ArgumentState :=
  ⟨none, .text config, .null, .null, .null, []⟩

/-- Adds an argument that nothing could be made of. -/
def addExtra (s : ArgumentState) (text : String) : ArgumentState :=
  { s with extras := s.extras ++ [text] }

/-- The value of an option whose values are decimals. -/
def decimal (option : OptionName) (text : String) : Except ArgumentStop Value :=
  match Number.decimalOf? text.toList with
  | some x => .ok (.float x)
  | none => .error (.fault (.badDecimal option text))

/-- The value of an option. -/
def valueOf (option : OptionName) (text : String) : Except ArgumentStop Value :=
  match option with
  | .help => .error .help
  | .config => .ok (.text text)
  | .interval | .printEvery | .rate => decimal option text

/-- Sets an option to a value. -/
def set (s : ArgumentState) (option : OptionName) (v : Value) : ArgumentState :=
  match option with
  | .help => s
  | .config => { s with config := v }
  | .interval => { s with interval := v }
  | .printEvery => { s with printEvery := v }
  | .rate => { s with rate := v }

/-- Sets an option to what a text stands for. -/
def setText (s : ArgumentState) (option : OptionName) (text : String) :
    Except ArgumentStop ArgumentState :=
  (valueOf option text).map (s.set option)

/-- Sets an option to what follows it in the same argument. A double dash sets it to nothing. -/
def setJoined (s : ArgumentState) (option : OptionName) (text : String) :
    Except ArgumentStop ArgumentState :=
  if text == "--" then .ok (s.set option (.list [])) else s.setText option text

/-- Reads tokens in turn. -/
def read (s : ArgumentState) : List ArgumentToken → Except ArgumentStop ArgumentState
  | [] => .ok s
  | .unknown text :: rest => (s.addExtra text).read rest
  | .plain text :: .separator :: rest =>
    match s.input with
    | none => { s with input := some text }.read rest
    | some _ => ((s.addExtra text).addExtra "--").read rest
  | .plain text :: rest =>
    match s.input with
    | none => { s with input := some text }.read rest
    | some _ => (s.addExtra text).read rest
  | .separator :: .plain text :: rest =>
    match s.input with
    | none => { s with input := some text }.read rest
    | some _ => ((s.addExtra "--").addExtra text).read rest
  | .separator :: rest => (s.addExtra "--").read rest
  | .option .help (some value) :: _ => .error (.fault (.valueIgnored .help value))
  | .option .help none :: _ => .error .help
  | .option name (some value) :: rest =>
    match s.setJoined name value with
    | .error stop => .error stop
    | .ok s => s.read rest
  | .option name none :: .plain value :: rest =>
    match s.setText name value with
    | .error stop => .error stop
    | .ok s => s.read rest
  | .option name none :: _ => .error (.fault (.valueMissing name))

/-- The arguments that were read, if nothing is missing and nothing is left over. -/
def finish (s : ArgumentState) : Except ArgumentStop Arguments :=
  match s.input with
  | none => .error (.fault .inputMissing)
  | some input =>
    if s.extras.isEmpty then
      .ok {
        input := FileTree.Path.ofString input
        config := s.config
        interval := s.interval
        printEvery := s.printEvery
        rate := s.rate }
    else .error (.fault (.unrecognized s.extras))

end ArgumentState

/-- Reads arguments; `config` is the path of the settings unless another is given. -/
def Arguments.read (config : String) (arguments : List String) : Except ArgumentStop Arguments :=
  match classifyArguments arguments with
  | .error cause => .error (.fault cause)
  | .ok tokens =>
    match (ArgumentState.start config).read tokens with
    | .error stop => .error stop
    | .ok s => s.finish

end LoadLedger
