import LoadLedger.Json.Complaint
import LoadLedger.Kind
import LoadLedger.Text.Surrogate
import LoadLedger.Text.Utf8

/-!
# Faults

Everything that can go wrong, as causes. What a caller handles and what it lets pass is decided by
the family of a fault; the wording is one function of the cause. Texts that are kept in a fault are
those of the offending value as it is shown in the message. A wording is what is displayed in the
end, so that a broken text stands in it with escapes.
-/

namespace LoadLedger

/-- What a text or a value was to be read as. -/
inductive NumberForm
  | integer
  | decimal
  deriving DecidableEq

/-- The causes of faults. -/
inductive Fault
  /-- A value of this type is no number. -/
  | notNumeric (form : NumberForm) (type : String)
  /-- A text is no integer; the literal is quoted. -/
  | badIntegerLiteral (literal : String)
  /-- A text is no decimal number; the literal is quoted. -/
  | badDecimalLiteral (literal : String)
  /-- A text has more digits than an integer may be read from. -/
  | tooManyDigits (count : Nat)
  /-- An integer has more digits than may be written. -/
  | unwritableInteger
  /-- A value nests others too deep to be written. -/
  | tooDeepToWrite
  /-- A text that is broken by surrogates is to be encoded. -/
  | unencodable (refusal : Text.Unencodable)
  | nanIsNoInteger
  | infinityIsNoInteger
  | integerTooLarge
  | notIterable (type : String)
  | unhashable (type : String)
  /-- Values of these types stand in no order that the sign could ask for. -/
  | incomparable (sign left right : String)
  /-- Values of these types have no quotient. -/
  | indivisible (left right : String)
  /-- A value is no length of a buffer. -/
  | notLength
  /-- A value does not say how many items of a list are meant. -/
  | notLimit
  /-- A value of this type is no number of seconds. -/
  | notSeconds (type : String)
  /-- A value of this type has no members to look up. -/
  | noMembers (type : String)
  /-- A line of a report is no text. -/
  | notText (index : Nat) (type : String)
  | notPath (type : String)
  /-- An outcome is to be read from something else than a record. -/
  | notRecord (type : String)
  | unknownKind (shown : AnyText)
  | unknownStatus (shown : AnyText)
  | missingStatusCode
  | badStatusCode (quoted : String)
  /-- An outcome is to be made of something else than a kind. -/
  | notKind (quoted : String)
  /-- An outcome is to be made of something else than a status. -/
  | notStatus (quoted : String)
  /-- A status is to be made without the detail that it needs. -/
  | detailMissing (title : String)
  /-- A status is to be made with more details than it has. -/
  | detailsTooMany (name : StatusName) (given : Nat)
  | notCount (type : String) (index : Nat)
  | negativeCount (index : Nat) (shown : String)
  | badWindowSize (shown : String)
  | badCapacity (shown : String)
  /-- A size is greater than any buffer can have. -/
  | sizeTooLarge
  | notOutcome (type : String)
  | ingestionStarted
  | badInterval (shown : String)
  | samplerStarted
  /-- What was done while a lock was held fails for a reason of its own. -/
  | bodyFailed (message : AnyText)
  /-- Sampling fails for a reason of its own. -/
  | samplingFailed (message : AnyText)
  /-- A period is longer than can be represented, though its days can be counted. -/
  | periodTooLong (days : Int)
  /-- A period has more days than can be counted. -/
  | daysTooMany
  | dateOutOfRange
  /-- A period is so short that it never leads past the present. -/
  | noProgress
  /-- An operation waits for what nobody else is going to do. -/
  | wouldBlock
  | badSetting (cause : Fault)
  | intervalNotPositive (shown : String)
  | intervalOptionNotPositive (shown : String)
  | queueSizeNegative (shown : String)
  | unknownLevel (name : AnyText)
  | settingsMissing (path : String)
  | settingsMalformed (cause : Fault)
  | settingsNotObject
  | negativePause
  | negativeWait
  /-- The time to pause or to wait for is NaN. -/
  | timeNotNumber
  /-- The time to pause or to wait for has too many nanoseconds. -/
  | timeTooLong
  /-- A JSON text goes wrong at a place. -/
  | malformedJson (complaint : Json.Complaint) (line column offset : Nat)
  | nestedTooDeep (nesting : Json.Nesting)
  | undecodable (refusal : Text.Utf8.Refusal)
  | missingFile (path : String)
  | isFolder (path : String)
  | notFolder (path : String)
  | fileExists (path : String)
  | nameTooLong (path : String)
  | nullInPath
  /-- A line of a file holds no outcome. -/
  | atLine (path : String) (line : Nat) (cause : Fault)
  deriving DecidableEq

/-- The families of faults, by which callers tell them apart. -/
inductive Fault.Family
  | wrongType
  | badValue
  | overflow
  | lookup
  | outcome
  | counts
  | ingestion
  | sampler
  | sampling
  | settings
  | json
  | nesting
  | decoding
  | missingFile
  | isFolder
  | notFolder
  | fileExists
  | fileSystem
  | hang
  deriving DecidableEq

/-- The family of a fault. -/
def Fault.family : Fault → Fault.Family
  | .notNumeric .. | .notIterable _ | .unhashable _ | .incomparable .. | .indivisible ..
  | .notLength | .notLimit | .notSeconds _ | .notText .. | .notPath _ | .detailMissing _
  | .detailsTooMany .. => .wrongType
  | .badIntegerLiteral _ | .badDecimalLiteral _ | .tooManyDigits _ | .unwritableInteger
  | .unencodable _ | .bodyFailed _ | .nanIsNoInteger | .negativePause | .negativeWait
  | .timeNotNumber | .nullInPath => .badValue
  | .infinityIsNoInteger | .integerTooLarge | .periodTooLong _ | .daysTooMany | .dateOutOfRange
  | .sizeTooLarge | .timeTooLong => .overflow
  | .noMembers _ => .lookup
  | .notRecord _ | .unknownKind _ | .unknownStatus _ | .missingStatusCode | .badStatusCode _
  | .notKind _ | .notStatus _ | .atLine .. => .outcome
  | .notCount .. | .negativeCount .. | .badWindowSize _ | .badCapacity _ => .counts
  | .notOutcome _ | .ingestionStarted => .ingestion
  | .badInterval _ | .samplerStarted => .sampler
  | .samplingFailed _ => .sampling
  | .badSetting _ | .intervalNotPositive _ | .intervalOptionNotPositive _ | .queueSizeNegative _
  | .unknownLevel _ | .settingsMissing _ | .settingsMalformed _ | .settingsNotObject => .settings
  | .malformedJson .. => .json
  | .tooDeepToWrite | .nestedTooDeep _ => .nesting
  | .undecodable _ => .decoding
  | .missingFile _ => .missingFile
  | .isFolder _ => .isFolder
  | .notFolder _ => .notFolder
  | .fileExists _ => .fileExists
  | .nameTooLong _ => .fileSystem
  | .noProgress | .wouldBlock => .hang

/-- Is the fault one of the operating system's? -/
def Fault.isFileFault (f : Fault) : Bool :=
  match f.family with
  | .missingFile | .isFolder | .notFolder | .fileExists | .fileSystem => true
  | _ => false

/-- The wording of a refusal of octets. One octet is named by its number, several by their
positions alone. -/
def Text.Utf8.Refusal.message (r : Text.Utf8.Refusal) : String :=
  let reason := match r.reason with
    | .badStart => "invalid start byte"
    | .badContinuation => "invalid continuation byte"
    | .endOfData => "unexpected end of data"
  match r.octets with
  | [octet] =>
    "'utf-8' codec can't decode byte 0x" ++ String.ofList (Text.hexPadded 2 octet.toNat) ++
      " in position " ++ toString r.position ++ ": " ++ reason
  | octets =>
    "'utf-8' codec can't decode bytes in position " ++ toString r.position ++ "-" ++
      toString (r.position + octets.length - 1) ++ ": " ++ reason

/-- The wording of a refusal of a text. One surrogate is named, several by their positions alone. -/
def Text.Unencodable.message (r : Text.Unencodable) : String :=
  let subject := match r.surrogates with
    | [s] => "character '" ++ String.ofList s.escape ++ "' in position " ++ toString r.position
    | surrogates =>
      "characters in position " ++ toString r.position ++ "-" ++
        toString (r.position + surrogates.length - 1)
  "'utf-8' codec can't encode " ++ subject ++ ": surrogates not allowed"

/-- The wording of a fault. -/
def Fault.message : Fault → String
  | .notNumeric .integer type =>
    "int() argument must be a string, a bytes-like object or a real number, not '" ++ type ++ "'"
  | .notNumeric .decimal type =>
    "float() argument must be a string or a real number, not '" ++ type ++ "'"
  | .badIntegerLiteral literal => "invalid literal for int() with base 10: " ++ literal
  | .badDecimalLiteral literal => "could not convert string to float: " ++ literal
  | .tooManyDigits count =>
    "Exceeds the limit (4300 digits) for integer string conversion: value has " ++ toString count ++
      " digits; use sys.set_int_max_str_digits() to increase the limit"
  | .unwritableInteger =>
    "Exceeds the limit (4300 digits) for integer string conversion; " ++
      "use sys.set_int_max_str_digits() to increase the limit"
  | .tooDeepToWrite => "maximum recursion depth exceeded while getting the repr of an object"
  | .unencodable refusal => refusal.message
  | .nanIsNoInteger => "cannot convert float NaN to integer"
  | .infinityIsNoInteger => "cannot convert float infinity to integer"
  | .integerTooLarge => "int too large to convert to float"
  | .notIterable type => "'" ++ type ++ "' object is not iterable"
  | .unhashable type => "unhashable type: '" ++ type ++ "'"
  | .incomparable sign left right =>
    "'" ++ sign ++ "' not supported between instances of '" ++ left ++ "' and '" ++ right ++ "'"
  | .indivisible left right =>
    "unsupported operand type(s) for /: '" ++ left ++ "' and '" ++ right ++ "'"
  | .notLength => "an integer is required"
  | .notLimit => "slice indices must be integers or None or have an __index__ method"
  | .notSeconds type => "unsupported type for timedelta seconds component: " ++ type
  | .noMembers type => "'" ++ type ++ "' object has no attribute 'get'"
  | .notText index type =>
    "sequence item " ++ toString index ++ ": expected str instance, " ++ type ++ " found"
  | .notPath type => "expected str, bytes or os.PathLike object, not " ++ type
  | .notRecord type => "Outcome must be a dict, got " ++ type
  | .unknownKind shown =>
    "Unknown operation kind: '" ++ shown.displayed ++ "'. Available kinds: " ++
      ", ".intercalate (Kind.all.map Kind.name)
  | .unknownStatus shown =>
    "Unknown outcome status: '" ++ shown.displayed ++ "'. Available statuses: " ++
      ", ".intercalate (StatusName.all.map StatusName.name)
  | .missingStatusCode => "http_error outcome missing 'status_code' field"
  | .badStatusCode quoted => "Invalid status_code: " ++ quoted
  | .notKind quoted => "Invalid operation kind: " ++ quoted
  | .notStatus quoted => "Invalid outcome status: " ++ quoted
  | .detailMissing title =>
    title ++ ".__init__() missing 1 required positional argument: 'status_code'"
  | .detailsTooMany name given =>
    let taken := match name with
      | .success => "takes 1 positional argument"
      | .httpError => "takes from 2 to 3 positional arguments"
      | _ => "takes from 1 to 2 positional arguments"
    name.title ++ ".__init__() " ++ taken ++ " but " ++ toString (given + 1) ++ " were given"
  | .notCount type index =>
    "All values must be integers, got " ++ type ++ " at index " ++ toString index
  | .negativeCount index shown =>
    "Invalid negative count at index " ++ toString index ++ ": " ++ shown
  | .badWindowSize shown => "Window size must be positive, got " ++ shown
  | .badCapacity shown => "Capacity must be positive, got " ++ shown
  | .sizeTooLarge => "Python int too large to convert to C ssize_t"
  | .notOutcome type => "Can only merge Outcome instances, got " ++ type
  | .ingestionStarted => "Result aggregator already started"
  | .badInterval shown => "Interval must be positive, got " ++ shown
  | .samplerStarted => "Sampler already started"
  | .bodyFailed message => message.displayed
  | .samplingFailed message => message.displayed
  | .periodTooLong days => "days=" ++ toString days ++ "; must have magnitude <= 999999999"
  | .daysTooMany => "Python int too large to convert to C int"
  | .dateOutOfRange => "date value out of range"
  | .noProgress => "the next run never lies ahead"
  | .wouldBlock => "the operation cannot go on"
  | .badSetting cause => "Invalid aggregator setting: " ++ cause.message
  | .intervalNotPositive shown => "report_interval_seconds must be positive, got " ++ shown
  | .intervalOptionNotPositive shown => "--interval must be positive, got " ++ shown
  | .queueSizeNegative shown => "failure_queue_size must not be negative, got " ++ shown
  | .unknownLevel name => "Unknown log level: " ++ name.displayed
  | .settingsMissing path => "Configuration file '" ++ path ++ "' not found"
  | .settingsMalformed cause => "Invalid JSON in configuration file: " ++ cause.message
  | .settingsNotObject => "Configuration root must be a JSON object"
  | .negativePause => "sleep length must be non-negative"
  | .negativeWait => "timeout value must be positive"
  | .timeNotNumber => "Invalid value NaN (not a number)"
  | .timeTooLong => "timestamp too large to convert to C _PyTime_t"
  | .malformedJson complaint line column offset =>
    complaint.text ++ ": line " ++ toString line ++ " column " ++ toString column ++ " (char " ++
      toString offset ++ ")"
  | .nestedTooDeep .array =>
    "maximum recursion depth exceeded while decoding a JSON array from a unicode string"
  | .nestedTooDeep .object =>
    "maximum recursion depth exceeded while decoding a JSON object from a unicode string"
  | .undecodable refusal => refusal.message
  | .missingFile path => "[Errno 2] No such file or directory: " ++ Text.quoted path
  | .isFolder path => "[Errno 21] Is a directory: " ++ Text.quoted path
  | .notFolder path => "[Errno 20] Not a directory: " ++ Text.quoted path
  | .fileExists path => "[Errno 17] File exists: " ++ Text.quoted path
  | .nameTooLong path => "[Errno 36] File name too long: " ++ Text.quoted path
  | .nullInPath => "embedded null byte"
  | .atLine path line cause =>
    path ++ ":" ++ toString line ++ ": " ++
      (match cause with
        | .malformedJson .. => "invalid JSON: " ++ cause.message
        | _ => cause.message)

/-- The text that is encoded when a text is written: a broken one is refused. -/
def AnyText.encoded : AnyText → Except Fault String
  | .whole s => .ok s
  | .broken t => .error (.unencodable t.refusal)

end LoadLedger
