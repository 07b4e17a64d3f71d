import LoadLedger.Depths
import LoadLedger.Number.Literal

/-!
# Values

The data that records and settings are made of: what a JSON text can hold. An object keeps its
entries in the order in which they were written. How a value reads as a number and how it shows as
text is the same everywhere, so that it is part of the type.

Hardly any text is broken, so that broken texts, and objects with broken keys, have constructors of
their own beside the usual ones. Whoever is about all texts or all objects uses `ofText`,
`ofEntries` and `fields?` in place of the constructors.
-/

namespace LoadLedger

/-- A piece of data. -/
inductive Value
  | null
  | bool (b : Bool)
  | int (i : Int)
  | float (x : Float)
  | text (s : String)
  /-- A text that is broken by a surrogate. -/
  | brokenText (t : BrokenText)
  | list (items : List Value)
  | object (entries : List (String × Value))
  /-- An object with a broken key: the keys, and what they stand for in the same order. -/
  | brokenObject (keys : List AnyText) (items : List Value)
  deriving Inhabited

namespace Value

/-- The name of the type of a value, as messages give it. -/
def typeName : Value → String
  | .null => "NoneType"
  | .bool _ => "bool"
  | .int _ => "int"
  | .float _ => "float"
  | .text _ | .brokenText _ => "str"
  | .list _ => "list"
  | .object _ | .brokenObject .. => "dict"

/-- A text as a value. -/
def ofText : AnyText → Value
  | .whole s => .text s
  | .broken t => .brokenText t

/-- The entries whose keys are whole. -/
def wholeFields (entries : List (AnyText × Value)) : List (String × Value) :=
  entries.filterMap fun e => e.1.whole?.map (·, e.2)

/-- The object of entries. -/
def ofEntries (entries : List (AnyText × Value)) : Value :=
  if entries.all (·.1.whole?.isSome) then .object (wholeFields entries)
  else .brokenObject (entries.map (·.1)) (entries.map (·.2))

/-- The entries of an object that can be looked up, `none` for all other values. The keys that are
asked for are whole. -/
def fields? : Value → Option (List (String × Value))
  | .object entries => some entries
  | .brokenObject keys items => some (wholeFields (keys.zip items))
  | _ => none

/-- The entry of a key. -/
def field? (entries : List (String × Value)) (key : String) : Option Value :=
  entries.lookup key

/-- Does a value count as given? Nothing, zero and whatever is empty do not. -/
def isGiven : Value → Bool
  | .null => false
  | .bool b => b
  | .int i => i != 0
  | .float x => x != 0.0
  | .text s => s != ""
  | .brokenText _ => true
  | .list items => !items.isEmpty
  | .object entries => !entries.isEmpty
  | .brokenObject keys _ => !keys.isEmpty

/-! ## Reading numbers -/

/-- The integer that a value stands for. A fraction is cut off. -/
def toInteger : Value → Except Fault Int
  | .bool b => .ok (if b then 1 else 0)
  | .int i => .ok i
  | .float x =>
    match Number.partsOf x with
    | .nan => .error .nanIsNoInteger
    | .infinite _ => .error .infinityIsNoInteger
    | .finite negative mantissa exponent => .ok (Number.truncate negative mantissa exponent)
  | .text s => Number.readInteger s
  | .brokenText t => .error (Number.integerRefusal t)
  | v => .error (.notNumeric .integer v.typeName)

/-- The decimal that a value stands for. -/
def toDecimal : Value → Except Fault Float
  | .bool b => .ok (if b then 1.0 else 0.0)
  | .int i =>
    match Number.ofInt? i with
    | some x => .ok x
    | none => .error .integerTooLarge
  | .float x => .ok x
  | .text s => Number.readDecimal s
  | .brokenText t => .error (.badDecimalLiteral t.quoted)
  | v => .error (.notNumeric .decimal v.typeName)

/-! ## Showing values -/

/-- Parts between braces. -/
def braced (parts : List String) : String :=
  "\x7b" ++ ", ".intercalate parts ++ "\x7d"

mutual

/-- The text of a value inside a message or a container: texts are quoted. Each value takes up one
place of the room, so that what it nests has one less. -/
def quotedWithin : Nat → Value → Except Fault String
  | 0, _ => .error .tooDeepToWrite
  | _ + 1, .null => .ok "None"
  | _ + 1, .bool b => .ok (if b then "True" else "False")
  | _ + 1, .int i => Number.writeInteger i
  | _ + 1, .float x => .ok (Number.floatText x)
  | _ + 1, .text s => .ok (Text.quoted s)
  | _ + 1, .brokenText t => .ok t.quoted
  | room + 1, .list items => do
    let parts ← quotedItems room items
    return "[" ++ ", ".intercalate parts ++ "]"
  | room + 1, .object entries => do
    let parts ← quotedEntries room entries
    return braced parts
  | room + 1, .brokenObject keys items => do
    let parts ← quotedItems room items
    return braced (keys.zipWith (fun key part => key.quoted ++ ": " ++ part) parts)

/-- The texts of the items of a list. -/
def quotedItems : Nat → List Value → Except Fault (List String)
  | _, [] => .ok []
  | room, v :: items => do
    let part ← quotedWithin room v
    let parts ← quotedItems room items
    return part :: parts

/-- The texts of the entries of an object. -/
def quotedEntries : Nat → List (String × Value) → Except Fault (List String)
  | _, [] => .ok []
  | room, (key, v) :: entries => do
    let part ← quotedWithin room v
    let parts ← quotedEntries room entries
    return (Text.quoted key ++ ": " ++ part) :: parts

end

/-- The text of a number. It nests nothing, and there is room for one value everywhere. -/
def numeral (v : Value) : Except Fault String :=
  v.quotedWithin 1

section Places

variable [Depths]

/-- The text of a value inside a message or a container at a place. -/
def quotedAt (place : Place) (v : Value) : Except Fault String :=
  v.quotedWithin (Depths.room place)

/-- The text of a value that stands by itself at a place. -/
def shownAt (place : Place) : Value → Except Fault AnyText
  | .text s => .ok s
  | .brokenText t => .ok (.broken t)
  | v => (v.quotedAt place).map .whole

/-- The text of a value that stands by itself. -/
def shown (v : Value) : Except Fault AnyText :=
  v.shownAt .elsewhere

end Places

/-! ## Comparison -/

/-- The number that a value is, if it is one; truth values are numbers too. -/
def amount? : Value → Option Number.Amount
  | .bool b => some (.int (if b then 1 else 0))
  | .int i => some (.int i)
  | .float x => some (.float x)
  | _ => none

/-- Are two numbers equal? -/
def sameAmount : Number.Amount → Number.Amount → Bool
  | .int i, .int j => i == j
  | .int i, .float x => Number.equalsInt x i
  | .float x, .int i => Number.equalsInt x i
  | .float x, .float y => x == y

/-- Is a value zero or less? NaN is not, and only numbers can be. -/
def isNotPositive (v : Value) : Except Fault Bool :=
  match v.amount? with
  | some (.int i) => .ok (i ≤ 0)
  | some (.float x) => .ok (x ≤ 0.0)
  | none => .error (.incomparable "<=" v.typeName "int")

mutual

/-- Are two values equal? Numbers are compared as numbers, and the order of the entries of an object
does not matter. -/
def same : Value → Value → Bool
  | .null, .null => true
  | .text s, .text t => s == t
  | .brokenText s, .brokenText t => s == t
  | .list items, .list others => sameItems items others
  | .object entries, .object others =>
    entries.length == others.length && sameEntries entries others
  | .brokenObject keys items, .brokenObject keys' others =>
    keys.length == keys'.length && sameKeyed keys items (keys'.zip others)
  | v, w =>
    match v.amount?, w.amount? with
    | some a, some b => sameAmount a b
    | _, _ => false

/-- Are two lists equal item by item? -/
def sameItems : List Value → List Value → Bool
  | [], [] => true
  | v :: items, w :: others => same v w && sameItems items others
  | _, _ => false

/-- Does an object hold equal values under the keys of all entries? -/
def sameEntries : List (String × Value) → List (String × Value) → Bool
  | [], _ => true
  | (key, v) :: entries, others =>
    (match others.lookup key with
      | some w => same v w
      | none => false) && sameEntries entries others

/-- Does an object hold equal values under the keys that stand beside the items? -/
def sameKeyed : List AnyText → List Value → List (AnyText × Value) → Bool
  | key :: keys, v :: items, others =>
    (match others.lookup key with
      | some w => same v w
      | none => false) && sameKeyed keys items others
  | _, _, _ => true

end

/-! ## Laws of the small cases -/

@[simp] theorem shownAt_ofText [Depths] (place : Place) (t : AnyText) :
    (ofText t).shownAt place = .ok t := by
  cases t <;> rfl

@[simp] theorem fields?_object (entries : List (String × Value)) :
    (Value.object entries).fields? = some entries := rfl

@[simp] theorem same_text (s t : String) : same (.text s) (.text t) = (s == t) := by
  simp [same]

@[simp] theorem same_int (i j : Int) : same (.int i) (.int j) = (i == j) := by
  simp [same, amount?, sameAmount]

end Value

end LoadLedger
