/-!
# Depths

Values may nest others to any depth, but what goes through them uses up room on the way down, and
gives up where there is none left. How much room there is depends on the machine and on the place,
since whoever is at work there has used up some already. All results hold for any depths with the
two properties that are named here.
-/

namespace LoadLedger

/-- The places at which values are written into texts. -/
inductive Place
  /-- The kind of a record, to be compared with the names of kinds. -/
  | kind
  /-- The kind of a record, in the report that it is unknown. -/
  | unknownKind
  /-- The status of a record, in the report that it is unknown. -/
  | unknownStatus
  /-- The status code of a record, in the report that it is none. -/
  | badStatusCode
  /-- The message of a record. -/
  | message
  /-- The code and the message of an HTTP error, among the recent errors. -/
  | recentError
  /-- The detail of an outcome that is printed. -/
  | detail
  /-- What an outcome cannot be put together from. -/
  | ingredient
  /-- The level in the settings. -/
  | level
  /-- All others. -/
  | elsewhere
  deriving DecidableEq

/-- How deep a machine goes into values that nest others. -/
class Depths where
  /-- How many lists and objects may be nested in a text that is read. -/
  reading : Nat
  /-- How many values may be nested, the innermost one included, in one that is written at a
  place. -/
  room : Place → Nat
  /-- A list or an object that nests nothing can be read. -/
  reading_pos : 0 < reading
  /-- Reading uses up more room than writing what was read. -/
  reading_lt_room : ∀ p, reading < room p

namespace Depths

variable [Depths]

/-- A value that nests nothing can be written everywhere. -/
theorem room_pos (p : Place) : 0 < room p :=
  Nat.zero_lt_of_lt (reading_lt_room p)

end Depths

end LoadLedger
