/-
Row keys: what identifies a row of the grid while edits to it are pending. A
persisted row is named by its key values, a row that is not in the table yet by
the number of its draft.
-/

import Bookie.Core.Driver

namespace Bookie.Edits

open Bookie.Core Policy

inductive KeyValue where
  | null
  | bool (value : Bool)
  | int (value : Int)
  | floatBits (bits : UInt64)
  | text (value : String)
  | bytes (value : List UInt8)
  | date (text : String)
  | time (text : String)
  | dateTime (text : String)
  | timestampTz (text : String)
  | decimal (text : String)
  | uuid (value : Uuid)
  | json (text : String)
  | jsonText (text : String)
  | undecodable (typeName : String)
  deriving DecidableEq, Repr

/-- The printing and the reading of JSON values and decimals, which are library code. -/
structure Printing where
  json : Json → String
  readJson : String → Option Json
  readDecimal : String → Option String

def KeyValue.ofValue (printing : Printing) : Value → KeyValue
  | .null => .null
  | .bool value => .bool value
  | .int value => .int value
  | .float bits => .floatBits bits
  | .text value => .text value
  | .bytes value => .bytes value
  | .date written => .date written
  | .time written => .time written
  | .dateTime written => .dateTime written
  | .timestampTz written => .timestampTz written
  | .decimal written => .decimal written
  | .uuid value => .uuid value
  | .json value => .json (printing.json value)
  | .jsonText written => .jsonText written
  | .undecodable typeName => .undecodable typeName

def keyvalueToValue (printing : Printing) : KeyValue → Value
  | .null => .null
  | .bool value => .bool value
  | .int value => .int value
  | .floatBits bits => .float bits
  | .text value => .text value
  | .bytes value => .bytes value
  | .date written => .date written
  | .time written => .time written
  | .dateTime written => .dateTime written
  | .timestampTz written => .timestampTz written
  | .decimal written => ((printing.readDecimal written).map Value.decimal).getD (.text written)
  | .uuid value => .uuid value
  | .json written => ((printing.readJson written).map Value.json).getD (.text written)
  | .jsonText written => .jsonText written
  | .undecodable typeName => .undecodable typeName

inductive RowKey where
  | persisted (values : List KeyValue)
  | draft (draftId : Nat)
  deriving DecidableEq, Repr

def pkValuesAreUnreadable (pkValues : List Value) : Bool :=
  pkValues.any (fun value => match value with
    | .undecodable _ => true
    | _ => false)

def RowKey.fromPkValues (printing : Printing) (pkValues : List Value) : Option RowKey :=
  if pkValues.isEmpty || pkValuesAreUnreadable pkValues then none
  else some (.persisted (pkValues.map (KeyValue.ofValue printing)))

end Bookie.Edits
