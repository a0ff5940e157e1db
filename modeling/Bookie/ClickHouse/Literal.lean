/-
Values as ClickHouse literals. Texts of outside types (dates, times, decimals,
floating point numbers) come from their own formatters, which are parameters here.
-/

import Bookie.Core.Driver
import Bookie.Sql.Literal

namespace Bookie.ClickHouse

open Bookie.Core Policy Sql Text

def floatExponent (bits : UInt64) : Nat := bits.toNat / 4503599627370496 % 2048

def floatFraction (bits : UInt64) : Nat := bits.toNat % 4503599627370496

def isNan (bits : UInt64) : Bool := floatExponent bits == 2047 && floatFraction bits != 0

def isInfinite (bits : UInt64) : Bool := floatExponent bits == 2047 && floatFraction bits == 0

def isSignNegative (bits : UInt64) : Bool := 9223372036854775808 ≤ bits.toNat

def natText (number : Nat) : List Char := Nat.toDigits 10 number

def intText (number : Int) : List Char :=
  if number < 0 then '-' :: natText number.natAbs else natText number.natAbs

def paddedText (width number : Nat) : List Char :=
  List.replicate (width - (natText number).length) '0' ++ natText number

/-- A point in time as the calendar library gives it. -/
structure Stamp where
  /-- From 1900 to 2299. -/
  inCalendar : Bool
  timestamp : Int
  nanosecond : Nat
  /-- With the format `%Y-%m-%d %H:%M:%S`. -/
  text : List Char
  deriving DecidableEq, Repr

/-- How the values of outside types are written. -/
structure Formats where
  float : UInt64 → List Char
  date : String → List Char
  time : String → List Char
  dateTime : String → Stamp
  timestampTz : String → Stamp
  decimal : String → List Char
  scale : String → Nat
  uuid : Uuid → List Char

def datetime64FitsPrecision (stamp : Stamp) (precision : Nat) : Bool :=
  if !stamp.inCalendar || 9 < precision then false
  else
    let fractionDivisor := 10 ^ (9 - precision)
    if stamp.nanosecond % fractionDivisor != 0 then false
    else
      let ticks : Int :=
        stamp.timestamp * (10 ^ precision : Nat) + (stamp.nanosecond / fractionDivisor : Nat)
      decide (-9223372036854775808 ≤ ticks ∧ ticks ≤ 9223372036854775807)

def datetime64Precision (stamp : Stamp) : Option Nat :=
  (List.range 10).find? (datetime64FitsPrecision stamp)

def datetime64Literal (stamp : Stamp) (timezone : Option (List Char)) : Option (List Char) :=
  (datetime64Precision stamp).map fun precision =>
    let value :=
      if precision = 0 then stamp.text
      else
        let divisor := 10 ^ (9 - precision)
        stamp.text ++ '.' :: paddedText precision (stamp.nanosecond / divisor)
    match timezone with
    | some zone =>
      "toDateTime64('".toList ++ value ++ "', ".toList ++ natText precision ++ ", '".toList ++
        zone ++ "')".toList
    | none =>
      "toDateTime64('".toList ++ value ++ "', ".toList ++ natText precision ++ ")".toList

def escapeStr (text : List Char) : List Char :=
  replaceChar '\'' ['\\', '\''] (replaceChar '\\' ['\\', '\\'] text)

def unsupportedDatetime64Range : DriverError :=
  .unsupported ("ClickHouse DateTime64 cannot represent this timestamp exactly within its " ++
    "1900-2299 calendar and Int64 precision bounds")

def literal (formats : Formats) (value : Value) : Except DriverError (List Char) :=
  match value with
  | .null => .ok "NULL".toList
  | .bool b => .ok (if b then "true".toList else "false".toList)
  | .int i => .ok (intText i)
  | .float bits =>
    .ok (if isNan bits then "nan".toList
      else if isInfinite bits then
        if isSignNegative bits then "-inf".toList else "inf".toList
      else formats.float bits)
  | .text text => .ok ('\'' :: (escapeStr text.toList ++ ['\'']))
  | .bytes bytes => .ok ("unhex('".toList ++ hexText bytes ++ "')".toList)
  | .date date => .ok ("toDate('".toList ++ formats.date date ++ "')".toList)
  | .time time => .ok ('\'' :: (formats.time time ++ ['\'']))
  | .dateTime stamp =>
    match datetime64Literal (formats.dateTime stamp) none with
    | some rendered => .ok rendered
    | none => .error unsupportedDatetime64Range
  | .timestampTz stamp =>
    match datetime64Literal (formats.timestampTz stamp) (some "UTC".toList) with
    | some rendered => .ok rendered
    | none => .error unsupportedDatetime64Range
  | .decimal decimal =>
    .ok ("toDecimal128('".toList ++ formats.decimal decimal ++ "', ".toList ++
      natText (formats.scale decimal) ++ ")".toList)
  | .uuid uuid => .ok ("toUUID('".toList ++ formats.uuid uuid ++ "')".toList)
  | .json _ | .jsonText _ =>
    .error (.unsupported ("ClickHouse nested values cannot be edited losslessly without their " ++
      "native type metadata"))
  | .undecodable typeName =>
    .error (.internal ("cannot write back an undecodable " ++ typeName ++ " value"))

end Bookie.ClickHouse
