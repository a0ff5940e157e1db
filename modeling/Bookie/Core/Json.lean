/-
JSON values. The library keeps the members of an object in their order and a number
as its text.
-/

import Mathlib.Data.List.Basic

namespace Bookie.Core

mutual

inductive Json where
  | null
  | bool (value : Bool)
  | number (text : String)
  | string (text : String)
  | array (items : JsonItems)
  | object (members : JsonMap)
  deriving DecidableEq, Repr

inductive JsonItems where
  | nil
  | cons (item : Json) (rest : JsonItems)
  deriving DecidableEq, Repr

inductive JsonMap where
  | nil
  | cons (key : String) (entry : Json) (rest : JsonMap)
  deriving DecidableEq, Repr

end

end Bookie.Core
